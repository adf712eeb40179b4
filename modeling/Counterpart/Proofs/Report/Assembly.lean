import Counterpart.Report.Library

/-!
# How a report is put together

A comparison takes place in one scope, and its report is a function of the matching of that scope,
of the entries of the pairs, and of what was set aside.  Only the entries of the pairs can fail,
and they fail because of modifiers, whatever the scope.

* `ofSurfaces_eq`: the report in terms of the matching and the entries.
* `ofSurfaces_eq_error_iff`: a comparison fails at the first pair that does.
-/

namespace Counterpart

/-- The scope in which two surfaces are compared. -/
def Scope.between (reference target : Surface) (settings : Settings) : Scope :=
  (Selection.ofSurfaces reference target).scope settings

namespace Scope

@[simp] theorem reference_between
    (reference target : Surface) (settings : Settings) :
    (between reference target settings).reference = reference.types.filter TypeDecl.isPublic :=
  rfl

@[simp] theorem target_between
    (reference target : Surface) (settings : Settings) :
    (between reference target settings).target =
      target.types.filter fun decl => !decl.withoutReference :=
  rfl

@[simp] theorem settings_between
    (reference target : Surface) (settings : Settings) :
    (between reference target settings).settings = settings :=
  rfl

end Scope

namespace LibraryReport

/-- The report with the entries of the pairs of a matching. -/
def assembled
    (name : String) (reference target : Surface) (matching : Matching) (pairs : List PairEntry) :
    LibraryReport :=
  let excluded := (Selection.ofSurfaces reference target).excluded
  let matched := PairEntry.sort pairs
  let unmatchedReference :=
    UnmatchedEntry.sort (matching.unmatchedReference.map (.ofUnmatched .reference))
  let unmatchedTarget :=
    UnmatchedEntry.sort (matching.unmatchedTarget.map (.ofUnmatched .target))
  { library := name
    referenceVersion := reference.version
    targetVersion := target.version
    summary :=
      .ofLists matched unmatchedReference unmatchedTarget excluded matching.warnings
    unmatchedReference
    unmatchedTarget
    matched
    warnings := matching.warnings
    excluded }

theorem ofSurfaces_eq
    (name : String) (reference target : Surface) (settings : Settings) :
    ofSurfaces name reference target settings =
      ((Scope.between reference target settings).matching.matched.mapM
        (Scope.between reference target settings).pairEntry).map
        (assembled name reference target (Scope.between reference target settings).matching) :=
  rfl

end LibraryReport

theorem Scope.pairEntry_eq_of_difference
    {first second : Scope}
    (h : first.difference = second.difference) :
    first.pairEntry = second.pairEntry := by
  funext pairing
  simp only [pairEntry, h]

theorem Scope.pairEntry_eq_error_iff
    {scope : Scope} {pairing : Pairing} {error : NotPublic} :
    scope.pairEntry pairing = .error error ↔
      modifierDifference? pairing.reference pairing.target = .error error := by
  unfold pairEntry difference
  cases modifierDifference? pairing.reference pairing.target <;> simp [Except.map]

theorem Scope.exists_difference_of_pairEntry_eq_ok
    {scope : Scope} {pairing : Pairing} {entry : PairEntry}
    (h : scope.pairEntry pairing = .ok entry) :
    ∃ difference,
      scope.difference pairing.reference pairing.target = .ok difference ∧
        entry =
          { reference := pairing.reference.entry .reference
            target := pairing.target.entry .target
            reason := pairing.reason
            difference } := by
  unfold pairEntry at h
  cases hdifference : scope.difference pairing.reference pairing.target with
  | error error =>
      rw [hdifference] at h
      cases h
  | ok difference =>
      rw [hdifference] at h
      cases h
      exact ⟨difference, rfl, rfl⟩

section Checked

variable {ε α β : Type} {f : α → Except ε β} {first : α} {rest : List α}

theorem mapM_cons_of_error
    {error : ε} (h : f first = .error error) :
    (first :: rest).mapM f = .error error := by
  rw [List.mapM_cons, h]
  rfl

theorem mapM_cons_eq_error_iff_of_ok
    {value : β} (h : f first = .ok value) {error : ε} :
    (first :: rest).mapM f = .error error ↔ rest.mapM f = .error error := by
  rw [List.mapM_cons, h]
  cases rest.mapM f <;> simp [bind, Except.bind, pure, Except.pure]

/-- A list of checked values fails at its first failure. -/
theorem mapM_eq_error_iff
    {l : List α} {error : ε} :
    l.mapM f = .error error ↔
      ∃ before a after,
        l = before ++ a :: after ∧
          (∀ b ∈ before, ∀ other, f b ≠ .error other) ∧
          f a = .error error := by
  constructor
  · intro h
    induction l with
    | nil =>
        simp [pure, Except.pure] at h
    | cons first rest ih =>
        cases hfirst : f first with
        | error other =>
            rw [mapM_cons_of_error hfirst, Except.error.injEq] at h
            subst h
            exact ⟨[], first, rest, rfl, by simp, hfirst⟩
        | ok value =>
            rw [mapM_cons_eq_error_iff_of_ok hfirst] at h
            obtain ⟨before, a, after, rfl, hbefore, ha⟩ := ih h
            refine ⟨first :: before, a, after, rfl, ?_, ha⟩
            rintro b (_ | ⟨_, hb⟩) other
            · simp [hfirst]
            · exact hbefore b hb other
  · rintro ⟨before, a, after, rfl, hbefore, ha⟩
    induction before with
    | nil =>
        exact mapM_cons_of_error ha
    | cons b before ih =>
        cases hb : f b with
        | error other =>
            exact absurd hb (hbefore b (List.mem_cons_self ..) other)
        | ok value =>
            rw [List.cons_append, mapM_cons_eq_error_iff_of_ok hb]
            exact ih fun b hb => hbefore b (List.mem_cons_of_mem _ hb)

theorem exists_cons_of_mapM_cons_eq_ok
    {l' : List β} (h : (first :: rest).mapM f = .ok l') :
    ∃ value values, f first = .ok value ∧ rest.mapM f = .ok values ∧ l' = value :: values := by
  rw [List.mapM_cons] at h
  cases hfirst : f first with
  | error error =>
      simp [hfirst, bind, Except.bind] at h
  | ok value =>
      cases hrest : rest.mapM f with
      | error error =>
          simp [hfirst, hrest, bind, Except.bind] at h
      | ok values =>
          obtain rfl : value :: values = l' := by
            simpa [hfirst, hrest, bind, Except.bind, pure, Except.pure] using h
          exact ⟨value, values, rfl, rfl, rfl⟩

/-- Checked values keep what the check does not change. -/
theorem map_eq_of_mapM_eq_ok
    {γ : Type} {g : β → γ} {g' : α → γ} {l : List α} {l' : List β}
    (h : l.mapM f = .ok l')
    (kept : ∀ a b, f a = .ok b → g b = g' a) :
    l'.map g = l.map g' := by
  induction l generalizing l' with
  | nil =>
      obtain rfl : [] = l' := by
        simpa [pure, Except.pure] using h
      rfl
  | cons first rest ih =>
      obtain ⟨value, values, hfirst, hrest, rfl⟩ := exists_cons_of_mapM_cons_eq_ok h
      rw [List.map_cons, List.map_cons, kept first value hfirst, ih hrest]

/-- Every checked value is the value of an element. -/
theorem exists_of_mem_of_mapM_eq_ok
    {l : List α} {l' : List β} (h : l.mapM f = .ok l') {b : β} (hb : b ∈ l') :
    ∃ a ∈ l, f a = .ok b := by
  induction l generalizing l' with
  | nil =>
      obtain rfl : [] = l' := by
        simpa [pure, Except.pure] using h
      contradiction
  | cons first rest ih =>
      obtain ⟨value, values, hfirst, hrest, rfl⟩ := exists_cons_of_mapM_cons_eq_ok h
      rcases List.mem_cons.mp hb with rfl | hb
      · exact ⟨first, List.mem_cons_self, hfirst⟩
      · obtain ⟨a, ha, hvalue⟩ := ih hrest hb
        exact ⟨a, List.mem_cons_of_mem _ ha, hvalue⟩

theorem mapM_eq_ok_map
    {g : α → β} {l : List α}
    (h : ∀ a ∈ l, f a = .ok (g a)) :
    l.mapM f = .ok (l.map g) := by
  induction l with
  | nil =>
      rfl
  | cons first rest ih =>
      rw [List.mapM_cons, h first (List.mem_cons_self ..),
        ih fun a ha => h a (List.mem_cons_of_mem _ ha)]
      rfl

end Checked

@[simp] theorem UnmatchedEntry.sort_eq_nil_iff
    {entries : List UnmatchedEntry} :
    UnmatchedEntry.sort entries = [] ↔ entries = [] := by
  rw [← List.length_eq_zero_iff, UnmatchedEntry.sort, List.length_mergeSort,
    List.length_eq_zero_iff]

namespace LibraryReport

theorem ofSurfaces_eq_ok
    {name : String} {reference target : Surface} {settings : Settings}
    {entry : Pairing → PairEntry}
    (h : ∀ pairing ∈ (Scope.between reference target settings).matching.matched,
      (Scope.between reference target settings).pairEntry pairing = .ok (entry pairing)) :
    ofSurfaces name reference target settings =
      .ok (assembled name reference target (Scope.between reference target settings).matching
        ((Scope.between reference target settings).matching.matched.map entry)) := by
  rw [ofSurfaces_eq, mapM_eq_ok_map h]
  rfl

/-- A report that a comparison gives is put together from the entries of all pairs. -/
theorem exists_pairs_of_ofSurfaces_eq_ok
    {name : String} {reference target : Surface} {settings : Settings} {report : LibraryReport}
    (h : ofSurfaces name reference target settings = .ok report) :
    ∃ pairs,
      (Scope.between reference target settings).matching.matched.mapM
          (Scope.between reference target settings).pairEntry = .ok pairs ∧
        report =
          assembled name reference target (Scope.between reference target settings).matching
            pairs := by
  rw [ofSurfaces_eq] at h
  cases hpairs : (Scope.between reference target settings).matching.matched.mapM
      (Scope.between reference target settings).pairEntry with
  | error error =>
      simp [hpairs, Except.map] at h
  | ok pairs =>
      simp only [hpairs, Except.map, Except.ok.injEq] at h
      exact ⟨pairs, rfl, h.symm⟩

/-- A comparison fails at the first pair with a type that is not public. -/
theorem ofSurfaces_eq_error_iff
    {name : String} {reference target : Surface} {settings : Settings} {error : NotPublic} :
    ofSurfaces name reference target settings = .error error ↔
      ∃ before pairing after,
        (Scope.between reference target settings).matching.matched =
            before ++ pairing :: after ∧
          (∀ other ∈ before, ∀ earlier,
            Scope.modifierDifference? other.reference other.target ≠ .error earlier) ∧
          Scope.modifierDifference? pairing.reference pairing.target = .error error := by
  have hmap :
      ofSurfaces name reference target settings = .error error ↔
        (Scope.between reference target settings).matching.matched.mapM
          (Scope.between reference target settings).pairEntry = .error error := by
    rw [ofSurfaces_eq]
    cases (Scope.between reference target settings).matching.matched.mapM
      (Scope.between reference target settings).pairEntry <;> simp [Except.map]
  simp only [hmap, mapM_eq_error_iff, ne_eq, Scope.pairEntry_eq_error_iff]

/-- The pairs with differences are counted before they are sorted. -/
theorem matchedWithDifferences_assembled
    (name : String) (reference target : Surface) (matching : Matching) (pairs : List PairEntry) :
    (assembled name reference target matching pairs).summary.matchedWithDifferences =
      pairs.countP fun pair => !pair.difference.isClean :=
  (List.mergeSort_perm pairs _).countP_eq _

/-- A report has nothing to reconcile if all pairs are clean and no type is left over. -/
theorem diverges_assembled_eq_false_iff
    {name : String} {reference target : Surface} {matching : Matching} {pairs : List PairEntry} :
    (assembled name reference target matching pairs).summary.diverges = false ↔
      (∀ pair ∈ pairs, pair.difference.isClean = true) ∧
        matching.unmatchedReference = [] ∧ matching.unmatchedTarget = [] := by
  have hmatched :
      (assembled name reference target matching pairs).summary.matchedWithDifferences = 0 ↔
        ∀ pair ∈ pairs, pair.difference.isClean = true := by
    rw [matchedWithDifferences_assembled, List.countP_eq_zero]
    simp
  have hreference :
      (assembled name reference target matching pairs).summary.unmatchedReference = 0 ↔
        matching.unmatchedReference = [] := by
    simp [assembled, Summary.ofLists]
  have htarget :
      (assembled name reference target matching pairs).summary.unmatchedTarget = 0 ↔
        matching.unmatchedTarget = [] := by
    simp [assembled, Summary.ofLists]
  rw [Summary.diverges, Bool.or_eq_false_iff, Bool.or_eq_false_iff, bne_eq_false_iff_eq,
    bne_eq_false_iff_eq, bne_eq_false_iff_eq, hmatched, hreference, htarget, and_assoc]

end LibraryReport
end Counterpart
