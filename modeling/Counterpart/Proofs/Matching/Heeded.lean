import Counterpart.Proofs.Correspondence.Alike
import Counterpart.Proofs.Matching.Applied

/-!
# Matching without the overrides that were refused

Every override of a scope either applies or leaves one warning.  The overrides that apply are
heeded; a scope with only these overrides is matched in the same way, without warnings.  Written
types however may be found to be the same only after the refused overrides are gone: a refused
override still says that its reference type corresponds to no other target than the one it names.
It cannot do so if it is not the first override of its type, or if there is no such type.

* `filterMap_rulings`: the warnings are those of the overrides that are not heeded.
* `names_overrideAll`: the pairs by override are those of the heeded ones.
* `matching_heeding`: the matching only loses its warnings.
* `alike_heeding`: correspondence is kept if all warnings are inert.
-/

namespace Counterpart

/-- A warning about an override that no look-up of a type of the scope can find. -/
def Warning.isInert : Warning → Bool
  | duplicateOverride _ => true
  | referenceNotFound _ => true
  | targetNotFound _ _ => false
  | targetTaken _ _ _ => false

namespace Pool

/-- The overrides of a list, each with its warning if it does not apply. -/
def rulings
    (earlier : List Override) (pool : Pool) :
    List Override → List (Override × Option Warning)
  | [] => []
  | entry :: rest =>
      match pool.overrideWith earlier entry with
      | .ok next => (entry, none) :: next.rulings (entry :: earlier) rest
      | .error warning => (entry, some warning) :: pool.rulings (entry :: earlier) rest

/-- The overrides of a list that apply. -/
def heeded (earlier : List Override) (pool : Pool) (overrides : List Override) : List Override :=
  ((pool.rulings earlier overrides).filter fun ruling => ruling.2.isNone).map Prod.fst

theorem map_fst_rulings
    (earlier : List Override) (pool : Pool) (overrides : List Override) :
    (pool.rulings earlier overrides).map Prod.fst = overrides := by
  induction overrides generalizing earlier pool with
  | nil =>
      rfl
  | cons entry rest ih =>
      unfold rulings
      cases pool.overrideWith earlier entry <;> simp [ih]

/-- The warnings of a list of overrides are those of its members, in their order. -/
theorem filterMap_rulings
    (earlier : List Override) (pool : Pool) (overrides : List Override) :
    (pool.rulings earlier overrides).filterMap Prod.snd =
      (pool.overrideAll earlier overrides).2 := by
  induction overrides generalizing earlier pool with
  | nil =>
      rfl
  | cons entry rest ih =>
      unfold rulings overrideAll
      cases pool.overrideWith earlier entry <;> simp [ih]

theorem heeded_cons_of_ok
    {earlier : List Override} {pool next : Pool} {entry : Override}
    (h : pool.overrideWith earlier entry = .ok next)
    (rest : List Override) :
    pool.heeded earlier (entry :: rest) = entry :: next.heeded (entry :: earlier) rest := by
  simp [heeded, rulings, h]

theorem heeded_cons_of_error
    {earlier : List Override} {pool : Pool} {entry : Override} {warning : Warning}
    (h : pool.overrideWith earlier entry = .error warning)
    (rest : List Override) :
    pool.heeded earlier (entry :: rest) = pool.heeded (entry :: earlier) rest := by
  simp [heeded, rulings, h]

/-- An override that applies also does so after fewer overrides. -/
theorem overrideWith_eq_ok_of_subset
    {earlier earlier' : List Override} {pool next : Pool} {entry : Override}
    (h : pool.overrideWith earlier entry = .ok next)
    (hsubset : earlier' ⊆ earlier) :
    pool.overrideWith earlier' entry = .ok next := by
  unfold overrideWith at h ⊢
  split at h
  · simp at h
  · rename_i hfirst
    have hfirst' : ¬ earlier'.any (fun other => other.reference == entry.reference) = true := by
      rw [List.any_eq_true] at hfirst ⊢
      rintro ⟨other, hother, hsame⟩
      exact hfirst ⟨other, hsubset hother, hsame⟩
    rw [if_neg hfirst']
    exact h

/-- The heeded overrides of a list lead to the same pool, without a warning. -/
theorem overrideAll_heeded
    {earlier earlier' : List Override}
    (hsubset : earlier' ⊆ earlier)
    (pool : Pool) (overrides : List Override) :
    pool.overrideAll earlier' (pool.heeded earlier overrides) =
      ((pool.overrideAll earlier overrides).1, []) := by
  induction overrides generalizing earlier earlier' pool with
  | nil =>
      rfl
  | cons entry rest ih =>
      cases hresult : pool.overrideWith earlier entry with
      | ok next =>
          rw [heeded_cons_of_ok hresult]
          simp only [overrideAll, hresult, overrideWith_eq_ok_of_subset hresult hsubset]
          exact ih (List.cons_subset_cons entry hsubset) next
      | error warning =>
          rw [heeded_cons_of_error hresult]
          simp only [overrideAll, hresult]
          exact ih (List.subset_cons_of_subset entry hsubset) pool

/-- Overrides that leave no warning are all heeded. -/
theorem heeded_eq_of_warnings_eq_nil
    {earlier : List Override} {pool : Pool} {overrides : List Override}
    (h : (pool.overrideAll earlier overrides).2 = []) :
    pool.heeded earlier overrides = overrides := by
  rw [← filterMap_rulings, List.filterMap_eq_nil_iff] at h
  have hall : ∀ ruling ∈ pool.rulings earlier overrides, ruling.2.isNone = true := by
    intro ruling hruling
    rw [h ruling hruling]
    rfl
  rw [heeded, List.filter_eq_self.mpr hall, map_fst_rulings]

/-- Every heeded override adds its pair, in the order of the overrides. -/
theorem names_overrideAll
    (earlier : List Override) (pool : Pool) (overrides : List Override) :
    (pool.overrideAll earlier overrides).1.pairs.map Pairing.names =
      pool.pairs.map Pairing.names ++ (pool.heeded earlier overrides).map Override.names := by
  induction overrides generalizing earlier pool with
  | nil =>
      simp [overrideAll, heeded, rulings]
  | cons entry rest ih =>
      have ruling := ruling_overrideWith earlier pool entry
      cases hresult : pool.overrideWith earlier entry with
      | ok next =>
          rw [hresult] at ruling
          rw [heeded_cons_of_ok hresult]
          simp only [overrideAll, hresult, ih]
          cases ruling with
          | applied first pending named untaken free meant =>
              simp [Pairing.names, Override.names, named, meant]
      | error warning =>
          rw [heeded_cons_of_error hresult]
          simp only [overrideAll, hresult, ih]

/-- An override that applies leaves types of other names pending. -/
theorem Ruling.exists_pending_of_ne
    {earlier : List Override} {pool next : Pool} {entry : Override} {name : String}
    (ruling : Ruling earlier pool entry (.ok next))
    (other : entry.reference ≠ name)
    (pending : ∃ left ∈ pool.pending, left.decl.fullName = name) :
    ∃ left ∈ next.pending, left.decl.fullName = name := by
  obtain ⟨left, hleft, rfl⟩ := pending
  cases ruling with
  | @applied _ reference before after hpending named =>
      rw [hpending] at hleft
      simp only [List.mem_append, List.mem_cons] at hleft ⊢
      rcases hleft with hleft | rfl | hleft
      · exact ⟨left, Or.inl hleft, rfl⟩
      · exact absurd named.symm other
      · exact ⟨left, Or.inr hleft, rfl⟩

/-- The first override of a pending type is only refused with a warning that is not inert. -/
theorem Ruling.isInert_eq_false
    {earlier : List Override} {pool : Pool} {entry : Override} {warning : Warning}
    (ruling : Ruling earlier pool entry (.error warning))
    (first : ∀ other ∈ earlier, other.reference ≠ entry.reference)
    (pending : ∃ left ∈ pool.pending, left.decl.fullName = entry.reference) :
    warning.isInert = false := by
  cases ruling with
  | repeated other listed same =>
      exact absurd same (first other listed)
  | withoutReference _ absent =>
      obtain ⟨left, hleft, hnamed⟩ := pending
      exact absurd hnamed (absent left hleft)
  | taken | withoutTarget =>
      rfl

/-- If all warnings are inert, the first override of a pending type is heeded. -/
theorem find?_heeded
    {earlier : List Override} {pool : Pool} {overrides : List Override} {name : String}
    (pending : ∃ entry ∈ pool.pending, entry.decl.fullName = name)
    (first : ∀ other ∈ earlier, other.reference ≠ name)
    (inert : ∀ warning ∈ (pool.overrideAll earlier overrides).2, warning.isInert = true) :
    (pool.heeded earlier overrides).find? (fun entry => entry.reference == name) =
      overrides.find? (fun entry => entry.reference == name) := by
  induction overrides generalizing earlier pool with
  | nil =>
      rfl
  | cons entry rest ih =>
      have ruling := ruling_overrideWith earlier pool entry
      by_cases hnamed : entry.reference = name
      · -- The first override of the type: only a refusal that is not inert could drop it.
        subst hnamed
        cases hresult : pool.overrideWith earlier entry with
        | ok next =>
            rw [heeded_cons_of_ok hresult]
            simp
        | error warning =>
            rw [hresult] at ruling
            have hinert : warning.isInert = true := inert warning (by simp [overrideAll, hresult])
            rw [ruling.isInert_eq_false first pending] at hinert
            exact Bool.noConfusion hinert
      · have hfirst : ∀ other ∈ entry :: earlier, other.reference ≠ name := by
          rintro other (_ | ⟨_, hother⟩)
          · exact hnamed
          · exact first other hother
        cases hresult : pool.overrideWith earlier entry with
        | ok next =>
            rw [hresult] at ruling
            rw [heeded_cons_of_ok hresult]
            simp only [List.find?_cons, beq_eq_false_iff_ne.mpr hnamed]
            refine ih (ruling.exists_pending_of_ne hnamed pending) hfirst fun warning hwarning =>
              inert warning ?_
            simpa [overrideAll, hresult] using hwarning
        | error warning =>
            rw [heeded_cons_of_error hresult]
            simp only [List.find?_cons, beq_eq_false_iff_ne.mpr hnamed]
            refine ih pending hfirst fun other hother => inert other ?_
            simp [overrideAll, hresult, hother]

end Pool

namespace Scope

/-- The overrides of a scope that apply. -/
def heeded (scope : Scope) : List Override :=
  (Pool.ofTypes scope.reference scope.target).heeded [] scope.settings.overrides

/-- The scope with only the overrides that apply. -/
def heeding (scope : Scope) : Scope :=
  { scope with settings := { scope.settings with overrides := scope.heeded } }

/-- Without the overrides that are refused, a matching only loses its warnings. -/
theorem matching_heeding
    (scope : Scope) :
    scope.heeding.matching = { scope.matching with warnings := [] } := by
  have hoverridden : scope.heeding.overridden = (scope.overridden.1, []) :=
    Pool.overrideAll_heeded (List.Subset.refl []) _ _
  have hreason : scope.heeding.namedReason = scope.namedReason :=
    namedReason_eq_of_targetNamespace fun _ => rfl
  simp only [matching, settled, hoverridden, hreason]

/-- If all warnings are inert, every type of the scope keeps the override that decides on it. -/
theorem override?_heeding
    {scope : Scope} {decl : TypeDecl}
    (inert : ∀ warning ∈ scope.matching.warnings, warning.isInert = true)
    (hdecl : decl ∈ scope.reference) :
    scope.heeding.override? decl.fullName = scope.override? decl.fullName := by
  refine Pool.find?_heeded ⟨⟨decl, []⟩, ?_, rfl⟩ (by simp) inert
  simpa [Pool.ofTypes, Pool.ofTypes.sortByName] using hdecl

theorem alike_heeding
    {scope : Scope}
    (inert : ∀ warning ∈ scope.matching.warnings, warning.isInert = true) :
    scope.heeding.Alike scope where
  targetNamespace _ := rfl
  platformType? _ := rfl
  reference? _ := rfl
  target? _ := rfl
  override? name decl found := by
    refine override?_heeding inert ?_
    rw [reference?, List.findRev?_eq_find?_reverse] at found
    exact List.mem_reverse.mp (List.mem_of_find?_eq_some found)

end Scope
end Counterpart
