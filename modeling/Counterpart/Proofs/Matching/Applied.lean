import Counterpart.Proofs.Matching.Order

/-!
# The overrides that apply

Which overrides apply can be told from their names alone: an override applies if it is the first
of its reference type, if both of its types exist, and if no override that applied before it has
the same target.  The pairs that the overrides of a scope make are those of the overrides that
apply, in their order.

* `mem_applied_iff`: an override that applies, in terms of those listed before it.
* `pairsApplied_overridden`: the pairs of the overrides are those of the applied ones.
-/

namespace Counterpart

/-- The full names of the types that an override names. -/
def Override.names (entry : Override) : String × String :=
  (entry.reference, entry.target)

/-- The full names of the types of a pair. -/
def Pairing.names (pairing : Pairing) : String × String :=
  (pairing.reference.fullName, pairing.target.fullName)

namespace Scope

/-- Whether an override applies after the overrides listed before it, of which some apply. -/
structure Applies
    (scope : Scope) (earlier applied : List Override) (entry : Override) :
    Prop where
  first : ∀ other ∈ earlier, other.reference ≠ entry.reference
  reference : ∃ decl ∈ scope.reference, decl.fullName = entry.reference
  target : ∃ decl ∈ scope.target, decl.fullName = entry.target
  untaken : ∀ other ∈ applied, other.target ≠ entry.target

instance (scope : Scope) (earlier applied : List Override) (entry : Override) :
    Decidable (scope.Applies earlier applied entry) :=
  decidable_of_iff
    ((∀ other ∈ earlier, other.reference ≠ entry.reference) ∧
      (∃ decl ∈ scope.reference, decl.fullName = entry.reference) ∧
      (∃ decl ∈ scope.target, decl.fullName = entry.target) ∧
      ∀ other ∈ applied, other.target ≠ entry.target)
    ⟨fun h => ⟨h.1, h.2.1, h.2.2.1, h.2.2.2⟩,
      fun h => ⟨h.first, h.reference, h.target, h.untaken⟩⟩

/-- The overrides that apply; both lists start with the latest override. -/
def applied (scope : Scope) : List Override → List Override
  | [] => []
  | entry :: earlier =>
      if scope.Applies earlier (scope.applied earlier) entry then
        entry :: scope.applied earlier
      else
        scope.applied earlier

theorem applied_sublist
    (scope : Scope) (overrides : List Override) :
    (scope.applied overrides).Sublist overrides := by
  induction overrides with
  | nil =>
      exact List.Sublist.refl []
  | cons entry earlier ih =>
      unfold applied
      split
      · exact ih.cons_cons entry
      · exact ih.cons entry

/-- An override applies if and only if it is listed where it applies after those before it. -/
theorem mem_applied_iff
    {scope : Scope} {overrides : List Override} {entry : Override} :
    entry ∈ scope.applied overrides ↔
      ∃ later earlier,
        overrides = later ++ entry :: earlier ∧
          scope.Applies earlier (scope.applied earlier) entry := by
  induction overrides with
  | nil =>
      simp [applied]
  | cons latest rest ih =>
      have hrest :
          entry ∈ scope.applied rest →
            ∃ later earlier,
              latest :: rest = later ++ entry :: earlier ∧
                scope.Applies earlier (scope.applied earlier) entry := by
        intro h
        obtain ⟨later, earlier, rfl, happlies⟩ := ih.mp h
        exact ⟨latest :: later, earlier, rfl, happlies⟩
      constructor
      · intro h
        unfold applied at h
        split at h
        · rename_i happlies
          rcases List.mem_cons.mp h with rfl | h
          · exact ⟨[], rest, rfl, happlies⟩
          · exact hrest h
        · exact hrest h
      · rintro ⟨later, earlier, hsplit, happlies⟩
        unfold applied
        cases later with
        | nil =>
            obtain ⟨rfl, rfl⟩ := List.cons.inj hsplit
            rw [if_pos happlies]
            exact List.mem_cons_self ..
        | cons other later =>
            obtain ⟨rfl, rfl⟩ := List.cons.inj hsplit
            have hmem := ih.mpr ⟨later, earlier, rfl, happlies⟩
            split
            · exact List.mem_cons_of_mem _ hmem
            · exact hmem

/-- The pool after some overrides, the latest listed first: its pairs are those of the overrides
that apply, in the order of the settings. -/
structure PairsApplied (scope : Scope) (overrides : List Override) (pool : Pool) : Prop where
  reached : scope.Reached pool
  names : pool.pairs.map Pairing.names = (scope.applied overrides).reverse.map Override.names

section PairsApplied

variable {scope : Scope} {overrides : List Override} {pool : Pool}
  (h : scope.PairsApplied overrides pool)
include h

/-- Every pair is that of an override that applies. -/
theorem PairsApplied.exists_applied
    {pairing : Pairing}
    (hpairing : pairing ∈ pool.pairs) :
    ∃ entry ∈ scope.applied overrides, entry.names = pairing.names := by
  have hnames := List.mem_map_of_mem (f := Pairing.names) hpairing
  rw [h.names] at hnames
  obtain ⟨entry, hentry, hsame⟩ := List.mem_map.mp hnames
  exact ⟨entry, List.mem_reverse.mp hentry, hsame⟩

/-- Every override that applies has its pair. -/
theorem PairsApplied.exists_pairing
    {entry : Override}
    (hentry : entry ∈ scope.applied overrides) :
    ∃ pairing ∈ pool.pairs, pairing.names = entry.names := by
  have hnames := List.mem_map_of_mem (f := Override.names) (List.mem_reverse.mpr hentry)
  rw [← h.names] at hnames
  exact List.mem_map.mp hnames

theorem PairsApplied.untaken_iff
    {name : String} :
    (∀ other ∈ scope.applied overrides, other.target ≠ name) ↔
      ∀ owner ∈ pool.pairs, owner.target.fullName ≠ name := by
  constructor
  · intro huntaken owner howner
    obtain ⟨other, hother, hsame⟩ := h.exists_applied howner
    have htarget : other.target = owner.target.fullName := congrArg Prod.snd hsame
    rw [← htarget]
    exact huntaken other hother
  · intro huntaken other hother
    obtain ⟨owner, howner, hsame⟩ := h.exists_pairing hother
    have htarget : owner.target.fullName = other.target := congrArg Prod.snd hsame
    rw [← htarget]
    exact huntaken owner howner

/-- The first override of a reference type finds it pending if it exists. -/
theorem PairsApplied.exists_pending
    {name : String}
    (first : ∀ other ∈ overrides, other.reference ≠ name)
    (exists_reference : ∃ decl ∈ scope.reference, decl.fullName = name) :
    ∃ entry ∈ pool.pending, entry.decl.fullName = name := by
  obtain ⟨decl, hdecl, rfl⟩ := exists_reference
  rcases h.reached.mem_reference_iff.mp hdecl with
    ⟨pairing, hpairing, rfl⟩ | ⟨entry, hentry, rfl⟩
  · obtain ⟨entry, hentry, hsame⟩ := h.exists_applied hpairing
    have hlisted := (scope.applied_sublist overrides).subset hentry
    exact absurd (congrArg Prod.fst hsame) (first entry hlisted)
  · exact ⟨entry, hentry, rfl⟩

/-- A target type that no pair holds is free if it exists. -/
theorem PairsApplied.exists_free
    {name : String}
    (untaken : ∀ owner ∈ pool.pairs, owner.target.fullName ≠ name)
    (exists_target : ∃ decl ∈ scope.target, decl.fullName = name) :
    ∃ target ∈ pool.free, target.fullName = name := by
  obtain ⟨decl, hdecl, rfl⟩ := exists_target
  rcases h.reached.mem_target_iff.mp hdecl with ⟨pairing, hpairing, rfl⟩ | hfree
  · exact absurd rfl (untaken pairing hpairing)
  · exact ⟨decl, hfree, rfl⟩

/-- An override whose types are moved into a pair applies. -/
theorem PairsApplied.applies
    {entry : Override} {next : Pool}
    (ruling : Pool.Ruling overrides pool entry (.ok next)) :
    scope.Applies overrides (scope.applied overrides) entry := by
  cases ruling with
  | @applied first reference before after pending named untaken target front back free meant =>
      have hpending : reference ∈ pool.pending := by
        simp [pending]
      have hfree : target ∈ pool.free := by
        simp [free]
      refine ⟨first, ⟨reference.decl, ?_, named⟩, ⟨target, ?_, meant⟩, ?_⟩
      · exact h.reached.mem_reference_iff.mpr (Or.inr ⟨reference, hpending, rfl⟩)
      · exact h.reached.mem_target_iff.mpr (Or.inr hfree)
      · exact h.untaken_iff.mpr untaken

/-- An override that is refused does not apply. -/
theorem PairsApplied.not_applies
    {entry : Override} {warning : Warning}
    (ruling : Pool.Ruling overrides pool entry (.error warning)) :
    ¬ scope.Applies overrides (scope.applied overrides) entry := by
  intro happlies
  have huntaken := h.untaken_iff.mp happlies.untaken
  cases ruling with
  | repeated other listed same =>
      exact happlies.first other listed same
  | withoutReference first absent =>
      obtain ⟨pending, hpending, hnamed⟩ := h.exists_pending first happlies.reference
      exact absent pending hpending hnamed
  | taken first reference pending named owner paired owned =>
      exact huntaken owner paired owned
  | withoutTarget first reference pending named untaken absent =>
      obtain ⟨target, hfree, hmeant⟩ := h.exists_free untaken happlies.target
      exact absent target hfree hmeant

theorem PairsApplied.apply
    {entry : Override} {next : Pool}
    (ruling : Pool.Ruling overrides pool entry (.ok next)) :
    scope.PairsApplied (entry :: overrides) next := by
  refine ⟨h.reached.ruling ruling, ?_⟩
  rw [applied, if_pos (h.applies ruling), List.reverse_cons, List.map_append, ← h.names]
  cases ruling with
  | applied first pending named untaken free meant =>
      simp [Pairing.names, Override.names, named, meant]

theorem PairsApplied.refuse
    {entry : Override} {warning : Warning}
    (ruling : Pool.Ruling overrides pool entry (.error warning)) :
    scope.PairsApplied (entry :: overrides) pool := by
  refine ⟨h.reached, ?_⟩
  rw [applied, if_neg (h.not_applies ruling)]
  exact h.names

end PairsApplied

/-- The pairs that the overrides of a scope make are those of the overrides that apply. -/
theorem pairsApplied_overridden
    (scope : Scope) :
    scope.PairsApplied scope.settings.overrides.reverse scope.overridden.1 := by
  have start : scope.PairsApplied [] (Pool.ofTypes scope.reference scope.target) :=
    ⟨scope.reached_ofTypes, rfl⟩
  have result :=
    Pool.overrideAll_induction (motive := scope.PairsApplied) start
      (fun h ruling => h.apply ruling) (fun h ruling => h.refuse ruling)
      scope.settings.overrides
  rwa [List.append_nil] at result

end Scope
end Counterpart
