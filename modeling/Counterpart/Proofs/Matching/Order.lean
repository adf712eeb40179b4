import Counterpart.Proofs.Correspondence.Alike
import Counterpart.Proofs.Matching.Conservation
import Counterpart.Proofs.Sorting
import Mathlib.Data.List.Nodup
import Mathlib.Data.String.Basic

/-!
# The order in which matching visits types

Types are visited in the order of their full names, and every pool that matching passes through
keeps that order.  `Reached` is the invariant of these pools; with distinct full names on either
side it says that full names ascend strictly and that no type occurs twice.

* `sortByName_ascending`: distinct full names ascend strictly once sorted.
* `matching_eq_of_perm`: types are matched in the same way however they are listed.
* `Reached.advance`, `reached_overridden`: steps and overrides keep the invariant.
-/

namespace Counterpart

/-- One full name comes before another in the order of matching. -/
def TypeDecl.Precedes (first second : TypeDecl) : Prop :=
  first.fullName < second.fullName

theorem TypeDecl.Precedes.asymm
    {first second : TypeDecl}
    (h : first.Precedes second) :
    ¬ second.Precedes first :=
  lt_asymm h

theorem TypeDecl.Precedes.ne
    {first second : TypeDecl}
    (h : first.Precedes second) :
    first ≠ second := by
  rintro rfl
  exact lt_irrefl _ h

/-- Types that ascend by their full names are listed in one order only. -/
theorem TypeDecl.eq_of_perm_of_ascending
    {first second : List TypeDecl}
    (hfirst : first.Pairwise Precedes) (hsecond : second.Pairwise Precedes)
    (h : first.Perm second) :
    first = second :=
  List.Perm.eq_of_pairwise (fun _ _ _ _ hab hba => absurd hba hab.asymm) hfirst hsecond h

namespace Pool

/-- Distinct full names ascend strictly once sorted. -/
theorem sortByName_ascending
    {types : List TypeDecl}
    (distinct : (types.map TypeDecl.fullName).Nodup) :
    (ofTypes.sortByName types).Pairwise TypeDecl.Precedes := by
  have hle (a b : TypeDecl) :
      (compare a.fullName b.fullName).isLE = true ↔ a.fullName ≤ b.fullName :=
    Std.LawfulBCmp.isLE_iff_le
  have hsorted :
      (ofTypes.sortByName types).Pairwise
        fun a b => (compare a.fullName b.fullName).isLE = true :=
    pairwise_mergeSort (compareOn TypeDecl.fullName) types
  have hnames : ((ofTypes.sortByName types).map TypeDecl.fullName).Nodup :=
    ((sortByName_perm types).map TypeDecl.fullName).nodup_iff.mpr distinct
  refine hsorted.imp₂ (fun a b hab hne => ?_) (List.pairwise_map.mp hnames)
  exact lt_of_le_of_ne ((hle a b).mp hab) hne

/-- Types with distinct full names are visited in the same order however they are listed. -/
theorem sortByName_eq_of_perm
    {types types' : List TypeDecl}
    (distinct : (types.map TypeDecl.fullName).Nodup)
    (h : types'.Perm types) :
    ofTypes.sortByName types' = ofTypes.sortByName types := by
  have distinct' : (types'.map TypeDecl.fullName).Nodup :=
    (h.map TypeDecl.fullName).nodup_iff.mpr distinct
  exact TypeDecl.eq_of_perm_of_ascending (sortByName_ascending distinct')
    (sortByName_ascending distinct)
    ((sortByName_perm types').trans (h.trans (sortByName_perm types).symm))

/-- Types listed in the order of their full names are visited as they are listed. -/
theorem ofTypes_of_ordered
    {reference target : List TypeDecl}
    (hreference : reference.Pairwise fun a b => (compare a.fullName b.fullName).isLE = true)
    (htarget : target.Pairwise fun a b => (compare a.fullName b.fullName).isLE = true) :
    ofTypes reference target =
      { pending := reference.map fun decl => ⟨decl, []⟩, free := target } := by
  rw [ofTypes, ofTypes.sortByName, ofTypes.sortByName, List.mergeSort_of_pairwise hreference,
    List.mergeSort_of_pairwise htarget]

end Pool

namespace Scope

/-- The full names of either side are pairwise distinct. -/
structure DistinctNames (scope : Scope) : Prop where
  reference : (scope.reference.map TypeDecl.fullName).Nodup
  target : (scope.target.map TypeDecl.fullName).Nodup

theorem DistinctNames.reference_eq
    {scope : Scope} (distinct : scope.DistinctNames)
    {first second : TypeDecl}
    (hfirst : first ∈ scope.reference) (hsecond : second ∈ scope.reference)
    (same : first.fullName = second.fullName) :
    first = second :=
  List.inj_on_of_nodup_map distinct.reference hfirst hsecond same

theorem DistinctNames.target_eq
    {scope : Scope} (distinct : scope.DistinctNames)
    {first second : TypeDecl}
    (hfirst : first ∈ scope.target) (hsecond : second ∈ scope.target)
    (same : first.fullName = second.fullName) :
    first = second :=
  List.inj_on_of_nodup_map distinct.target hfirst hsecond same

/-- Types with distinct full names are matched in the same way however they are listed. -/
theorem matching_eq_of_perm
    {scope other : Scope} (distinct : scope.DistinctNames)
    (reference : other.reference.Perm scope.reference)
    (target : other.target.Perm scope.target)
    (overrides : other.settings.overrides = scope.settings.overrides)
    (namespaces : ∀ package, other.targetNamespace package = scope.targetNamespace package) :
    other.matching = scope.matching := by
  have hstart :
      Pool.ofTypes other.reference other.target = Pool.ofTypes scope.reference scope.target := by
    simp only [Pool.ofTypes, Pool.sortByName_eq_of_perm distinct.reference reference,
      Pool.sortByName_eq_of_perm distinct.target target]
  have hoverridden : other.overridden = scope.overridden := by
    simp only [overridden, hstart, overrides]
  have hreason : other.namedReason = scope.namedReason :=
    namedReason_eq_of_targetNamespace namespaces
  have hsettled : other.settled = scope.settled := by
    simp only [settled, hoverridden, hreason]
  simp only [matching, hsettled, hoverridden]

/-- The pool holds the types of the scope, and what is not paired keeps the order of names. -/
structure Reached (scope : Scope) (pool : Pool) : Prop where
  conserves : (Pool.ofTypes scope.reference scope.target).Conserves pool
  pending :
    (pool.pending.map Pending.decl).Sublist (Pool.ofTypes.sortByName scope.reference)
  free : pool.free.Sublist (Pool.ofTypes.sortByName scope.target)

theorem reached_ofTypes
    (scope : Scope) :
    scope.Reached (Pool.ofTypes scope.reference scope.target) where
  conserves := Pool.Conserves.refl _
  pending := by
    simp [Pool.ofTypes, Function.comp_def]
  free := List.Sublist.refl _

theorem Reached.advance
    {scope : Scope} {pool : Pool}
    {accepts : TypeDecl → TypeDecl → Option Reason}
    (h : scope.Reached pool) :
    scope.Reached (pool.advance accepts) where
  conserves := h.conserves.trans (Pool.conserves_advance pool)
  pending := (Pool.decls_settle_sublist pool.pending pool.free).trans h.pending
  free := (Pool.free_settle_sublist pool.pending pool.free).trans h.free

theorem Reached.ruling
    {scope : Scope} {earlier : List Override} {pool next : Pool} {entry : Override}
    (h : scope.Reached pool)
    (ruling : Pool.Ruling earlier pool entry (.ok next)) :
    scope.Reached next := by
  refine ⟨h.conserves.trans ruling.conserves, ?_, ?_⟩
  · cases ruling with
    | @applied first reference before after pending =>
        refine List.Sublist.trans ?_ h.pending
        rw [pending]
        exact ((List.sublist_cons_self reference after).append_left before).map Pending.decl
  · cases ruling with
    | @applied _ _ _ _ _ _ _ target front back free =>
        refine List.Sublist.trans ?_ h.free
        rw [free]
        exact (List.sublist_cons_self target back).append_left front

theorem reached_overridden
    (scope : Scope) :
    scope.Reached scope.overridden.1 :=
  Pool.overrideAll_induction (motive := fun _ pool => scope.Reached pool)
    scope.reached_ofTypes
    (fun reached ruling => reached.ruling ruling)
    (fun reached _ => reached)
    scope.settings.overrides

theorem reached_settled
    (scope : Scope) :
    scope.Reached scope.settled :=
  scope.reached_overridden.advance.advance

section Reached

variable {scope : Scope} {pool : Pool} (h : scope.Reached pool)
include h

theorem Reached.references_perm :
    pool.references.Perm scope.reference :=
  h.conserves.references.trans (Pool.references_ofTypes_perm _ _)

theorem Reached.targets_perm :
    pool.targets.Perm scope.target :=
  h.conserves.targets.trans (Pool.targets_ofTypes_perm _ _)

/-- A reference type of the scope is paired or pending. -/
theorem Reached.mem_reference_iff
    {decl : TypeDecl} :
    decl ∈ scope.reference ↔
      (∃ pairing ∈ pool.pairs, pairing.reference = decl) ∨
        ∃ entry ∈ pool.pending, entry.decl = decl := by
  rw [← h.references_perm.mem_iff, Pool.references, List.mem_append, List.mem_map, List.mem_map]

/-- A target type of the scope is paired or free. -/
theorem Reached.mem_target_iff
    {decl : TypeDecl} :
    decl ∈ scope.target ↔
      (∃ pairing ∈ pool.pairs, pairing.target = decl) ∨ decl ∈ pool.free := by
  rw [← h.targets_perm.mem_iff, Pool.targets, List.mem_append, List.mem_map]

theorem Reached.reference_mem_of_mem_pending
    {entry : Pending} (hentry : entry ∈ pool.pending) :
    entry.decl ∈ scope.reference :=
  h.mem_reference_iff.mpr (Or.inr ⟨entry, hentry, rfl⟩)

theorem Reached.target_mem_of_mem_free
    {decl : TypeDecl} (hdecl : decl ∈ pool.free) :
    decl ∈ scope.target :=
  h.mem_target_iff.mpr (Or.inr hdecl)

/-- Both types of a pair are types of the scope. -/
theorem Reached.mem_of_mem_pairs
    {pairing : Pairing} (hpairing : pairing ∈ pool.pairs) :
    pairing.reference ∈ scope.reference ∧ pairing.target ∈ scope.target :=
  ⟨h.mem_reference_iff.mpr (Or.inl ⟨pairing, hpairing, rfl⟩),
    h.mem_target_iff.mpr (Or.inl ⟨pairing, hpairing, rfl⟩)⟩

variable (distinct : scope.DistinctNames)
include distinct

theorem Reached.pending_ascending :
    (pool.pending.map Pending.decl).Pairwise TypeDecl.Precedes :=
  (Pool.sortByName_ascending distinct.reference).sublist h.pending

theorem Reached.free_ascending :
    pool.free.Pairwise TypeDecl.Precedes :=
  (Pool.sortByName_ascending distinct.target).sublist h.free

theorem Reached.nodup_references :
    pool.references.Nodup :=
  h.references_perm.nodup_iff.mpr (List.Nodup.of_map _ distinct.reference)

theorem Reached.nodup_targets :
    pool.targets.Nodup :=
  h.targets_perm.nodup_iff.mpr (List.Nodup.of_map _ distinct.target)

/-- No reference type is both paired and pending. -/
theorem Reached.reference_ne_decl
    {pairing : Pairing} {entry : Pending}
    (hpairing : pairing ∈ pool.pairs) (hentry : entry ∈ pool.pending) :
    pairing.reference ≠ entry.decl := by
  have hnodup := h.nodup_references distinct
  exact (List.nodup_append.mp hnodup).2.2 _ (List.mem_map_of_mem hpairing) _
    (List.mem_map_of_mem hentry)

/-- No target type is both paired and free. -/
theorem Reached.target_not_mem_free
    {pairing : Pairing}
    (hpairing : pairing ∈ pool.pairs) :
    pairing.target ∉ pool.free := by
  intro hfree
  have hnodup := h.nodup_targets distinct
  exact (List.nodup_append.mp hnodup).2.2 _ (List.mem_map_of_mem hpairing) _ hfree rfl

/-- A reference type is in one pair only. -/
theorem Reached.eq_of_reference_eq
    {first second : Pairing}
    (hfirst : first ∈ pool.pairs) (hsecond : second ∈ pool.pairs)
    (same : first.reference = second.reference) :
    first = second := by
  have hnodup := h.nodup_references distinct
  exact List.inj_on_of_nodup_map (List.nodup_append.mp hnodup).1 hfirst hsecond same

/-- A target type is in one pair only. -/
theorem Reached.eq_of_target_eq
    {first second : Pairing}
    (hfirst : first ∈ pool.pairs) (hsecond : second ∈ pool.pairs)
    (same : first.target = second.target) :
    first = second := by
  have hnodup := h.nodup_targets distinct
  exact List.inj_on_of_nodup_map (List.nodup_append.mp hnodup).1 hfirst hsecond same

end Reached

end Scope
end Counterpart
