import Counterpart.Proofs.Matching.Ruling
import Counterpart.Proofs.Matching.Turn

/-!
# Turns and overrides conserve types

The reference types of a pool are those of its pairs and the pending ones, the target types
those of its pairs and the free ones.  Overrides, turns and steps only move types between the
parts of a pool: whatever their names are, none is lost and none appears twice.

* `Turn.conserves`, `conserves_settle`, `conserves_advance`: a turn, and so a step, conserves
  both sides.
* `Ruling.conserves`: so does an override that applies.
-/

namespace Counterpart
namespace Pool

/-- The reference types of a pool, paired or pending. -/
def references (pool : Pool) : List TypeDecl :=
  pool.pairs.map Pairing.reference ++ pool.pending.map Pending.decl

/-- The target types of a pool, paired or free. -/
def targets (pool : Pool) : List TypeDecl :=
  pool.pairs.map Pairing.target ++ pool.free

/-- The types of a pool are those of an earlier one, each as often as there. -/
structure Conserves (before after : Pool) : Prop where
  references : after.references.Perm before.references
  targets : after.targets.Perm before.targets

theorem Conserves.refl
    (pool : Pool) :
    pool.Conserves pool :=
  ⟨List.Perm.refl _, List.Perm.refl _⟩

theorem Conserves.trans
    {first second third : Pool}
    (h : first.Conserves second) (h' : second.Conserves third) :
    first.Conserves third :=
  ⟨h'.references.trans h.references, h'.targets.trans h.targets⟩

/-- Runs made one after the other conserve what each of them conserves. -/
theorem Conserves.followedBy
    {before after : List Pending} {free : List TypeDecl} {pairs : List Pairing}
    {first second : Pool}
    (hfirst : Conserves ⟨before, free, pairs⟩ first)
    (hsecond : Conserves ⟨after, first.free, []⟩ second) :
    Conserves ⟨before ++ after, free, pairs⟩ (first.followedBy second) := by
  constructor
  · have hswap :
        (second.pairs.map Pairing.reference ++ first.pending.map Pending.decl).Perm
          (first.pending.map Pending.decl ++ second.pairs.map Pairing.reference) :=
      List.perm_append_comm
    have hregroup :
        (first.followedBy second).references.Perm (first.references ++ second.references) := by
      simpa only [Pool.references, pairs_followedBy, pending_followedBy, List.map_append,
        List.append_assoc] using
        (hswap.append_right (second.pending.map Pending.decl)).append_left
          (first.pairs.map Pairing.reference)
    refine hregroup.trans ((hfirst.references.append hsecond.references).trans ?_)
    simp [Pool.references]
  · have hfree :
        (first.followedBy second).targets =
          first.pairs.map Pairing.target ++ second.targets := by
      simp [Pool.targets]
    rw [hfree]
    exact (hsecond.targets.append_left _).trans hfirst.targets

section Steps

variable {accepts : TypeDecl → TypeDecl → Option Reason}

/-- A turn conserves both sides. -/
theorem Turn.conserves
    {entry : Pending} {free : List TypeDecl} {pool : Pool}
    (turn : Turn accepts entry free pool) :
    Conserves ⟨[entry], free, []⟩ pool := by
  cases turn with
  | passed | unmet =>
      exact Conserves.refl _
  | torn =>
      exact ⟨List.Perm.refl _, List.Perm.refl _⟩
  | @paired target reason fresh single =>
      refine ⟨List.Perm.refl _, ?_⟩
      have htaken :
          free.filter (fun other => (accepts entry.decl other).isSome) = [target] := by
        rw [← map_fst_candidates, single]
        rfl
      have hsplit :=
        List.filter_append_perm (fun other => (accepts entry.decl other).isSome) free
      rw [htaken] at hsplit
      simpa [Pool.targets] using hsplit

/-- A run of turns conserves both sides. -/
theorem conserves_settle
    (pending : List Pending) (free : List TypeDecl) :
    Conserves ⟨pending, free, []⟩ (settle accepts pending free) := by
  induction pending generalizing free with
  | nil =>
      exact Conserves.refl _
  | cons entry rest ih =>
      rw [settle_cons]
      exact (turn_settle accepts entry free).conserves.followedBy (ih _)

/-- A step conserves both sides of the pool it starts from. -/
theorem conserves_advance
    (pool : Pool) :
    pool.Conserves (pool.advance accepts) :=
  (Conserves.refl ⟨[], pool.free, pool.pairs⟩).followedBy
    (conserves_settle pool.pending pool.free)

end Steps

/-- An override that applies conserves both sides. -/
theorem Ruling.conserves
    {earlier : List Override} {pool next : Pool} {entry : Override}
    (ruling : Ruling earlier pool entry (.ok next)) :
    pool.Conserves next := by
  cases ruling with
  | @applied first reference before after pending named untaken target front back free meant =>
      constructor
      · simpa [Pool.references, pending] using
          (List.perm_middle.symm.map Pending.decl).append_left (pool.pairs.map Pairing.reference)
      · simpa [Pool.targets, free] using
          List.perm_middle.symm.append_left (pool.pairs.map Pairing.target)

theorem sortByName_perm
    (types : List TypeDecl) :
    (ofTypes.sortByName types).Perm types :=
  List.mergeSort_perm types _

/-- The first pool of a scope holds its types. -/
theorem references_ofTypes_perm
    (reference target : List TypeDecl) :
    (ofTypes reference target).references.Perm reference := by
  simpa [Pool.references, ofTypes, Function.comp_def] using sortByName_perm reference

theorem targets_ofTypes_perm
    (reference target : List TypeDecl) :
    (ofTypes reference target).targets.Perm target := by
  simpa [Pool.targets, ofTypes] using sortByName_perm target

end Pool

end Counterpart
