import Counterpart.Proofs.Matching.Turn
import Mathlib.Data.List.Nodup

/-!
# Steps without competition

Two kinds of steps are settled at once.  A step in which no pending type accepts a free target
leaves everything as it is.  A step in which every pending type accepts just one of the free
targets, a different one each, pairs all of them.

* `settle_of_refused`: nothing is accepted.
* `settle_of_owned`: everything is taken.
-/

namespace Counterpart
namespace Pool

variable {accepts : TypeDecl → TypeDecl → Option Reason}

theorem settle_of_refused
    {pending : List Pending} {free : List TypeDecl}
    (refused : ∀ entry ∈ pending, ∀ target ∈ free, accepts entry.decl target = none) :
    settle accepts pending free = ⟨pending, free, []⟩ := by
  induction pending with
  | nil =>
      rfl
  | cons entry rest ih =>
      have hnone : candidates accepts entry.decl free = [] :=
        candidates_eq_nil_iff.mpr (refused entry (List.mem_cons_self ..))
      have hrest := ih fun other hother => refused other (List.mem_cons_of_mem _ hother)
      simp [settle, hnone, hrest, hold]

section Owned

variable {own : TypeDecl → TypeDecl} {reason : TypeDecl → Reason}

/-- The free targets that a type accepts are its own one, in whatever order they are free. -/
theorem candidates_of_owned
    {decl : TypeDecl} {rest : List TypeDecl} {free : List TypeDecl}
    (all : free.Perm (own decl :: rest.map own))
    (accepted : accepts decl (own decl) = some (reason decl))
    (refused : ∀ other ∈ rest, accepts decl (own other) = none) :
    candidates accepts decl free = [(own decl, reason decl)] := by
  have hrest : candidates accepts decl (rest.map own) = [] := by
    rw [candidates_eq_nil_iff]
    simpa using refused
  have hcandidates :
      candidates accepts decl (own decl :: rest.map own) = [(own decl, reason decl)] := by
    simpa [candidates, accepted] using hrest
  have hperm := all.filterMap fun target =>
    (accepts decl target).map fun reason => (target, reason)
  rw [← candidates, ← candidates, hcandidates] at hperm
  exact List.perm_singleton.mp hperm

theorem others_of_owned
    {decl : TypeDecl} {rest : List TypeDecl} {free : List TypeDecl}
    (all : free.Perm (own decl :: rest.map own))
    (accepted : accepts decl (own decl) = some (reason decl))
    (refused : ∀ other ∈ rest, accepts decl (own other) = none) :
    (free.filter fun other => (accepts decl other).isNone).Perm (rest.map own) := by
  have hrest :
      ((own decl :: rest.map own).filter fun other => (accepts decl other).isNone) =
        rest.map own := by
    rw [List.filter_cons_of_neg (by simp [accepted]), List.filter_eq_self]
    simpa using refused
  rw [← hrest]
  exact all.filter _

/-- If every type accepts its own target and no other, a step pairs all types. -/
theorem settle_of_owned
    {types : List TypeDecl} {free : List TypeDecl}
    (all : free.Perm (types.map own))
    (accepted : ∀ decl ∈ types, accepts decl (own decl) = some (reason decl))
    (refused : types.Pairwise fun decl other =>
      accepts decl (own other) = none) :
    settle accepts (types.map fun decl => ⟨decl, []⟩) free =
      ⟨[], [], types.map fun decl => ⟨decl, own decl, reason decl⟩⟩ := by
  induction types generalizing free with
  | nil =>
      rw [List.map_nil, List.perm_nil] at all
      rw [all]
      rfl
  | cons decl rest ih =>
      have hown := accepted decl (List.mem_cons_self ..)
      obtain ⟨hrefused, hrest⟩ := List.pairwise_cons.mp refused
      have hsettled := ih (others_of_owned all hown hrefused)
        (fun other hother => accepted other (List.mem_cons_of_mem _ hother)) hrest
      simp [settle, Pending.isAmbiguous, candidates_of_owned all hown hrefused, hsettled, pair]

end Owned

end Pool
end Counterpart
