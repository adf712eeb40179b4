import Counterpart.Proofs.Matching.Schedule

/-!
# A matching leaves no acceptable pair

Free targets are never given back.  A reference type that is left over without candidates has
therefore refused every target that is left over, and it has done so in both steps.  Nothing is
assumed of the names of the types or of the overrides.

* `Pool.refuses_of_mem_pending`: what one step leaves.
* `refuses_of_mem_settled`: what all steps leave.
-/

namespace Counterpart
namespace Pool

section Steps

variable {accepts : TypeDecl → TypeDecl → Option Reason}

/-- A type that a run leaves pending without candidates was so before, and accepts none of the
targets that the run leaves free. -/
theorem refuses_of_mem_pending
    {pending : List Pending} {free : List TypeDecl} {entry : Pending}
    (h : entry ∈ (settle accepts pending free).pending)
    (plain : entry.candidates = []) :
    entry ∈ pending ∧
      ∀ target ∈ (settle accepts pending free).free, accepts entry.decl target = none := by
  obtain ⟨before, origin, after, rfl, hturn⟩ := exists_turn_of_mem_pending h
  have turn := turn_settle accepts origin (settle accepts before free).free
  obtain ⟨hdecl, ⟨ambiguous, rfl⟩ | ⟨fresh, hcandidates, _⟩⟩ :=
    turn.candidates_of_mem_pending hturn
  · exact absurd plain ambiguous
  · have hsame : entry = origin := by
      cases entry
      cases origin
      simp_all
    subst hsame
    have none : candidates accepts entry.decl (settle accepts before free).free = [] := by
      rw [← List.map_eq_nil_iff, ← hcandidates]
      exact plain
    refine ⟨by simp, ?_⟩
    intro target hfree
    rw [settle_append, free_followedBy] at hfree
    have hturnFree := (free_settle_sublist _ _).subset hfree
    exact candidates_eq_nil_iff.mp none target hturnFree

end Steps

end Pool

namespace Scope

/-- A type that is left over without candidates was refused in both steps by all targets that are
left over. -/
theorem refuses_of_mem_settled
    {scope : Scope} {entry : Pending} {target : TypeDecl}
    (hentry : entry ∈ scope.settled.pending)
    (plain : entry.candidates = [])
    (htarget : target ∈ scope.settled.free)
    (step : Step) :
    scope.accepts step entry.decl target = false := by
  obtain ⟨hpending, hnames⟩ := Pool.refuses_of_mem_pending hentry plain
  have hnone : scope.reason? step entry.decl target = none := by
    cases step with
    | names =>
        exact hnames target htarget
    | equivalents =>
        have hfree : target ∈ (scope.run .equivalents).free :=
          (Pool.free_settle_sublist _ _).subset htarget
        exact (Pool.refuses_of_mem_pending hpending plain).2 target hfree
  rw [← isSome_reason?, hnone]
  rfl

end Scope

/-- A reference type left over without candidates and a target type left over do not accept each
other: neither as declared equivalents nor under a naming rule. -/
theorem matching_misses_no_pair
    {scope : Scope} {left right : Unmatched}
    (hleft : left ∈ scope.matching.unmatchedReference)
    (plain : left.candidates = [])
    (hright : right ∈ scope.matching.unmatchedTarget) :
    Scope.declares left.decl right.decl = false ∧
      (right.decl.declaredEquivalent.isSome = true ∨
        ∀ rule, scope.follows rule left.decl right.decl = false) := by
  obtain ⟨entry, hentry, rfl⟩ := List.mem_map.mp hleft
  obtain ⟨target, htarget, rfl⟩ := List.mem_map.mp hright
  have hplain : entry.candidates = [] := List.map_eq_nil_iff.mp plain
  have hrefused := Scope.refuses_of_mem_settled hentry hplain htarget
  refine ⟨hrefused .equivalents, ?_⟩
  have hnames := hrefused .names
  rw [Scope.accepts, Bool.and_eq_false_iff] at hnames
  rcases hnames with hdeclared | hrules
  · left
    simpa using hdeclared
  · right
    intro rule
    have hrule := List.any_eq_false.mp hrules rule (Rule.mem_all rule)
    simpa using hrule

theorem matching_misses_no_pair_lonely_other :
    Scope.declares (.named .reference .classType "a.Lonely")
        (.named .target .classType "A.Other") = false ∧
      ((TypeDecl.named .target .classType "A.Other").declaredEquivalent.isSome = true ∨
        ∀ rule, Scope.sample.follows rule (.named .reference .classType "a.Lonely")
          (.named .target .classType "A.Other") = false) := by
  have hleft :
      ⟨.named .reference .classType "a.Lonely", []⟩ ∈
        Scope.sample.matching.unmatchedReference := by
    rw [Scope.matching, Scope.settled_sample]
    decide +kernel
  have hright :
      ⟨.named .target .classType "A.Other", []⟩ ∈ Scope.sample.matching.unmatchedTarget := by
    rw [Scope.matching, Scope.settled_sample]
    decide +kernel
  exact matching_misses_no_pair hleft rfl hright

end Counterpart
