import Counterpart.Matching.Types

/-!
# Turns of a step of matching

A step of matching gives every pending type one turn, in their order, on the targets that the
turns before it left free.  `Turn` lists all that a turn can do; what a step does follows from
it by induction on the pending types.

* `settle_cons`, `settle_append`: a run of turns is its first turn, or its first part, followed
  by the rest.
* `exists_turn_of_mem_pairs`, `exists_turn_of_mem_pending`: every pair and every pending type
  that a run leaves comes from one turn of the run.
-/

namespace Counterpart
namespace Pool

/-- What two runs of turns leave, the second made on the free targets of the first. -/
def followedBy (first second : Pool) : Pool :=
  { pending := first.pending ++ second.pending
    free := second.free
    pairs := first.pairs ++ second.pairs }

@[simp] theorem pending_followedBy
    (first second : Pool) :
    (first.followedBy second).pending = first.pending ++ second.pending :=
  rfl

@[simp] theorem free_followedBy
    (first second : Pool) :
    (first.followedBy second).free = second.free :=
  rfl

@[simp] theorem pairs_followedBy
    (first second : Pool) :
    (first.followedBy second).pairs = first.pairs ++ second.pairs :=
  rfl

theorem followedBy_assoc
    (first second third : Pool) :
    (first.followedBy second).followedBy third =
      first.followedBy (second.followedBy third) := by
  simp [followedBy, List.append_assoc]

section Steps

variable {accepts : TypeDecl → TypeDecl → Option Reason}

theorem mem_candidates_iff
    {reference target : TypeDecl} {free : List TypeDecl} {reason : Reason} :
    (target, reason) ∈ candidates accepts reference free ↔
      target ∈ free ∧ accepts reference target = some reason := by
  simp only [candidates, List.mem_filterMap, Option.map_eq_some_iff, Prod.mk.injEq]
  constructor
  · rintro ⟨_, hfree, _, haccepts, rfl, rfl⟩
    exact ⟨hfree, haccepts⟩
  · rintro ⟨hfree, haccepts⟩
    exact ⟨target, hfree, reason, haccepts, rfl, rfl⟩

/-- The candidates are the accepted ones of the free targets, in their order. -/
theorem map_fst_candidates
    (reference : TypeDecl) (free : List TypeDecl) :
    (candidates accepts reference free).map Prod.fst =
      free.filter fun target => (accepts reference target).isSome := by
  induction free with
  | nil =>
      rfl
  | cons target rest ih =>
      unfold candidates at ih ⊢
      cases h : accepts reference target <;> simp [h, ih]

/-- A type without a candidate accepts no free target. -/
theorem candidates_eq_nil_iff
    {reference : TypeDecl} {free : List TypeDecl} :
    candidates accepts reference free = [] ↔
      ∀ target ∈ free, accepts reference target = none := by
  rw [← List.map_eq_nil_iff (f := Prod.fst), map_fst_candidates, List.filter_eq_nil_iff]
  simp

/-- What the turn of a pending type leaves. -/
inductive Turn
    (accepts : TypeDecl → TypeDecl → Option Reason)
    (entry : Pending) (free : List TypeDecl) :
    Pool → Prop
  /-- A type found ambiguous before is passed over. -/
  | passed
      (ambiguous : entry.candidates ≠ []) :
      Turn accepts entry free ⟨[entry], free, []⟩
  /-- A type that accepts no free target stays as it is. -/
  | unmet
      (fresh : entry.candidates = [])
      (none : candidates accepts entry.decl free = []) :
      Turn accepts entry free ⟨[entry], free, []⟩
  /-- A type that accepts a single free target is paired with it. -/
  | paired
      {target : TypeDecl} {reason : Reason}
      (fresh : entry.candidates = [])
      (single : candidates accepts entry.decl free = [(target, reason)]) :
      Turn accepts entry free
        ⟨[], free.filter fun other => (accepts entry.decl other).isNone,
          [⟨entry.decl, target, reason⟩]⟩
  /-- A type that accepts several free targets keeps them as its candidates. -/
  | torn
      (fresh : entry.candidates = [])
      (several : 2 ≤ (candidates accepts entry.decl free).length) :
      Turn accepts entry free
        ⟨[⟨entry.decl, (candidates accepts entry.decl free).map Prod.fst⟩], free, []⟩

/-- A turn keeps the free targets in their order. -/
theorem Turn.free_sublist
    {entry : Pending} {free : List TypeDecl} {pool : Pool}
    (turn : Turn accepts entry free pool) :
    pool.free.Sublist free := by
  cases turn with
  | paired =>
      exact List.filter_sublist
  | passed | unmet | torn =>
      exact List.Sublist.refl _

/-- A turn leaves no other reference type pending than its own. -/
theorem Turn.decls_sublist
    {entry : Pending} {free : List TypeDecl} {pool : Pool}
    (turn : Turn accepts entry free pool) :
    (pool.pending.map Pending.decl).Sublist [entry.decl] := by
  cases turn <;> simp

/-- What is still pending after a turn: a type passed over, or one with the free targets that it
accepts as its candidates, which are none or several. -/
theorem Turn.candidates_of_mem_pending
    {entry left : Pending} {free : List TypeDecl} {pool : Pool}
    (turn : Turn accepts entry free pool)
    (h : left ∈ pool.pending) :
    left.decl = entry.decl ∧
      ((entry.candidates ≠ [] ∧ left = entry) ∨
        (entry.candidates = [] ∧
          left.candidates = (candidates accepts entry.decl free).map Prod.fst ∧
          left.candidates.length ≠ 1)) := by
  cases turn with
  | passed ambiguous =>
      obtain rfl := List.mem_singleton.mp h
      exact ⟨rfl, Or.inl ⟨ambiguous, rfl⟩⟩
  | unmet fresh none =>
      obtain rfl := List.mem_singleton.mp h
      exact ⟨rfl, Or.inr ⟨fresh, by simp [fresh, none], by simp [fresh]⟩⟩
  | paired =>
      simp at h
  | torn fresh several =>
      obtain rfl := List.mem_singleton.mp h
      refine ⟨rfl, Or.inr ⟨fresh, rfl, ?_⟩⟩
      rw [List.length_map]
      omega

@[simp] theorem settle_nil
    (free : List TypeDecl) :
    settle accepts [] free = ⟨[], free, []⟩ :=
  rfl

/-- A step over a single pending type is one turn. -/
theorem turn_settle
    (accepts : TypeDecl → TypeDecl → Option Reason)
    (entry : Pending) (free : List TypeDecl) :
    Turn accepts entry free (settle accepts [entry] free) := by
  by_cases fresh : entry.candidates = []
  · have hfresh : entry.isAmbiguous = false := by
      simp [Pending.isAmbiguous, fresh]
    rcases hcandidates : candidates accepts entry.decl free with
      _ | ⟨⟨target, reason⟩, _ | ⟨second, others⟩⟩
    · have turn := Turn.unmet fresh hcandidates
      simpa [settle, hfresh, hcandidates, hold] using turn
    · have turn := Turn.paired fresh hcandidates
      simpa [settle, hfresh, hcandidates, pair] using turn
    · have several : 2 ≤ (candidates accepts entry.decl free).length := by
        simp [hcandidates]
      have turn := Turn.torn fresh several
      simpa [settle, hfresh, hcandidates, hold] using turn
  · have hpassed : entry.isAmbiguous = true := by
      simp [Pending.isAmbiguous, fresh]
    have turn : Turn accepts entry free ⟨[entry], free, []⟩ := .passed fresh
    simpa [settle, hpassed, hold] using turn

/-- A run of turns is its first turn followed by the others. -/
theorem settle_cons
    (entry : Pending) (rest : List Pending) (free : List TypeDecl) :
    settle accepts (entry :: rest) free =
      (settle accepts [entry] free).followedBy
        (settle accepts rest (settle accepts [entry] free).free) := by
  by_cases hpassed : entry.isAmbiguous = true
  · simp [settle, hpassed, hold, followedBy]
  · rcases hcandidates : candidates accepts entry.decl free with _ | ⟨first, _ | ⟨second, others⟩⟩
    · simp [settle, hpassed, hcandidates, hold, followedBy]
    · simp [settle, hpassed, hcandidates, pair, followedBy]
    · simp [settle, hpassed, hcandidates, hold, followedBy]

/-- A run of turns is its first part followed by the rest. -/
theorem settle_append
    (before after : List Pending) (free : List TypeDecl) :
    settle accepts (before ++ after) free =
      (settle accepts before free).followedBy
        (settle accepts after (settle accepts before free).free) := by
  induction before generalizing free with
  | nil =>
      simp [followedBy]
  | cons entry rest ih =>
      rw [List.cons_append, settle_cons, ih, settle_cons entry rest, followedBy_assoc]
      rfl

/-- A run keeps the free targets in their order. -/
theorem free_settle_sublist
    (pending : List Pending) (free : List TypeDecl) :
    (settle accepts pending free).free.Sublist free := by
  induction pending generalizing free with
  | nil =>
      exact List.Sublist.refl free
  | cons entry rest ih =>
      rw [settle_cons]
      exact (ih _).trans (turn_settle accepts entry free).free_sublist

/-- A run keeps the pending types in their order. -/
theorem decls_settle_sublist
    (pending : List Pending) (free : List TypeDecl) :
    ((settle accepts pending free).pending.map Pending.decl).Sublist
      (pending.map Pending.decl) := by
  induction pending generalizing free with
  | nil =>
      exact List.Sublist.refl []
  | cons entry rest ih =>
      rw [settle_cons, pending_followedBy, List.map_append]
      exact (turn_settle accepts entry free).decls_sublist.append (ih _)

/-- Every pair comes from the turn of its reference type: it accepted a single free target. -/
theorem exists_turn_of_mem_pairs
    {pending : List Pending} {free : List TypeDecl} {pairing : Pairing}
    (h : pairing ∈ (settle accepts pending free).pairs) :
    ∃ before after,
      pending = before ++ ⟨pairing.reference, []⟩ :: after ∧
        candidates accepts pairing.reference (settle accepts before free).free =
          [(pairing.target, pairing.reason)] := by
  induction pending generalizing free with
  | nil =>
      simp at h
  | cons entry rest ih =>
      rw [settle_cons, pairs_followedBy, List.mem_append] at h
      rcases h with hfirst | hrest
      · have turn := turn_settle accepts entry free
        generalize settle accepts [entry] free = first at turn hfirst
        cases turn with
        | passed | unmet | torn =>
            simp at hfirst
        | paired fresh single =>
            obtain rfl := List.mem_singleton.mp hfirst
            obtain ⟨decl, _⟩ := entry
            subst fresh
            exact ⟨[], rest, rfl, single⟩
      · obtain ⟨before, after, rfl, single⟩ := ih hrest
        refine ⟨entry :: before, after, rfl, ?_⟩
        rw [settle_cons entry before]
        exact single

/-- The reference type of a pair was pending when the run started. -/
theorem reference_mem_of_mem_pairs
    {pending : List Pending} {free : List TypeDecl} {pairing : Pairing}
    (h : pairing ∈ (settle accepts pending free).pairs) :
    pairing.reference ∈ pending.map Pending.decl := by
  obtain ⟨before, after, rfl, _⟩ := exists_turn_of_mem_pairs h
  simp

/-- Every pending type that a run leaves comes from the turn of a pending type. -/
theorem exists_turn_of_mem_pending
    {pending : List Pending} {free : List TypeDecl} {entry : Pending}
    (h : entry ∈ (settle accepts pending free).pending) :
    ∃ before origin after,
      pending = before ++ origin :: after ∧
        entry ∈ (settle accepts [origin] (settle accepts before free).free).pending := by
  induction pending generalizing free with
  | nil =>
      simp at h
  | cons first rest ih =>
      rw [settle_cons, pending_followedBy, List.mem_append] at h
      rcases h with hfirst | hrest
      · exact ⟨[], first, rest, rfl, hfirst⟩
      · obtain ⟨before, origin, after, rfl, hturn⟩ := ih hrest
        refine ⟨first :: before, origin, after, rfl, ?_⟩
        rw [settle_cons first before]
        exact hturn

end Steps

end Pool
end Counterpart
