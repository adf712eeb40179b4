import Counterpart.Matching.Types

/-!
# Rulings on overrides

An override either applies, and moves one type of either side into a pair, or is refused with a
warning and leaves the pool as it is.  `Ruling` lists the cases with what each of them knows of
the pool.

* `ruling_overrideWith`: every override is ruled on by one of the cases.
* `overrideAll_induction`: what every ruling keeps holds after any list of overrides.
-/

namespace Counterpart
namespace Pool

/-- What becomes of an override, given the overrides listed before it. -/
inductive Ruling
    (earlier : List Override) (pool : Pool) (entry : Override) :
    Except Warning Pool → Prop
  /-- An override listed before names the same reference type. -/
  | repeated
      (other : Override)
      (listed : other ∈ earlier)
      (same : other.reference = entry.reference) :
      Ruling earlier pool entry (.error (.duplicateOverride entry.reference))
  /-- No pending type has the name. -/
  | withoutReference
      (first : ∀ other ∈ earlier, other.reference ≠ entry.reference)
      (absent : ∀ other ∈ pool.pending, other.decl.fullName ≠ entry.reference) :
      Ruling earlier pool entry (.error (.referenceNotFound entry.reference))
  /-- A pair holds a target type of the name. -/
  | taken
      (first : ∀ other ∈ earlier, other.reference ≠ entry.reference)
      (reference : Pending)
      (pending : reference ∈ pool.pending)
      (named : reference.decl.fullName = entry.reference)
      (owner : Pairing)
      (paired : owner ∈ pool.pairs)
      (owned : owner.target.fullName = entry.target) :
      Ruling earlier pool entry
        (.error (.targetTaken entry.reference entry.target owner.reference.fullName))
  /-- No pair and no free target has the name. -/
  | withoutTarget
      (first : ∀ other ∈ earlier, other.reference ≠ entry.reference)
      (reference : Pending)
      (pending : reference ∈ pool.pending)
      (named : reference.decl.fullName = entry.reference)
      (untaken : ∀ owner ∈ pool.pairs, owner.target.fullName ≠ entry.target)
      (absent : ∀ target ∈ pool.free, target.fullName ≠ entry.target) :
      Ruling earlier pool entry (.error (.targetNotFound entry.reference entry.target))
  /-- The two types of the names are paired. -/
  | applied
      (first : ∀ other ∈ earlier, other.reference ≠ entry.reference)
      {reference : Pending} {before after : List Pending}
      (pending : pool.pending = before ++ reference :: after)
      (named : reference.decl.fullName = entry.reference)
      (untaken : ∀ owner ∈ pool.pairs, owner.target.fullName ≠ entry.target)
      {target : TypeDecl} {front back : List TypeDecl}
      (free : pool.free = front ++ target :: back)
      (meant : target.fullName = entry.target) :
      Ruling earlier pool entry
        (.ok ⟨before ++ after, front ++ back,
          pool.pairs ++ [⟨reference.decl, target, .override⟩]⟩)

theorem ruling_overrideWith
    (earlier : List Override) (pool : Pool) (entry : Override) :
    Ruling earlier pool entry (pool.overrideWith earlier entry) := by
  unfold overrideWith
  by_cases hrepeated : earlier.any (fun other => other.reference == entry.reference) = true
  · rw [if_pos hrepeated]
    obtain ⟨other, hother, hsame⟩ := List.any_eq_true.mp hrepeated
    exact .repeated other hother (by simpa using hsame)
  rw [if_neg hrepeated]
  have first : ∀ other ∈ earlier, other.reference ≠ entry.reference := by
    simpa using hrepeated
  cases hreference :
      extractLast? (fun other => other.decl.fullName == entry.reference) pool.pending with
  | none =>
      refine .withoutReference first fun other hother => ?_
      simpa using extractLast?_eq_none_iff.mp hreference other hother
  | some found =>
      obtain ⟨reference, others⟩ := found
      obtain ⟨hnamed, before, after, hpending, rfl⟩ :=
        exists_split_of_extractLast?_eq_some hreference
      have named : reference.decl.fullName = entry.reference := by
        simpa using hnamed
      have hmem : reference ∈ pool.pending := by
        simp [hpending]
      cases howner : pool.pairs.find? (fun other => other.target.fullName == entry.target) with
      | some owner =>
          exact .taken first reference hmem named owner (List.mem_of_find?_eq_some howner)
            (by simpa using List.find?_some howner)
      | none =>
          have untaken : ∀ owner ∈ pool.pairs, owner.target.fullName ≠ entry.target := by
            simpa using howner
          cases htarget :
              extractLast? (fun other => other.fullName == entry.target) pool.free with
          | none =>
              refine .withoutTarget first reference hmem named untaken fun target hfree => ?_
              simpa using extractLast?_eq_none_iff.mp htarget target hfree
          | some found =>
              obtain ⟨target, others⟩ := found
              obtain ⟨hmeant, front, back, hfree, rfl⟩ :=
                exists_split_of_extractLast?_eq_some htarget
              exact .applied first hpending named untaken hfree (by simpa using hmeant)

/-- A property of the overrides ruled on, the latest first, and of the pool they leave holds after
a list of overrides if every ruling keeps it. -/
theorem overrideAll_induction
    {motive : List Override → Pool → Prop}
    {earlier : List Override} {pool : Pool}
    (start : motive earlier pool)
    (applied : ∀ {earlier pool entry next},
      motive earlier pool → Ruling earlier pool entry (.ok next) → motive (entry :: earlier) next)
    (refused : ∀ {earlier pool entry warning},
      motive earlier pool → Ruling earlier pool entry (.error warning) →
        motive (entry :: earlier) pool)
    (overrides : List Override) :
    motive (overrides.reverse ++ earlier) (pool.overrideAll earlier overrides).1 := by
  induction overrides generalizing earlier pool with
  | nil =>
      exact start
  | cons entry rest ih =>
      rw [List.reverse_cons, List.append_assoc, List.singleton_append]
      have ruling := ruling_overrideWith earlier pool entry
      unfold overrideAll
      cases hresult : pool.overrideWith earlier entry with
      | ok next =>
          rw [hresult] at ruling
          exact ih (applied start ruling)
      | error warning =>
          rw [hresult] at ruling
          exact ih (refused start ruling)

end Pool
end Counterpart
