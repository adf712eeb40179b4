import Counterpart.Matching.Basic

/-!
# The pool of types still to be paired

A pool holds the reference types without a pair, the target types without a pair and the
pairs made so far.  An override takes one type from either side.  A step of matching visits
the reference types in order: one that accepts a single free target is paired with it, one
that accepts several keeps them as candidates and is not visited by later steps.  The same run
with marks at the positions of lists that stay whole is `Scope.markedMatching`.
-/

namespace Counterpart

/-- A reference type without a pair; it has candidates once it was found ambiguous. -/
structure Pending where
  decl : TypeDecl
  candidates : List TypeDecl := []
  deriving DecidableEq

def Pending.isAmbiguous (entry : Pending) : Bool :=
  !entry.candidates.isEmpty

/-- The types still to be paired and the pairs made. -/
structure Pool where
  pending : List Pending
  free : List TypeDecl
  pairs : List Pairing := []
  deriving DecidableEq

/-- The last element of a list that satisfies a test, and the list without it. -/
def extractLast?
    {α : Type} (test : α → Bool) :
    List α → Option (α × List α)
  | [] => none
  | a :: rest =>
    match extractLast? test rest with
    | some (found, others) => some (found, a :: others)
    | none => if test a then some (a, rest) else none

theorem extractLast?_eq_none_iff
    {α : Type} {test : α → Bool} {l : List α} :
    extractLast? test l = none ↔ ∀ a ∈ l, test a = false := by
  induction l with
  | nil =>
      simp [extractLast?]
  | cons a rest ih =>
      unfold extractLast?
      cases h : extractLast? test rest with
      | some found =>
          have : ¬ ∀ b ∈ rest, test b = false := fun all => by simp [ih.2 all] at h
          simp only [reduceCtorEq, List.mem_cons, forall_eq_or_imp, false_iff]
          exact fun both => this both.2
      | none =>
          have all := ih.1 h
          by_cases ha : test a = true
          · simp [ha]
          · simpa [ha] using all

theorem exists_split_of_extractLast?_eq_some
    {α : Type} {test : α → Bool} {l others : List α} {found : α}
    (h : extractLast? test l = some (found, others)) :
    test found = true ∧
      ∃ before after, l = before ++ found :: after ∧ others = before ++ after := by
  induction l generalizing found others with
  | nil =>
      simp [extractLast?] at h
  | cons a rest ih =>
      unfold extractLast? at h
      cases hr : extractLast? test rest with
      | some pair =>
          obtain ⟨x, xs⟩ := pair
          simp only [hr, Option.some.injEq, Prod.mk.injEq] at h
          obtain ⟨rfl, rfl⟩ := h
          obtain ⟨hx, before, after, rfl, rfl⟩ := ih hr
          exact ⟨hx, a :: before, after, rfl, rfl⟩
      | none =>
          simp only [hr, Option.ite_none_right_eq_some, Option.some.injEq, Prod.mk.injEq] at h
          obtain ⟨ha, rfl, rfl⟩ := h
          exact ⟨ha, [], rest, rfl, rfl⟩

namespace Pool

section Steps

variable (accepts : TypeDecl → TypeDecl → Option Reason)

/-- The pool with one more pending type in front. -/
def hold (entry : Pending) (pool : Pool) : Pool :=
  { pool with pending := entry :: pool.pending }

/-- The pool with one more pair in front. -/
def pair (pairing : Pairing) (pool : Pool) : Pool :=
  { pool with pairs := pairing :: pool.pairs }

/-- The free targets that a reference type accepts, with the reasons. -/
def candidates (reference : TypeDecl) (free : List TypeDecl) : List (TypeDecl × Reason) :=
  free.filterMap fun target => (accepts reference target).map fun reason => (target, reason)

/-- One step of matching over pending types, in their order. -/
def settle : List Pending → List TypeDecl → Pool
  | [], free => ⟨[], free, []⟩
  | entry :: rest, free =>
    if entry.isAmbiguous then (settle rest free).hold entry
    else
      match candidates accepts entry.decl free with
      | [] => (settle rest free).hold entry
      | [(target, reason)] =>
        (settle rest (free.filter fun other => (accepts entry.decl other).isNone)).pair
          ⟨entry.decl, target, reason⟩
      | several => (settle rest free).hold ⟨entry.decl, several.map Prod.fst⟩

/-- The pool after one step of matching. -/
def advance (pool : Pool) : Pool :=
  let settled := settle accepts pool.pending pool.free
  { settled with pairs := pool.pairs ++ settled.pairs }

end Steps

/-- The pool after one override, given the overrides listed before it; a warning if it does
not apply. -/
def overrideWith
    (earlier : List Override) (pool : Pool) (entry : Override) :
    Except Warning Pool :=
  if earlier.any (fun other => other.reference == entry.reference) then
    .error (.duplicateOverride entry.reference)
  else
    match extractLast? (fun other => other.decl.fullName == entry.reference) pool.pending with
    | none => .error (.referenceNotFound entry.reference)
    | some (reference, pending) =>
      match pool.pairs.find? (fun other => other.target.fullName == entry.target) with
      | some owner =>
        .error (.targetTaken entry.reference entry.target owner.reference.fullName)
      | none =>
        match extractLast? (fun other => other.fullName == entry.target) pool.free with
        | none => .error (.targetNotFound entry.reference entry.target)
        | some (target, free) =>
          .ok ⟨pending, free, pool.pairs ++ [⟨reference.decl, target, .override⟩]⟩

/-- The pool after a list of overrides, with the warnings in their order. -/
def overrideAll
    (earlier : List Override) (pool : Pool) :
    List Override → Pool × List Warning
  | [] => (pool, [])
  | entry :: rest =>
    match pool.overrideWith earlier entry with
    | .ok next => next.overrideAll (entry :: earlier) rest
    | .error warning =>
      let (last, warnings) := pool.overrideAll (entry :: earlier) rest
      (last, warning :: warnings)

/-- The pool before matching: both lists in the order of full names. -/
def ofTypes (reference target : List TypeDecl) : Pool :=
  { pending := (sortByName reference).map fun decl => ⟨decl, []⟩
    free := sortByName target }
where
  /-- Types in the order of their full names, equal names in their given order. -/
  sortByName (types : List TypeDecl) : List TypeDecl :=
    types.mergeSort (fun a b => (compare a.fullName b.fullName).isLE)

/-- The pending types as left over, with the names of their candidates. -/
def unmatchedReference (pool : Pool) : List Unmatched :=
  pool.pending.map fun entry => ⟨entry.decl, entry.candidates.map TypeDecl.fullName⟩

/-- The free types as left over, with the names of the types that found them ambiguous. -/
def unmatchedTarget (pool : Pool) : List Unmatched :=
  pool.free.map fun target =>
    ⟨target, (pool.pending.filter (fun entry => entry.candidates.contains target)).map
      fun entry => entry.decl.fullName⟩

end Pool

end Counterpart
