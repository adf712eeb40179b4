import Counterpart.Proofs.Matching.Turn
import Mathlib.Data.List.FinRange
import Mathlib.Logic.Function.Basic

/-!
# Matching with marks at positions

A pool shrinks as types are paired.  The same run can be made over two lists that stay whole, with
marks that say which positions are resolved, which are taken and by whom, and which have candidates:
an override looks both of its types up in the whole lists, and a step passes over the positions
that are marked.  What is not marked is the pool.

Here are the marks, and what overrides make of them.  A pool no longer holds the types that are
paired: an override finds the target type it names in a pair or among what is left.  With marks it
finds the position first and sees whether it is taken.  Both rule alike, since a target type that an
override took is the last one of its name.

* `Marks.Overridden.lookup_reference`, `lookup_pairs`, `lookup_target`: the look-ups of an override
  in a pool are those in the whole lists.
* `Marks.Overridden.pool_overrideWith`: an override is ruled on alike.
* `Marks.Overridden.pool_overrideAll`: a list of overrides leaves the same pool, with the same
  warnings.
-/

namespace Counterpart

/-- The marks of a run over two lists of types. -/
structure Marks (reference target : List TypeDecl) where
  /-- Whether a reference type is paired or was found ambiguous. -/
  resolved : Fin reference.length → Bool := fun _ => false
  /-- The reference type that took a target type. -/
  owner : Fin target.length → Option (Fin reference.length) := fun _ => none
  /-- The candidates of a reference type that was found ambiguous. -/
  ambiguous : Fin reference.length → Option (List (Fin target.length)) := fun _ => none
  pairs : List Pairing := []

namespace Marks

variable {reference target : List TypeDecl}

/-- The last position of a full name. -/
def index? (types : List TypeDecl) (name : String) : Option (Fin types.length) :=
  (List.finRange types.length).findRev? fun i => (types.get i).fullName == name

/-- The marks after two types are paired. -/
def pair
    (marks : Marks reference target) (r : Fin reference.length) (t : Fin target.length)
    (reason : Reason) :
    Marks reference target :=
  { marks with
    resolved := Function.update marks.resolved r true
    owner := Function.update marks.owner t (some r)
    pairs := marks.pairs ++ [⟨reference.get r, target.get t, reason⟩] }

/-- The marks after a reference type was found ambiguous. -/
def tear
    (marks : Marks reference target) (r : Fin reference.length)
    (candidates : List (Fin target.length)) :
    Marks reference target :=
  { marks with
    resolved := Function.update marks.resolved r true
    ambiguous := Function.update marks.ambiguous r (some candidates) }

/-- The marks after one override, given the reference names seen before; a warning if it does not
apply. -/
def overrideWith
    (seen : List String) (marks : Marks reference target) (entry : Override) :
    Except Warning (Marks reference target) :=
  if seen.contains entry.reference then .error (.duplicateOverride entry.reference)
  else
    match index? reference entry.reference with
    | none => .error (.referenceNotFound entry.reference)
    | some r =>
      match index? target entry.target with
      | none => .error (.targetNotFound entry.reference entry.target)
      | some t =>
        match marks.owner t with
        | some owner =>
          .error (.targetTaken entry.reference entry.target (reference.get owner).fullName)
        | none => .ok (marks.pair r t .override)

/-- The marks after a list of overrides, with the warnings in their order. -/
def overrideAll
    (seen : List String) (marks : Marks reference target) :
    List Override → Marks reference target × List Warning
  | [] => (marks, [])
  | entry :: rest =>
    match marks.overrideWith seen entry with
    | .ok next => next.overrideAll (entry.reference :: seen) rest
    | .error warning =>
      let (last, warnings) := marks.overrideAll (entry.reference :: seen) rest
      (last, warning :: warnings)

/-- The positions of the target types that no pair holds. -/
def untaken (marks : Marks reference target) : List (Fin target.length) :=
  (List.finRange target.length).filter fun t => (marks.owner t).isNone

section Steps

variable (accepts : TypeDecl → TypeDecl → Option Reason)

/-- The untaken positions that a reference type accepts, with the reasons. -/
def candidates
    (marks : Marks reference target) (decl : TypeDecl) : List (Fin target.length × Reason) :=
  marks.untaken.filterMap fun t => (accepts decl (target.get t)).map fun reason => (t, reason)

/-- The marks after one reference type was visited. -/
def visit
    (marks : Marks reference target) (r : Fin reference.length) : Marks reference target :=
  if marks.resolved r then marks
  else
    match marks.candidates accepts (reference.get r) with
    | [] => marks
    | [(t, reason)] => marks.pair r t reason
    | several => marks.tear r (several.map Prod.fst)

/-- The marks after one step of matching. -/
def advance (marks : Marks reference target) : Marks reference target :=
  (List.finRange reference.length).foldl (visit accepts) marks

end Steps

/-- Whether a reference type is left over so far. -/
def isPending (marks : Marks reference target) (r : Fin reference.length) : Bool :=
  !marks.resolved r || (marks.ambiguous r).isSome

/-- The candidates of a reference type, none unless it was found ambiguous. -/
def candidatesOf
    (marks : Marks reference target) (r : Fin reference.length) : List (Fin target.length) :=
  (marks.ambiguous r).getD []

/-- The positions of the reference types left over. -/
def leftOver (marks : Marks reference target) : List (Fin reference.length) :=
  (List.finRange reference.length).filter marks.isPending

/-- The reference types left over, with the names of their candidates. -/
def unmatchedReference (marks : Marks reference target) : List Unmatched :=
  marks.leftOver.map fun r =>
    ⟨reference.get r, (marks.candidatesOf r).map fun t => (target.get t).fullName⟩

/-- The target types left over, with the names of the types that found them ambiguous. -/
def unmatchedTarget (marks : Marks reference target) : List Unmatched :=
  marks.untaken.map fun t =>
    ⟨target.get t,
      ((List.finRange reference.length).filter fun r => (marks.candidatesOf r).contains t).map
        fun r => (reference.get r).fullName⟩

end Marks

namespace Scope

/-- The marks after the overrides of a scope, over its types in the order of their full names. -/
def marked (scope : Scope) :
    Marks (Pool.ofTypes.sortByName scope.reference) (Pool.ofTypes.sortByName scope.target) ×
      List Warning :=
  Marks.overrideAll [] {} scope.settings.overrides

/-- The types of a scope matched against each other by marks. -/
def markedMatching (scope : Scope) : Matching :=
  let settled := (scope.marked.1.advance declaredReason).advance scope.namedReason
  { matched := settled.pairs
    unmatchedReference := settled.unmatchedReference
    unmatchedTarget := settled.unmatchedTarget
    warnings := scope.marked.2 }

end Scope

/-! ## The last one of a list -/

section Last

variable {ι α : Type} [DecidableEq ι] {f : ι → α} {test : α → Bool} {positions : List ι}

/-- The last position that passes a test gives the last element that does. -/
theorem extractLast?_map
    (nodup : positions.Nodup) :
    extractLast? test (positions.map f) =
      (positions.findRev? fun i => test (f i)).map fun i =>
        (f i, (positions.filter fun j => !decide (j = i)).map f) := by
  induction positions with
  | nil =>
      rfl
  | cons first rest ih =>
      obtain ⟨hfirst, hrest⟩ := List.nodup_cons.mp nodup
      rw [List.map_cons, extractLast?, ih hrest, List.findRev?]
      cases hlast : rest.findRev? fun i => test (f i) with
      | some last =>
          have hmem : last ∈ rest := by
            rw [List.findRev?_eq_find?_reverse] at hlast
            exact List.mem_reverse.mp (List.mem_of_find?_eq_some hlast)
          have hne : first ≠ last := (ne_of_mem_of_not_mem hmem hfirst).symm
          simp [hne]
      | none =>
          have hothers : rest.filter (fun j => !decide (j = first)) = rest :=
            List.filter_eq_self.mpr fun j hj => by simpa using ne_of_mem_of_not_mem hj hfirst
          by_cases htest : test (f first) = true
          · simp [htest, hothers]
          · simp [htest]

omit [DecidableEq ι] in
/-- Leaving out positions that fail a test does not change the last one that passes it. -/
theorem findRev?_filter
    {keep test : ι → Bool} (h : ∀ i, test i = true → keep i = true) :
    (positions.filter keep).findRev? test = positions.findRev? test := by
  have hsame : (fun i => decide (keep i = true ∧ test i = true)) = test := by
    funext i
    cases htest : test i with
    | true =>
        simp [h i htest]
    | false =>
        simp
  rw [List.findRev?_eq_find?_reverse, List.findRev?_eq_find?_reverse, ← List.filter_reverse,
    List.find?_filter, hsame]

end Last

namespace Marks

variable {reference target : List TypeDecl}

/-- What is left over of a reference type. -/
def entryAt (marks : Marks reference target) (r : Fin reference.length) : Pending :=
  ⟨reference.get r, (marks.candidatesOf r).map target.get⟩

/-- What is left over of some reference types. -/
def pendingOf
    (marks : Marks reference target) (positions : List (Fin reference.length)) : List Pending :=
  (positions.filter marks.isPending).map marks.entryAt

/-- The target types that no pair holds. -/
def free (marks : Marks reference target) : List TypeDecl :=
  marks.untaken.map target.get

/-- The pool of what is not marked. -/
def pool (marks : Marks reference target) : Pool :=
  ⟨marks.pendingOf (List.finRange reference.length), marks.free, marks.pairs⟩

/-- Without marks, everything is in the pool. -/
theorem pool_unmarked :
    ({} : Marks reference target).pool = ⟨reference.map fun decl => ⟨decl, []⟩, target, []⟩ := by
  have hpending :
      ({} : Marks reference target).pendingOf (List.finRange reference.length) =
        reference.map fun decl => ⟨decl, []⟩ := by
    have hall :
        (List.finRange reference.length).filter ({} : Marks reference target).isPending =
          List.finRange reference.length :=
      List.filter_eq_self.mpr fun _ _ => rfl
    conv_rhs => rw [← List.map_get_finRange reference, List.map_map]
    rw [pendingOf, hall]
    rfl
  have hfree : ({} : Marks reference target).free = target := by
    simp [free, untaken]
  rw [pool, hpending, hfree]

section Pair

variable {marks : Marks reference target} {r : Fin reference.length} {t : Fin target.length}
  {reason : Reason}

/-- Of the positions left over, pairing takes out one. -/
theorem leftOver_pair
    (fresh : marks.ambiguous r = none) :
    (marks.pair r t reason).leftOver = marks.leftOver.filter fun i => !decide (i = r) := by
  rw [leftOver, leftOver, List.filter_filter]
  refine List.filter_congr fun i _ => ?_
  by_cases hi : i = r
  · subst hi
    simp [isPending, pair, fresh]
  · simp [isPending, pair, hi]

theorem untaken_pair :
    (marks.pair r t reason).untaken = marks.untaken.filter fun i => !decide (i = t) := by
  rw [untaken, untaken, List.filter_filter]
  refine List.filter_congr fun i _ => ?_
  by_cases hi : i = t
  · subst hi
    simp [pair]
  · simp [pair, hi]

theorem pool_pair
    (fresh : marks.ambiguous r = none) :
    (marks.pair r t reason).pool =
      ⟨(marks.leftOver.filter fun i => !decide (i = r)).map marks.entryAt,
        (marks.untaken.filter fun i => !decide (i = t)).map target.get,
        marks.pairs ++ [⟨reference.get r, target.get t, reason⟩]⟩ := by
  rw [pool, pendingOf, ← leftOver, leftOver_pair fresh, free, untaken_pair]
  rfl

end Pair

section Overrides

/-- The look-up of a name among some of the positions of a list. -/
theorem extractLast?_filter
    {α : Type} {types : List TypeDecl} (f : Fin types.length → α) {test : α → Bool}
    (keep : Fin types.length → Bool) {name : String}
    (named : ∀ i, test (f i) = ((types.get i).fullName == name))
    (kept : ∀ i, (types.get i).fullName = name → keep i = true) :
    extractLast? test (((List.finRange types.length).filter keep).map f) =
      (index? types name).map fun i =>
        (f i,
          (((List.finRange types.length).filter keep).filter fun j => !decide (j = i)).map f) := by
  rw [extractLast?_map ((List.nodup_finRange _).filter keep)]
  simp only [named]
  rw [findRev?_filter fun i hi => kept i (by simpa using hi)]
  rfl

theorem fullName_of_index?_eq_some
    {types : List TypeDecl} {name : String} {i : Fin types.length}
    (h : index? types name = some i) :
    (types.get i).fullName = name := by
  rw [index?, List.findRev?_eq_find?_reverse] at h
  simpa using List.find?_some h

/-- The marks after overrides that name some reference types: no other one is resolved, none is
ambiguous, and the target types taken are those of the pairs, each the last one of its name. -/
structure Overridden (seen : List String) (marks : Marks reference target) : Prop where
  fresh : ∀ r, marks.ambiguous r = none
  unseen : ∀ r, (reference.get r).fullName ∉ seen → marks.resolved r = false
  taken :
    ∀ t r, marks.owner t = some r →
      index? target (target.get t).fullName = some t ∧
        ⟨reference.get r, target.get t, .override⟩ ∈ marks.pairs
  paired :
    ∀ pairing ∈ marks.pairs, ∃ t r,
      marks.owner t = some r ∧ pairing = ⟨reference.get r, target.get t, .override⟩

variable {seen : List String} {marks : Marks reference target}

theorem overridden_unmarked :
    Overridden [] ({} : Marks reference target) where
  fresh _ := rfl
  unseen _ _ := rfl
  taken t r h := by simp at h
  paired pairing h := by simp at h

/-- A name that was not seen is looked up among the types left over as in the whole list. -/
theorem Overridden.lookup_reference
    (h : marks.Overridden seen) {name : String} (unseen : name ∉ seen) :
    extractLast? (fun other => other.decl.fullName == name) marks.pool.pending =
      (index? reference name).map fun r =>
        (marks.entryAt r, (marks.leftOver.filter fun i => !decide (i = r)).map marks.entryAt) :=
  extractLast?_filter marks.entryAt marks.isPending (fun _ => rfl) fun i hi => by
    simp [isPending, h.unseen i (hi ▸ unseen)]

/-- A pair that holds a target type of a name holds the last one of the whole list. -/
theorem Overridden.lookup_pairs
    (h : marks.Overridden seen) (name : String) :
    marks.pool.pairs.find? (fun other => other.target.fullName == name) =
      (index? target name).bind fun t =>
        (marks.owner t).map fun r => ⟨reference.get r, target.get t, .override⟩ := by
  cases hfind : marks.pool.pairs.find? fun other => other.target.fullName == name with
  | some pairing =>
      obtain ⟨t, r, howner, rfl⟩ := h.paired pairing (List.mem_of_find?_eq_some hfind)
      have hname : (target.get t).fullName = name := by
        simpa using List.find?_some hfind
      rw [← hname, (h.taken t r howner).1, Option.bind_some, howner, Option.map_some]
  | none =>
      symm
      rw [Option.bind_eq_none_iff]
      intro t found
      rw [Option.map_eq_none_iff, Option.eq_none_iff_forall_ne_some]
      intro r howner
      have hname := fullName_of_index?_eq_some found
      exact absurd (by simpa using hname) (List.find?_eq_none.mp hfind _ (h.taken t r howner).2)

/-- A name that no pair holds is looked up among the free types as in the whole list. -/
theorem Overridden.lookup_target
    (h : marks.Overridden seen) {name : String}
    (untaken : marks.pool.pairs.find? (fun other => other.target.fullName == name) = none) :
    extractLast? (fun other => other.fullName == name) marks.pool.free =
      (index? target name).map fun t =>
        (target.get t, (marks.untaken.filter fun i => !decide (i = t)).map target.get) := by
  refine extractLast?_filter target.get (fun i => (marks.owner i).isNone) (fun _ => rfl)
    fun i hi => ?_
  rw [Option.isNone_iff_eq_none, Option.eq_none_iff_forall_ne_some]
  intro r howner
  exact absurd (by simpa using hi) (List.find?_eq_none.mp untaken _ (h.taken i r howner).2)

/-- An override is ruled on alike over the marks and over the pool, whatever the names are. -/
theorem Overridden.pool_overrideWith
    (h : marks.Overridden seen) {earlier : List Override}
    (same : seen = earlier.map Override.reference) (entry : Override) :
    (marks.overrideWith seen entry).map pool = marks.pool.overrideWith earlier entry := by
  have hseen :
      seen.contains entry.reference =
        earlier.any fun other => other.reference == entry.reference := by
    rw [same, List.contains_eq_any_beq, List.any_map]
    exact congrArg earlier.any (funext fun _ => Bool.beq_comm)
  rw [overrideWith, Pool.overrideWith, hseen]
  by_cases hrepeated : (earlier.any fun other => other.reference == entry.reference) = true
  · rw [if_pos hrepeated, if_pos hrepeated]
    rfl
  have unseen : entry.reference ∉ seen := by
    rw [← hseen] at hrepeated
    simpa using hrepeated
  have hpairs := h.lookup_pairs entry.target
  rw [if_neg hrepeated, if_neg hrepeated, h.lookup_reference unseen]
  cases hreference : index? reference entry.reference with
  | none =>
      rfl
  | some r =>
      cases htarget : index? target entry.target with
      | none =>
          rw [htarget, Option.bind_none] at hpairs
          simp only [Option.map_some, hpairs, h.lookup_target hpairs, htarget]
          rfl
      | some t =>
          rw [htarget, Option.bind_some] at hpairs
          cases howner : marks.owner t with
          | some owner =>
              rw [howner, Option.map_some] at hpairs
              simp only [Option.map_some, hpairs, howner]
              rfl
          | none =>
              rw [howner, Option.map_none] at hpairs
              simp only [Option.map_some, hpairs, h.lookup_target hpairs, htarget, howner]
              exact congrArg Except.ok (pool_pair (h.fresh r))

theorem Overridden.mono
    (h : marks.Overridden seen) (name : String) :
    marks.Overridden (name :: seen) :=
  { h with unseen := fun r hr => h.unseen r fun hseen => hr (List.mem_cons_of_mem _ hseen) }

/-- Pairing two types found by their names keeps the invariant. -/
theorem Overridden.pair
    (h : marks.Overridden seen) {r : Fin reference.length} {t : Fin target.length} {name : String}
    (seen_reference : (reference.get r).fullName ∈ seen) (found : index? target name = some t)
    (untaken : marks.owner t = none) :
    (marks.pair r t .override).Overridden seen where
  fresh := h.fresh
  unseen i hi := by
    have hne : i ≠ r := by
      rintro rfl
      exact hi seen_reference
    simpa [Marks.pair, hne] using h.unseen i hi
  taken i owner howner := by
    by_cases hi : i = t
    · subst hi
      obtain rfl : r = owner := by simpa [Marks.pair] using howner
      rw [fullName_of_index?_eq_some found]
      exact ⟨found, by simp [Marks.pair]⟩
    · have hbefore : marks.owner i = some owner := by simpa [Marks.pair, hi] using howner
      obtain ⟨hfound, hmem⟩ := h.taken i owner hbefore
      exact ⟨hfound, List.mem_append_left _ hmem⟩
  paired pairing hpairing := by
    rcases List.mem_append.mp hpairing with hbefore | hlast
    · obtain ⟨i, owner, howner, rfl⟩ := h.paired pairing hbefore
      have hi : i ≠ t := by
        rintro rfl
        rw [untaken] at howner
        cases howner
      exact ⟨i, owner, by simpa [Marks.pair, hi] using howner, rfl⟩
    · exact ⟨t, r, by simp [Marks.pair], List.mem_singleton.mp hlast⟩

theorem Overridden.overrideWith
    (h : marks.Overridden seen) {entry : Override} {next : Marks reference target}
    (hnext : marks.overrideWith seen entry = .ok next) :
    next.Overridden (entry.reference :: seen) := by
  unfold Marks.overrideWith at hnext
  split at hnext
  · cases hnext
  split at hnext
  · cases hnext
  next r hreference =>
    split at hnext
    · cases hnext
    next t htarget =>
      split at hnext
      · cases hnext
      next untaken =>
        obtain rfl := Except.ok.inj hnext
        have hname := fullName_of_index?_eq_some hreference
        exact (h.mono entry.reference).pair (hname ▸ List.mem_cons_self ..) htarget untaken

/-- A list of overrides leaves the same pool and gives the same warnings over the marks. -/
theorem Overridden.pool_overrideAll
    (h : marks.Overridden seen) {earlier : List Override}
    (same : seen = earlier.map Override.reference) (overrides : List Override) :
    ((marks.overrideAll seen overrides).1.pool, (marks.overrideAll seen overrides).2) =
        marks.pool.overrideAll earlier overrides ∧
      ∃ names, (marks.overrideAll seen overrides).1.Overridden names := by
  induction overrides generalizing seen marks earlier with
  | nil =>
      exact ⟨rfl, seen, h⟩
  | cons entry rest ih =>
      have hsame : entry.reference :: seen = (entry :: earlier).map Override.reference := by
        rw [List.map_cons, same]
      have hstep := h.pool_overrideWith same entry
      rw [overrideAll, Pool.overrideAll, ← hstep]
      cases hresult : marks.overrideWith seen entry with
      | ok next =>
          exact ih (h.overrideWith hresult) hsame
      | error warning =>
          obtain ⟨hrest, hinv⟩ := ih (h.mono entry.reference) hsame
          refine ⟨?_, hinv⟩
          dsimp only [Except.map]
          rw [← hrest]

end Overrides

end Marks

end Counterpart
