import Counterpart.Proofs.Text.Cuts
import Counterpart.Validation
import Mathlib.Data.List.Induction

/-!
# Well-formed types and surfaces

A surface is accepted if it has not too many types, each of them is well formed, and no two of them
have one full name.  A surface with too many types is refused for their number.  Any other surface
is refused for the first type that is not well formed or repeats the name of a type before it: if it
is not well formed, for the first condition that it fails.

* `TypeDecl.defect?_eq_none_iff`, `TypeDecl.Fails.defect?_eq`: which types are well formed, and
  what others are refused for.
* `Surface.firstDefect?_eq_some_iff`: which type of a list is blamed.
* `surfaces_blame_first_offender`: which surfaces are accepted, and what others are refused for.
-/

namespace Counterpart
namespace TypeDecl

/-- The conditions on a type by itself. -/
structure IsWellFormed (side : Side) (decl : TypeDecl) : Prop where
  fullName : Text.isBlank decl.fullName = false
  package : decl.package = packagePart decl.fullName side
  simpleName : decl.simpleName ≠ ""
  ending : ∃ front, decl.fullName = front ++ decl.simpleName
  members :
    decl.fields.length + decl.properties.length + decl.methods.length +
        decl.constructors.length ≤
      50000

/-- The first condition that a type fails, as a defect. -/
inductive Fails (side : Side) (decl : TypeDecl) : Defect → Prop
  | fullName
      (blank : Text.isBlank decl.fullName = true) :
      Fails side decl .emptyFullName
  | package
      (fullName : Text.isBlank decl.fullName = false)
      (differs : decl.package ≠ packagePart decl.fullName side) :
      Fails side decl
        (.packageMismatch decl.fullName decl.package (packagePart decl.fullName side))
  | simpleName
      (fullName : Text.isBlank decl.fullName = false)
      (package : decl.package = packagePart decl.fullName side)
      (differs : decl.simpleName = "" ∨ ¬ ∃ front, decl.fullName = front ++ decl.simpleName) :
      Fails side decl (.simpleNameMismatch decl.fullName decl.simpleName)
  | members
      (fullName : Text.isBlank decl.fullName = false)
      (package : decl.package = packagePart decl.fullName side)
      (simpleName : decl.simpleName ≠ "")
      (ending : ∃ front, decl.fullName = front ++ decl.simpleName)
      (many :
        50000 <
          decl.fields.length + decl.properties.length + decl.methods.length +
            decl.constructors.length) :
      Fails side decl (.tooManyMembers decl.fullName)

section Conditions

variable {side : Side} {decl : TypeDecl} {defect : Defect}

theorem memberLimit_lt_iff :
    memberLimit < decl.members.length ↔
      50000 <
        decl.fields.length + decl.properties.length + decl.methods.length +
          decl.constructors.length := by
  rw [members_eq]
  simp only [List.length_append, memberLimit]

theorem misnamed_iff :
    (decide (decl.simpleName = "") ||
          (Text.beforeEnd? decl.simpleName decl.fullName).isNone) = true ↔
      decl.simpleName = "" ∨ ¬ ∃ front, decl.fullName = front ++ decl.simpleName := by
  rw [Bool.or_eq_true, decide_eq_true_eq, ← Option.not_isSome, Bool.not_eq_true',
    ← Bool.not_eq_true, Option.isSome_iff_exists]
  simp only [Text.beforeEnd?_eq_some_iff]

/-- A type is refused for the first condition that it fails. -/
theorem Fails.defect?_eq
    (h : decl.Fails side defect) :
    decl.defect? side = some defect := by
  simp only [TypeDecl.defect?]
  cases h with
  | fullName blank =>
      rw [if_pos blank]
  | package fullName differs =>
      rw [if_neg (by simp [fullName]), if_pos differs]
  | simpleName fullName package differs =>
      rw [if_neg (by simp [fullName]), if_neg (not_not.mpr package),
        if_pos (misnamed_iff.mpr differs)]
  | members fullName package simpleName ending many =>
      have hnamed := not_or.mpr ⟨simpleName, not_not.mpr ending⟩
      rw [if_neg (by simp [fullName]), if_neg (not_not.mpr package),
        if_neg (misnamed_iff.not.mpr hnamed), if_pos (memberLimit_lt_iff.mpr many)]

/-- A well-formed type is not refused. -/
theorem IsWellFormed.defect?_eq
    (h : decl.IsWellFormed side) :
    decl.defect? side = none := by
  have hnamed := not_or.mpr ⟨h.simpleName, not_not.mpr h.ending⟩
  have hfew := Nat.not_lt.mpr h.members
  simp only [TypeDecl.defect?]
  rw [if_neg (by simp [h.fullName]), if_neg (not_not.mpr h.package),
    if_neg (misnamed_iff.not.mpr hnamed), if_neg (memberLimit_lt_iff.not.mpr hfew)]

/-- A type is well formed or fails a condition first. -/
theorem isWellFormed_or_exists_fails
    (side : Side) (decl : TypeDecl) :
    decl.IsWellFormed side ∨ ∃ defect, decl.Fails side defect := by
  by_cases blank : Text.isBlank decl.fullName = true
  · exact Or.inr ⟨_, .fullName blank⟩
  rw [Bool.not_eq_true] at blank
  by_cases differs : decl.package ≠ packagePart decl.fullName side
  · exact Or.inr ⟨_, .package blank differs⟩
  have package := not_not.mp differs
  by_cases misnamed :
      decl.simpleName = "" ∨ ¬ ∃ front, decl.fullName = front ++ decl.simpleName
  · exact Or.inr ⟨_, .simpleName blank package misnamed⟩
  obtain ⟨simpleName, ending⟩ := not_or.mp misnamed
  rw [not_not] at ending
  by_cases many :
      50000 <
        decl.fields.length + decl.properties.length + decl.methods.length +
          decl.constructors.length
  · exact Or.inr ⟨_, .members blank package simpleName ending many⟩
  · exact Or.inl ⟨blank, package, simpleName, ending, Nat.not_lt.mp many⟩

theorem defect?_eq_none_iff :
    decl.defect? side = none ↔ decl.IsWellFormed side := by
  constructor
  · intro h
    rcases isWellFormed_or_exists_fails side decl with wellFormed | ⟨defect, fails⟩
    · exact wellFormed
    · rw [fails.defect?_eq] at h
      cases h
  · exact IsWellFormed.defect?_eq

end Conditions

end TypeDecl

/-- What a type is blamed for behind the types in front of it.  One that is not well formed is
blamed for that, even if its name is a repetition. -/
inductive TypeDecl.Offends (side : Side) (before : List TypeDecl) (decl : TypeDecl) : Defect → Prop
  | illFormed {defect : Defect}
      (fails : decl.Fails side defect) :
      Offends side before decl defect
  | repeated
      (wellFormed : decl.IsWellFormed side)
      (taken : ∃ earlier ∈ before, earlier.fullName = decl.fullName) :
      Offends side before decl (.duplicateType decl.fullName)

namespace Surface

/-- A list of types without an offender. -/
structure IsSound (side : Side) (types : List TypeDecl) : Prop where
  wellFormed : ∀ decl ∈ types, decl.IsWellFormed side
  distinct : (types.map TypeDecl.fullName).Nodup

/-- What a surface is refused for. -/
inductive Rejects (side : Side) (surface : Surface) : Defect → Prop
  | tooMany
      (many : 200000 < surface.types.length) :
      Rejects side surface (.tooManyTypes surface.types.length)
  | offender {before after : List TypeDecl} {decl : TypeDecl} {defect : Defect}
      (few : surface.types.length ≤ 200000)
      (split : surface.types = before ++ decl :: after)
      (sound : IsSound side before)
      (offends : decl.Offends side before defect) :
      Rejects side surface defect

section Offenders

variable {side : Side} {before : List TypeDecl} {decl : TypeDecl} {defect : Defect}

/-- The check of a list goes on behind a part without an offender, with the names of the part among
the names it has seen. -/
theorem exists_seen_of_isSound
    {seen : Std.HashSet String} (sound : IsSound side before)
    (fresh : ∀ earlier ∈ before, earlier.fullName ∉ seen) :
    ∃ seen' : Std.HashSet String,
      (∀ name, name ∈ seen' ↔ name ∈ seen ∨ ∃ earlier ∈ before, earlier.fullName = name) ∧
        ∀ rest, firstDefect? side seen (before ++ rest) = firstDefect? side seen' rest := by
  induction before generalizing seen with
  | nil =>
      exact ⟨seen, by simp, fun _ => rfl⟩
  | cons first others ih =>
      obtain ⟨hfirst, hothers⟩ := List.forall_mem_cons.mp sound.wellFormed
      obtain ⟨hnew, hdistinct⟩ := List.nodup_cons.mp sound.distinct
      obtain ⟨hunseen, hfresh⟩ := List.forall_mem_cons.mp fresh
      have hfresh' : ∀ earlier ∈ others, earlier.fullName ∉ seen.insert first.fullName := by
        intro earlier hmem
        rw [Std.HashSet.mem_insert, beq_iff_eq, not_or]
        exact ⟨fun same => hnew (same ▸ List.mem_map_of_mem hmem), hfresh earlier hmem⟩
      obtain ⟨seen', hseen', hrest⟩ := ih ⟨hothers, hdistinct⟩ hfresh'
      refine ⟨seen', fun name => ?_, fun rest => ?_⟩
      · rw [hseen', Std.HashSet.mem_insert, beq_iff_eq, List.exists_mem_cons_iff]
        exact or_right_comm.trans or_comm
      · rw [List.cons_append, firstDefect?, hfirst.defect?_eq]
        dsimp only
        rw [if_neg (by simpa using hunseen), hrest]

/-- The first offender of a list is blamed. -/
theorem firstDefect?_of_offends
    (sound : IsSound side before) (offends : decl.Offends side before defect)
    (after : List TypeDecl) :
    firstDefect? side {} (before ++ decl :: after) = some defect := by
  obtain ⟨seen, hseen, hrest⟩ :=
    exists_seen_of_isSound sound fun _ _ => Std.HashSet.not_mem_empty
  rw [hrest, firstDefect?]
  cases offends with
  | illFormed fails =>
      rw [fails.defect?_eq]
  | repeated wellFormed taken =>
      have hmem : seen.contains decl.fullName = true := (hseen _).mpr (Or.inr taken)
      rw [wellFormed.defect?_eq]
      dsimp only
      rw [if_pos hmem]

/-- A list has no offender or a first one. -/
theorem isSound_or_exists_offends
    (side : Side) (types : List TypeDecl) :
    IsSound side types ∨
      ∃ before decl after defect,
        types = before ++ decl :: after ∧ IsSound side before ∧
          decl.Offends side before defect := by
  induction types using List.reverseRecOn with
  | nil =>
      exact Or.inl ⟨by simp, by simp⟩
  | append_singleton front last ih =>
      rcases ih with sound | ⟨before, decl, after, defect, rfl, sound, offends⟩
      · rcases last.isWellFormed_or_exists_fails side with wellFormed | ⟨defect, fails⟩
        · by_cases taken : ∃ earlier ∈ front, earlier.fullName = last.fullName
          · exact Or.inr ⟨front, last, [], _, rfl, sound, .repeated wellFormed taken⟩
          · left
            constructor
            · rw [List.forall_mem_append, List.forall_mem_singleton]
              exact ⟨sound.wellFormed, wellFormed⟩
            · rw [List.map_append, List.map_singleton, List.nodup_append_comm]
              refine List.nodup_cons.mpr ⟨?_, sound.distinct⟩
              simpa using taken
        · exact Or.inr ⟨front, last, [], defect, rfl, sound, .illFormed fails⟩
      · right
        exact ⟨before, decl, after ++ [last], defect, by simp, sound, offends⟩

theorem Rejects.defect?_eq
    {surface : Surface} (h : surface.Rejects side defect) :
    surface.defect? side = some defect := by
  cases h with
  | tooMany many =>
      exact if_pos many
  | offender few split sound offends =>
      have hlimit : ¬ typeLimit < surface.types.length := Nat.not_lt.mpr few
      rw [Surface.defect?, if_neg hlimit, split]
      exact firstDefect?_of_offends sound offends _

end Offenders

theorem defect?_eq_none_iff_isSound
    {side : Side} {surface : Surface} :
    surface.defect? side = none ↔
      surface.types.length ≤ 200000 ∧ IsSound side surface.types := by
  simp only [defect?_eq_none_iff, TypeDecl.defect?_eq_none_iff]
  exact ⟨fun ⟨few, wellFormed, distinct⟩ => ⟨few, wellFormed, distinct⟩,
    fun ⟨few, sound⟩ => ⟨few, sound.wellFormed, sound.distinct⟩⟩

theorem exists_rejects_of_defect?_ne_none
    {side : Side} {surface : Surface} (h : surface.defect? side ≠ none) :
    ∃ defect, surface.Rejects side defect := by
  by_cases few : surface.types.length ≤ 200000
  · rcases isSound_or_exists_offends side surface.types with
      sound | ⟨before, decl, after, defect, split, sound, offends⟩
    · exact absurd (defect?_eq_none_iff_isSound.mpr ⟨few, sound⟩) h
    · exact ⟨defect, .offender few split sound offends⟩
  · exact ⟨_, .tooMany (Nat.not_le.mp few)⟩

end Surface

/-- A surface is accepted exactly if it has at most 200000 types, all of them well formed and of
distinct full names.  Otherwise it is refused for the number of its types if these are too many, and
else for its first offender: a type that is not well formed, for the first condition that it fails,
or one that repeats the full name of a type before it. -/
theorem surfaces_blame_first_offender
    (side : Side) (surface : Surface) :
    (surface.defect? side = none ↔
        surface.types.length ≤ 200000 ∧ Surface.IsSound side surface.types) ∧
      ∀ defect, surface.defect? side = some defect ↔ surface.Rejects side defect := by
  refine ⟨Surface.defect?_eq_none_iff_isSound, fun defect => ⟨fun found => ?_, ?_⟩⟩
  · have hrefused : surface.defect? side ≠ none := by
      rw [found]
      exact Option.some_ne_none defect
    obtain ⟨other, rejects⟩ := Surface.exists_rejects_of_defect?_ne_none hrefused
    rw [rejects.defect?_eq, Option.some.injEq] at found
    exact found ▸ rejects
  · exact Surface.Rejects.defect?_eq

end Counterpart
