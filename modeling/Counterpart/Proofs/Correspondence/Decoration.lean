import Counterpart.Proofs.Correspondence.Nested

/-!
# Generic arity and the case of namespaces

A target type may give the arity of its own and of every enclosing level behind a mark, and it may
write its namespace in capitals or not.  No naming rule sees either: the package and the nesting
path are found at the same place of the full name, the arity is erased level by level, and
namespaces are compared up to the case of ASCII letters.

* `Naming.Decorates`: a level of a name, with or without its arity.
* `Naming.Path.ofText_of_decorates`: the path of decorated levels is that of the levels.
* `Naming.Respells`: a full name with other arities, and its namespace in other case.
* `arity_and_case_are_ignored`: a respelled target type meets the same reference types.
-/

namespace Counterpart

namespace Text

/-- No letter has the separator of the target side as its lower case. -/
theorem eq_separator_of_toLower_eq
    {c : Char} (h : c.toLower = Side.target.separator) :
    c = Side.target.separator := by
  unfold Char.toLower at h
  split at h
  case isTrue hupper =>
    -- The codes of capitals are moved to those of small letters, where the separator is not.
    obtain ⟨hfirst, hlast⟩ := hupper
    have hcode := congrArg (fun d : Char => d.val.toNat) h
    rw [ge_iff_le, UInt32.le_iff_toNat_le] at hfirst
    rw [UInt32.le_iff_toNat_le] at hlast
    simp only [UInt32.toNat_add] at hcode
    have hA : 'A'.val.toNat = 65 := rfl
    have hZ : 'Z'.val.toNat = 90 := rfl
    have hshift : ('a'.val - 'A'.val).toNat = 32 := rfl
    have hseparator : Side.target.separator.val.toNat = 43 := rfl
    omega
  case isFalse =>
    exact h

theorem map_toLower_eq_of_sameIgnoringCase
    {text other : String} (same : sameIgnoringCase other text = true) :
    other.toList.map Char.toLower = text.toList.map Char.toLower := by
  simpa [sameIgnoringCase] using same

/-- Texts that agree up to case have the separator of the target side alike. -/
theorem lacks_of_sameIgnoringCase
    {text other : String} (same : sameIgnoringCase other text = true)
    (h : Lacks Side.target.separator text) :
    Lacks Side.target.separator other := by
  intro hmem
  have hlower : Side.target.separator ∈ text.toList.map Char.toLower := by
    rw [← map_toLower_eq_of_sameIgnoringCase same]
    exact List.mem_map.mpr ⟨_, hmem, rfl⟩
  obtain ⟨c, hc, hseparator⟩ := List.mem_map.mp hlower
  rw [eq_separator_of_toLower_eq hseparator] at hc
  exact h hc

/-- The case of the second text does not count. -/
theorem sameIgnoringCase_congr_right
    {right other : String} (same : sameIgnoringCase other right = true) (left : String) :
    sameIgnoringCase left other = sameIgnoringCase left right := by
  rw [sameIgnoringCase, map_toLower_eq_of_sameIgnoringCase same, sameIgnoringCase]

end Text

namespace Naming

/-- A level of a target name as it is without arity. -/
structure IsTargetLevel (level : String) : Prop where
  nonempty : level ≠ ""
  undotted : '.' ∉ level.toList
  unnested : Side.target.separator ∉ level.toList
  unmarked : arityMark ∉ level.toList

/-- A level as it is, or with a number behind the arity mark. -/
inductive Decorates (level : String) : String → Prop
  | plain : Decorates level level
  | generic {digits : String} (number : ∀ d ∈ digits.toList, d.isDigit = true) :
      Decorates level (level ++ String.singleton arityMark ++ digits)

namespace Decorates

variable {level decorated : String} (h : Decorates level decorated)
include h

theorem eraseArity_eq
    (unmarked : arityMark ∉ level.toList) :
    eraseArity decorated = level := by
  cases h with
  | plain =>
      exact Text.before_of_not_mem unmarked
  | generic number =>
      rw [eraseArity, Text.before_append_singleton, Text.before_of_not_mem unmarked]

/-- The arity has no character but digits behind the mark. -/
theorem lacks
    {c : Char} (unmarked : c ≠ arityMark) (undigit : c.isDigit = false)
    (hlevel : Text.Lacks c level) :
    Text.Lacks c decorated := by
  cases h with
  | plain =>
      exact hlevel
  | generic number =>
      rw [Text.lacks_append, Text.lacks_append]
      refine ⟨⟨hlevel, ?_⟩, fun hmem => ?_⟩
      · simpa [Text.Lacks] using unmarked
      · rw [number c hmem] at undigit
        exact Bool.noConfusion undigit

end Decorates

/-- Levels may be left as they are. -/
theorem forall₂_decorates_self
    (levels : List String) :
    List.Forall₂ Decorates levels levels :=
  List.forall₂_same.mpr fun _ _ => .plain

section Levels

variable {levels decorated : List String}
  (plain : ∀ level ∈ levels, IsTargetLevel level)
  (arities : List.Forall₂ Decorates levels decorated)
include plain arities

/-- The arities are erased level by level. -/
theorem map_eraseArity_of_decorates :
    decorated.map eraseArity = levels := by
  induction arities with
  | nil =>
      rfl
  | cons hlevel _ ih =>
      obtain ⟨hplain, hrest⟩ := List.forall_mem_cons.mp plain
      rw [List.map_cons, hlevel.eraseArity_eq hplain.unmarked, ih hrest]

/-- With their arities the levels still have neither dots nor separators. -/
theorem lacks_of_mem_decorated :
    ∀ level ∈ decorated, Text.Lacks '.' level ∧ Text.Lacks Side.target.separator level := by
  induction arities with
  | nil =>
      simp
  | cons hlevel _ ih =>
      obtain ⟨hplain, hrest⟩ := List.forall_mem_cons.mp plain
      rw [List.forall_mem_cons]
      exact ⟨⟨hlevel.lacks (by decide) (by decide) hplain.undotted,
        hlevel.lacks (by decide) (by decide) hplain.unnested⟩, ih hrest⟩

theorem Path.levels_of_decorates
    (nonempty : levels ≠ []) :
    Path.levels .target (Text.join (String.singleton Side.target.separator) decorated) =
      levels := by
  have hnonempty : decorated ≠ [] := by
    rintro rfl
    exact nonempty (List.forall₂_nil_right_iff.mp arities)
  have hlacks := lacks_of_mem_decorated plain arities
  rw [Path.levels, Text.pieces_join_of_lacks hnonempty fun level hlevel => (hlacks level hlevel).2,
    map_eraseArity_of_decorates plain arities, List.filter_eq_self]
  intro level hlevel
  simpa using (plain level hlevel).nonempty

/-- The path of decorated levels is the path of the levels. -/
theorem Path.ofText_of_decorates :
    Path.ofText .target (Text.join (String.singleton Side.target.separator) decorated) =
      Path.ofText .target (Text.join (String.singleton Side.target.separator) levels) := by
  by_cases hnonempty : levels = []
  · subst hnonempty
    rw [List.forall₂_nil_left_iff.mp arities]
  · have hlevels :=
      Path.levels_of_decorates plain (forall₂_decorates_self levels) hnonempty
    apply Path.ofText_of_levels_eq
    rw [Path.levels_of_decorates plain arities hnonempty,
      Path.segments_ofText_of_levels_ne_nil (by rwa [hlevels]), hlevels]

end Levels

/-- The full name of a target type that nests levels in a namespace. -/
def targetName (package : String) (levels : List String) : String :=
  qualified package (Text.join (String.singleton Side.target.separator) levels)

/-- A full name of the same levels with other arities or none, in the same namespace up to case. -/
inductive Respells (package : String) (levels : List String) : String → Prop
  | intro {other : String} {decorated : List String}
      (namespaces : Text.sameIgnoringCase other package = true)
      (arities : List.Forall₂ Decorates levels decorated) :
      Respells package levels (targetName other decorated)

/-- The package and the path of a name are found where they are put together. -/
theorem package_and_path_of_decorates
    {package : String} {levels decorated : List String} (kind : TypeDecl.Kind)
    (unnested : Side.target.separator ∉ package.toList)
    (plain : ∀ level ∈ levels, IsTargetLevel level)
    (arities : List.Forall₂ Decorates levels decorated) :
    (TypeDecl.named .target kind (targetName package decorated)).package = package ∧
      (TypeDecl.named .target kind (targetName package decorated)).targetPath =
        Path.ofText .target (Text.join (String.singleton Side.target.separator) levels) := by
  -- The namespace is cut off at the last dot in front of the first level's end, and no level has
  -- one, with its arity or without.
  have hundotted :
      Text.Lacks '.' (Text.before Side.target.separator
        (Text.join (String.singleton Side.target.separator) decorated)) := by
    apply Text.lacks_before
    apply Text.lacks_join (by decide)
    exact fun level hlevel => (lacks_of_mem_decorated plain arities level hlevel).1
  constructor
  · exact packagePart_qualified unnested hundotted
  · rw [TypeDecl.targetPath, targetName, localName_named_qualified unnested hundotted,
      Path.ofText_of_decorates plain arities]

end Naming

namespace Scope

section Respelled

variable {package : String} {levels : List String}
  (unnested : Side.target.separator ∉ package.toList)
  (plain : ∀ level ∈ levels, Naming.IsTargetLevel level)
include unnested plain

theorem follows_of_respells
    (scope : Scope) (rule : Rule) (reference : TypeDecl) (kind : TypeDecl.Kind)
    {fullName : String} (respells : Naming.Respells package levels fullName) :
    scope.follows rule reference (.named .target kind fullName) =
      scope.follows rule reference (.named .target kind (Naming.targetName package levels)) := by
  obtain ⟨namespaces, arities⟩ := respells
  obtain ⟨hpackage, hpath⟩ :=
    Naming.package_and_path_of_decorates kind unnested plain
      (Naming.forall₂_decorates_self levels)
  obtain ⟨hpackage', hpath'⟩ :=
    Naming.package_and_path_of_decorates kind
      (Text.lacks_of_sameIgnoringCase namespaces unnested) plain arities
  rw [follows, follows, hpackage, hpackage', hpath, hpath',
    Text.sameIgnoringCase_congr_right namespaces]
  rfl

/-- Whether a target type meets a reference type under a rule depends neither on the arities that
its name gives nor on the case of its namespace.  So types whose names differ only in these are met
by the same reference types under the same rules. -/
theorem arity_and_case_are_ignored
    (scope : Scope) (rule : Rule) (reference : TypeDecl) (kind : TypeDecl.Kind) :
    (∀ fullName, Naming.Respells package levels fullName →
      scope.follows rule reference (.named .target kind fullName) =
        scope.follows rule reference (.named .target kind (Naming.targetName package levels))) ∧
      ∀ fullName fullName',
        Naming.Respells package levels fullName → Naming.Respells package levels fullName' →
          (scope.follows rule reference (.named .target kind fullName) = true ↔
            scope.follows rule reference (.named .target kind fullName') = true) := by
  have hsame {fullName : String} (respells : Naming.Respells package levels fullName) :=
    scope.follows_of_respells unnested plain rule reference kind respells
  refine ⟨fun _ respells => hsame respells, fun _ _ respells respells' => ?_⟩
  rw [hsame respells, hsame respells']

end Respelled

/-- A nested type that takes two type parameters, in a type that takes one. -/
theorem arity_and_case_are_ignored_cache_entry :
    Side.target.separator ∉ "Acme.store".toList ∧
      (∀ level ∈ ["Cache", "Entry"], Naming.IsTargetLevel level) ∧
      Naming.Respells "Acme.store" ["Cache", "Entry"] "Acme.store.Cache+Entry" ∧
      Naming.Respells "Acme.store" ["Cache", "Entry"] "ACME.Store.Cache\x601+Entry\x602" ∧
      acme.follows .exactName (.named .reference .classType "org.acme.store.Cache$Entry")
          (.named .target .classType "Acme.store.Cache+Entry") =
        true ∧
      acme.follows .exactName (.named .reference .classType "org.acme.store.Cache$Entry")
          (.named .target .classType "ACME.Store.Cache\x601+Entry\x602") =
        true := by
  have unnested : Side.target.separator ∉ "Acme.store".toList := by decide
  have plain : ∀ level ∈ ["Cache", "Entry"], Naming.IsTargetLevel level := by
    rw [List.forall_mem_cons, List.forall_mem_singleton]
    constructor <;> constructor <;> decide
  have respells : Naming.Respells "Acme.store" ["Cache", "Entry"] "Acme.store.Cache+Entry" := by
    have hname : "Acme.store.Cache+Entry" = Naming.targetName "Acme.store" ["Cache", "Entry"] := by
      decide +kernel
    rw [hname]
    exact .intro (by decide) (.cons .plain (.cons .plain .nil))
  have respells' :
      Naming.Respells "Acme.store" ["Cache", "Entry"] "ACME.Store.Cache\x601+Entry\x602" := by
    have hname :
        "ACME.Store.Cache\x601+Entry\x602" =
          Naming.targetName "ACME.Store" ["Cache\x601", "Entry\x602"] := by
      decide +kernel
    have hcache : Naming.Decorates "Cache" "Cache\x601" :=
      .generic (by simp : ∀ d ∈ "1".toList, d.isDigit = true)
    have hentry : Naming.Decorates "Entry" "Entry\x602" :=
      .generic (by simp : ∀ d ∈ "2".toList, d.isDigit = true)
    rw [hname]
    exact .intro (by decide) (.cons hcache (.cons hentry .nil))
  have follows :
      acme.follows .exactName (.named .reference .classType "org.acme.store.Cache$Entry")
          (.named .target .classType "Acme.store.Cache+Entry") =
        true := by
    decide +kernel
  refine ⟨unnested, plain, respells, respells', follows, ?_⟩
  exact ((arity_and_case_are_ignored unnested plain acme .exactName _ .classType).2
    _ _ respells respells').mp follows

end Scope
end Counterpart
