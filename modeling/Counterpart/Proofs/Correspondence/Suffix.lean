import Counterpart.Proofs.Correspondence.Exclusion
import Counterpart.Proofs.Correspondence.Written

/-!
# Suffixed classes

A class that ends in the implementation suffix loses it, once.  So it is not related to a target
type whose innermost name still has the suffix: as they are the paths end in different names, and by
flattening the suffix would have to be moved from the end of a name to the front, where an
underscore stands between the levels.

* `Naming.Path.segments_eq_of_dotted_eq`: levels without dots are known by the dotted path.
* `Rule.meets_eq_false_of_extended`: no rule relates a path to one with more behind the innermost
  name.
* `suffixed_class_misses_own_name`: a suffixed class is not related to a target of its own name.
-/

namespace Counterpart

namespace Naming

/-- Levels without dots are known by the dotted path. -/
theorem Path.segments_eq_of_dotted_eq
    {first second : Path}
    (hfirst : ∀ level ∈ first.segments, Text.Lacks '.' level)
    (hsecond : ∀ level ∈ second.segments, Text.Lacks '.' level)
    (h : first.dotted = second.dotted) :
    first.segments = second.segments := by
  calc
    first.segments = Text.pieces '.' first.dotted :=
      (Text.pieces_join_of_lacks first.segments_ne_nil hfirst).symm
    _ = Text.pieces '.' second.dotted := by rw [h]
    _ = second.segments := Text.pieces_join_of_lacks second.segments_ne_nil hsecond

theorem Path.innermost_eq_of_segments_eq
    {first second : Path} (h : first.segments = second.segments) :
    first.innermost = second.innermost := by
  have hlast := congrArg List.getLast? h
  simpa [segments] using hlast

/-- The suffix is dropped once, whatever the rest of the name ends in. -/
theorem dropImplementationSuffix_append
    {stem : String} (h : stem ≠ "") :
    dropImplementationSuffix (stem ++ implementationEnding) .classType = stem := by
  have hbefore :
      Text.beforeEnd? implementationEnding (stem ++ implementationEnding) = some stem :=
    Text.beforeEnd?_eq_some_iff.mpr rfl
  rw [dropImplementationSuffix, if_pos rfl, implementationStem?, hbefore, Option.filter_some,
    if_pos (by simpa using h), Option.getD_some]

end Naming

section Extended

variable {expected actual : Naming.Path} {ending : String}
  (same : actual.innermost = expected.innermost ++ ending) (nonempty : ending ≠ "")
include same nonempty

theorem length_innermost_lt :
    expected.innermost.length < actual.innermost.length := by
  have hending : ending.length ≠ 0 := by
    rwa [Ne, ← String.length_toList, List.length_eq_zero_iff, String.toList_eq_nil_iff]
  rw [same, String.length_append]
  omega

/-- A nested path is not flattened to its innermost name with more at the end: the levels have an
underscore between them, which would have to be in what is added. -/
theorem innermost_not_mem_flattened
    (unmarked : '_' ∉ ending.toList) :
    actual.innermost ∉ expected.flattened := by
  intro hmem
  obtain ⟨hnested, hjoined | hinnermost⟩ := Naming.Path.mem_flattened_iff.mp hmem
  · have henclosing : expected.enclosing ≠ [] := by
      simpa [Naming.Path.isNested] using hnested
    rw [same, Naming.Path.segments, Text.join_append "_" henclosing (List.cons_ne_nil _ _),
      Text.join_singleton] at hjoined
    have hcount := congrArg (fun text => text.toList.count '_') hjoined
    have hending : ending.toList.count '_' = 0 := List.count_eq_zero.mpr unmarked
    have hunderscore : "_".toList.count '_' = 1 := by decide
    simp only [String.toList_append, List.count_append, hending, hunderscore] at hcount
    omega
  · have hlt := length_innermost_lt same nonempty
    rw [hinnermost] at hlt
    exact absurd hlt (lt_irrefl _)

/-- A path is not flattened to a name that is shorter than its innermost one. -/
theorem shorter_not_mem_flattened :
    expected.innermost ∉ actual.flattened := by
  intro hmem
  have hlt := length_innermost_lt same nonempty
  obtain ⟨_, hjoined | hinnermost⟩ := Naming.Path.mem_flattened_iff.mp hmem
  · have hmember : actual.innermost ∈ actual.segments := by
      simp [Naming.Path.segments]
    have hle := Text.length_le_join "_" hmember
    rw [← hjoined] at hle
    omega
  · rw [hinnermost] at hlt
    exact absurd hlt (lt_irrefl _)

end Extended

/-- No rule relates a path without dots in its levels to one with more at the end of the innermost
name. -/
theorem Rule.meets_eq_false_of_extended
    (rule : Rule) {expected actual : Naming.Path} {ending : String}
    (same : actual.innermost = expected.innermost ++ ending) (nonempty : ending ≠ "")
    (unmarked : '_' ∉ ending.toList)
    (hexpected : ∀ level ∈ expected.segments, Text.Lacks '.' level)
    (hactual : ∀ level ∈ actual.segments, Text.Lacks '.' level) :
    rule.meets expected actual = false := by
  by_contra hmeets
  rw [Bool.not_eq_false] at hmeets
  by_cases hflattens : rule.flattens = true
  · rcases (meets_iff_of_flattens hflattens).mp hmeets with ⟨_, hmem⟩ | ⟨_, hmem⟩
    · exact innermost_not_mem_flattened same nonempty unmarked hmem
    · exact shorter_not_mem_flattened same nonempty hmem
  · have hdotted := (meets_iff_of_not_flattens (by simpa using hflattens)).mp hmeets
    have hsegments := Naming.Path.segments_eq_of_dotted_eq hexpected hactual hdotted
    have hlt := length_innermost_lt same nonempty
    rw [Naming.Path.innermost_eq_of_segments_eq hsegments] at hlt
    exact absurd hlt (lt_irrefl _)

/-- No naming rule relates a class that ends in the implementation suffix to a target type of the
same innermost name, whatever their packages and the types around them. -/
theorem suffixed_class_misses_own_name
    {scope : Scope} {reference target : TypeDecl} {stem : String}
    (kind : reference.kind = .classType) (nonempty : stem ≠ "")
    (suffixed : reference.referencePath.innermost = stem ++ "Impl")
    (same : target.targetPath.innermost = stem ++ "Impl")
    (reference_undotted : ∀ level ∈ reference.referencePath.segments, '.' ∉ level.toList)
    (target_undotted : ∀ level ∈ target.targetPath.segments, '.' ∉ level.toList)
    (rule : Rule) :
    scope.follows rule reference target = false := by
  have hstem : reference.expectedInnermost = stem := by
    rw [TypeDecl.expectedInnermost, if_neg (by simp [kind]), kind, suffixed]
    exact Naming.dropImplementationSuffix_append nonempty
  by_contra hfollows
  rw [Bool.not_eq_false] at hfollows
  obtain ⟨hsuffix, expected, hexpected, hmeets⟩ := Scope.exists_expectedPath_of_follows hfollows
  rw [expectedPath?_eq, if_pos hsuffix, Option.some.injEq, hstem] at hexpected
  subst hexpected
  have hlevels :
      ∀ level ∈ (reference.referencePath.rename stem).segments, Text.Lacks '.' level := by
    intro level hlevel
    rw [Naming.Path.segments_rename, List.mem_append, List.mem_singleton] at hlevel
    rcases hlevel with henclosing | rfl
    · exact reference_undotted level (List.mem_append_left _ henclosing)
    · have hinnermost : '.' ∉ (level ++ "Impl").toList := by
        rw [← suffixed]
        exact reference_undotted _ (by simp [Naming.Path.segments])
      exact (Text.lacks_append.mp hinnermost).1
  have hmisses : rule.meets (reference.referencePath.rename stem) target.targetPath = false :=
    rule.meets_eq_false_of_extended same (by decide) (by decide) hlevels target_undotted
  rw [hmisses] at hmeets
  exact Bool.noConfusion hmeets

theorem suffixed_class_misses_own_name_widget :
    (TypeDecl.named .reference .classType "a.b.Outer$WidgetImplImpl").referencePath =
        ⟨["Outer"], "WidgetImpl" ++ "Impl"⟩ ∧
      (TypeDecl.named .target .classType "A.B.WidgetImplImpl\x602").targetPath =
        ⟨[], "WidgetImpl" ++ "Impl"⟩ ∧
      ∀ rule,
        Scope.unpopulated.follows rule
            (.named .reference .classType "a.b.Outer$WidgetImplImpl")
            (.named .target .classType "A.B.WidgetImplImpl\x602") =
          false := by
  have hreference :
      (TypeDecl.named .reference .classType "a.b.Outer$WidgetImplImpl").referencePath =
        ⟨["Outer"], "WidgetImpl" ++ "Impl"⟩ := by
    decide +kernel
  have htarget :
      (TypeDecl.named .target .classType "A.B.WidgetImplImpl\x602").targetPath =
        ⟨[], "WidgetImpl" ++ "Impl"⟩ := by
    decide +kernel
  refine ⟨hreference, htarget, ?_⟩
  exact suffixed_class_misses_own_name rfl (by decide) (congrArg Naming.Path.innermost hreference)
    (congrArg Naming.Path.innermost htarget) (by decide +kernel) (by decide +kernel)

end Counterpart
