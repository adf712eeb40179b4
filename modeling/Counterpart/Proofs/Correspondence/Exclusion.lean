import Counterpart.Proofs.Correspondence.Port
import Counterpart.Proofs.Text.Lines

/-!
# Naming rules exclude each other

At most one naming rule relates two types.  The rules that apply to a reference type agree on its
suffix.  Of the two that do, one asks for the dotted path and the other for a single name that a
nested path is flattened to, and no such name is the dotted path.  Nothing is assumed of the names:
a level may hold dots, and a malformed text is a path of one level.

* `Rule.meets_iff_of_not_flattens`, `Rule.meets_iff_of_flattens`: how rules relate paths.
* `dotted_not_mem_flattened`: a dotted path is longer than the innermost name, and has a dot where
  the joined levels have an underscore.
* `eq_of_follows`: two types are related by one rule only.
-/

namespace Counterpart

namespace Naming.Path

theorem mem_flattened_iff
    {path : Path} {name : String} :
    name ∈ path.flattened ↔
      path.isNested = true ∧ (name = Text.join "_" path.segments ∨ name = path.innermost) := by
  by_cases hnested : path.isNested = true
  · rw [flattened, if_pos hnested, List.mem_pair]
    exact (and_iff_right hnested).symm
  · rw [flattened_of_not_isNested (by simpa using hnested)]
    simp [hnested]

theorem dotted_of_not_isNested
    {path : Path} (h : path.isNested = false) :
    path.dotted = path.innermost := by
  obtain ⟨enclosing, innermost⟩ := path
  obtain rfl : enclosing = [] := by
    simpa [isNested] using h
  exact dotted_nil innermost

/-- A nested path is not one of the single names it is flattened to. -/
theorem dotted_not_mem_flattened
    (path : Path) :
    path.dotted ∉ path.flattened := by
  obtain ⟨enclosing, innermost⟩ := path
  cases enclosing with
  | nil =>
      simp [flattened, isNested]
  | cons first rest =>
      obtain ⟨second, others, hrest⟩ :=
        List.exists_cons_of_ne_nil (l := rest ++ [innermost]) (by simp)
      have hsegments : (Path.mk (first :: rest) innermost).segments = first :: second :: others :=
        congrArg (first :: ·) hrest
      intro hmem
      simp only [flattened, isNested, List.isEmpty_cons, Bool.not_false, if_true, dotted,
        hsegments, List.mem_cons, List.not_mem_nil, or_false] at hmem
      rcases hmem with hjoined | hinnermost
      · -- Behind the outermost level stands a dot in one text and an underscore in the other.
        have hcharacters := congrArg String.toList hjoined
        simp only [Text.join_cons_cons, String.toList_append, List.append_assoc,
          List.append_cancel_left_eq] at hcharacters
        simp at hcharacters
      · have hlength := congrArg String.length hinnermost
        have hlast : innermost ∈ second :: others := by
          rw [← hrest]
          simp
        have hle := Text.length_le_join "." hlast
        have hdot : ".".length = 1 := rfl
        rw [Text.join_cons_cons, String.length_append, String.length_append, hdot] at hlength
        omega

end Naming.Path

theorem Rule.meets_iff_of_not_flattens
    {rule : Rule} (plain : rule.flattens = false) {expected actual : Naming.Path} :
    rule.meets expected actual = true ↔ expected.dotted = actual.dotted := by
  simp [meets, plain]

/-- Flattening relates a single name to a nested path that is flattened to it. -/
theorem Rule.meets_iff_of_flattens
    {rule : Rule} (flattens : rule.flattens = true) {expected actual : Naming.Path} :
    rule.meets expected actual = true ↔
      (actual.isNested = false ∧ actual.innermost ∈ expected.flattened) ∨
        (expected.isNested = false ∧ expected.innermost ∈ actual.flattened) := by
  simp only [meets, flattens, if_true, Bool.and_eq_true, Bool.or_eq_true, bne_iff_ne,
    List.contains_eq_mem, decide_eq_true_eq]
  cases hexpected : expected.isNested <;> cases hactual : actual.isNested <;>
    simp [Naming.Path.mem_flattened_iff, Naming.Path.dotted_of_not_isNested, hexpected, hactual]

/-- Paths related by flattening have different dotted forms. -/
theorem Rule.dotted_ne_of_meets
    {rule : Rule} (flattens : rule.flattens = true)
    {expected actual : Naming.Path}
    (h : rule.meets expected actual = true) :
    expected.dotted ≠ actual.dotted := by
  intro same
  rcases (meets_iff_of_flattens flattens).mp h with ⟨hsingle, hmem⟩ | ⟨hsingle, hmem⟩
  · rw [← Naming.Path.dotted_of_not_isNested hsingle, ← same] at hmem
    exact expected.dotted_not_mem_flattened hmem
  · rw [← Naming.Path.dotted_of_not_isNested hsingle, same] at hmem
    exact actual.dotted_not_mem_flattened hmem

/-- One path does not meet another both by flattening and as it is. -/
theorem Rule.flattens_eq_of_meets
    {first second : Rule} {expected actual : Naming.Path}
    (hfirst : first.meets expected actual = true)
    (hsecond : second.meets expected actual = true) :
    first.flattens = second.flattens := by
  cases h₁ : first.flattens <;> cases h₂ : second.flattens
  · rfl
  · exact absurd ((meets_iff_of_not_flattens h₁).mp hfirst) (dotted_ne_of_meets h₂ hsecond)
  · exact absurd ((meets_iff_of_not_flattens h₂).mp hsecond) (dotted_ne_of_meets h₁ hfirst)
  · rfl

theorem Rule.eq_of_dropsSuffix_of_flattens
    {first second : Rule}
    (suffix : first.dropsSuffix = second.dropsSuffix)
    (nesting : first.flattens = second.flattens) :
    first = second := by
  cases first <;> cases second <;> simp_all [dropsSuffix, flattens]

namespace Scope

/-- A rule only relates a type to others if it expects a name of them. -/
theorem exists_expectedPath_of_follows
    {scope : Scope} {rule : Rule} {reference target : TypeDecl}
    (h : scope.follows rule reference target = true) :
    rule.dropsSuffix = reference.losesSuffix ∧
      ∃ expected, expectedPath? reference rule = some expected ∧
        rule.meets expected target.targetPath = true := by
  simp only [follows, Bool.and_eq_true, Option.any_eq_true] at h
  obtain ⟨_, expected, hexpected, hmeets⟩ := h
  refine ⟨?_, expected, hexpected, hmeets⟩
  by_contra hsuffix
  rw [expectedPath?_eq, if_neg hsuffix] at hexpected
  exact absurd hexpected (Option.some_ne_none expected).symm

/-- Two types are related by one rule only. -/
theorem eq_of_follows
    {scope : Scope} {first second : Rule} {reference target : TypeDecl}
    (hfirst : scope.follows first reference target = true)
    (hsecond : scope.follows second reference target = true) :
    first = second := by
  obtain ⟨hsuffix₁, path₁, hpath₁, hmeets₁⟩ := exists_expectedPath_of_follows hfirst
  obtain ⟨hsuffix₂, path₂, hpath₂, hmeets₂⟩ := exists_expectedPath_of_follows hsecond
  rw [expectedPath?_eq, if_pos hsuffix₁, Option.some.injEq] at hpath₁
  rw [expectedPath?_eq, if_pos hsuffix₂, Option.some.injEq] at hpath₂
  rw [← hpath₁] at hmeets₁
  rw [← hpath₂] at hmeets₂
  exact Rule.eq_of_dropsSuffix_of_flattens (hsuffix₁.trans hsuffix₂.symm)
    (Rule.flattens_eq_of_meets hmeets₁ hmeets₂)

end Scope
end Counterpart
