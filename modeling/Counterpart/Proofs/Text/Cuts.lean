import Counterpart.Text.Pieces
import Mathlib.Data.List.Nodup
import Mathlib.Data.List.TakeWhile

/-!
# Cuts of composed texts

What the cutting functions find in a text that is put together around the character they look for.

* `afterStart?_eq_some_iff`, `beforeEnd?_eq_some_iff`: the text behind a start and before an ending.
* `beforeLast_append`, `beforeLast_of_not_mem`: the text before the last occurrence.
* `before_append`, `eq_before_or_exists`: the text before the first occurrence.
* `exists_eq_append_of_mem`: a text with an occurrence is divided by its last one.
-/

namespace Counterpart
namespace Text

theorem bne_of_mem
    {c : Char} {l : List Char} (h : c ∉ l) :
    ∀ d ∈ l, (d != c) = true := by
  intro d hd
  simpa using ne_of_mem_of_not_mem hd h

theorem afterStart?_append
    (start rest : String) :
    afterStart? start (start ++ rest) = some rest := by
  have hrest : start.toList.isPrefixOf? (start ++ rest).toList = some rest.toList := by
    rw [List.isPrefixOf?_eq_some_iff_append_eq, String.toList_append]
  rw [afterStart?, hrest, Option.map_some, String.ofList_toList]

theorem afterStart?_eq_some_iff
    {start s rest : String} :
    afterStart? start s = some rest ↔ s = start ++ rest := by
  constructor
  · intro h
    obtain ⟨after, hsplit, rfl⟩ := Option.map_eq_some_iff.mp h
    apply String.toList_injective
    rw [String.toList_append, String.toList_ofList]
    exact (List.isPrefixOf?_eq_some_iff_append_eq.mp hsplit).symm
  · rintro rfl
    exact afterStart?_append start rest

theorem beforeEnd?_eq_some_iff
    {ending s front : String} :
    beforeEnd? ending s = some front ↔ s = front ++ ending := by
  constructor
  · intro h
    obtain ⟨characters, hsplit, rfl⟩ := Option.map_eq_some_iff.mp h
    apply String.toList_injective
    rw [String.toList_append, String.toList_ofList]
    exact (List.isSuffixOf?_eq_some_iff_append_eq.mp hsplit).symm
  · rintro rfl
    have hfront : ending.toList.isSuffixOf? (front ++ ending).toList = some front.toList := by
      rw [List.isSuffixOf?_eq_some_iff_append_eq, String.toList_append]
    rw [beforeEnd?, hfront, Option.map_some, String.ofList_toList]

theorem head?_eq_some_iff
    {c : Char} {s : String} :
    s.toList.head? = some c ↔ ∃ rest, s = String.singleton c ++ rest := by
  rw [List.head?_eq_some_iff]
  constructor
  · rintro ⟨rest, hrest⟩
    refine ⟨String.ofList rest, String.toList_injective ?_⟩
    simpa using hrest
  · rintro ⟨rest, rfl⟩
    exact ⟨rest.toList, by simp⟩

theorem before_of_not_mem
    {c : Char} {s : String} (h : c ∉ s.toList) :
    before c s = s := by
  apply String.toList_injective
  rw [toList_before, List.takeWhile_eq_self_iff.mpr (bne_of_mem h)]

theorem before_append
    {c : Char} {front : String} (h : c ∉ front.toList) (rest : String) :
    before c (front ++ rest) = front ++ before c rest := by
  apply String.toList_injective
  rw [toList_before, String.toList_append, List.takeWhile_append_of_pos (bne_of_mem h),
    String.toList_append, toList_before]

theorem not_mem_before
    (c : Char) (s : String) :
    c ∉ (before c s).toList := by
  rw [toList_before]
  intro hmem
  simpa using List.mem_takeWhile_imp hmem

/-- The text before the first occurrence does not depend on what follows an occurrence. -/
@[simp] theorem before_append_singleton
    (c : Char) (s rest : String) :
    before c (s ++ String.singleton c ++ rest) = before c s := by
  apply String.toList_injective
  rw [toList_before, toList_before, String.append_assoc, String.toList_append,
    List.takeWhile_append]
  split
  case isTrue hall =>
    rw [(List.takeWhile_prefix _).eq_of_length hall]
    simp
  case isFalse =>
    rfl

/-- What is cut off behind the first occurrence starts with the character. -/
theorem eq_before_or_exists
    (c : Char) (s : String) :
    before c s = s ∨ ∃ rest, before c s ++ String.singleton c ++ rest = s := by
  by_cases h : c ∈ s.toList
  · obtain ⟨front, rest, hsplit, hfront⟩ := List.eq_append_cons_of_mem h
    have hs : s = String.ofList front ++ String.singleton c ++ String.ofList rest := by
      apply String.toList_injective
      simpa using hsplit
    have hbefore : before c s = String.ofList front := by
      rw [hs, before_append_singleton, before_of_not_mem (by simpa using hfront)]
    exact Or.inr ⟨String.ofList rest, by rw [hbefore, hs]⟩
  · exact Or.inl (before_of_not_mem h)

/-- What follows the text before the first occurrence of a character has nothing before it. -/
theorem exists_eq_before_append
    (c : Char) (s : String) :
    ∃ rest, s = before c s ++ rest ∧ before c rest = "" := by
  rcases eq_before_or_exists c s with h | ⟨rest, h⟩
  · exact ⟨"", by rw [h, String.append_empty], by simp [before]⟩
  · exact ⟨String.singleton c ++ rest, by rw [← String.append_assoc, h], by simp [before]⟩

theorem beforeLast_of_not_mem
    {c : Char} {s : String} (h : c ∉ s.toList) :
    beforeLast c s = "" := by
  have hreverse : c ∉ s.toList.reverse := by
    simpa using h
  simp [beforeLast, List.dropWhile_eq_nil_iff.mpr (bne_of_mem hreverse)]

theorem beforeLast_append
    {c : Char} {back : String} (h : c ∉ back.toList) (front : String) :
    beforeLast c (front ++ String.singleton c ++ back) = front := by
  have hreverse : c ∉ back.toList.reverse := by
    simpa using h
  simp [beforeLast, List.dropWhile_append_of_pos (bne_of_mem hreverse)]

/-- A text with an occurrence of a character is divided by its last occurrence. -/
theorem exists_eq_append_of_mem
    {c : Char} {s : String} (h : c ∈ s.toList) :
    ∃ front back : String, s = front ++ String.singleton c ++ back ∧ c ∉ back.toList := by
  obtain ⟨back, front, hsplit, hback⟩ := List.eq_append_cons_of_mem (List.mem_reverse.mpr h)
  refine ⟨String.ofList front.reverse, String.ofList back.reverse, ?_, by simpa using hback⟩
  apply String.toList_injective
  have hreversed := congrArg List.reverse hsplit
  simpa using hreversed

theorem pieces_of_not_mem
    {c : Char} {s : String} (h : c ∉ s.toList) :
    pieces c s = [s] := by
  simp [pieces, List.splitOn_eq_singleton h]

/-- The pieces of a text make up the text. -/
@[simp] theorem join_pieces
    (c : Char) (s : String) :
    join (String.singleton c) (pieces c s) = s := by
  apply String.toList_injective
  simp [pieces, List.intercalate_splitOn]

theorem pieces_append
    (c : Char) (front back : String) :
    pieces c (front ++ String.singleton c ++ back) = pieces c front ++ pieces c back := by
  simp [pieces, List.splitOn_append_cons_self]

theorem subset_of_mem_splitOn
    {α : Type} [DecidableEq α] {c : α} {l piece : List α}
    (h : piece ∈ l.splitOn c) :
    piece ⊆ l := by
  induction l generalizing piece with
  | nil =>
      simp_all
  | cons first rest ih =>
      rw [List.splitOn_cons_eq_if_modifyHead] at h
      split at h
      · rcases List.mem_cons.mp h with rfl | h
        · exact List.nil_subset _
        · exact List.subset_cons_of_subset first (ih h)
      · obtain ⟨head, others, hsplit⟩ := List.exists_cons_of_ne_nil (List.splitOn_ne_nil c rest)
        rw [hsplit] at h ih
        rcases List.mem_cons.mp h with rfl | h
        · exact List.cons_subset_cons first (ih (List.mem_cons_self ..))
        · exact List.subset_cons_of_subset first (ih (List.mem_cons_of_mem _ h))

theorem not_mem_of_mem_splitOn
    {α : Type} [DecidableEq α] {c : α} {l piece : List α}
    (h : piece ∈ l.splitOn c) :
    c ∉ piece := by
  induction l generalizing piece with
  | nil =>
      simp_all
  | cons first rest ih =>
      rw [List.splitOn_cons_eq_if_modifyHead] at h
      split at h
      · rcases List.mem_cons.mp h with rfl | h
        · exact List.not_mem_nil
        · exact ih h
      · rename_i hfirst
        obtain ⟨head, others, hsplit⟩ := List.exists_cons_of_ne_nil (List.splitOn_ne_nil c rest)
        rw [hsplit] at h ih
        rcases List.mem_cons.mp h with rfl | h
        · rw [List.mem_cons, not_or]
          exact ⟨fun same => hfirst (by simp [same]), ih (List.mem_cons_self ..)⟩
        · exact ih (List.mem_cons_of_mem _ h)

/-- The characters of a piece are characters of the text. -/
theorem mem_of_mem_pieces
    {c d : Char} {s piece : String}
    (hpiece : piece ∈ pieces c s) (hd : d ∈ piece.toList) :
    d ∈ s.toList := by
  obtain ⟨characters, hcharacters, rfl⟩ := List.mem_map.mp hpiece
  rw [String.toList_ofList] at hd
  exact subset_of_mem_splitOn hcharacters hd

end Text
end Counterpart
