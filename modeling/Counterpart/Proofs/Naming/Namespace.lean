import Counterpart.Proofs.Correspondence.Mapping
import Counterpart.Proofs.Text.Cuts

/-!
# The characters of a namespace

A namespace is made of a prefix that a mapping gives and of capitalized segments of the package.
Capitals have codes above those of digits and punctuation marks, so no such mark is in a namespace
unless a mapping or the package has it.

* `eq_or_lt_of_mem_capital`: what is new in a capitalized text is a letter.
* `mem_targetNamespace`: where the characters of a namespace come from.
-/

namespace Counterpart

namespace Text

theorem toNat_ofNat_of_isValidChar
    {n : Nat} (h : n.isValidChar) :
    (Char.ofNat n).toNat = n := by
  rw [Char.ofNat, dif_pos h]
  rfl

/-- The capitals of a run are characters, and none of them is a digit or a punctuation mark. -/
theorem capitalRuns_bounds :
    ∀ run ∈ capitalRuns,
      64 < run.1.first + run.2 ∧
        (run.1.last + run.2 < 0xD800 ∨
          0xDFFF < run.1.first + run.2 ∧ run.1.last + run.2 < 0x110000) := by
  decide +kernel

theorem expandingCapitals_bounds :
    ∀ entry ∈ expandingCapitals, ∀ code ∈ entry.2, 64 < (Char.ofNat code).toNat := by
  decide +kernel

/-- The capital of a character is the character itself or a letter. -/
theorem eq_or_lt_of_mem_capital
    {c d : Char} (h : d ∈ capital c) :
    d = c ∨ 64 < d.toNat := by
  have hseveral : d ∈ capital.several c → d = c ∨ 64 < d.toNat := by
    intro h
    unfold capital.several at h
    split at h
    · rename_i hfind
      obtain ⟨code, hcode, rfl⟩ := List.mem_map.mp h
      exact Or.inr (expandingCapitals_bounds _ (List.mem_of_find?_eq_some hfind) code hcode)
    · exact Or.inl (List.mem_singleton.mp h)
  unfold capital at h
  split at h
  · rename_i run offset hfind
    split at h
    · rename_i hcovers
      have hbounds := capitalRuns_bounds (run, offset) (List.mem_of_find?_eq_some hfind)
      dsimp only at hbounds
      simp only [CodeRun.covers, Bool.and_eq_true, decide_eq_true_eq] at hcovers
      obtain ⟨⟨hfirst, hlast⟩, _⟩ := hcovers
      have hcode : (c.toNat + offset).toNat.isValidChar := by
        unfold Nat.isValidChar
        omega
      obtain rfl := List.mem_singleton.mp h
      rw [toNat_ofNat_of_isValidChar hcode]
      omega
    · exact hseveral h
  · exact hseveral h

theorem mem_capitalize
    {s : String} {d : Char} (h : d ∈ (capitalize s).toList) :
    d ∈ s.toList ∨ 64 < d.toNat := by
  unfold capitalize at h
  split at h
  · simp at h
  · rename_i c rest hsplit
    rw [String.toList_ofList, List.mem_append] at h
    rw [hsplit, List.mem_cons]
    rcases h with h | h
    · rcases eq_or_lt_of_mem_capital h with rfl | h
      · exact Or.inl (Or.inl rfl)
      · exact Or.inr h
    · exact Or.inl (Or.inr h)

theorem mem_intercalate_singleton
    {α : Type} {separator a : α} {parts : List (List α)}
    (h : a ∈ [separator].intercalate parts) :
    a = separator ∨ ∃ part ∈ parts, a ∈ part := by
  induction parts with
  | nil =>
      simp at h
  | cons first rest ih =>
      by_cases hrest : rest = []
      · subst hrest
        exact Or.inr ⟨first, List.mem_cons_self .., by simpa using h⟩
      · rw [List.intercalate_cons_of_ne_nil hrest, List.mem_append, List.mem_append] at h
        rcases h with (h | h) | h
        · exact Or.inr ⟨first, List.mem_cons_self .., h⟩
        · exact Or.inl (List.mem_singleton.mp h)
        · rcases ih h with h | ⟨part, hpart, h⟩
          · exact Or.inl h
          · exact Or.inr ⟨part, List.mem_cons_of_mem _ hpart, h⟩

end Text

/-- What is new in capitalized segments is a letter. -/
theorem Naming.mem_capitalizeSegments
    {package : String} {d : Char}
    (h : d ∈ (capitalizeSegments package).toList) :
    d = '.' ∨ d ∈ package.toList ∨ 64 < d.toNat := by
  have hdot : ".".toList = ['.'] := by
    decide
  rw [capitalizeSegments, Text.toList_join, hdot] at h
  rcases Text.mem_intercalate_singleton h with h | ⟨part, hpart, h⟩
  · exact Or.inl h
  · simp only [List.mem_map, exists_exists_and_eq_and] at hpart
    obtain ⟨segment, hsegment, rfl⟩ := hpart
    rcases Text.mem_capitalize h with h | h
    · exact Or.inr (Or.inl (Text.mem_of_mem_pieces hsegment h))
    · exact Or.inr (Or.inr h)

theorem PackageMapping.mem_of_remainder?_eq_some
    {mapping : PackageMapping} {package rest : String} {d : Char}
    (h : mapping.remainder? package = some rest)
    (hd : d ∈ rest.toList) :
    d ∈ package.toList := by
  rw [(remainder?_eq_some_iff.mp h).split, String.toList_append]
  exact List.mem_append_right _ hd

/-- A character of a namespace is a dot, a letter, or stands in the prefix of a mapping or in the
package. -/
theorem mem_targetNamespace
    {package : String} {mappings : List PackageMapping} {d : Char}
    (h : d ∈ (targetNamespace package mappings).toList) :
    d = '.' ∨ 64 < d.toNat ∨ d ∈ package.toList ∨
      ∃ mapping ∈ mappings, d ∈ mapping.targetPrefix.toList := by
  unfold targetNamespace at h
  split at h
  · rename_i mapping hchosen
    rw [String.toList_append, List.mem_append] at h
    rcases h with h | h
    · have hmem := List.mem_filter.mp (PackageMapping.mem_of_longest?_eq_some hchosen)
      exact Or.inr (Or.inr (Or.inr ⟨mapping, hmem.1, h⟩))
    · rcases Naming.mem_capitalizeSegments h with h | h | h
      · exact Or.inl h
      · cases hrest : mapping.remainder? package with
        | none =>
            simp [hrest] at h
        | some rest =>
            rw [hrest, Option.getD_some] at h
            exact Or.inr (Or.inr (Or.inl (PackageMapping.mem_of_remainder?_eq_some hrest h)))
      · exact Or.inr (Or.inl h)
  · rcases Naming.mem_capitalizeSegments h with h | h | h
    · exact Or.inl h
    · exact Or.inr (Or.inr (Or.inl h))
    · exact Or.inr (Or.inl h)

/-- No namespace has a nesting separator unless a mapping or the package has one. -/
theorem separator_not_mem_targetNamespace
    {package : String} {mappings : List PackageMapping} {side : Side}
    (hpackage : side.separator ∉ package.toList)
    (hmappings : ∀ mapping ∈ mappings, side.separator ∉ mapping.targetPrefix.toList) :
    side.separator ∉ (targetNamespace package mappings).toList := by
  intro h
  rcases mem_targetNamespace h with h | h | h | ⟨mapping, hmapping, h⟩
  · revert h
    cases side <;> decide
  · revert h
    cases side <;> decide
  · exact hpackage h
  · exact hmappings mapping hmapping h

end Counterpart
