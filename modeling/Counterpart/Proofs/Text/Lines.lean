import Counterpart.Proofs.Text.Cuts

/-!
# Lines and columns of composed texts

A text that is put together from parts has a character only where a part or a separator has it.  So
cutting at a character that no part has gives back the parts, and in general one piece more for
every occurrence.

* `Text.Lacks`: a text does not have a character.
* `Text.pieces_join`: what is joined is cut at the separators, and within the parts.
* `Text.pieces_join_of_lacks`: parts that do not have the separator are found again.
* `Text.length_pieces_join_eq_iff`: there are as many pieces as parts exactly if no part is cut.
* `Text.lines_join_ended`: lines that are ended one by one are the lines of the text.
-/

namespace Counterpart
namespace Text

/-- A text does not have a character. -/
def Lacks (c : Char) (s : String) : Prop :=
  c ∉ s.toList

instance (c : Char) (s : String) : Decidable (Lacks c s) :=
  inferInstanceAs (Decidable (c ∉ s.toList))

variable {c : Char}

@[simp] theorem lacks_empty :
    Lacks c "" := by
  simp [Lacks]

@[simp] theorem lacks_append
    {front back : String} :
    Lacks c (front ++ back) ↔ Lacks c front ∧ Lacks c back := by
  simp [Lacks]

/-- A control character does not occur in a text without control characters. -/
theorem lacks_of_control
    {s : String} (hc : c.toNat < 32) (hs : (s.toList.all fun d => 32 ≤ d.toNat) = true) :
    Lacks c s := by
  intro hmem
  have hle := of_decide_eq_true (List.all_eq_true.mp hs c hmem)
  omega

theorem lacks_getD
    {part : Option String} (h : ∀ s ∈ part, Lacks c s) :
    Lacks c (part.getD "") := by
  cases part with
  | none =>
      exact lacks_empty
  | some s =>
      exact h s rfl

theorem join_singleton
    (separator part : String) :
    join separator [part] = part := by
  simp [join]

theorem join_cons_cons
    (separator part next : String) (rest : List String) :
    join separator (part :: next :: rest) =
      part ++ separator ++ join separator (next :: rest) := by
  apply String.toList_injective
  simp [List.intercalate_cons_cons]

/-- Parts joined in two groups. -/
theorem join_append
    (separator : String) {front back : List String}
    (hfront : front ≠ []) (hback : back ≠ []) :
    join separator (front ++ back) = join separator front ++ separator ++ join separator back := by
  induction front with
  | nil =>
      contradiction
  | cons part rest ih =>
      cases rest with
      | nil =>
          obtain ⟨next, others, rfl⟩ := List.exists_cons_of_ne_nil hback
          rw [List.singleton_append, join_cons_cons, join_singleton]
      | cons next others =>
          rw [List.cons_append, List.cons_append, join_cons_cons, ← List.cons_append,
            ih (List.cons_ne_nil next others), join_cons_cons]
          simp only [String.append_assoc]

/-- No part is longer than the joined text. -/
theorem length_le_join
    (separator : String) {parts : List String} {part : String} (h : part ∈ parts) :
    part.length ≤ (join separator parts).length := by
  induction parts with
  | nil =>
      simp at h
  | cons first rest ih =>
      cases rest with
      | nil =>
          obtain rfl := List.mem_singleton.mp h
          rw [join_singleton]
      | cons second others =>
          rw [join_cons_cons, String.length_append, String.length_append]
          rcases List.mem_cons.mp h with rfl | hrest
          · omega
          · have := ih hrest
            omega

theorem join_ne_empty
    (separator : String) {parts : List String} {part : String} (h : part ∈ parts)
    (hpart : part ≠ "") :
    join separator parts ≠ "" := by
  intro hempty
  have hle := length_le_join separator h
  rw [hempty, ← String.length_toList, ← String.length_toList] at hle
  exact hpart (String.toList_eq_nil_iff.mp (List.eq_nil_of_length_eq_zero (Nat.le_zero.mp hle)))

theorem lacks_before
    {d : Char} {s : String} (h : Lacks c s) :
    Lacks c (before d s) := by
  rw [Lacks, toList_before]
  exact fun hmem => h ((List.takeWhile_prefix _).subset hmem)

theorem lacks_join
    {separator : String} {parts : List String} (hseparator : Lacks c separator)
    (hparts : ∀ part ∈ parts, Lacks c part) :
    Lacks c (join separator parts) := by
  induction parts with
  | nil =>
      exact lacks_empty
  | cons part rest ih =>
      obtain ⟨hpart, hrest⟩ := List.forall_mem_cons.mp hparts
      cases rest with
      | nil =>
          rwa [join_singleton]
      | cons next others =>
          rw [join_cons_cons, lacks_append, lacks_append]
          exact ⟨⟨hpart, hseparator⟩, ih hrest⟩

theorem pieces_join
    (c : Char) {parts : List String} (h : parts ≠ []) :
    pieces c (join (String.singleton c) parts) = parts.flatMap (pieces c) := by
  induction parts with
  | nil =>
      contradiction
  | cons part rest ih =>
      cases rest with
      | nil =>
          simp [join_singleton]
      | cons next others =>
          rw [join_cons_cons, pieces_append, ih (List.cons_ne_nil next others)]
          rfl

/-- No piece has the character at which the text is cut. -/
theorem lacks_of_mem_pieces
    {s piece : String} (h : piece ∈ pieces c s) :
    Lacks c piece := by
  obtain ⟨characters, hcharacters, rfl⟩ := List.mem_map.mp h
  simpa [Lacks] using not_mem_of_mem_splitOn hcharacters

/-- Parts that do not have the separator are the pieces of the joined text. -/
theorem pieces_join_of_lacks
    {parts : List String} (h : parts ≠ []) (hparts : ∀ part ∈ parts, Lacks c part) :
    pieces c (join (String.singleton c) parts) = parts := by
  rw [pieces_join c h]
  calc
    parts.flatMap (pieces c) = parts.flatMap fun part => [part] :=
      List.flatMap_congr fun part hpart => pieces_of_not_mem (hparts part hpart)
    _ = parts := List.flatMap_singleton' parts

theorem length_pieces
    (c : Char) (s : String) :
    (pieces c s).length = s.toList.count c + 1 := by
  rw [pieces, List.length_map]
  induction s.toList with
  | nil =>
      rfl
  | cons d rest ih =>
      rw [List.splitOn_cons_eq_if_modifyHead]
      split
      case isTrue heq =>
        rw [List.length_cons, ih, eq_of_beq heq, List.count_cons_self]
      case isFalse hne =>
        rw [List.length_modifyHead, ih, List.count_cons_of_ne (by simpa using hne)]

theorem length_flatMap_pieces
    (c : Char) (parts : List String) :
    (parts.flatMap (pieces c)).length =
      parts.length + (parts.flatMap String.toList).count c := by
  induction parts with
  | nil =>
      rfl
  | cons part rest ih =>
      rw [List.flatMap_cons, List.flatMap_cons, List.length_append, List.count_append,
        length_pieces, ih, List.length_cons]
      omega

/-- Parts are told apart by the separators between them exactly if no part has one. -/
theorem length_pieces_join_eq_iff
    {parts : List String} (h : parts ≠ []) :
    (pieces c (join (String.singleton c) parts)).length = parts.length ↔
      ∀ part ∈ parts, Lacks c part := by
  rw [pieces_join c h, length_flatMap_pieces, Nat.add_eq_left, List.count_eq_zero]
  simp [Lacks]

/-- The lines of a text in which every line is ended. -/
def lines (s : String) : List String :=
  (pieces '\n' s).dropLast

/-- Lines that are ended one by one are the lines of the text. -/
theorem lines_join_ended
    {parts : List String} (h : ∀ part ∈ parts, Lacks '\n' part) :
    lines (String.join (parts.map (· ++ "\n"))) = parts := by
  have hpieces : pieces '\n' (String.join (parts.map (· ++ "\n"))) = parts ++ [""] := by
    induction parts with
    | nil =>
        rfl
    | cons part rest ih =>
        obtain ⟨hpart, hrest⟩ := List.forall_mem_cons.mp h
        have hbreak : "\n" = String.singleton '\n' := rfl
        rw [List.map_cons, String.join_cons, hbreak, pieces_append, ← hbreak, ih hrest,
          pieces_of_not_mem hpart]
        rfl
  rw [lines, hpieces, List.dropLast_concat]

end Text
end Counterpart
