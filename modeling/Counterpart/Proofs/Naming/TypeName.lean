import Counterpart.Naming.TypeName
import Mathlib.Data.List.TakeWhile

/-!
# Type names put together

A type is written as the name of its element type, followed by type arguments and array suffixes.
Whatever stands in the arguments, reading such a text gives the element name back.  The array
suffixes are only counted where no arguments stand in front of them: reading a text ends with the
first argument, so all that is written behind is lost.

* `ofText_written`: what is read of a type that is put together.
* `ofText_of_isElement`: an element name alone is read as it is.
-/

namespace Counterpart

namespace Text

theorem dropWhile_append_eq_self
    {α : Type} {test : α → Bool} {front back : List α}
    (hfront : front.dropWhile test = front) (hback : back.dropWhile test = back) :
    (front ++ back).dropWhile test = front ++ back := by
  cases front with
  | nil =>
      exact hback
  | cons first rest =>
      rw [List.dropWhile_eq_self_iff] at hfront ⊢
      exact fun _ => hfront (Nat.zero_lt_succ _)

theorem dropWhile_eq_self_of_forall
    {α : Type} {test : α → Bool} {l : List α}
    (h : ∀ a ∈ l, test a = false) :
    l.dropWhile test = l := by
  rw [List.dropWhile_eq_self_iff]
  intro hl
  simp [h _ (List.getElem_mem hl)]

/-- A text keeps its ends if and only if it neither starts nor ends with white space. -/
theorem trim_eq_self_iff
    {s : String} :
    trim s = s ↔
      s.toList.dropWhile isBlankChar = s.toList ∧
        s.toList.reverse.dropWhile isBlankChar = s.toList.reverse := by
  constructor
  · intro h
    have hlist :
        ((s.toList.dropWhile isBlankChar).reverse.dropWhile isBlankChar).reverse = s.toList := by
      simpa [trim] using congrArg String.toList h
    have hlength := congrArg List.length hlist
    have hback :=
      (List.dropWhile_suffix (l := (s.toList.dropWhile isBlankChar).reverse)
        isBlankChar).length_le
    rw [List.length_reverse] at hlength hback
    have hfront : s.toList.dropWhile isBlankChar = s.toList :=
      (List.dropWhile_suffix isBlankChar).eq_of_length_le (by omega)
    rw [hfront] at hlist
    exact ⟨hfront, List.reverse_eq_iff.mp hlist⟩
  · rintro ⟨hfront, hback⟩
    rw [trim, hfront, hback, List.reverse_reverse, String.ofList_toList]

end Text

namespace Naming
namespace TypeName

/-- A name that is written as it is: without type arguments, array suffixes and surrounding white
space. -/
structure IsElement (name : String) : Prop where
  arguments : '<' ∉ name.toList
  arrays : '[' ∉ name.toList
  trimmed : Text.trim name = name

instance (name : String) : Decidable (IsElement name) :=
  decidable_of_iff ('<' ∉ name.toList ∧ '[' ∉ name.toList ∧ Text.trim name = name)
    ⟨fun h => ⟨h.1, h.2.1, h.2.2⟩, fun h => ⟨h.arguments, h.arrays, h.trimmed⟩⟩

/-- Type arguments as they are written behind an element name. -/
inductive Arguments
  | absent
  | angled (text : String)
  | bracketed (text : String)

namespace Arguments

def text : Arguments → String
  | absent => ""
  | angled text => "<" ++ text ++ ">"
  | bracketed text => "[[" ++ text ++ "]]"

/-- How many array suffixes are counted: none of those behind arguments. -/
def countedRank : Arguments → Nat → Nat
  | absent, rank => rank
  | angled _, _ => 0
  | bracketed _, _ => 0

end Arguments

/-- A number of array suffixes. -/
def suffixes : Nat → String
  | 0 => ""
  | rank + 1 => "[]" ++ suffixes rank

/-- A type as it is written. -/
def written (element : String) (arguments : Arguments) (rank : Nat) : String :=
  element ++ arguments.text ++ suffixes rank

theorem toList_suffixes_succ
    (rank : Nat) :
    (suffixes (rank + 1)).toList = '[' :: ']' :: (suffixes rank).toList := by
  rw [suffixes, String.toList_append]
  rfl

theorem isBlankChar_eq_false_of_mem_suffixes
    {rank : Nat} {c : Char} (h : c ∈ (suffixes rank).toList) :
    Text.isBlankChar c = false := by
  induction rank with
  | zero =>
      simp [suffixes] at h
  | succ rank ih =>
      rw [toList_suffixes_succ, List.mem_cons, List.mem_cons] at h
      rcases h with rfl | rfl | h
      · decide
      · decide
      · exact ih h

/-- A name with array suffixes has no surrounding white space either. -/
theorem trim_append_suffixes
    {element : String} (trimmed : Text.trim element = element) (rank : Nat) :
    Text.trim (element ++ suffixes rank) = element ++ suffixes rank := by
  obtain ⟨hfront, hback⟩ := Text.trim_eq_self_iff.mp trimmed
  rw [Text.trim_eq_self_iff, String.toList_append, List.reverse_append]
  constructor
  · refine Text.dropWhile_append_eq_self hfront (Text.dropWhile_eq_self_of_forall fun c hc => ?_)
    exact isBlankChar_eq_false_of_mem_suffixes hc
  · refine Text.dropWhile_append_eq_self (Text.dropWhile_eq_self_of_forall fun c hc => ?_) hback
    exact isBlankChar_eq_false_of_mem_suffixes (List.mem_reverse.mp hc)

theorem beforeArguments_cons
    {c : Char} (argument : c ≠ '<') (array : c ≠ '[') (rest : List Char) :
    beforeArguments (c :: rest) = c :: beforeArguments rest := by
  rw [beforeArguments]
  · exact argument
  · exact fun _ h _ => array h

/-- An element name stays in front of the arguments. -/
theorem beforeArguments_append
    {l : List Char}
    (arguments : '<' ∉ l) (arrays : '[' ∉ l) (rest : List Char) :
    beforeArguments (l ++ rest) = l ++ beforeArguments rest := by
  induction l with
  | nil =>
      rfl
  | cons c l ih =>
      rw [List.mem_cons, not_or] at arguments arrays
      rw [List.cons_append, beforeArguments_cons (Ne.symm arguments.1) (Ne.symm arrays.1),
        ih arguments.2 arrays.2, List.cons_append]

theorem beforeArguments_suffixes
    (rank : Nat) :
    beforeArguments (suffixes rank).toList = (suffixes rank).toList := by
  induction rank with
  | zero =>
      rfl
  | succ rank ih =>
      rw [toList_suffixes_succ]
      simp [beforeArguments, ih]

/-- What is in front of the arguments: with arguments, the suffixes are cut off as well. -/
theorem beforeArguments_written
    {element : String} (h : IsElement element) (arguments : Arguments) (rank : Nat) :
    String.ofList (beforeArguments (written element arguments rank).toList) =
      element ++ suffixes (arguments.countedRank rank) := by
  rw [written, String.append_assoc, String.toList_append,
    beforeArguments_append h.arguments h.arrays, String.ofList_append, String.ofList_toList]
  congr 1
  cases arguments with
  | absent =>
      rw [Arguments.text, String.empty_append, beforeArguments_suffixes, String.ofList_toList]
      rfl
  | angled text =>
      simp [Arguments.text, Arguments.countedRank, beforeArguments, suffixes]
  | bracketed text =>
      simp [Arguments.text, Arguments.countedRank, beforeArguments, suffixes]

theorem peelArrays_eq_self
    {l : List Char} (arrays : '[' ∉ l) :
    peelArrays l = (0, l) := by
  unfold peelArrays
  split <;> simp_all

/-- Every array suffix at the end of a text is counted. -/
theorem peelArrays_suffixes
    (rank : Nat) (l : List Char) :
    peelArrays ((suffixes rank).toList.reverse ++ l) =
      ((peelArrays l).1 + rank, (peelArrays l).2) := by
  induction rank generalizing l with
  | zero =>
      rfl
  | succ rank ih =>
      rw [toList_suffixes_succ, List.reverse_cons, List.reverse_cons, List.append_assoc,
        List.append_assoc, ih]
      simp only [List.cons_append, List.nil_append, peelArrays]
      congr 1
      omega

/-- Reading a type that is put together gives its element name back, and its rank if no arguments
stand in front of the array suffixes. -/
theorem ofText_written
    {element : String} (h : IsElement element) (arguments : Arguments) (rank : Nat) :
    ofText (written element arguments rank) = ⟨element, arguments.countedRank rank⟩ := by
  have harrays : '[' ∉ element.toList.reverse := by
    simpa using h.arrays
  simp only [ofText, beforeArguments_written h, trim_append_suffixes h.trimmed,
    String.toList_append, List.reverse_append, peelArrays_suffixes, peelArrays_eq_self harrays,
    List.reverse_reverse, String.ofList_toList, Nat.zero_add]

theorem ofText_of_isElement
    {name : String} (h : IsElement name) :
    ofText name = ⟨name, 0⟩ := by
  simpa [written, Arguments.text, Arguments.countedRank, suffixes] using
    ofText_written h .absent 0

end TypeName
end Naming
end Counterpart
