/-!
# Cutting and joining text

Names are cut at single characters (a dot, a nesting separator) and put together again with
a separator.  Every operation is given by what it does to the list of characters; cutting
and joining with the same character are inverse to each other.
-/

namespace Counterpart
namespace Text

/-- The pieces of a text between the occurrences of a character. -/
def pieces
    (c : Char) (s : String) :
    List String :=
  (s.toList.splitOn c).map String.ofList

/-- Parts put together, with a separator between neighbours. -/
def join
    (separator : String) (parts : List String) :
    String :=
  String.ofList (separator.toList.intercalate (parts.map String.toList))

/-- The text before the first occurrence of a character, all of it if there is none. -/
def before
    (c : Char) (s : String) :
    String :=
  String.ofList (s.toList.takeWhile (· != c))

/-- The text after the last character of a class, all of it if there is none. -/
def afterLast
    (separates : Char → Bool) (s : String) :
    String :=
  String.ofList (s.toList.reverse.takeWhile (fun c => !separates c)).reverse

/-- The text before the last occurrence of a character, empty if there is none. -/
def beforeLast
    (c : Char) (s : String) :
    String :=
  String.ofList ((s.toList.reverse.dropWhile (· != c)).drop 1).reverse

/-- What remains of a text after a leading part, if it starts with that part. -/
def afterStart?
    (start s : String) :
    Option String :=
  (start.toList.isPrefixOf? s.toList).map String.ofList

/-- What remains of a text before a closing part, if it ends with that part. -/
def beforeEnd?
    (ending s : String) :
    Option String :=
  (ending.toList.isSuffixOf? s.toList).map String.ofList

/-- Whether two texts agree up to the case of ASCII letters. -/
def sameIgnoringCase
    (left right : String) :
    Bool :=
  left.toList.map Char.toLower == right.toList.map Char.toLower

@[simp] theorem toList_join
    (separator : String) (parts : List String) :
    (join separator parts).toList =
      separator.toList.intercalate (parts.map String.toList) := by
  simp [join]

@[simp] theorem toList_before
    (c : Char) (s : String) :
    (before c s).toList = s.toList.takeWhile (· != c) := by
  simp [before]

theorem pieces_ne_nil
    (c : Char) (s : String) :
    pieces c s ≠ [] := by
  simp [pieces, List.splitOn_ne_nil]

end Text
end Counterpart
