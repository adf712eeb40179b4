/-!
# White space

The Unicode property `White_Space`, and text without its surrounding white space.
-/

namespace Counterpart
namespace Text

/-- The code points with the property `White_Space`. -/
def blankCodes : List Nat :=
  [ 0x0009, 0x000A, 0x000B, 0x000C, 0x000D, 0x0020, 0x0085, 0x00A0, 0x1680, 0x2000, 0x2001,
    0x2002, 0x2003, 0x2004, 0x2005, 0x2006, 0x2007, 0x2008, 0x2009, 0x200A, 0x2028, 0x2029,
    0x202F, 0x205F, 0x3000 ]

def isBlankChar (c : Char) : Bool :=
  blankCodes.contains c.toNat

/-- Whether a text is empty or white space only. -/
def isBlank (s : String) : Bool :=
  s.toList.all isBlankChar

/-- A text without its leading and trailing white space. -/
def trim (s : String) : String :=
  String.ofList
    ((s.toList.dropWhile isBlankChar).reverse.dropWhile isBlankChar).reverse

end Text
end Counterpart
