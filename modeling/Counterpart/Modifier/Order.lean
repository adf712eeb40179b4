import Counterpart.Kind

/-!
# Order of modifiers for display

Modifiers are shown once each, in the precedence of their side; tokens without a precedence
follow in the order of their characters.
-/

namespace Counterpart
namespace Modifier

/-- The modifiers of a side in the order of display. -/
def precedence : Side → List String
  | .reference =>
    [ "public", "protected", "private", "abstract", "static", "final", "synchronized",
      "volatile", "transient", "native", "strictfp" ]
  | .target =>
    [ "public", "protected", "private", "internal", "protected internal",
      "private protected", "abstract", "sealed", "static", "readonly", "volatile", "extern",
      "unsafe", "new", "virtual", "override", "async", "const" ]

/-- The position of a token in the precedence of a side, past the end if it has none. -/
def rank (side : Side) (token : String) : Nat :=
  (precedence side).idxOf token

/-- The order of display of two tokens. -/
def displayOrder (side : Side) : String → String → Ordering :=
  compareLex (compareOn (rank side)) compare

/-- The tokens of a list for display: each once, in the order of display. -/
def sorted (side : Side) (tokens : List String) : List String :=
  tokens.eraseDups.mergeSort (fun a b => (displayOrder side a b).isLE)

theorem mem_sorted_iff
    {side : Side} {tokens : List String} {token : String} :
    token ∈ sorted side tokens ↔ token ∈ tokens := by
  simp [sorted, List.mem_mergeSort]

end Modifier
end Counterpart
