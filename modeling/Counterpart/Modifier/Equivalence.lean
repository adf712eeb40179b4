import Counterpart.Kind

/-!
# Equivalence of modifiers

Modifier tokens of the two sides are compared by their meaning in a shared vocabulary: some
tokens mean nothing across the sides, finality is written differently, and a reference
member without visibility is visible like an internal one.  Order and repetition of tokens
never matter.
-/

namespace Counterpart
namespace Modifier

/-- What the modifiers belong to. -/
inductive Usage
  | onType
  | onMember
  deriving DecidableEq

/-- Tokens of reference members that describe an implementation only. -/
def referenceIncidental : List String :=
  ["synchronized", "transient", "native", "strictfp"]

/-- Tokens of target members that describe an implementation only. -/
def targetIncidental : List String :=
  ["virtual", "override", "new", "extern", "unsafe", "async"]

/-- Tokens that state the visibility of a reference member. -/
def visibilityTokens : List String :=
  ["public", "protected", "private"]

/-- The meaning of a token in the shared vocabulary, if it has one.

`static` has none: it tells a nested class on one side and a class without instances on the
other, and a member states it apart from its modifiers. -/
def meaning (usage : Usage) (side : Side) (token : String) : Option String :=
  if token = "static" then none
  else
    match usage, side with
    | .onType, .reference => some (if token = "final" then "sealed" else token)
    | .onType, .target => some token
    | .onMember, .reference =>
      if referenceIncidental.contains token then none
      else some (if token = "final" then "sealed" else token)
    | .onMember, .target =>
      if targetIncidental.contains token then none
      else some (if token = "readonly" then "sealed" else token)

/-- The tokens that a list of modifiers implies without stating them. -/
def implied (usage : Usage) (side : Side) (tokens : List String) : List String :=
  match usage, side with
  | .onMember, .reference =>
    if visibilityTokens.any tokens.contains then [] else ["internal"]
  | _, _ => []

/-- The meanings of a list of modifiers, stated and implied. -/
def meanings (usage : Usage) (side : Side) (tokens : List String) : List String :=
  implied usage side tokens ++ tokens.filterMap (meaning usage side)

def sameTokens (left right : List String) : Bool :=
  left.all right.contains && right.all left.contains

/-- Whether the modifiers of two members mean the same. -/
def agreeOnMembers (reference target : List String) : Bool :=
  sameTokens (meanings .onMember .reference reference) (meanings .onMember .target target)

/-- Whether the modifiers of two types mean the same; the side that is not public if one is
not, the reference side first. -/
def agreeOnTypes (reference target : List String) : Except Side Bool :=
  if !reference.contains "public" then .error .reference
  else if !target.contains "public" then .error .target
  else .ok (sameTokens (meanings .onType .reference reference) (meanings .onType .target target))

/-- Whether two lists of modifiers mean the same; types have to be public. -/
def agree
    (usage : Usage) (reference target : List String) :
    Except Side Bool :=
  match usage with
  | .onType => agreeOnTypes reference target
  | .onMember => .ok (agreeOnMembers reference target)

/-- The message about a type that is not public. -/
def notPublicMessage (side : Side) : String :=
  s!"{side.label} type is missing the public modifier"

theorem mem_sameTokens_iff {left right : List String} :
    sameTokens left right = true ↔ ∀ token, token ∈ left ↔ token ∈ right := by
  simp only [sameTokens, Bool.and_eq_true, List.all_eq_true, List.contains_eq_mem,
    decide_eq_true_eq]
  exact ⟨fun h token => ⟨h.1 token, h.2 token⟩,
    fun h => ⟨fun token => (h token).1, fun token => (h token).2⟩⟩

end Modifier
end Counterpart
