import Counterpart.Naming.Convention

/-!
# Nesting paths

The path of a type below its package: the enclosing types, outermost first, and the
innermost name.  Reading a path cuts the text at the side's separator, erases the arity of
every level and drops empty levels; a text of empty levels only is a path of one level.
-/

namespace Counterpart
namespace Naming

/-- A nesting path. -/
structure Path where
  /-- The names of the enclosing types, outermost first. -/
  enclosing : List String
  innermost : String
  deriving DecidableEq

namespace Path

def segments (path : Path) : List String :=
  path.enclosing ++ [path.innermost]

def dotted (path : Path) : String :=
  Text.join "." path.segments

/-- Whether the path has more than one level. -/
def isNested (path : Path) : Bool :=
  !path.enclosing.isEmpty

/-- The single names that a nested path may be flattened to: all levels joined with an
underscore, or the innermost name alone. -/
def flattened (path : Path) : List String :=
  if path.isNested then [Text.join "_" path.segments, path.innermost] else []

def rename (path : Path) (name : String) : Path :=
  { path with innermost := name }

/-- The levels found in a text: no arity, no empty level. -/
def levels (side : Side) (text : String) : List String :=
  ((Text.pieces side.separator text).map eraseArity).filter (fun level => level != "")

/-- The path that a text spells on a side. -/
def ofText (side : Side) (text : String) : Path :=
  match (levels side text).getLast? with
  | some innermost => ⟨(levels side text).dropLast, innermost⟩
  | none => ⟨[], text⟩

theorem segments_ne_nil (path : Path) : path.segments ≠ [] := by
  simp [segments]

@[simp] theorem segments_rename (path : Path) (name : String) :
    (path.rename name).segments = path.enclosing ++ [name] :=
  rfl

theorem flattened_of_not_isNested
    {path : Path} (h : path.isNested = false) :
    path.flattened = [] := by
  simp [flattened, h]

theorem segments_ofText_of_levels_ne_nil
    {side : Side} {text : String} (h : levels side text ≠ []) :
    (ofText side text).segments = levels side text := by
  unfold ofText segments
  rw [List.getLast?_eq_some_getLast h]
  exact List.dropLast_concat_getLast h

theorem ofText_of_levels_eq_nil
    {side : Side} {text : String} (h : levels side text = []) :
    ofText side text = ⟨[], text⟩ := by
  simp [ofText, h]

end Path
end Naming
end Counterpart
