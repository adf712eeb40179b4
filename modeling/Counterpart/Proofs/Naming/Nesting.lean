import Counterpart.Proofs.Naming.Qualified
import Counterpart.Proofs.Text.Lines

/-!
# Nesting paths put together

A nesting path of names, which are neither empty nor generic and do not have the separator of a
side, is read back from the text in which this separator joins its levels.  Plain levels have
neither dots nor any separator; joined with an underscore, they are one plain level.

* `Path.levels_eq_pieces`: pieces of a text that are names are its levels.
* `Path.ofText_join_of_isLevel`, `Path.ofText_join`: a path of names is read back.
* `Path.isSimple_join`: levels that an underscore joins.
-/

namespace Counterpart
namespace Naming

theorem Path.ofText_of_levels_eq
    {side : Side} {text : String} {path : Path} (h : levels side text = path.segments) :
    ofText side text = path := by
  have hlast : (levels side text).getLast? = some path.innermost := by
    rw [h, segments, List.getLast?_concat]
  have hfront : (levels side text).dropLast = path.enclosing := by
    rw [h, segments, List.dropLast_concat]
  simp only [ofText, hlast, hfront]

/-- A name on one level of the nesting paths of a side. -/
structure Path.IsLevel (side : Side) (level : String) : Prop where
  nonempty : level ≠ ""
  unnested : Text.Lacks side.separator level
  unmarked : Text.Lacks arityMark level

theorem IsSimple.isLevel
    {name : String} (h : IsSimple name) (side : Side) :
    Path.IsLevel side name where
  nonempty := h.nonempty
  unnested := h.unnested side
  unmarked := h.unmarked

/-- Pieces of a text that are names are its levels. -/
theorem Path.levels_eq_pieces
    {side : Side} {text : String}
    (h : ∀ level ∈ Text.pieces side.separator text, IsLevel side level) :
    levels side text = Text.pieces side.separator text := by
  have herase :
      (Text.pieces side.separator text).map eraseArity = Text.pieces side.separator text := by
    calc
      (Text.pieces side.separator text).map eraseArity =
          (Text.pieces side.separator text).map id :=
        List.map_congr_left fun level hlevel => Text.before_of_not_mem (h level hlevel).unmarked
      _ = Text.pieces side.separator text := List.map_id _
  rw [levels, herase, List.filter_eq_self]
  intro level hlevel
  simpa using (h level hlevel).nonempty

/-- A path of names is read back from the text in which the separator joins them. -/
theorem Path.ofText_join_of_isLevel
    {side : Side} {path : Path} (h : ∀ level ∈ path.segments, IsLevel side level) :
    ofText side (Text.join (String.singleton side.separator) path.segments) = path := by
  have hpieces :
      Text.pieces side.separator (Text.join (String.singleton side.separator) path.segments) =
        path.segments :=
    Text.pieces_join_of_lacks path.segments_ne_nil fun level hlevel => (h level hlevel).unnested
  apply ofText_of_levels_eq
  rw [levels_eq_pieces, hpieces]
  rw [hpieces]
  exact h

/-- The pieces of a text are plain levels if they are not empty and have no dot, no arity mark and
no separator of the other side. -/
theorem isSimple_of_mem_pieces
    {text level : String} (h : level ∈ Text.pieces Side.reference.separator text)
    (nonempty : level ≠ "") (undotted : '.' ∉ level.toList) (unmarked : arityMark ∉ level.toList)
    (unnested : Side.target.separator ∉ level.toList) :
    IsSimple level where
  nonempty := nonempty
  undotted := undotted
  unnested side := by
    cases side with
    | reference =>
        exact Text.lacks_of_mem_pieces h
    | target =>
        exact unnested
  unmarked := unmarked

namespace Path

variable {path : Path} (h : ∀ level ∈ path.segments, IsSimple level)
include h

/-- A path of plain levels is read back on either side. -/
theorem ofText_join
    (side : Side) :
    ofText side (Text.join (String.singleton side.separator) path.segments) = path :=
  ofText_join_of_isLevel fun level hlevel => (h level hlevel).isLevel side

theorem lacks_dot_join
    {separator : String} (hseparator : Text.Lacks '.' separator) :
    Text.Lacks '.' (Text.join separator path.segments) :=
  Text.lacks_join hseparator fun level hlevel => (h level hlevel).undotted

/-- Plain levels that an underscore joins are one plain level. -/
theorem isSimple_join :
    IsSimple (Text.join "_" path.segments) where
  nonempty := by
    have hinnermost : path.innermost ∈ path.segments := by
      simp [segments]
    exact Text.join_ne_empty "_" hinnermost (h _ hinnermost).nonempty
  undotted := lacks_dot_join h (by decide)
  unnested side := by
    apply Text.lacks_join (by cases side <;> decide)
    exact fun level hlevel => (h level hlevel).unnested side
  unmarked := by
    apply Text.lacks_join (by decide)
    exact fun level hlevel => (h level hlevel).unmarked

end Path

end Naming

end Counterpart
