import Counterpart.Proofs.Naming.Nesting
import Mathlib.Data.Setoid.Basic

/-!
# The normal form of nesting paths

A text can spell a nesting path with more separators than stand between its levels, and with
arities.  All these spellings have the same path, and its levels, joined by the separator, are the
plainest of them.  A text without any name cannot be made plainer and stands for itself.

* `Path.isLevel_of_mem_levels`: every level is a name.
* `Path.adorned_join_ofText`: every text is a spelling of the levels of its path.
* `Path.ofText_join_ofText`: a path is read back from its levels.
* `Path.ofText_eq_iff_adorned`: which texts have the path of a text with a name.
* `Path.paths_are_in_normal_form`: the path of a text as its normal form.
-/

namespace Counterpart
namespace Naming
namespace Path

/-- A text has a name on some level. -/
def HasName (side : Side) (text : String) : Prop :=
  ∃ piece ∈ Text.pieces side.separator text, eraseArity piece ≠ ""

instance (side : Side) (text : String) : Decidable (HasName side text) :=
  inferInstanceAs
    (Decidable (∃ piece ∈ Text.pieces side.separator text, eraseArity piece ≠ ""))

/-- A text with one separator or arity more than another one. -/
inductive Adorns (side : Side) : String → String → Prop
  /-- A separator in front of the outermost level. -/
  | leading (text : String) :
      Adorns side text (String.singleton side.separator ++ text)
  /-- A separator behind the innermost level. -/
  | trailing (text : String) :
      Adorns side text (text ++ String.singleton side.separator)
  /-- A separator next to a separator. -/
  | repeated (front back : String) :
      Adorns side (front ++ String.singleton side.separator ++ back)
        (front ++ String.singleton side.separator ++ String.singleton side.separator ++ back)
  /-- An arity of the innermost level. -/
  | innermost (text : String) {arity : String}
      (unnested : Text.Lacks side.separator arity) :
      Adorns side text (text ++ String.singleton arityMark ++ arity)
  /-- An arity of an enclosing level. -/
  | enclosing (front back : String) {arity : String}
      (unnested : Text.Lacks side.separator arity) :
      Adorns side (front ++ String.singleton side.separator ++ back)
        (front ++ String.singleton arityMark ++ arity ++ String.singleton side.separator ++ back)

/-- Two spellings of the same levels.  One becomes the other if separators and arities are put in
and taken out. -/
abbrev Adorned (side : Side) : String → String → Prop :=
  Relation.EqvGen (Adorns side)

section Levels

variable {side : Side} {text text' : String}

/-- Every level is a name. -/
theorem isLevel_of_mem_levels
    {level : String} (h : level ∈ levels side text) :
    IsLevel side level := by
  obtain ⟨hmem, hnonempty⟩ := List.mem_filter.mp h
  obtain ⟨piece, hpiece, rfl⟩ := List.mem_map.mp hmem
  exact
    { nonempty := by simpa using hnonempty
      unnested := Text.lacks_before (Text.lacks_of_mem_pieces hpiece)
      unmarked := Text.not_mem_before arityMark piece }

theorem not_hasName_iff :
    ¬ HasName side text ↔ ∀ piece ∈ Text.pieces side.separator text, eraseArity piece = "" := by
  simp only [HasName, not_exists, not_and, not_not]

theorem levels_eq_nil_iff :
    levels side text = [] ↔ ¬ HasName side text := by
  rw [not_hasName_iff]
  simp [levels, List.filter_eq_nil_iff]

@[simp] theorem levels_empty
    (side : Side) :
    levels side "" = [] := by
  cases side <;> decide

/-- The levels in front of a separator and behind it. -/
theorem levels_append
    (side : Side) (front back : String) :
    levels side (front ++ String.singleton side.separator ++ back) =
      levels side front ++ levels side back := by
  simp only [levels, Text.pieces_append, List.map_append, List.filter_append]

theorem levels_of_lacks
    (h : Text.Lacks side.separator text) :
    levels side text = [eraseArity text].filter (fun level => level != "") := by
  rw [levels, Text.pieces_of_not_mem h, List.map_singleton]

theorem levels_append_arity_of_lacks
    {arity : String} (h : Text.Lacks side.separator text)
    (unnested : Text.Lacks side.separator arity) :
    levels side (text ++ String.singleton arityMark ++ arity) = levels side text := by
  have hmark : Text.Lacks side.separator (String.singleton arityMark) := by
    cases side <;> decide
  have hwhole : Text.Lacks side.separator (text ++ String.singleton arityMark ++ arity) :=
    Text.lacks_append.mpr ⟨Text.lacks_append.mpr ⟨h, hmark⟩, unnested⟩
  rw [levels_of_lacks hwhole, levels_of_lacks h, eraseArity, Text.before_append_singleton,
    eraseArity]

/-- The innermost level may have an arity. -/
theorem levels_append_arity
    (text : String) {arity : String} (unnested : Text.Lacks side.separator arity) :
    levels side (text ++ String.singleton arityMark ++ arity) = levels side text := by
  -- Only the last piece of the text is changed.
  by_cases hnested : side.separator ∈ text.toList
  · obtain ⟨front, last, rfl, hlast⟩ := Text.exists_eq_append_of_mem hnested
    have hsplit :
        front ++ String.singleton side.separator ++ last ++ String.singleton arityMark ++ arity =
          front ++ String.singleton side.separator ++
            (last ++ String.singleton arityMark ++ arity) := by
      simp only [String.append_assoc]
    rw [hsplit, levels_append, levels_append, levels_append_arity_of_lacks hlast unnested]
  · exact levels_append_arity_of_lacks hnested unnested

/-- Neither separators nor arities in addition change the levels. -/
theorem Adorns.levels_eq
    (h : Adorns side text text') :
    levels side text' = levels side text := by
  cases h with
  | leading =>
      have hsplit := levels_append side "" text
      rwa [String.empty_append, levels_empty, List.nil_append] at hsplit
  | trailing =>
      have hsplit := levels_append side text ""
      rwa [String.append_empty, levels_empty, List.append_nil] at hsplit
  | repeated front back =>
      have hsplit := levels_append side front ""
      rw [String.append_empty, levels_empty, List.append_nil] at hsplit
      rw [levels_append, levels_append, hsplit]
  | innermost _ unnested =>
      exact levels_append_arity text unnested
  | enclosing front back unnested =>
      rw [levels_append, levels_append, levels_append_arity front unnested]

theorem levels_eq_of_adorned
    (h : Adorned side text text') :
    levels side text' = levels side text := by
  have hker : Setoid.ker (levels side) text text' :=
    Setoid.eqvGen_le (fun _ _ adorns => adorns.levels_eq.symm) h
  exact hker.symm

end Levels

section Spellings

variable {side : Side} {text text' : String}

/-- What is adorned may stand behind a separator. -/
theorem Adorns.nested
    (front : String) (h : Adorns side text text') :
    Adorns side (front ++ String.singleton side.separator ++ text)
      (front ++ String.singleton side.separator ++ text') := by
  cases h with
  | leading =>
      simpa only [String.append_assoc] using Adorns.repeated front text
  | trailing =>
      simpa only [String.append_assoc] using
        Adorns.trailing (front ++ String.singleton side.separator ++ text)
  | repeated first second =>
      simpa only [String.append_assoc] using
        Adorns.repeated (front ++ String.singleton side.separator ++ first) second
  | innermost _ unnested =>
      simpa only [String.append_assoc] using
        Adorns.innermost (front ++ String.singleton side.separator ++ text) unnested
  | enclosing first second unnested =>
      simpa only [String.append_assoc] using
        Adorns.enclosing (front ++ String.singleton side.separator ++ first) second unnested

theorem adorned_nested
    (front : String) (h : Adorned side text text') :
    Adorned side (front ++ String.singleton side.separator ++ text)
      (front ++ String.singleton side.separator ++ text') := by
  induction h with
  | rel _ _ adorns =>
      exact .rel _ _ (adorns.nested front)
  | refl _ =>
      exact .refl _
  | symm _ _ _ ih =>
      exact .symm _ _ ih
  | trans _ _ _ _ _ first second =>
      exact .trans _ _ _ first second

/-- A piece of a text is its name, with or without an arity. -/
theorem eraseArity_eq_or_exists
    (h : Text.Lacks side.separator text) :
    eraseArity text = text ∨
      ∃ arity, Text.Lacks side.separator arity ∧
        eraseArity text ++ String.singleton arityMark ++ arity = text := by
  rcases Text.eq_before_or_exists arityMark text with hplain | ⟨arity, hgeneric⟩
  · exact Or.inl hplain
  · rw [← hgeneric, Text.lacks_append] at h
    exact Or.inr ⟨arity, h.2, hgeneric⟩

/-- A piece is a spelling of its name. -/
theorem adorned_eraseArity
    (h : Text.Lacks side.separator text) :
    Adorned side text (eraseArity text) := by
  rcases eraseArity_eq_or_exists h with hplain | ⟨arity, unnested, hgeneric⟩
  · rw [hplain]
    exact .refl _
  · have hadorns := Adorns.innermost (eraseArity text) unnested
    rw [hgeneric] at hadorns
    exact .symm _ _ (.rel _ _ hadorns)

/-- It is so in front of other pieces as well. -/
theorem adorned_eraseArity_append
    (h : Text.Lacks side.separator text) (back : String) :
    Adorned side (text ++ String.singleton side.separator ++ back)
      (eraseArity text ++ String.singleton side.separator ++ back) := by
  rcases eraseArity_eq_or_exists h with hplain | ⟨arity, unnested, hgeneric⟩
  · rw [hplain]
    exact .refl _
  · have hadorns := Adorns.enclosing (eraseArity text) back unnested
    rw [hgeneric] at hadorns
    exact .symm _ _ (.rel _ _ hadorns)

theorem join_filter_singleton
    (separator name : String) :
    Text.join separator ([name].filter (fun level => level != "")) = name := by
  by_cases hempty : name = ""
  · simp [hempty, Text.join]
  · have hkept : [name].filter (fun level => level != "") = [name] := by
      simpa using hempty
    rw [hkept, Text.join_singleton]

/-- A separator behind no name, or in front of none, may be left out. -/
theorem adorned_join_filter_append
    (side : Side) (name : String) (names : List String) :
    Adorned side
      (name ++ String.singleton side.separator ++ Text.join (String.singleton side.separator) names)
      (Text.join (String.singleton side.separator)
        ([name].filter (fun level => level != "") ++ names)) := by
  cases names with
  | nil =>
      have hnone : Text.join (String.singleton side.separator) [] = "" := by
        simp [Text.join]
      rw [hnone, String.append_empty, List.append_nil, join_filter_singleton]
      exact .symm _ _ (.rel _ _ (.trailing name))
  | cons next others =>
      by_cases hempty : name = ""
      · have hkept : [name].filter (fun level => level != "") = [] := by
          simpa using hempty
        rw [hkept, List.nil_append, hempty, String.empty_append]
        exact .symm _ _ (.rel _ _ (.leading _))
      · have hkept : [name].filter (fun level => level != "") = [name] := by
          simpa using hempty
        rw [hkept, List.singleton_append, Text.join_cons_cons]
        exact .refl _

/-- Pieces that are joined are a spelling of their names. -/
theorem adorned_join_pieces
    {pieces : List String} (nonempty : pieces ≠ [])
    (unnested : ∀ piece ∈ pieces, Text.Lacks side.separator piece) :
    Adorned side (Text.join (String.singleton side.separator) pieces)
      (Text.join (String.singleton side.separator)
        ((pieces.map eraseArity).filter (fun level => level != ""))) := by
  induction pieces with
  | nil =>
      contradiction
  | cons piece rest ih =>
      obtain ⟨hpiece, hrest⟩ := List.forall_mem_cons.mp unnested
      cases rest with
      | nil =>
          rw [Text.join_singleton, List.map_singleton, join_filter_singleton]
          exact adorned_eraseArity hpiece
      | cons next others =>
          have hnames :
              ((piece :: next :: others).map eraseArity).filter (fun level => level != "") =
                [eraseArity piece].filter (fun level => level != "") ++
                  ((next :: others).map eraseArity).filter (fun level => level != "") := by
            rw [List.map_cons, ← List.singleton_append, List.filter_append]
          have hinner := adorned_nested (eraseArity piece) (ih (List.cons_ne_nil _ _) hrest)
          rw [Text.join_cons_cons, hnames]
          -- First the outermost piece becomes its name, then the pieces behind it become theirs.
          exact .trans _ _ _ (adorned_eraseArity_append hpiece _)
            (.trans _ _ _ hinner (adorned_join_filter_append side (eraseArity piece) _))

theorem adorned_join_levels
    (side : Side) (text : String) :
    Adorned side text (Text.join (String.singleton side.separator) (levels side text)) := by
  have hpieces := adorned_join_pieces (Text.pieces_ne_nil side.separator text) fun _ hpiece =>
    Text.lacks_of_mem_pieces hpiece
  rwa [Text.join_pieces] at hpieces

end Spellings

section NormalForm

variable {side : Side} {text text' : String}

theorem segments_ofText_of_hasName
    (h : HasName side text) :
    (ofText side text).segments = levels side text :=
  segments_ofText_of_levels_ne_nil (levels_eq_nil_iff.not_left.mpr h)

theorem ofText_of_not_hasName
    (h : ¬ HasName side text) :
    ofText side text = ⟨[], text⟩ :=
  ofText_of_levels_eq_nil (levels_eq_nil_iff.mpr h)

theorem isLevel_of_mem_segments
    (h : HasName side text) {level : String} (hlevel : level ∈ (ofText side text).segments) :
    IsLevel side level := by
  rw [segments_ofText_of_hasName h] at hlevel
  exact isLevel_of_mem_levels hlevel

/-- A path is read back from its levels. -/
theorem ofText_join_ofText
    (side : Side) (text : String) :
    ofText side (Text.join (String.singleton side.separator) (ofText side text).segments) =
      ofText side text := by
  by_cases h : HasName side text
  · exact ofText_join_of_isLevel fun _ hlevel => isLevel_of_mem_segments h hlevel
  · have hself := ofText_of_not_hasName h
    rw [hself, segments, List.nil_append, Text.join_singleton, hself]

/-- Every text is a spelling of its path. -/
theorem adorned_join_ofText
    (side : Side) (text : String) :
    Adorned side text
      (Text.join (String.singleton side.separator) (ofText side text).segments) := by
  by_cases h : HasName side text
  · rw [segments_ofText_of_hasName h]
    exact adorned_join_levels side text
  · rw [ofText_of_not_hasName h, segments, List.nil_append, Text.join_singleton]
    exact .refl _

/-- The texts that have the same path as a text with a name are its spellings. -/
theorem ofText_eq_iff_adorned
    (h : HasName side text) :
    ofText side text' = ofText side text ↔ Adorned side text text' := by
  constructor
  · intro same
    have htext' := adorned_join_ofText side text'
    rw [same] at htext'
    exact .trans _ _ _ (adorned_join_ofText side text) (.symm _ _ htext')
  · intro adorned
    apply ofText_of_levels_eq
    rw [levels_eq_of_adorned adorned, segments_ofText_of_hasName h]

/-- The path of a text is a normal form.  Its levels are names, unless there is no name in the text,
which is then the only level; the path is read back from its levels; and the texts that have the
same path as a text with a name are those that differ from it by separators and arities. -/
theorem paths_are_in_normal_form
    (side : Side) (text : String) :
    ((∀ piece ∈ Text.pieces side.separator text, eraseArity piece = "") ∧
          (ofText side text).segments = [text] ∨
        HasName side text ∧ ∀ level ∈ (ofText side text).segments, IsLevel side level) ∧
      ofText side (Text.join (String.singleton side.separator) (ofText side text).segments) =
        ofText side text ∧
      (HasName side text →
        ∀ text', ofText side text' = ofText side text ↔ Adorned side text text') := by
  refine ⟨?_, ofText_join_ofText side text, fun h _ => ofText_eq_iff_adorned h⟩
  by_cases h : HasName side text
  · exact Or.inr ⟨h, fun _ hlevel => isLevel_of_mem_segments h hlevel⟩
  · refine Or.inl ⟨not_hasName_iff.mp h, ?_⟩
    rw [ofText_of_not_hasName h, segments, List.nil_append]

end NormalForm

section Samples

/-- The path of an entry in a cache, with an arity of the cache and more separators than one. -/
theorem adorned_cacheEntry :
    Adorned .target "Cache+Entry" "+Cache\x602++Entry+" := by
  have hleading : Adorns .target "Cache+Entry" "+Cache+Entry" :=
    .leading "Cache+Entry"
  have harity : Adorns .target "+Cache+Entry" "+Cache\x602+Entry" :=
    .enclosing "+Cache" "Entry" (by decide : Text.Lacks Side.target.separator "2")
  have hrepeated : Adorns .target "+Cache\x602+Entry" "+Cache\x602++Entry" :=
    .repeated "+Cache\x602" "Entry"
  have htrailing : Adorns .target "+Cache\x602++Entry" "+Cache\x602++Entry+" :=
    .trailing "+Cache\x602++Entry"
  exact .trans _ _ _ (.rel _ _ hleading)
    (.trans _ _ _ (.rel _ _ harity) (.trans _ _ _ (.rel _ _ hrepeated) (.rel _ _ htrailing)))

theorem paths_are_in_normal_form_cache_entry :
    HasName .target "Cache+Entry" ∧
      Adorned .target "Cache+Entry" "+Cache\x602++Entry+" ∧
      ofText .target "+Cache\x602++Entry+" = ofText .target "Cache+Entry" ∧
      (ofText .target "Cache+Entry").segments = ["Cache", "Entry"] := by
  have hname : HasName .target "Cache+Entry" := by decide
  refine ⟨hname, adorned_cacheEntry, ?_, by decide⟩
  exact ((paths_are_in_normal_form .target "Cache+Entry").2.2 hname _).mpr adorned_cacheEntry

end Samples

end Path
end Naming
end Counterpart
