import Counterpart.Json.Reader
import Counterpart.Proofs.Json.Spelling

/-!
# Values are read back as they are written

A value is read back from its text if its counts fit in 64 bits and its arrays and objects do not
enclose each other too deeply, on one line as well as over several lines.

* `Json.FitsIn`: the values that can be written and read.
* `Json.spells_compact`, `Json.spells_indented`: both texts spell the tokens of the value.
* `Json.FitsIn.foldlM_step_eq`: the tokens of a value are read into it, wherever it stands.
* `Json.FitsIn.read?_of_mem_texts`: either text is read back.
-/

namespace Counterpart
namespace Json

/-- The values with at most a given number of arrays and objects inside each other, each part of
which can be written and read. -/
inductive FitsIn : Nat → Json → Prop
  | null {levels : Nat} : FitsIn levels .null
  | bool {levels : Nat} (value : Bool) : FitsIn levels (.bool value)
  | natural {levels value : Nat} (lt : value < 2 ^ 64) : FitsIn levels (.natural value)
  | string {levels : Nat} (text : String) : FitsIn levels (.string text)
  | array {levels : Nat} {items : List Json}
      (items_fit : ∀ item ∈ items, FitsIn levels item) :
      FitsIn (levels + 1) (.array items)
  | object {levels : Nat} {entries : List (String × Json)}
      (values_fit : ∀ entry ∈ entries, FitsIn levels entry.2) :
      FitsIn (levels + 1) (.object entries)

theorem FitsIn.mono
    {levels more : Nat} {value : Json} (h : FitsIn levels value) (hle : levels ≤ more) :
    FitsIn more value := by
  induction h generalizing more with
  | null =>
      exact .null
  | bool value =>
      exact .bool value
  | natural lt =>
      exact .natural lt
  | string text =>
      exact .string text
  | array _ ih =>
      obtain ⟨more, rfl⟩ := Nat.exists_eq_add_of_le' (Nat.lt_of_lt_of_le (Nat.succ_pos _) hle)
      exact .array fun item hitem => ih item hitem (Nat.le_of_succ_le_succ hle)
  | object _ ih =>
      obtain ⟨more, rfl⟩ := Nat.exists_eq_add_of_le' (Nat.lt_of_lt_of_le (Nat.succ_pos _) hle)
      exact .object fun entry hentry => ih entry hentry (Nat.le_of_succ_le_succ hle)

/-! ## Both texts spell the tokens -/

theorem separated_cons
    (part : List Token) (rest : List (List Token)) :
    separated (part :: rest) = part ++ rest.flatMap (Token.comma :: ·) := by
  induction rest generalizing part with
  | nil =>
      simp [separated]
  | cons next rest ih =>
      rw [separated, List.intercalate_cons_cons, ← separated, ih]
      simp

theorem itemTokens_eq
    (items : List Json) :
    itemTokens items = items.map tokens := by
  induction items with
  | nil =>
      rfl
  | cons item rest ih =>
      rw [itemTokens, ih, List.map_cons]

/-- The tokens of an entry. -/
def tokensOfEntry (entry : String × Json) : List Token :=
  .text (some entry.1) :: .colon :: tokens entry.2

theorem entryTokens_eq
    (entries : List (String × Json)) :
    entryTokens entries = entries.map tokensOfEntry := by
  induction entries with
  | nil =>
      rfl
  | cons entry rest ih =>
      rw [entryTokens, ih, List.map_cons, tokensOfEntry]

/-- The characters of an entry with white space in front of its value. -/
def charsOfEntry
    (blank : List Char) (chars : Json → List Char) (entry : String × Json) :
    List Char :=
  quote entry.1 ++ ':' :: (blank ++ chars entry.2)

theorem indentedItems_eq
    (levels : Nat) (items : List Json) :
    indentedItems levels items =
      items.flatMap fun item => ',' :: (lineBreak levels ++ indented levels item) := by
  induction items with
  | nil =>
      rfl
  | cons item rest ih =>
      rw [indentedItems, ih, List.flatMap_cons, List.cons_append]

theorem indentedEntries_eq
    (levels : Nat) (entries : List (String × Json)) :
    indentedEntries levels entries =
      entries.flatMap fun entry =>
        ',' :: (lineBreak levels ++ charsOfEntry [' '] (indented levels) entry) := by
  induction entries with
  | nil =>
      rfl
  | cons entry rest ih =>
      rw [indentedEntries, ih, List.flatMap_cons, charsOfEntry]
      simp

theorem isSpace_of_mem_lineBreak
    {levels : Nat} {c : Char} (h : c ∈ lineBreak levels) :
    isSpace c = true := by
  rcases List.mem_cons.mp h with rfl | h
  · rfl
  · rw [List.eq_of_mem_replicate h]
    rfl

namespace Spells

variable {α : Type} {tokensOf : α → List Token} {charsOf : α → List Char}
  {before after : List Char}

/-- The elements of a list after its first one, each behind a comma. -/
theorem others
    {elements : List α} (h : ∀ x ∈ elements, Spells (tokensOf x) (charsOf x))
    (hbefore : ∀ c ∈ before, isSpace c = true) :
    Spells (elements.flatMap fun x => Token.comma :: tokensOf x)
        (elements.flatMap fun x => ',' :: (before ++ charsOf x)) ∧
      EndsAtom (elements.flatMap fun x => ',' :: (before ++ charsOf x)) := by
  induction elements with
  | nil =>
      exact ⟨.nil, endsAtom_nil⟩
  | cons x rest ih =>
      obtain ⟨hx, hrest⟩ := List.forall_mem_cons.mp h
      obtain ⟨hspells, hends⟩ := ih hrest
      refine ⟨?_, endsAtom_cons.mpr ⟨rfl, rfl⟩⟩
      have hfirst := mark Token.isMark_comma (hx.spaces hbefore)
      exact hfirst.append hspells hends

/-- The elements of a list between its brackets, with white space in front of every element and of
the end. -/
theorem enclosed
    {first last : Token} {opening closing : Char} {x : α} {elements : List α}
    (hfirst : first.IsMark opening) (hlast : last.IsMark closing)
    (ends : EndsAtom [closing])
    (h : ∀ y ∈ x :: elements, Spells (tokensOf y) (charsOf y))
    (hbefore : ∀ c ∈ before, isSpace c = true) (hafter : ∀ c ∈ after, isSpace c = true) :
    Spells (first :: separated ((x :: elements).map tokensOf) ++ [last])
      (opening ::
        (before ++ charsOf x ++ (elements.flatMap fun y => ',' :: (before ++ charsOf y)) ++
          (after ++ [closing]))) := by
  obtain ⟨hx, helements⟩ := List.forall_mem_cons.mp h
  obtain ⟨hothers, hends⟩ := others helements hbefore
  have hend : Spells [last] (after ++ [closing]) := (mark hlast .nil).spaces hafter
  have hafterEnds : EndsAtom (after ++ [closing]) := by
    cases after with
    | nil =>
        exact ends
    | cons c rest =>
        exact endsAtom_of_isSpace (hafter c List.mem_cons_self) _
  have hall := ((hx.spaces hbefore).append hothers hends).append hend hafterEnds
  rw [List.map_cons, separated_cons, List.flatMap_map]
  exact mark hfirst hall

theorem array
    (chars : Json → List Char) {item : Json} {items : List Json}
    (h : ∀ each ∈ item :: items, Spells (tokens each) (chars each))
    (hbefore : ∀ c ∈ before, isSpace c = true) (hafter : ∀ c ∈ after, isSpace c = true) :
    Spells (tokens (.array (item :: items)))
      ('[' ::
        (before ++ chars item ++ (items.flatMap fun each => ',' :: (before ++ chars each)) ++
          (after ++ [']']))) := by
  rw [tokens, itemTokens_eq]
  exact enclosed Token.isMark_beginArray Token.isMark_endArray (endsAtom_cons.mpr ⟨rfl, rfl⟩) h
    hbefore hafter

theorem entry
    {chars : Json → List Char} {blank : List Char} {entry : String × Json}
    (h : Spells (tokens entry.2) (chars entry.2)) (hblank : ∀ c ∈ blank, isSpace c = true) :
    Spells (tokensOfEntry entry) (charsOfEntry blank chars entry) :=
  text entry.1 (mark Token.isMark_colon (h.spaces hblank))

theorem object
    (chars : Json → List Char) {first : String × Json} {entries : List (String × Json)}
    {blank : List Char}
    (h : ∀ each ∈ first :: entries, Spells (tokens each.2) (chars each.2))
    (hblank : ∀ c ∈ blank, isSpace c = true)
    (hbefore : ∀ c ∈ before, isSpace c = true) (hafter : ∀ c ∈ after, isSpace c = true) :
    Spells (tokens (.object (first :: entries)))
      ('\x7b' ::
        (before ++ charsOfEntry blank chars first ++
          (entries.flatMap fun each => ',' :: (before ++ charsOfEntry blank chars each)) ++
          (after ++ ['\x7d']))) := by
  rw [tokens, entryTokens_eq]
  exact enclosed Token.isMark_beginObject Token.isMark_endObject (endsAtom_cons.mpr ⟨rfl, rfl⟩)
    (fun each heach => (h each heach).entry hblank) hbefore hafter

end Spells

theorem spells_compact
    {levels : Nat} {value : Json} (h : FitsIn levels value) :
    Spells (tokens value) ((tokens value).flatMap Token.chars) := by
  -- No white space is written.
  have hblank : ∀ c ∈ ([] : List Char), isSpace c = true := List.forall_mem_nil _
  induction h with
  | null =>
      exact .atom Token.isRead_null
  | bool value =>
      simpa [tokens, Token.chars] using Spells.atom (Token.isRead_bool value)
  | natural lt =>
      simpa [tokens, Token.chars] using Spells.atom (Token.isRead_natural lt)
  | string text =>
      simpa [tokens, Token.chars] using Spells.text text .nil
  | @array _ items _ ih =>
      cases items with
      | nil =>
          exact .mark Token.isMark_beginArray (.mark Token.isMark_endArray .nil)
      | cons item rest =>
          have hspells :=
            Spells.array (fun value => (tokens value).flatMap Token.chars) ih hblank hblank
          convert hspells using 1
          simp [tokens, itemTokens_eq, separated_cons, Token.chars, List.flatMap_map,
            List.flatMap_assoc]
  | @object _ entries _ ih =>
      cases entries with
      | nil =>
          exact .mark Token.isMark_beginObject (.mark Token.isMark_endObject .nil)
      | cons entry rest =>
          have hspells :=
            Spells.object (fun value => (tokens value).flatMap Token.chars) ih hblank hblank hblank
          convert hspells using 1
          simp [tokens, entryTokens_eq, separated_cons, Token.chars, List.flatMap_map,
            List.flatMap_assoc, tokensOfEntry, charsOfEntry]

theorem spells_indented
    {levels : Nat} {value : Json} (h : FitsIn levels value) (outer : Nat) :
    Spells (tokens value) (indented outer value) := by
  have hblank : ∀ c ∈ [' '], isSpace c = true :=
    List.forall_mem_singleton.mpr (by decide)
  have hbreak (levels : Nat) : ∀ c ∈ lineBreak levels, isSpace c = true :=
    fun _ => isSpace_of_mem_lineBreak
  induction h generalizing outer with
  | null =>
      exact .atom Token.isRead_null
  | bool value =>
      exact .atom (Token.isRead_bool value)
  | natural lt =>
      exact .atom (Token.isRead_natural lt)
  | string text =>
      simpa [tokens, indented] using Spells.text text .nil
  | @array _ items _ ih =>
      cases items with
      | nil =>
          exact .mark Token.isMark_beginArray (.mark Token.isMark_endArray .nil)
      | cons item rest =>
          have hspells :=
            Spells.array (indented (outer + 1)) (fun each heach => ih each heach (outer + 1))
              (hbreak (outer + 1)) (hbreak outer)
          rw [indented, indentedItems_eq]
          simpa using hspells
  | @object _ entries _ ih =>
      cases entries with
      | nil =>
          exact .mark Token.isMark_beginObject (.mark Token.isMark_endObject .nil)
      | cons entry rest =>
          have hspells :=
            Spells.object (indented (outer + 1)) (fun each heach => ih each heach (outer + 1))
              hblank (hbreak (outer + 1)) (hbreak outer)
          rw [indented, indentedEntries_eq]
          simpa [charsOfEntry] using hspells

/-! ## The tokens are read into the value -/

theorem nested_eq
    {stack : List Frame} (h : stack.length < maxNesting) (value : Json) :
    nested stack value = value := by
  have hdrop : stack.drop (maxNesting - 1) = [] := List.drop_eq_nil_of_le (by omega)
  rw [nested, hdrop]
  rfl

namespace Reader

theorem foldlM_step_cons
    {reader next : Reader} {token : Token} (h : reader.step token = some next)
    (rest : List Token) :
    (token :: rest).foldlM step reader = rest.foldlM step next := by
  simp [h]

theorem foldlM_step_append
    {reader next : Reader} {tokens : List Token} (h : tokens.foldlM step reader = some next)
    (rest : List Token) :
    (tokens ++ rest).foldlM step reader = rest.foldlM step next := by
  simp [h]

/-- No value starts with the end of an array. -/
theorem foldlM_step_atItemOrEnd
    (value : Json) (stack : List Frame) :
    (tokens value).foldlM step (.atItemOrEnd stack) =
      (tokens value).foldlM step (.atValue (.items [] :: stack)) := by
  cases value <;> rfl

/-- The items after the first of an array, and its end. -/
theorem foldlM_step_otherItems
    {items : List Json} {stack : List Frame}
    (h : ∀ item ∈ items, ∀ before,
      (tokens item).foldlM step (.atValue (.items before :: stack)) =
        some (.after item (.items before :: stack)))
    (item : Json) (before : List Json) :
    ((items.map tokens).flatMap (Token.comma :: ·) ++ [Token.endArray]).foldlM step
        (.after item (.items before :: stack)) =
      some (.after (nested stack (.array (before.reverse ++ item :: items))) stack) := by
  induction items generalizing item before with
  | nil =>
      simp [step, continue?]
  | cons next rest ih =>
      obtain ⟨hnext, hrest⟩ := List.forall_mem_cons.mp h
      rw [List.map_cons, List.flatMap_cons, List.cons_append, List.cons_append, List.append_assoc,
        foldlM_step_cons rfl, foldlM_step_append (hnext (item :: before)), ih hrest]
      simp

theorem foldlM_step_entry
    {entry : String × Json} {stack : List Frame} {before : List (Option String × Json)}
    (h : (tokens entry.2).foldlM step (.atValue (.entry before (some entry.1) :: stack)) =
      some (.after entry.2 (.entry before (some entry.1) :: stack))) :
    (tokensOfEntry entry).foldlM step (.atKey before stack) =
      some (.after entry.2 (.entry before (some entry.1) :: stack)) := by
  rw [tokensOfEntry, foldlM_step_cons rfl, foldlM_step_cons rfl, h]

/-- An entry with its key as it is read. -/
def known (entry : String × Json) : Option String × Json :=
  (some entry.1, entry.2)

/-- The entries after the first of an object, and its end. -/
theorem foldlM_step_otherEntries
    {entries : List (String × Json)} {stack : List Frame}
    (h : ∀ entry ∈ entries, ∀ before key,
      (tokens entry.2).foldlM step (.atValue (.entry before key :: stack)) =
        some (.after entry.2 (.entry before key :: stack)))
    (entry : String × Json) (before : List (Option String × Json)) :
    ((entries.map tokensOfEntry).flatMap (Token.comma :: ·) ++ [Token.endObject]).foldlM step
        (.after entry.2 (.entry before (some entry.1) :: stack)) =
      some
        (.after (nested stack (ofEntries (before.reverse ++ (entry :: entries).map known)))
          stack) := by
  induction entries generalizing entry before with
  | nil =>
      simp [step, continue?, known]
  | cons next rest ih =>
      obtain ⟨hnext, hrest⟩ := List.forall_mem_cons.mp h
      rw [List.map_cons, List.flatMap_cons, List.cons_append, List.cons_append, List.append_assoc,
        foldlM_step_cons rfl, foldlM_step_append (foldlM_step_entry (hnext _ _)), ih hrest]
      simp [known]

theorem ofEntries_known
    (entries : List (String × Json)) :
    ofEntries (entries.map known) = .object entries := by
  have hall :
      (entries.map known).mapM (fun entry => entry.1.map fun key => (key, entry.2)) =
        some entries := by
    induction entries with
    | nil =>
        rfl
    | cons entry rest ih =>
        simp [ih, known]
  rw [ofEntries, hall]

end Reader

/-- The tokens of a value are read into it, inside all that is open. -/
theorem FitsIn.foldlM_step_eq
    {levels : Nat} {value : Json} (h : FitsIn levels value) {stack : List Frame}
    (hstack : stack.length + levels ≤ maxNesting) :
    (tokens value).foldlM Reader.step (.atValue stack) = some (.after value stack) := by
  induction h generalizing stack with
  | null | bool | natural | string =>
      rfl
  | @array levels items _ ih =>
      have hnested := nested_eq (show stack.length < maxNesting by omega)
      rw [tokens, itemTokens_eq, List.cons_append, Reader.foldlM_step_cons rfl]
      cases items with
      | nil =>
          exact congrArg (fun v => some (Reader.after v stack)) (hnested _)
      | cons item rest =>
          have hitems : ∀ each ∈ item :: rest, ∀ before,
              (tokens each).foldlM Reader.step (.atValue (.items before :: stack)) =
                some (.after each (.items before :: stack)) :=
            fun each heach before => ih each heach (by rw [List.length_cons]; omega)
          obtain ⟨hitem, hrest⟩ := List.forall_mem_cons.mp hitems
          have hfirst := (Reader.foldlM_step_atItemOrEnd item stack).trans (hitem [])
          rw [List.map_cons, separated_cons, List.append_assoc,
            Reader.foldlM_step_append hfirst, Reader.foldlM_step_otherItems hrest, hnested]
          rfl
  | @object levels entries _ ih =>
      have hnested := nested_eq (show stack.length < maxNesting by omega)
      rw [tokens, entryTokens_eq, List.cons_append, Reader.foldlM_step_cons rfl]
      cases entries with
      | nil =>
          exact congrArg (fun v => some (Reader.after v stack)) (hnested _)
      | cons entry rest =>
          have hentries : ∀ each ∈ entry :: rest, ∀ before key,
              (tokens each.2).foldlM Reader.step (.atValue (.entry before key :: stack)) =
                some (.after each.2 (.entry before key :: stack)) :=
            fun each heach before key => ih each heach (by rw [List.length_cons]; omega)
          obtain ⟨hentry, hrest⟩ := List.forall_mem_cons.mp hentries
          -- The first key is read alike where the object may end and where it may not.
          have hfirst :
              (tokensOfEntry entry).foldlM Reader.step (.atKeyOrEnd stack) =
                some (.after entry.2 (.entry [] (some entry.1) :: stack)) :=
            Reader.foldlM_step_entry (hentry [] (some entry.1))
          rw [List.map_cons, separated_cons, List.append_assoc,
            Reader.foldlM_step_append hfirst, Reader.foldlM_step_otherEntries hrest, hnested,
            List.reverse_nil, List.nil_append, Reader.ofEntries_known]

/-- The texts of a value: on one line, and over several lines. -/
def texts (value : Json) : List String :=
  [value.compact, value.pretty]

namespace FitsIn

variable {value : Json}

theorem read?_eq
    (h : FitsIn maxNesting value) {text : String} (hspells : Spells (tokens value) text.toList) :
    read? text = some value := by
  rw [read?, hspells.tokenize?_eq, Option.bind_some,
    h.foldlM_step_eq (Nat.le_of_eq (Nat.zero_add _))]
  rfl

/-- A value written on one line is read back. -/
theorem read?_compact
    (h : FitsIn maxNesting value) :
    read? value.compact = some value :=
  h.read?_eq (by simpa [compact] using spells_compact h)

/-- A value written over several lines is read back. -/
theorem read?_pretty
    (h : FitsIn maxNesting value) :
    read? value.pretty = some value :=
  h.read?_eq (by simpa [pretty] using spells_indented h 0)

theorem read?_of_mem_texts
    {levels : Nat} {text : String} (h : FitsIn levels value) (hlevels : levels ≤ maxNesting)
    (htext : text ∈ value.texts) :
    read? text = some value := by
  rw [texts, List.mem_cons, List.mem_singleton] at htext
  rcases htext with rfl | rfl
  · exact (h.mono hlevels).read?_compact
  · exact (h.mono hlevels).read?_pretty

end FitsIn

end Json
end Counterpart
