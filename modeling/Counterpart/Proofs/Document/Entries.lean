import Counterpart.Json.Decode
import Counterpart.Proofs.Json.RoundTrip
import Mathlib.Data.List.Forall2

/-!
# Parts of documents are read back

Every reader of a part looks at the entries under its key only.  Where they are found among the
entries of an object, the part is read back from what was written: a text or a list that was left
out is read as missing or empty.

* `Json.given`: the entries that a reader looks at.
* `Json.value?_textEntry`, `Json.value?_listEntry`, `Json.value?_toList_map`: their value.
* `Json.list?_map`, `Json.orNull?_map`, `Json.orDefault?_listEntry`: the value read back.
-/

namespace Counterpart
namespace Json

/-- The entries under one of several names of a key. -/
def given (keys : List String) (entries : List (String × Json)) : List (String × Json) :=
  entries.filter fun entry => keys.contains entry.1

/-- The value of a key, if any, out of the entries under it; refused if there are two. -/
def value? : List (String × Json) → Option (Option Json)
  | [] => some none
  | [entry] => some (some entry.2)
  | _ => none

/-- The value of a key that may be missing or null. -/
def orNull? {α : Type} (read : Json → Option α) : Option Json → Option (Option α)
  | none | some .null => some none
  | some value => (read value).map some

/-- The value of a key, or a default if it is not given. -/
def orDefault? {α : Type} (read : Json → Option α) (missing : α) : Option Json → Option α
  | none => some missing
  | some value => read value

section Readers

variable {α : Type} (key : String) (keys : List String) (read : Json → Option α)
  (entries : List (String × Json))

theorem find?_eq :
    find? keys entries = value? (given keys entries) := by
  unfold find? given value?
  rfl

@[simp] theorem requiredAs?_eq :
    requiredAs? keys read entries =
      (value? (given keys entries)).bind fun value => value.bind read := by
  rw [requiredAs?, find?_eq]
  rcases value? (given keys entries) with _ | _ | value <;> rfl

@[simp] theorem required?_eq :
    required? key read entries =
      (value? (given [key] entries)).bind fun value => value.bind read :=
  requiredAs?_eq [key] read entries

@[simp] theorem default?_eq
    (missing : α) :
    default? key read missing entries =
      (value? (given [key] entries)).bind (orDefault? read missing) := by
  rw [default?, find?_eq]
  rcases value? (given [key] entries) with _ | _ | value <;> rfl

@[simp] theorem optional?_eq :
    optional? key read entries = (value? (given [key] entries)).bind (orNull? read) := by
  rw [optional?, find?_eq]
  rcases value? (given [key] entries) with _ | _ | value
  · rfl
  · rfl
  · cases value <;> rfl

@[simp] theorem texts?_eq :
    texts? key entries = (value? (given [key] entries)).bind (orDefault? (list? text?) []) :=
  default?_eq key (list? text?) entries []

end Readers

section Given

variable {α : Type} {keys : List String}

@[simp] theorem given_nil :
    given keys [] = [] :=
  rfl

@[simp] theorem given_cons
    (entry : String × Json) (rest : List (String × Json)) :
    given keys (entry :: rest) =
      if entry.1 ∈ keys then entry :: given keys rest else given keys rest := by
  simp [given, List.filter_cons]

@[simp] theorem given_append
    (entries others : List (String × Json)) :
    given keys (entries ++ others) = given keys entries ++ given keys others :=
  List.filter_append ..

@[simp] theorem given_textEntry
    (key : String) (text : Option String) :
    given keys (textEntry key text) = if key ∈ keys then textEntry key text else [] := by
  cases text <;> simp [textEntry]

@[simp] theorem given_listEntry
    (key : String) (write : α → Json) (items : List α) :
    given keys (listEntry key write items) =
      if key ∈ keys then listEntry key write items else [] := by
  cases items <;> simp [listEntry]

@[simp] theorem given_toList_map
    (key : String) (write : α → Json) (part : Option α) :
    given keys (part.map fun x => (key, write x)).toList =
      if key ∈ keys then (part.map fun x => (key, write x)).toList else [] := by
  cases part <;> simp

@[simp] theorem given_ite
    (condition : Prop) [Decidable condition] (entries others : List (String × Json)) :
    given keys (if condition then entries else others) =
      if condition then given keys entries else given keys others :=
  apply_ite ..

end Given

/-- A part that was read goes into what is read with it. -/
theorem bind_of_eq_some
    {α β : Type} {part : Option α} {value : α} (h : part = some value) (next : α → Option β) :
    (part >>= next) = next value := by
  rw [h, Option.bind_eq_bind, Option.bind_some]

@[simp] theorem entries?_object
    (entries : List (String × Json)) :
    entries? (.object entries) = some entries :=
  rfl

@[simp] theorem record?_object
    (keys last : List String) (entries : List (String × Json)) :
    record? keys last (.object entries) = some entries :=
  rfl

@[simp] theorem tagged?_object
    {α : Type} (key : String) (read : Json → Option α) (entries : List (String × Json)) :
    tagged? key read (.object entries) =
      (required? key read entries).map fun tag => (tag, .object entries) :=
  rfl

@[simp] theorem text?_string
    (text : String) :
    text? (.string text) = some text :=
  rfl

@[simp] theorem variant?_string
    (words : List String) (text : String) :
    variant? words (.string text) = some text :=
  rfl

@[simp] theorem bool?_bool
    (value : Bool) :
    bool? (.bool value) = some value :=
  rfl

theorem count?_natural
    {value : Nat} (h : value < 2 ^ 64) :
    count? (.natural value) = some value :=
  if_pos h

section Values

variable {α : Type} {read : Json → Option α} {write : α → Json}

@[simp] theorem value?_nil :
    value? [] = some none :=
  rfl

@[simp] theorem value?_singleton
    (entry : String × Json) :
    value? [entry] = some (some entry.2) :=
  rfl

@[simp] theorem value?_textEntry
    (key : String) (text : Option String) :
    value? (textEntry key text) = some (text.map .string) := by
  cases text <;> rfl

/-- The value of the entry of a list. -/
def listValue (write : α → Json) (items : List α) : Option Json :=
  if items.isEmpty then none else some (.array (items.map write))

@[simp] theorem value?_listEntry
    (key : String) (items : List α) :
    value? (listEntry key write items) = some (listValue write items) := by
  cases items <;> rfl

@[simp] theorem value?_toList_map
    (key : String) (part : Option α) :
    value? (part.map fun x => (key, write x)).toList = some (part.map write) := by
  cases part <;> rfl

/-- The items of an array, each written in a way in which it is read back. -/
theorem list?_of_forall₂
    {items : List α} {written : List Json}
    (h : List.Forall₂ (fun x item => read item = some x) items written) :
    list? read (.array written) = some items := by
  rw [list?]
  induction h with
  | nil =>
      rfl
  | cons hx _ ih =>
      simp [hx, ih]

theorem list?_map
    {items : List α} (h : ∀ x ∈ items, read (write x) = some x) :
    list? read (.array (items.map write)) = some items :=
  list?_of_forall₂ (List.forall₂_map_right_iff.mpr (List.forall₂_same.mpr h))

@[simp] theorem list?_ofTexts
    (texts : List String) :
    list? text? (ofTexts texts) = some texts :=
  list?_map fun _ _ => rfl

theorem orNull?_map
    (hread : ∀ x, read (write x) = some x) (hnull : ∀ x, write x ≠ .null) (part : Option α) :
    orNull? read (part.map write) = some part := by
  cases part with
  | none =>
      rfl
  | some x =>
      have hnot := hnull x
      have hx := hread x
      cases hvalue : write x <;> simp_all [orNull?]

@[simp] theorem orNull?_text
    (text : Option String) :
    orNull? text? (text.map .string) = some text := by
  cases text <;> rfl

/-- A text that is written as null where there is none. -/
@[simp] theorem orNull?_ofText?
    (text : Option String) :
    orNull? text? (some (ofText? text)) = some text := by
  cases text <;> rfl

@[simp] theorem orDefault?_none
    (missing : α) :
    orDefault? read missing none = some missing :=
  rfl

@[simp] theorem orDefault?_some
    (missing : α) (value : Json) :
    orDefault? read missing (some value) = read value :=
  rfl

/-- A list that was left out is read as the empty one. -/
theorem orDefault?_listValue
    {items : List α} (h : ∀ x ∈ items, read (write x) = some x) :
    orDefault? (list? read) [] (listValue write items) = some items := by
  cases items with
  | nil =>
      rfl
  | cons x rest =>
      exact list?_map h

@[simp] theorem orDefault?_texts
    (texts : List String) :
    orDefault? (list? text?) [] (listValue .string texts) = some texts :=
  orDefault?_listValue fun _ _ => rfl

end Values

/-! ## What is written can be read -/

/-- The values of entries can be written and read. -/
def ValuesFitIn (levels : Nat) (entries : List (String × Json)) : Prop :=
  ∀ entry ∈ entries, FitsIn levels entry.2

section Fits

variable {α : Type} {levels : Nat}

@[simp] theorem fitsIn_bool
    (value : Bool) :
    FitsIn levels (.bool value) :=
  .bool value

@[simp] theorem fitsIn_string
    (text : String) :
    FitsIn levels (.string text) :=
  .string text

@[simp] theorem fitsIn_array
    {items : List Json} :
    FitsIn (levels + 1) (.array items) ↔ ∀ item ∈ items, FitsIn levels item :=
  ⟨fun h => by cases h; assumption, .array⟩

theorem FitsIn.array_of_forall₂
    {parts : List α} {items : List Json}
    (h : List.Forall₂ (fun _ item => FitsIn levels item) parts items) :
    FitsIn (levels + 1) (.array items) := by
  rw [fitsIn_array]
  induction h with
  | nil =>
      exact List.forall_mem_nil _
  | cons hitem _ ih =>
      exact List.forall_mem_cons.mpr ⟨hitem, ih⟩

@[simp] theorem fitsIn_object
    {entries : List (String × Json)} :
    FitsIn (levels + 1) (.object entries) ↔ ValuesFitIn levels entries :=
  ⟨fun h => by cases h; assumption, .object⟩

@[simp] theorem fitsIn_ofTexts
    (texts : List String) :
    FitsIn (levels + 1) (ofTexts texts) := by
  simp [ofTexts]

@[simp] theorem fitsIn_ofText?
    (text : Option String) :
    FitsIn levels (ofText? text) := by
  cases text with
  | none =>
      exact .null
  | some text =>
      exact .string text

@[simp] theorem valuesFitIn_nil :
    ValuesFitIn levels [] :=
  List.forall_mem_nil _

@[simp] theorem valuesFitIn_cons
    {entry : String × Json} {rest : List (String × Json)} :
    ValuesFitIn levels (entry :: rest) ↔ FitsIn levels entry.2 ∧ ValuesFitIn levels rest :=
  List.forall_mem_cons

@[simp] theorem valuesFitIn_append
    {entries others : List (String × Json)} :
    ValuesFitIn levels (entries ++ others) ↔
      ValuesFitIn levels entries ∧ ValuesFitIn levels others :=
  List.forall_mem_append

@[simp] theorem valuesFitIn_textEntry
    (key : String) (text : Option String) :
    ValuesFitIn levels (textEntry key text) := by
  cases text <;> simp [textEntry]

@[simp] theorem valuesFitIn_listEntry
    {key : String} {write : α → Json} {items : List α} :
    ValuesFitIn (levels + 1) (listEntry key write items) ↔
      ∀ x ∈ items, FitsIn levels (write x) := by
  cases items with
  | nil =>
      simp [listEntry]
  | cons x rest =>
      have hentry :
          ValuesFitIn (levels + 1) [(key, .array ((x :: rest).map write))] ↔
            ∀ item ∈ (x :: rest).map write, FitsIn levels item :=
        valuesFitIn_cons.trans ((and_iff_left valuesFitIn_nil).trans fitsIn_array)
      exact hentry.trans List.forall_mem_map

@[simp] theorem valuesFitIn_toList_map
    {key : String} {write : α → Json} {part : Option α} :
    ValuesFitIn levels (part.map fun x => (key, write x)).toList ↔
      ∀ x ∈ part, FitsIn levels (write x) := by
  cases part <;> simp

@[simp] theorem valuesFitIn_ite
    {condition : Prop} [Decidable condition] {entries others : List (String × Json)} :
    ValuesFitIn levels (if condition then entries else others) ↔
      (condition → ValuesFitIn levels entries) ∧ (¬ condition → ValuesFitIn levels others) := by
  split <;> simp_all

end Fits

/-! ## What can be read is readable -/

theorem itemsReadable_iff
    {items : List Json} :
    itemsReadable items = true ↔ ∀ item ∈ items, item.isReadable = true := by
  induction items with
  | nil =>
      simp [itemsReadable]
  | cons item rest ih =>
      rw [itemsReadable, Bool.and_eq_true, ih, List.forall_mem_cons]

theorem entriesReadable_iff
    {entries : List (String × Json)} :
    entriesReadable entries = true ↔ ∀ entry ∈ entries, entry.2.isReadable = true := by
  induction entries with
  | nil =>
      simp [entriesReadable]
  | cons entry rest ih =>
      rw [entriesReadable, Bool.and_eq_true, ih, List.forall_mem_cons]

theorem FitsIn.isReadable
    {levels : Nat} {value : Json} (h : FitsIn levels value) :
    value.isReadable = true := by
  induction h with
  | null | bool | natural | string =>
      rfl
  | array _ ih =>
      rw [Json.isReadable]
      exact itemsReadable_iff.mpr ih
  | object _ ih =>
      rw [Json.isReadable]
      exact entriesReadable_iff.mpr ih

theorem ValuesFitIn.entriesReadable
    {levels : Nat} {entries : List (String × Json)} (h : ValuesFitIn levels entries) :
    entriesReadable entries = true :=
  entriesReadable_iff.mpr fun entry hentry => (h entry hentry).isReadable

/-! ## Other spellings of keys -/

/-- An entry with one key spelled otherwise. -/
def respell (old new : String) (entry : String × Json) : String × Json :=
  (if entry.1 = old then new else entry.1, entry.2)

/-- An object with one of its own keys spelled otherwise. -/
def respelled (old new : String) : Json → Json
  | object entries => .object (entries.map (respell old new))
  | value => value

theorem value?_map_respell
    (old new : String) (entries : List (String × Json)) :
    value? (entries.map (respell old new)) = value? entries := by
  rcases entries with _ | ⟨_, _ | _⟩ <;> rfl

/-- Where both spellings are looked for, or neither, they make no difference. -/
theorem value?_given_respell
    {keys : List String} {old new : String} (h : old ∈ keys ↔ new ∈ keys)
    (entries : List (String × Json)) :
    value? (given keys (entries.map (respell old new))) = value? (given keys entries) := by
  have hkeys (entry : String × Json) :
      keys.contains (respell old new entry).1 = keys.contains entry.1 := by
    rw [respell]
    split
    case isTrue heq =>
      rw [heq]
      simp [h]
    case isFalse =>
      rfl
  have hmap : given keys (entries.map (respell old new)) =
      (given keys entries).map (respell old new) := by
    rw [given, given, List.filter_map]
    exact congrArg (List.map _) (List.filter_congr fun entry _ => hkeys entry)
  rw [hmap, value?_map_respell]

theorem FitsIn.respelled
    {levels : Nat} {json : Json} (h : FitsIn levels json) (old new : String) :
    FitsIn levels (json.respelled old new) := by
  cases json with
  | object entries =>
      cases h with
      | object values_fit =>
          exact .object (List.forall_mem_map.mpr values_fit)
  | _ =>
      exact h

end Json
end Counterpart
