import NodeCoverage.Toml.Value

/-!
# Reading records from TOML values

A record is written as a table, its fields in any order, or as a list of its fields in order. A
table may leave out any field and have no others; a list may be longer than the record, and may
end before any field that is not `needed`.
-/

namespace NodeCoverage.Toml

/-- A field of a record: its name, and how its value changes the record. -/
structure Field (R : Type) where
  name : String
  update : Value → Except Mismatch (R → R)
  /-- Whether a list must reach as far as this field. -/
  needed : Bool := false

/-- The field of a name, by a reader of its value and a setter. -/
def Field.of {R α : Type} (name : String) (read : Value → Except Mismatch α)
    (set : α → R → R) : Field R where
  name := name
  update v := (read v).map set

/-- The form of a record. -/
structure Form (R : Type) where
  /-- The name for messages. -/
  name : String
  /-- The record that has none of its fields given. -/
  blank : R
  fields : List (Field R)

/-- The key that a moment has where it is read as a table. -/
def momentKey : String := "$__toml_private_datetime"

namespace Form

variable {R : Type} (form : Form R)

/-- The phrase for the record in messages. -/
def phrase : String :=
  s!"struct {form.name}"

/-- Reads one entry of a table. -/
def readEntry (record : R) (entry : String × Value) : Except Mismatch R :=
  match form.fields.find? (·.name == entry.1) with
  | none => .error (.unknownField entry.1 (form.fields.map (·.name)))
  | some field => (field.update entry.2).map (· record)

/-- Reads the entries of a table, in the order in which they come. -/
def readEntries (entries : List (String × Value)) : Except Mismatch R :=
  entries.foldlM form.readEntry form.blank

/-- Reads the items of a list for the fields from number `i` on. -/
def readItems (i : Nat) : List (Field R) → List Value → R → Except Mismatch R
  | [], _, record => .ok record
  | field :: fields, v :: items, record =>
    match field.update v with
    | .error m => .error m
    | .ok set => readItems (i + 1) fields items (set record)
  | field :: fields, [], record =>
    if field.needed then
      .error (.wrongLength i s!"{form.phrase} with {form.fields.length} elements")
    else readItems (i + 1) fields [] record

/-- Reads a record. -/
def read : Value → Except Mismatch R
  | .table entries => form.readEntries entries
  | .moment => form.readEntries [(momentKey, .moment)]
  | .list items => form.readItems 0 form.fields items form.blank
  | v => .error (.wrongType v.found form.phrase)

end Form

/-! ## Scalars and lists -/

/-- Reads a text, `expected` being the phrase for it. -/
def readText (expected : String) : Value → Except Mismatch String
  | .text s => .ok s
  | v => .error (.wrongType v.found expected)

/-- Reads a natural number, `expected` being the phrase for it. -/
def readNatural (expected : String) : Value → Except Mismatch Nat
  | .integer (.ofNat n) => .ok n
  | .integer n => .error (.wrongValue (.integer n) expected)
  | v => .error (.wrongType v.found expected)

/-- Reads a list. -/
def readList {α : Type} (item : Value → Except Mismatch α) : Value → Except Mismatch (List α)
  | .list items => items.mapM item
  | v => .error (.wrongType v.found "a sequence")

end NodeCoverage.Toml
