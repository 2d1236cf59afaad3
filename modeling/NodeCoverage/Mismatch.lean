import NodeCoverage.Text.Quoted

/-!
# Mismatches between data and its expected form

Data may be well formed as text and still not be what a reader expects. Readers of every text
format of this library report that as a `Mismatch`.
-/

namespace NodeCoverage

/-- What was found in place of the expected form. -/
inductive Found where
  | null
  | boolean (b : Bool)
  | integer (n : Int)
  /-- A number that is no integer. Its value is left out. -/
  | floating
  | text (s : String)
  | list
  | record
  deriving DecidableEq, Repr

/-- How a message names what was found, but for the value of a number that is no integer. -/
def Found.describe : Found → String
  | .null => "null"
  | .boolean b => s!"boolean `{b}`"
  | .integer n => s!"integer `{n}`"
  | .floating => "floating point"
  | .text s => "string " ++ Text.quote s
  | .list => "sequence"
  | .record => "map"

/-- Why data does not fit. `expected` is the phrase for the expected form. -/
inductive Mismatch where
  | wrongType (found : Found) (expected : String)
  | wrongValue (found : Found) (expected : String)
  | wrongLength (length : Nat) (expected : String)
  | duplicateField (name : String)
  | missingField (name : String)
  | unknownField (name : String) (allowed : List String)
  deriving DecidableEq, Repr

namespace Mismatch

/-- The phrase for a choice of field names. -/
def oneOf (names : List String) : String :=
  match names.map fun name => s!"`{name}`" with
  | [] => "there are no fields"
  | [a] => s!"expected {a}"
  | [a, b] => s!"expected {a} or {b}"
  | quoted => "expected one of " ++ ", ".intercalate quoted

/-- The text of a mismatch. -/
def message : Mismatch → String
  | .wrongType found expected => s!"invalid type: {found.describe}, expected {expected}"
  | .wrongValue found expected => s!"invalid value: {found.describe}, expected {expected}"
  | .wrongLength length expected => s!"invalid length {length}, expected {expected}"
  | .duplicateField name => s!"duplicate field `{name}`"
  | .missingField name => s!"missing field `{name}`"
  | .unknownField name allowed => s!"unknown field `{name}`, {oneOf allowed}"

end Mismatch

end NodeCoverage
