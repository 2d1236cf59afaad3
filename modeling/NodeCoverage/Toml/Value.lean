import NodeCoverage.Mismatch

/-!
# TOML values
-/

namespace NodeCoverage.Toml

/-- A value of a document. Floats and moments of time are known only by their kind, since nothing
asks for more. Tables keep the order in which their keys came. -/
inductive Value where
  | text (s : String)
  | integer (n : Int)
  | floating
  | boolean (b : Bool)
  | moment
  | list (items : List Value)
  | table (entries : List (String × Value))
  deriving Repr, Inhabited

/-- The value as found in place of something else. A moment counts as a record. -/
def Value.found : Value → Found
  | .text s => .text s
  | .integer n => .integer n
  | .floating => .floating
  | .boolean b => .boolean b
  | .moment => .record
  | .list _ => .list
  | .table _ => .record

end NodeCoverage.Toml
