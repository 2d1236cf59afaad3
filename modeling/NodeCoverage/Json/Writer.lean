/-!
# Writing JSON

Compact JSON: no blanks, fields in the order in which they are given, numbers in decimal. In a
string the quote, the backslash and the controls are escaped, everything else stands as it is.
-/

namespace NodeCoverage.Json

/-- The lower-case hexadecimal digit of a number below 16. -/
def hexDigit (n : Nat) : Char :=
  Nat.digitChar n

/-- The written form of a character in a string. -/
def escapeChar (c : Char) : List Char :=
  if c = '"' then ['\\', '"']
  else if c = '\\' then ['\\', '\\']
  else if c = '\x08' then ['\\', 'b']
  else if c = '\x09' then ['\\', 't']
  else if c = '\x0A' then ['\\', 'n']
  else if c = '\x0C' then ['\\', 'f']
  else if c = '\x0D' then ['\\', 'r']
  else if c.toNat < 0x20 then
    ['\\', 'u', '0', '0', hexDigit (c.toNat / 16), hexDigit (c.toNat % 16)]
  else [c]

/-- A string. -/
def writeText (s : String) : String :=
  "\"" ++ String.ofList (s.toList.flatMap escapeChar) ++ "\""

/-- A natural number. -/
def writeNat (n : Nat) : String :=
  toString n

/-- An integer. -/
def writeInt (n : Int) : String :=
  toString n

/-- A list of written values. -/
def writeList (items : List String) : String :=
  "[" ++ ",".intercalate items ++ "]"

/-- A record of written values. -/
def writeRecord (fields : List (String × String)) : String :=
  "\x7b" ++ ",".intercalate (fields.map fun (name, value) => writeText name ++ ":" ++ value) ++
    "\x7d"

/-- A written value, or null. -/
def writeOption : Option String → String
  | none => "null"
  | some value => value

end NodeCoverage.Json
