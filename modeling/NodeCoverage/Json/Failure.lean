import NodeCoverage.Mismatch

/-!
# Failures of reading JSON

A failure is a cause together with the place at which it was met. There are three kinds of cause:
the text is malformed, the text ends too early, or the text is sound and does not fit the type
that is read. The place is told by the fields and elements around it; the line and the column in
the text are left out, and so is ` at line L column C` with which each message about a text ends.
-/

namespace NodeCoverage.Json

/-- Why a text cannot be JSON. -/
inductive Malformation where
  | expectedValue
  | expectedIdent
  | expectedColon
  | expectedListEnd
  | expectedRecordEnd
  | trailingComma
  | keyNotText
  | invalidNumber
  | numberOutOfRange
  | invalidEscape
  | controlCharacter
  | invalidUnicode
  | brokenSurrogatePair
  | loneSurrogate
  | trailingCharacters
  deriving DecidableEq, Repr

/-- What was being read when the text ended. -/
inductive Unfinished where
  | value
  | list
  | record
  | text
  deriving DecidableEq, Repr

/-- Why reading stopped. -/
inductive Cause where
  | malformed (m : Malformation)
  | ended (u : Unfinished)
  | mismatched (m : Mismatch)
  deriving DecidableEq, Repr

/-- The kind of a cause. -/
inductive Kind where
  | malformed
  | ended
  | mismatched
  deriving DecidableEq, Repr

def Cause.kind : Cause → Kind
  | .malformed _ => .malformed
  | .ended _ => .ended
  | .mismatched _ => .mismatched

def Malformation.message : Malformation → String
  | .expectedValue => "expected value"
  | .expectedIdent => "expected ident"
  | .expectedColon => "expected `:`"
  | .expectedListEnd => "expected `,` or `]`"
  | .expectedRecordEnd => "expected `,` or `\x7d`"
  | .trailingComma => "trailing comma"
  | .keyNotText => "key must be a string"
  | .invalidNumber => "invalid number"
  | .numberOutOfRange => "number out of range"
  | .invalidEscape => "invalid escape"
  | .controlCharacter =>
    "control character (\\u0000-\\u001F) found while parsing a string"
  | .invalidUnicode => "invalid unicode code point"
  | .brokenSurrogatePair => "unexpected end of hex escape"
  | .loneSurrogate => "lone leading surrogate in hex escape"
  | .trailingCharacters => "trailing characters"

def Unfinished.message : Unfinished → String
  | .value => "EOF while parsing a value"
  | .list => "EOF while parsing a list"
  | .record => "EOF while parsing an object"
  | .text => "EOF while parsing a string"

/-- The text of a cause, up to the line and the column. -/
def Cause.message : Cause → String
  | .malformed m => m.message
  | .ended u => u.message
  | .mismatched m => m.message

/-- One step from a value to a part of it. -/
inductive Segment where
  /-- The value of a field. -/
  | field (name : String)
  /-- An element of a list. -/
  | index (i : Nat)
  /-- A field whose name is not known yet. -/
  | unknown
  deriving DecidableEq, Repr

/-- A cause and the place where it was met, outermost step first. -/
structure Failure where
  cause : Cause
  path : List Segment := []
  deriving DecidableEq, Repr

/-- The failure of a value as seen from the value around it. -/
def Failure.within (s : Segment) (f : Failure) : Failure :=
  { f with path := s :: f.path }

/-- The text of a path: names joined by points, elements in brackets. -/
def Segment.render : List Segment → String
  | [] => ""
  | .index i :: rest => s!"[{i}]" ++ renderMore rest
  | .field name :: rest => name ++ renderMore rest
  | .unknown :: rest => "?" ++ renderMore rest
where
  /-- The steps after the first. -/
  renderMore : List Segment → String
    | [] => ""
    | .index i :: rest => s!"[{i}]" ++ renderMore rest
    | .field name :: rest => "." ++ name ++ renderMore rest
    | .unknown :: rest => ".?" ++ renderMore rest

/-- The text of a failure up to the line and the column, after the text of its place if that says
anything. -/
def Failure.located (f : Failure) : String :=
  match f.path with
  | [] => f.cause.message
  | [.unknown] => f.cause.message
  | path => Segment.render path ++ ": " ++ f.cause.message

end NodeCoverage.Json
