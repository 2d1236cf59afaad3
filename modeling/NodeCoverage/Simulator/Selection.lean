import NodeCoverage.Simulator.Lines
import NodeCoverage.Simulator.Mention

/-!
# Parts of files

Which part of some files is asked for by arguments: some of the front or of the end, measured in
lines or in bytes. What is said last counts.
-/

namespace NodeCoverage.Simulator

/-- A part of files. -/
structure Selection where
  extent : Lines.Extent
  /-- Whether it is measured in lines, and not in bytes. -/
  byLines : Bool := true
  paths : List String := []

/-- Why arguments ask for no part. -/
inductive SelectionError where
  | unknownOption (option : String)
  | unknownLetter (letter : Char)
  /-- Nothing follows an option that is followed by a measure. -/
  | missingMeasure (letter : Char)
  | badMeasure (byLines : Bool) (text : String)
  deriving DecidableEq, Repr

namespace SelectionError

/-- The text of the error. -/
def message : SelectionError → String
  | .unknownOption option => s!"unrecognized option '{option}'"
  | .unknownLetter letter => s!"invalid option -- '{letter}'"
  | .missingMeasure letter => s!"option requires an argument -- '{letter}'"
  | .badMeasure byLines text =>
    (if byLines then "invalid number of lines: " else "invalid number of bytes: ") ++
      Text.mention text

/-- Whether it helps to know how the program is called. -/
def isMisuse : SelectionError → Bool
  | .badMeasure .. => false
  | _ => true

end SelectionError

/-- What a single argument is. -/
inductive SelectionItem where
  | measure (byLines : Bool) (text : String)
  | path
  | error (e : SelectionError)

/-- What an argument is that has nothing to do with the next one. -/
def SelectionItem.ofArgument (a : String) : SelectionItem :=
  match a.toList with
  | '-' :: '-' :: _ => .error (.unknownOption a)
  | ['-', 'n'] => .error (.missingMeasure 'n')
  | ['-', 'c'] => .error (.missingMeasure 'c')
  | '-' :: 'n' :: text => .measure true (String.ofList text)
  | '-' :: 'c' :: text => .measure false (String.ofList text)
  | '-' :: c :: text =>
    if c.isDigit then .measure true (String.ofList (c :: text)) else .error (.unknownLetter c)
  | _ => .path

namespace Selection

/-- The selection with its part measured by a text. A sign in front of the number counts from the
other end. -/
def measured (s : Selection) (front byLines : Bool) (text : String) :
    Except SelectionError Selection :=
  let cs := text.toList
  let digits := if cs.head?.any fun c => c = '+' || c = '-' then cs.drop 1 else cs
  match (String.ofList digits).toNat? with
  | some n =>
    let extent : Lines.Extent :=
      if front then if cs.head? = some '-' then .butLast n else .first n
      else if cs.head? = some '+' then .fromNumber n
      else .last n
    .ok { s with extent, byLines }
  | none => .error (.badMeasure byLines text)

/-- The selection after more arguments. -/
def read (front : Bool) (s : Selection) : List String → Except SelectionError Selection
  | [] => .ok s
  | "--" :: rest => .ok { s with paths := s.paths ++ rest }
  | "-n" :: text :: rest => do read front (← s.measured front true text) rest
  | "-c" :: text :: rest => do read front (← s.measured front false text) rest
  | a :: rest =>
    match SelectionItem.ofArgument a with
    | .measure byLines text => do read front (← s.measured front byLines text) rest
    | .path => read front { s with paths := s.paths ++ [a] } rest
    | .error e => .error e

/-- What arguments select of the front or of the end: ten lines if nothing is said. -/
def ofArguments (front : Bool) (arguments : List String) : Except SelectionError Selection :=
  read front { extent := if front then .first 10 else .last 10 } arguments

end Selection

end NodeCoverage.Simulator
