import NodeCoverage.Simulator.FileSystem
import NodeCoverage.Simulator.Shell.Arithmetic

/-!
# Conditions

The expressions of `test`: strings and numbers are compared, files are looked at, and conditions
are joined and negated.
-/

namespace NodeCoverage.Simulator.Shell

/-- Why a condition has no truth value. -/
inductive ConditionError where
  | notNumber (text : String)
  /-- Something follows what should be the last argument. -/
  | unexpected (last : String)
  | noArgument (operator : String)
  | unclosed
  deriving DecidableEq, Repr

/-- The text of the error. -/
def ConditionError.message : ConditionError → String
  | .notNumber text => s!"Illegal number: {text}"
  | .unexpected last => s!"{last}: unexpected operator"
  | .noArgument operator => s!"{operator}: argument expected"
  | .unclosed => "closing paren expected"

/-- What an argument of a condition is. -/
inductive ConditionToken where
  | finish
  | operand
  | unary
  | binary
  | not
  | opening
  | closing
  | and
  | or
  deriving DecidableEq, Repr

namespace Condition

/-- The operators before one argument. -/
def unaryOperators : List String :=
  ["-n", "-z", "-b", "-c", "-d", "-e", "-f", "-g", "-h", "-k", "-L", "-O", "-G", "-p", "-r", "-s",
    "-S", "-t", "-u", "-w", "-x"]

/-- The operators between two arguments. -/
def binaryOperators : List String :=
  ["=", "!=", "<", ">", "-eq", "-ne", "-ge", "-gt", "-le", "-lt", "-nt", "-ot", "-ef"]

/-- What the first of some arguments is. An operator before one argument is itself an argument if
nothing follows, or if an operator between two follows. -/
def classify : List String → ConditionToken
  | [] => .finish
  | s :: rest =>
    if unaryOperators.contains s then
      match rest with
      | [] => .operand
      | [_] => .unary
      | next :: _ => if binaryOperators.contains next then .operand else .unary
    else if binaryOperators.contains s then .binary
    else if s = "!" then .not
    else if s = "(" then if rest.isEmpty then .operand else .opening
    else if s = ")" then .closing
    else if s = "-a" then .and
    else if s = "-o" then .or
    else .operand

/-- A number in an argument, of 64 bits. -/
def number (s : String) : Except ConditionError Int :=
  let fits := fun (n : Int) => decide (Int64.minValue.toInt ≤ n ∧ n ≤ Int64.maxValue.toInt)
  match (integer? false s).filter fits with
  | some n => .ok n
  | none => .error (.notNumber s)

/-- The truth of an operator before an argument. No descriptor is a terminal. -/
def unary (fs : FileSystem) (operator s : String) : Except ConditionError Bool := do
  let found := if s.contains '\x00' then none else (fs.find s).toOption
  match operator with
  | "-n" => return !s.isEmpty
  | "-z" => return s.isEmpty
  | "-d" => return found.any Entry.isDirectory
  | "-f" => return found.any fun e => !e.isDirectory && !e.isDevice
  | "-c" => return found.any Entry.isDevice
  | "-e" | "-r" | "-w" | "-O" | "-G" => return found.isSome
  | "-x" => return found.any Entry.isExecutable || (fs.resolve s).toOption.any fs.runnable.contains
  | "-s" => return found.any Entry.isFilled
  | "-t" =>
    let _ ← number s
    return false
  | _ => return false

/-- Whether one file was changed later than another, both being there. -/
def isNewer (fs : FileSystem) (a b : String) : Bool :=
  match fs.resolve a, fs.resolve b with
  | .ok p, .ok q => fs.changed q < fs.changed p
  | _, _ => false

/-- The truth of an operator between two arguments. -/
def binary (fs : FileSystem) (a operator b : String) : Except ConditionError Bool := do
  match operator with
  | "=" => return a == b
  | "!=" => return a != b
  | "<" => return a < b
  | ">" => return b < a
  | "-nt" => return isNewer fs a b
  | "-ot" => return isNewer fs b a
  | "-ef" =>
    match fs.resolve a, fs.resolve b with
    | .ok p, .ok q => return p == q
    | _, _ => return false
  | _ =>
    let n ← number a
    let m ← number b
    match operator with
    | "-eq" => return n == m
    | "-ne" => return n != m
    | "-ge" => return m ≤ n
    | "-gt" => return m < n
    | "-le" => return n ≤ m
    | _ => return n < m

mutual

/-- Conditions joined by `-o`, the first argument being what `t` says. -/
def either (fs : FileSystem) (fuel : Nat) (t : ConditionToken) (args : List String) :
    Except ConditionError (Bool × List String) :=
  match fuel with
  | 0 => .ok (false, [])
  | fuel + 1 => do
    let (a, rest) ← both fs fuel t args
    match classify rest, rest with
    | .or, _ :: rest => do
      let (b, rest) ← either fs fuel (classify rest) rest
      return (a || b, rest)
    | _, _ => return (a, rest)

/-- Conditions joined by `-a`. -/
def both (fs : FileSystem) (fuel : Nat) (t : ConditionToken) (args : List String) :
    Except ConditionError (Bool × List String) :=
  match fuel with
  | 0 => .ok (false, [])
  | fuel + 1 => do
    let (a, rest) ← negation fs fuel t args
    match classify rest, rest with
    | .and, _ :: rest => do
      let (b, rest) ← both fs fuel (classify rest) rest
      return (a && b, rest)
    | _, _ => return (a, rest)

/-- A condition with its negations. -/
def negation (fs : FileSystem) (fuel : Nat) (t : ConditionToken) (args : List String) :
    Except ConditionError (Bool × List String) :=
  match fuel with
  | 0 => .ok (false, [])
  | fuel + 1 =>
    match t, args with
    | .not, _ :: rest => do
      let (a, rest) ← negation fs fuel (classify rest) rest
      return (!a, rest)
    | t, args => primary fs fuel t args

/-- A condition without anything that joins it. -/
def primary (fs : FileSystem) (fuel : Nat) (t : ConditionToken) (args : List String) :
    Except ConditionError (Bool × List String) :=
  match fuel with
  | 0 => .ok (false, [])
  | fuel + 1 =>
    match t, args with
    | .finish, _ | _, [] => return (false, [])
    | .opening, _ :: rest =>
      if classify rest = .closing then return (false, rest.drop 1)
      else do
        let (a, rest) ← either fs fuel (classify rest) rest
        if classify rest = .closing then return (a, rest.drop 1) else throw .unclosed
    | .unary, operator :: rest =>
      match rest with
      | [] => throw (.noArgument operator)
      | s :: rest => return (← unary fs operator s, rest)
    | _, a :: rest =>
      match classify rest, rest with
      | .binary, operator :: b :: rest => return (← binary fs a operator b, rest)
      | .binary, [operator] => throw (.noArgument operator)
      | _, _ => return (!a.isEmpty, rest)

end

/-- The truth of a condition. Three arguments with an operator in the middle are compared, whatever
they are. -/
def holds (fs : FileSystem) (args : List String) : Except ConditionError Bool := do
  let comparing :=
    match args with
    | [_, operator, _] => binaryOperators.contains operator
    | _ => false
  let inner :=
    match args with
    | "(" :: rest =>
      if !comparing && rest.getLast? = some ")" && (args.length = 3 || args.length = 4) then
        rest.dropLast
      else args
    | args => args
  if inner.isEmpty then return false
  let t := if comparing then .operand else classify inner
  let (truth, rest) ← either fs (4 * inner.length + 4) t inner
  match rest, inner[inner.length - rest.length - 1]? with
  | _ :: _, some last => throw (.unexpected last)
  | _, _ => return truth

end Condition

end NodeCoverage.Simulator.Shell
