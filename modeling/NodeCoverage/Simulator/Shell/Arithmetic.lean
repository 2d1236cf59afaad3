import NodeCoverage.Simulator.Shell.Word

/-!
# Arithmetic

Expressions over integers of 64 bits and variables that hold their text.
-/

namespace NodeCoverage.Simulator.Shell

/-- An operator between two values. -/
inductive BinaryOp where
  | multiply
  | divide
  | remainder
  | add
  | subtract
  | shiftLeft
  | shiftRight
  | less
  | lessEqual
  | greater
  | greaterEqual
  | equal
  | unequal
  | bitAnd
  | bitXor
  | bitOr
  | and
  | or
  deriving DecidableEq, Repr

/-- An expression. -/
inductive Expression where
  | number (n : Int64)
  | named (name : String)
  | negative (e : Expression)
  | not (e : Expression)
  | complement (e : Expression)
  | binary (op : BinaryOp) (a b : Expression)
  | conditional (condition a b : Expression)
  /-- Gives a variable a value, which may depend on the one it has. -/
  | assign (name : String) (op : Option BinaryOp) (e : Expression)
  /-- An expression after which something else should stand. -/
  | refused (e : Expression) (expected : String)
  deriving Repr

/-- Why an expression has no value. -/
inductive ArithmeticError where
  /-- Something else should stand where reading stopped. -/
  | expecting (what : String)
  | divisionByZero
  /-- The text of a variable is no number. -/
  | notNumber (text : String)
  deriving DecidableEq, Repr

/-- The text of the error in an expression. -/
def ArithmeticError.message (text : String) : ArithmeticError → String
  | .expecting what => s!"arithmetic expression: expecting {what}: \"{text}\""
  | .divisionByZero => s!"arithmetic expression: division by zero: \"{text}\""
  | .notNumber value => s!"Illegal number: {value}"

/-! ## Numbers -/

/-- The value of a digit. -/
def digit? (base : Nat) (c : Char) : Option Nat :=
  let value :=
    if c.isDigit then c.toNat - '0'.toNat
    else if 'a' ≤ c ∧ c ≤ 'z' then c.toNat - 'a'.toNat + 10
    else if 'A' ≤ c ∧ c ≤ 'Z' then c.toNat - 'A'.toNat + 10
    else base
  if value < base then some value else none

/-- The largest and the smallest integer of 64 bits take the place of what is beyond them. -/
def clampToInt64 (n : Int) : Int64 :=
  if n ≤ Int64.minValue.toInt then .minValue
  else if Int64.maxValue.toInt ≤ n then .maxValue
  else Int64.ofInt n

/-- The number at the front without a sign, and the rest. With `marked` a zero or `0x` at the front
stands for another base. -/
def natural? (marked : Bool) (s : List Char) : Option (Nat × List Char) :=
  let (base, digits) : Nat × List Char :=
    match marked, s with
    | true, '0' :: 'x' :: d :: rest | true, '0' :: 'X' :: d :: rest =>
      if (digit? 16 d).isSome then (16, d :: rest) else (8, s)
    | true, '0' :: _ => (8, s)
    | _, _ => (10, s)
  let isDigit := fun c => (digit? base c).isSome
  let taken := digits.takeWhile isDigit
  if taken.isEmpty then none
  else
    some (taken.foldl (fun n c => base * n + (digit? base c).getD 0) 0, digits.dropWhile isDigit)

/-- Whether a character counts as white space around a number. -/
def isSpace (c : Char) : Bool :=
  c = ' ' || (9 ≤ c.toNat && c.toNat ≤ 13)

/-- The number that a text is, with blanks around it and perhaps a sign. -/
def integer? (marked : Bool) (text : String) : Option Int := do
  let s := text.toList.dropWhile isSpace
  let (negative, s) :=
    match s with
    | '-' :: rest => (true, rest)
    | '+' :: rest => (false, rest)
    | s => (false, s)
  let (n, rest) ← natural? marked s
  if rest.all isSpace then some (if negative then -(n : Int) else n) else none

/-! ## Reading -/

/-- A token of an expression. -/
inductive ArithmeticToken where
  | number (n : Int64)
  | name (name : String)
  | op (text : String)
  /-- A character that has no place in an expression. -/
  | unknown
  deriving DecidableEq, Repr

/-- What reading a part of an expression gives: the part, and the tokens after it. Nothing is read
after what is refused. -/
abbrev Reading := Expression × List ArithmeticToken

/-- What is read where a value should stand and does not. -/
def missingValue : Reading :=
  (.refused (.number 0) "primary", [])

/-- The operators, of which the first that fits is taken. -/
def operatorTexts : List String :=
  ["<<=", ">>=", "<<", ">>", "<=", ">=", "==", "!=", "&&", "||", "*=", "/=", "%=", "+=", "-=",
    "&=", "^=", "|=", "=", "<", ">", "&", "|", "^", "!", "~", "+", "-", "*", "/", "%", "(", ")",
    "?", ":"]

/-- The tokens of an expression of no more than `fuel` characters. -/
def arithmeticTokens (fuel : Nat) (s : List Char) : List ArithmeticToken :=
  match fuel, s with
  | 0, _ | _, [] => []
  | fuel + 1, c :: rest =>
    if isSpace c then arithmeticTokens fuel rest
    else if c.isDigit then
      match natural? true s with
      | some (n, rest) => .number (clampToInt64 n) :: arithmeticTokens fuel rest
      | none => .unknown :: arithmeticTokens fuel rest
    else if isNameStart c then
      .name (String.ofList (s.takeWhile isNameChar)) ::
        arithmeticTokens fuel (s.dropWhile isNameChar)
    else
      match operatorTexts.find? fun op => op.toList.isPrefixOf s with
      | some op => .op op :: arithmeticTokens fuel (s.drop op.length)
      | none => .unknown :: arithmeticTokens fuel rest

/-- The operators between two values with how tightly they bind. -/
def binaryOps : List (String × Nat × BinaryOp) :=
  [("*", 10, .multiply), ("/", 10, .divide), ("%", 10, .remainder), ("+", 9, .add),
    ("-", 9, .subtract), ("<<", 8, .shiftLeft), (">>", 8, .shiftRight), ("<", 7, .less),
    ("<=", 7, .lessEqual), (">", 7, .greater), (">=", 7, .greaterEqual), ("==", 6, .equal),
    ("!=", 6, .unequal), ("&", 5, .bitAnd), ("^", 4, .bitXor), ("|", 3, .bitOr), ("&&", 2, .and),
    ("||", 1, .or)]

/-- The operators that give a variable a value. -/
def assignmentOps : List (String × Option BinaryOp) :=
  [("=", none), ("*=", some .multiply), ("/=", some .divide), ("%=", some .remainder),
    ("+=", some .add), ("-=", some .subtract), ("<<=", some .shiftLeft), (">>=", some .shiftRight),
    ("&=", some .bitAnd), ("^=", some .bitXor), ("|=", some .bitOr)]

mutual

/-- A whole expression at the front. -/
def expression (fuel : Nat) (ts : List ArithmeticToken) : Reading :=
  match fuel with
  | 0 => missingValue
  | fuel + 1 =>
    let assigned :=
      match ts with
      | .name name :: .op text :: rest =>
        (assignmentOps.lookup text).map fun op => (name, op, rest)
      | _ => none
    match assigned with
    | some (name, op, rest) =>
      let (e, rest) := expression fuel rest
      (.assign name op e, rest)
    | none =>
      let (condition, rest) := joinedBy fuel 1 ts
      match rest with
      | .op "?" :: rest =>
        match expression fuel rest with
        | (a, .op ":" :: rest) =>
          let (b, rest) := expression fuel rest
          (.conditional condition a b, rest)
        | (a, _) => (.conditional condition (.refused a "':'") (.number 0), [])
      | rest => (condition, rest)

/-- An expression whose operators bind no looser than `level`. -/
def joinedBy (fuel : Nat) (level : Nat) (ts : List ArithmeticToken) : Reading :=
  match fuel with
  | 0 => missingValue
  | fuel + 1 =>
    let (a, rest) := operand fuel ts
    joinedAfter fuel level a rest

/-- The operators after a first value, which bind no looser than `level`. -/
def joinedAfter (fuel : Nat) (level : Nat) (a : Expression) (ts : List ArithmeticToken) :
    Reading :=
  match fuel with
  | 0 => missingValue
  | fuel + 1 =>
    match ts with
    | .op text :: rest =>
      match binaryOps.lookup text with
      | some (binding, op) =>
        if binding < level then (a, ts)
        else
          let (b, rest) := joinedBy fuel (binding + 1) rest
          joinedAfter fuel level (.binary op a b) rest
      | none => (a, ts)
    | _ => (a, ts)

/-- A value with the signs before it. -/
def operand (fuel : Nat) (ts : List ArithmeticToken) : Reading :=
  match fuel with
  | 0 => missingValue
  | fuel + 1 =>
    let signed (sign : Expression → Expression) (rest : List ArithmeticToken) : Reading :=
      let (e, rest) := operand fuel rest
      (sign e, rest)
    match ts with
    | .number n :: rest => (.number n, rest)
    | .name name :: rest => (.named name, rest)
    | .op "(" :: rest =>
      match expression fuel rest with
      | (e, .op ")" :: rest) => (e, rest)
      | (e, _) => (.refused e "')'", [])
    | .op "-" :: rest => signed .negative rest
    | .op "+" :: rest => operand fuel rest
    | .op "!" :: rest => signed .not rest
    | .op "~" :: rest => signed .complement rest
    | _ => missingValue

end

/-- Reads an expression. -/
def Expression.read (text : String) : Expression :=
  let ts := arithmeticTokens text.length text.toList
  match expression (8 * ts.length + 8) ts with
  | (e, []) => e
  | (e, _) => .refused e "EOF"

/-! ## Values -/

/-- The integer of a truth value. -/
def truth (b : Bool) : Int64 :=
  if b then 1 else 0

/-- The value of an operator on two values. -/
def BinaryOp.apply (op : BinaryOp) (a b : Int64) : Except ArithmeticError Int64 :=
  match op with
  | .multiply => .ok (a * b)
  | .divide => if b = 0 then .error .divisionByZero else .ok (a / b)
  | .remainder => if b = 0 then .error .divisionByZero else .ok (a % b)
  | .add => .ok (a + b)
  | .subtract => .ok (a - b)
  | .shiftLeft => .ok (a <<< b)
  | .shiftRight => .ok (a >>> b)
  | .less => .ok (truth (a < b))
  | .lessEqual => .ok (truth (a ≤ b))
  | .greater => .ok (truth (b < a))
  | .greaterEqual => .ok (truth (b ≤ a))
  | .equal => .ok (truth (a == b))
  | .unequal => .ok (truth (a != b))
  | .bitAnd => .ok (a &&& b)
  | .bitXor => .ok (a ^^^ b)
  | .bitOr => .ok (a ||| b)
  | .and => .ok (truth (a != 0 && b != 0))
  | .or => .ok (truth (a != 0 || b != 0))

/-- What variables hold while an expression is worked out: those that it set, the last first. -/
abbrev Assigned := List (String × String)

/-- The number that a variable holds. -/
def numberOf (outer : String → String) (name : String) (assigned : Assigned) :
    Except ArithmeticError Int64 :=
  let text := (assigned.lookup name).getD (outer name)
  if text.toList.all isSpace then .ok 0
  else
    match integer? true text with
    | some n => .ok (clampToInt64 n)
    | none => .error (.notNumber text)

/-- What is refused first in an expression. -/
def Expression.refusal? : Expression → Option ArithmeticError
  | .number _ | .named _ => none
  | .negative e | .not e | .complement e | .assign _ _ e => e.refusal?
  | .binary _ a b => a.refusal? <|> b.refusal?
  | .conditional condition a b => condition.refusal? <|> a.refusal? <|> b.refusal?
  | .refused e expected => e.refusal? <|> some (.expecting expected)

/-- Passes over an expression, in which nothing may be refused. -/
def Expression.skip (e : Expression) : Except ArithmeticError Unit :=
  match e.refusal? with
  | none => .ok ()
  | some error => .error error

/-- The value of an expression, and the variables that it sets. Of two values joined by truth, or
chosen by it, only those that matter are worked out. -/
def Expression.eval (outer : String → String) (assigned : Assigned) :
    Expression → Except ArithmeticError (Int64 × Assigned)
  | .number n => .ok (n, assigned)
  | .named name => do return (← numberOf outer name assigned, assigned)
  | .negative e => do
    let (n, assigned) ← e.eval outer assigned
    return (-n, assigned)
  | .not e => do
    let (n, assigned) ← e.eval outer assigned
    return (truth (n == 0), assigned)
  | .complement e => do
    let (n, assigned) ← e.eval outer assigned
    return (~~~n, assigned)
  | .binary op a b => do
    let (n, assigned) ← a.eval outer assigned
    if op = .and ∧ n = 0 then
      b.skip
      return (0, assigned)
    else if op = .or ∧ n ≠ 0 then
      b.skip
      return (1, assigned)
    else
      let (m, assigned) ← b.eval outer assigned
      return (← op.apply n m, assigned)
  | .conditional condition a b => do
    let (n, assigned) ← condition.eval outer assigned
    if n ≠ 0 then
      let result ← a.eval outer assigned
      b.skip
      return result
    else
      a.skip
      b.eval outer assigned
  | .assign name op e => do
    let (m, assigned) ← e.eval outer assigned
    let n ←
      match op with
      | none => pure m
      | some op => op.apply (← numberOf outer name assigned) m
    return (n, (name, toString n.toInt) :: assigned)
  | .refused e expected => do
    let _ ← e.eval outer assigned
    throw (.expecting expected)

/-- The value of the text of an expression, and the variables that it sets. -/
def evalArithmetic (outer : String → String) (text : String) :
    Except ArithmeticError (Int64 × Assigned) :=
  (Expression.read text).eval outer []

end NodeCoverage.Simulator.Shell
