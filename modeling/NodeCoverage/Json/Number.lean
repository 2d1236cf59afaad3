import NodeCoverage.Double
import NodeCoverage.Json.Failure

/-!
# JSON numbers

A number literal is scanned first (`Literal.scan`) and valued after (`Literal.number`): an integer
that fits 64 bits is kept exactly, and everything else counts as a floating-point number, which
fails only when its double would be infinite. `scanInteger` reads an integer of any size.
-/

namespace NodeCoverage.Json

/-! ## Digits -/

/-- Whether a byte is a decimal digit. -/
def isDigit (b : UInt8) : Bool :=
  0x30 ≤ b && b ≤ 0x39

/-- The value of a decimal digit. -/
def digitValue (b : UInt8) : Nat :=
  b.toNat - 0x30

/-- Reads digits onto `n` while the number stays below `bound`; the digits left over come second. -/
def accumulate (bound : Nat) : Nat → List UInt8 → Nat × List UInt8
  | n, [] => (n, [])
  | n, d :: rest =>
    let next := 10 * n + digitValue d
    if next < bound then accumulate bound next rest else (n, d :: rest)

/-- The number that digits spell, if it is below `bound`. -/
def below? (bound : Nat) (digits : List UInt8) : Option Nat :=
  match accumulate bound 0 digits with
  | (n, []) => some n
  | _ => none

/-! ## Literals -/

/-- A number literal, taken apart. -/
structure Literal where
  negative : Bool
  whole : List UInt8
  fraction : Option (List UInt8)
  /-- Whether the exponent is negative, and its digits. -/
  exponent : Option (Bool × List UInt8)
  deriving DecidableEq, Repr

/-- One digit or more. `atEnd` is the cause when the text ends before the first. -/
def scanDigits (atEnd : Cause) (s : List UInt8) : Except Cause (List UInt8 × List UInt8) :=
  match s with
  | [] => .error atEnd
  | b :: rest =>
    if isDigit b then .ok (b :: rest.takeWhile isDigit, rest.dropWhile isDigit)
    else .error (.malformed .invalidNumber)

/-- The digits before the point: zero alone, or digits that do not start with zero. -/
def scanWhole (atEnd : Cause) (s : List UInt8) : Except Cause (List UInt8 × List UInt8) :=
  match s with
  | 0x30 :: b :: rest =>
    if isDigit b then .error (.malformed .invalidNumber) else .ok ([0x30], b :: rest)
  | _ => scanDigits atEnd s

/-- The point and the digits after it. -/
def scanFraction (atEnd : Cause) :
    List UInt8 → Except Cause (Option (List UInt8) × List UInt8)
  | 0x2E :: rest => (scanDigits atEnd rest).map fun (ds, r) => (some ds, r)
  | s => .ok (none, s)

/-- The sign of an exponent: whether it is negative. -/
def scanExponentSign : List UInt8 → Bool × List UInt8
  | 0x2D :: rest => (true, rest)
  | 0x2B :: rest => (false, rest)
  | s => (false, s)

/-- The letter, the sign and the digits of an exponent. -/
def scanExponent (atEnd : Cause) (s : List UInt8) :
    Except Cause (Option (Bool × List UInt8) × List UInt8) :=
  match s with
  | [] => .ok (none, [])
  | b :: rest =>
    if b = 0x65 ∨ b = 0x45 then
      (scanDigits atEnd (scanExponentSign rest).2).map fun (ds, r) =>
        (some ((scanExponentSign rest).1, ds), r)
    else .ok (none, b :: rest)

/-- The sign of a number. -/
def scanSign : List UInt8 → Bool × List UInt8
  | 0x2D :: rest => (true, rest)
  | s => (false, s)

namespace Literal

/-- Scans a literal. `atEnd` is the cause when the text ends where a digit is due. -/
def scan (atEnd : Cause) (s : List UInt8) : Except Cause (Literal × List UInt8) := do
  let (negative, s) := scanSign s
  let (whole, s) ← scanWhole atEnd s
  let (fraction, s) ← scanFraction atEnd s
  let (exponent, s) ← scanExponent atEnd s
  pure (⟨negative, whole, fraction, exponent⟩, s)

/-- The digits of the significand that fit a 64-bit word, and the power of ten that goes with
them: digits before the point that are left out count up, digits after it that are used down. -/
def scaled (l : Literal) : Nat × Int :=
  let (n, left) := accumulate UInt64.size 0 l.whole
  let fraction := l.fraction.getD []
  let (n, unused) := accumulate UInt64.size n fraction
  (n, (left.length : Int) - (fraction.length - unused.length : Nat))

/-- The exponent as an integer, large ones cut to 32 bits. -/
def power (l : Literal) : Int :=
  match l.exponent with
  | none => 0
  | some (negative, digits) =>
    let n := (accumulate (UInt32.size / 2) 0 digits).1
    if negative then -n else n

end Literal

/-- What a reader may get from a number. -/
inductive Number where
  | natural (n : UInt64)
  | negative (n : Nat)
  | floating
  deriving DecidableEq, Repr

/-- The number as found in place of something else. -/
def Number.found : Number → Found
  | .natural n => .integer n.toNat
  | .negative n => .integer (-n)
  | .floating => .floating

/-- The value of a literal. Without a point and an exponent it is an integer if it lies in the
range of a 64-bit word, signed or not; minus zero does not. -/
def Literal.number (l : Literal) : Except Cause Number :=
  let floating : Except Cause Number :=
    let (n, e) := l.scaled
    if Double.productOverflows n (e + l.power) then .error (.malformed .numberOutOfRange)
    else .ok .floating
  match l.fraction, l.exponent, below? UInt64.size l.whole with
  | none, none, some n =>
    if !l.negative then .ok (.natural n.toUInt64)
    else if 0 < n ∧ n ≤ UInt64.size / 2 then .ok (.negative n)
    else floating
  | _, _, _ => floating

/-- Scans an integer in its own right: a sign and digits, of which `ofInt?` makes a value. -/
def scanInteger {α : Type} (ofInt? : Int → Option α) (bound : Nat) (s : List UInt8) :
    Except Cause (α × List UInt8) := do
  let (negative, rest) := scanSign s
  let (whole, rest) ← scanWhole (.malformed .invalidNumber) rest
  let value := (below? bound whole).bind fun n => ofInt? (if negative then -n else n)
  match value with
  | some v => pure (v, rest)
  | none => throw (.malformed .numberOutOfRange)

end NodeCoverage.Json
