import NodeCoverage.Double
import NodeCoverage.Toml.Scanner
import NodeCoverage.Toml.Value

/-!
# TOML scalars without quotes

Booleans, integers, floats and moments of time. All of them are made of the same few characters, so
the longest run of those is taken first and classified as a whole.
-/

namespace NodeCoverage.Toml

/-! ## Digits -/

/-- Digits of one kind with single underscores between them, the underscores left out. -/
def ungroup? (isDigit : Char → Bool) : List Char → Option (List Char)
  | [] => none
  | [c] => if isDigit c then some [c] else none
  | c :: '_' :: rest => if isDigit c then (ungroup? isDigit rest).map (c :: ·) else none
  | c :: rest => if isDigit c then (ungroup? isDigit rest).map (c :: ·) else none

/-- The value of a digit in any base up to sixteen. -/
def digitValue (c : Char) : Nat :=
  if c.isDigit then c.toNat - 0x30 else c.toLower.toNat - 0x57

/-- The number that digits spell. -/
def ofDigits (base : Nat) (digits : List Char) : Nat :=
  digits.foldl (fun n c => base * n + digitValue c) 0

/-- Whether a character is a hexadecimal digit. -/
def isHexDigit (c : Char) : Bool :=
  c.isDigit || ('a' ≤ c && c ≤ 'f') || ('A' ≤ c && c ≤ 'F')

/-- A sign in front of a number: whether it is minus, and the rest. -/
def splitSign : List Char → Bool × List Char
  | '-' :: rest => (true, rest)
  | '+' :: rest => (false, rest)
  | s => (false, s)

/-- Decimal digits that do not start with a zero, unless there is only one. -/
def wholeDigits? (s : List Char) : Option (List Char) := do
  let digits ← ungroup? Char.isDigit s
  guard (digits.head? ≠ some '0' ∨ digits.length = 1)
  some digits

/-! ## Numbers -/

/-- Two to the power 63. -/
def integerBound : Int := 9223372036854775808

/-- An integer that fits 64 bits, one of them for the sign. -/
def fitting? (n : Int) : Option Int :=
  if -integerBound ≤ n ∧ n < integerBound then some n else none

/-- An integer: in decimal with a sign, or without one in another base. -/
def integer? : List Char → Option Int
  | '0' :: 'x' :: s => (ungroup? isHexDigit s).bind fun ds => fitting? (ofDigits 16 ds)
  | '0' :: 'o' :: s =>
    (ungroup? (fun c => '0' ≤ c && c ≤ '7') s).bind fun ds => fitting? (ofDigits 8 ds)
  | '0' :: 'b' :: s =>
    (ungroup? (fun c => c = '0' || c = '1') s).bind fun ds => fitting? (ofDigits 2 ds)
  | s =>
    let (negative, s) := splitSign s
    (wholeDigits? s).bind fun ds =>
      let n : Int := ofDigits 10 ds
      fitting? (if negative then -n else n)

/-- The digits after the point, if there is one. -/
def fraction? : List Char → Option (List Char)
  | '.' :: s => ungroup? Char.isDigit s
  | [] => some []
  | _ => none

/-- Once an exponent has reached this, it grows no more and further digits are passed over. -/
def exponentCeiling : Nat := 65536

/-- The number that the digits of an exponent stand for. -/
def exponentOf (digits : List Char) : Nat :=
  digits.foldl
    (fun n c => if n < exponentCeiling then 10 * n + (c.toNat - '0'.toNat) else n) 0

/-- The exponent, if there is one. -/
def exponent? : List Char → Option Int
  | [] => some 0
  | _ :: s =>
    let (negative, s) := splitSign s
    (ungroup? Char.isDigit s).map fun ds =>
      let n : Int := exponentOf ds
      if negative then -n else n

/-- Whether a character starts an exponent. -/
def isExponentMark (c : Char) : Bool :=
  c = 'e' || c = 'E'

/-- Whether the text is a float. One that is too large must have a minus sign. -/
def isFloat (s : List Char) : Bool :=
  let (negative, s) := splitSign s
  if s = ['i', 'n', 'f'] ∨ s = ['n', 'a', 'n'] then true
  else
    let mantissa := s.takeWhile (!isExponentMark ·)
    let power := s.dropWhile (!isExponentMark ·)
    let whole := mantissa.takeWhile (· ≠ '.')
    let point := mantissa.dropWhile (· ≠ '.')
    match wholeDigits? whole, fraction? point, exponent? power with
    | some ds, some fs, some e =>
      !(point.isEmpty && power.isEmpty) &&
        (negative || !Double.exceeds (ofDigits 10 (ds ++ fs)) (e - fs.length))
    | _, _, _ => false

/-! ## Moments of time -/

/-- Two decimal digits. -/
def two? (a b : Char) : Option Nat :=
  if a.isDigit && b.isDigit then some (ofDigits 10 [a, b]) else none

/-- The number of days of a month. -/
def daysOf (year month : Nat) : Nat :=
  if month = 2 then
    if year % 4 = 0 ∧ (year % 100 ≠ 0 ∨ year % 400 = 0) then 29 else 28
  else if month ∈ [4, 6, 9, 11] then 30
  else 31

/-- Takes a date. -/
def date? : List Char → Option (List Char)
  | a :: b :: c :: d :: '-' :: m :: n :: '-' :: x :: y :: rest => do
    let century ← two? a b
    let year ← two? c d
    let month ← two? m n
    let day ← two? x y
    guard (1 ≤ month ∧ month ≤ 12)
    guard (1 ≤ day ∧ day ≤ daysOf (100 * century + year) month)
    some rest
  | _ => none

/-- Takes hours and minutes. -/
def hourMinute? : List Char → Option (List Char)
  | a :: b :: ':' :: c :: d :: rest => do
    let hour ← two? a b
    let minute ← two? c d
    guard (hour ≤ 23 ∧ minute ≤ 59)
    some rest
  | _ => none

/-- Takes a time of day. A second may be the sixtieth, and may have a fraction. -/
def time? (s : List Char) : Option (List Char) := do
  match ← hourMinute? s with
  | ':' :: a :: b :: rest =>
    let second ← two? a b
    guard (second ≤ 60)
    match rest with
    | '.' :: fraction =>
      guard (fraction.head?.any Char.isDigit)
      some (fraction.dropWhile Char.isDigit)
    | rest => some rest
  | _ => none

/-- Whether the text is an offset from universal time, or empty. -/
def isOffset : List Char → Bool
  | [] => true
  | ['Z'] => true
  | ['z'] => true
  | '+' :: s => hourMinute? s = some []
  | '-' :: s => hourMinute? s = some []
  | _ => false

/-- Whether the text is a time of day with an offset or without. -/
def isTimeOfDate (s : List Char) : Bool :=
  (time? s).any isOffset

/-- Whether the text is a date alone. -/
def isDate (s : List Char) : Bool :=
  date? s = some []

/-- Whether the text is a moment of time without a blank. -/
def isMoment (s : List Char) : Bool :=
  time? s = some [] ||
    match date? s with
    | some [] => true
    | some ('T' :: rest) => isTimeOfDate rest
    | some ('t' :: rest) => isTimeOfDate rest
    | _ => false

/-! ## Classification -/

/-- Whether a character may stand in a scalar without quotes. -/
def isScalarChar (c : Char) : Bool :=
  c.isAlphanum || c = '+' || c = '-' || c = '_' || c = '.' || c = ':'

/-- The value of a scalar without quotes. -/
def classify? (s : List Char) : Option Value :=
  if s = ['t', 'r', 'u', 'e'] then some (.boolean true)
  else if s = ['f', 'a', 'l', 's', 'e'] then some (.boolean false)
  else if isMoment s then some .moment
  else if isFloat s then some .floating
  else (integer? s).map .integer

/-- Takes the time of day that follows a date after one space. -/
def timeAfter? (token : List Char) : List Char → Option (List Char)
  | ' ' :: more =>
    if isDate token && isTimeOfDate (more.takeWhile isScalarChar) then
      some (more.dropWhile isScalarChar)
    else none
  | _ => none

/-- Takes a scalar without quotes. -/
def scalar? (s : List Char) : Option (Value × List Char) :=
  let token := s.takeWhile isScalarChar
  let rest := s.dropWhile isScalarChar
  if token.length = 0 then none
  else
    match timeAfter? token rest with
    | some r => some (.moment, r)
    | none => (classify? token).map (·, rest)

theorem timeAfter?_length_le {token s r : List Char} (h : timeAfter? token s = some r) :
    r.length ≤ s.length := by
  unfold timeAfter? at h
  split at h
  · split at h <;> cases h
    exact Nat.le_succ_of_le (List.dropWhile_suffix _).length_le
  · cases h

theorem scalar?_consumes {s r : List Char} {v : Value} (h : scalar? s = some (v, r)) :
    r.length < s.length := by
  have split_length : (s.takeWhile isScalarChar).length + (s.dropWhile isScalarChar).length =
      s.length := by
    rw [← List.length_append, List.takeWhile_append_dropWhile]
  simp only [scalar?] at h
  split at h
  · cases h
  · split at h
    · next ht =>
      cases h
      have := timeAfter?_length_le ht
      omega
    · obtain ⟨a, -, ha⟩ := Option.map_eq_some_iff.1 h
      cases ha
      omega

end NodeCoverage.Toml
