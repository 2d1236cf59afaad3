/-!
# Numerals and doubles

The double nearest to a numeral, and the texts of doubles with a number of digits that is asked
for. All of it is exact arithmetic on naturals: a double is a mantissa and a power of two, and each
rounding takes a quotient to the nearest natural, a tie going to the even one.
-/

namespace NodeCoverage.Simulator.Double

/-- The natural nearest to a quotient, a tie going to the even one. -/
def divideEven (num den : Nat) : Nat :=
  let q := num / den
  let twice := 2 * (num % den)
  if twice < den then q else if den < twice then q + 1 else q + q % 2

/-- A double. A finite one is its mantissa times two to the power of its exponent. -/
inductive Value where
  | finite (negative : Bool) (mantissa : Nat) (exponent : Int)
  | infinite (negative : Bool)
  | undefined (negative : Bool)
  deriving DecidableEq, Repr

namespace Value

/-- Doubles have no exponent below this. -/
def leastExponent : Int := -1074

/-- Finite doubles have no exponent above this. -/
def greatestExponent : Int := 971

/-- Mantissas lie below this. -/
def mantissaBound : Nat := Nat.pow 2 53

/-- `num / den` in units of two to the power of `e`, as a fraction. -/
def scaled (num den : Nat) (e : Int) : Nat × Nat :=
  if 0 ≤ e then (num, den * Nat.pow 2 e.toNat) else (num * Nat.pow 2 (-e).toNat, den)

/-- The double nearest to `num / den`, and whether that is too large, or too small to be exact. -/
def ofRatio (negative : Bool) (num den : Nat) : Value × Bool :=
  if num = 0 then (.finite negative 0 leastExponent, false)
  else
    let guess : Int := (num.log2 : Int) - den.log2 - 52
    let (n, d) := scaled num den guess
    let exponent := if n / d < mantissaBound / 2 then guess - 1 else guess
    let e := max exponent leastExponent
    let (n, d) := scaled num den e
    let m := divideEven n d
    let (m, e) := if m = mantissaBound then (m / 2, e + 1) else (m, e)
    if greatestExponent < e then (.infinite negative, true)
    else (.finite negative m e, m < mantissaBound / 2 && n % d ≠ 0)

/-- Powers beyond this in size take every numeral out of the range of doubles. -/
def powerLimit : Int := 5000

/-- The double nearest to `n` times a power of a base. -/
def ofPower (negative : Bool) (n base : Nat) (power : Int) : Value × Bool :=
  if n = 0 then ofRatio negative 0 1
  else if powerLimit < power then (.infinite negative, true)
  else if power < -(powerLimit + (n.log2 : Int)) then (.finite negative 0 leastExponent, true)
  else if 0 ≤ power then ofRatio negative (n * Nat.pow base power.toNat) 1
  else ofRatio negative n (Nat.pow base (-power).toNat)

/-! ## Reading -/

/-- The value of a digit in a base. -/
def digit? (base : Nat) (c : Char) : Option Nat :=
  let value :=
    if c.isDigit then c.toNat - '0'.toNat
    else if 'a' ≤ c ∧ c ≤ 'f' then c.toNat - 'a'.toNat + 10
    else if 'A' ≤ c ∧ c ≤ 'F' then c.toNat - 'A'.toNat + 10
    else base
  if value < base then some value else none

/-- A numeral without sign and exponent: the natural that its digits are, how many of them stand
after the point, whether there are any, and what follows. -/
def readDigits (base : Nat) (s : List Char) : Nat × Nat × Bool × List Char :=
  let isDigit := fun c => (digit? base c).isSome
  let whole := s.takeWhile isDigit
  let rest := s.drop whole.length
  let (fraction, rest) : List Char × List Char :=
    match rest with
    | '.' :: after =>
      let fraction := after.takeWhile isDigit
      if whole.isEmpty && fraction.isEmpty then ([], rest)
      else (fraction, after.drop fraction.length)
    | rest => ([], rest)
  let digits := whole ++ fraction
  (digits.foldl (fun n c => base * n + (digit? base c).getD 0) 0, fraction.length,
    !digits.isEmpty, rest)

/-- An exponent after one of two letters, or zero if none is there. -/
def readExponent (lower upper : Char) (s : List Char) : Int × List Char :=
  match s with
  | c :: rest =>
    if c = lower ∨ c = upper then
      let (negative, digits) : Bool × List Char :=
        match rest with
        | '-' :: digits => (true, digits)
        | '+' :: digits => (false, digits)
        | digits => (false, digits)
      let taken := digits.takeWhile Char.isDigit
      if taken.isEmpty then (0, s)
      else
        let n := taken.foldl (fun n c => min (10 * n + (c.toNat - '0'.toNat)) 1000000) 0
        (if negative then -(n : Int) else n, digits.drop taken.length)
    else (0, s)
  | [] => (0, s)

/-- Whether a text starts with a word in lower case, in whatever case it is. -/
def startsWith (word : String) (s : List Char) : Bool :=
  (s.take word.length).map Char.toLower == word.toList

/-- The numeral without a sign at the front: its value, whether that is out of range, and what
follows. -/
def readUnsigned (negative : Bool) (s : List Char) : Option (Value × Bool × List Char) :=
  let decimal : Option (Value × Bool × List Char) :=
    let (n, places, found, rest) := readDigits 10 s
    if found then
      let (power, rest) := readExponent 'e' 'E' rest
      let (v, outside) := ofPower negative n 10 (power - places)
      some (v, outside, rest)
    else none
  if startsWith "infinity" s then some (.infinite negative, false, s.drop 8)
  else if startsWith "inf" s then some (.infinite negative, false, s.drop 3)
  else if startsWith "nan" s then some (.undefined negative, false, s.drop 3)
  else
    match s with
    | '0' :: x :: rest =>
      if x = 'x' ∨ x = 'X' then
        let (n, places, found, rest) := readDigits 16 rest
        if found then
          let (power, rest) := readExponent 'p' 'P' rest
          let (v, outside) := ofPower negative n 2 (power - 4 * places)
          some (v, outside, rest)
        else decimal
      else decimal
    | _ => decimal

/-- The numeral at the front: its value, whether that is out of range, and what follows. -/
def read (s : List Char) : Option (Value × Bool × List Char) :=
  match s with
  | '-' :: rest => readUnsigned true rest
  | '+' :: rest => readUnsigned false rest
  | s => readUnsigned false s

/-! ## Writing -/

/-- Digits with a point before the last `places` of them, which stands also before none of them if
it is `marked`. -/
def withPoint (digits : String) (places : Nat) (marked : Bool) : String :=
  let cs := digits.toList
  let cs := List.replicate (places + 1 - cs.length) '0' ++ cs
  let fraction := cs.drop (cs.length - places)
  let point := if fraction.isEmpty && !marked then "" else "."
  String.ofList (cs.take (cs.length - places)) ++ point ++ String.ofList fraction

/-- The sign and the digits of an exponent, at least `least` digits. -/
def exponentText (least : Nat) (e : Int) : String :=
  let digits := toString e.natAbs
  (if e < 0 then "-" else "+") ++ String.ofList (List.replicate (least - digits.length) '0') ++
    digits

/-- A finite value as a fraction. -/
def fraction (mantissa : Nat) (exponent : Int) : Nat × Nat :=
  if 0 ≤ exponent then (mantissa * Nat.pow 2 exponent.toNat, 1)
  else (mantissa, Nat.pow 2 (-exponent).toNat)

/-- The text with a number of places after the point. -/
def fixed (m : Nat) (e : Int) (places : Nat) (marked : Bool) : String :=
  let (num, den) := fraction m e
  withPoint (toString (divideEven (num * Nat.pow 10 places) den)) places marked

/-- The power of ten of the first digit. -/
def decimalPower (num den : Nat) : Int :=
  if num = 0 then 0
  else if den ≤ num then ((toString (num / den)).length : Int) - 1
  else
    let t := (toString (den / num)).length
    if den ≤ num * Nat.pow 10 (t - 1) then 1 - (t : Int) else -(t : Int)

/-- The digits with a number of places after the first one, and the power of ten of that one. -/
def decimalDigits (m : Nat) (e : Int) (places : Nat) : Nat × Int :=
  let (num, den) := fraction m e
  let power := decimalPower num den
  let shift := (places : Int) - power
  let n :=
    if 0 ≤ shift then divideEven (num * Nat.pow 10 shift.toNat) den
    else divideEven num (den * Nat.pow 10 (-shift).toNat)
  if n = Nat.pow 10 (places + 1) then (n / 10, power + 1) else (n, power)

/-- The text with an exponent, and a number of places after the first digit. -/
def scientific (m : Nat) (e : Int) (places : Nat) (marked : Bool) : String :=
  let (digits, power) := decimalDigits m e places
  withPoint (toString digits) places marked ++ "e" ++ exponentText 2 power

/-- A text with a point, without the zeros at its end. -/
def withoutZeros (s : String) : String :=
  if s.contains '.' then
    let cs := s.toList.reverse.dropWhile (· = '0')
    String.ofList (if cs.head? = some '.' then cs.drop 1 else cs).reverse
  else s

/-- The text with a number of digits, with an exponent if that is far from them. Zeros at the end
stay only if it is `marked`. -/
def general (m : Nat) (e : Int) (digits : Nat) (marked : Bool) : String :=
  let digits := max digits 1
  let (_, power) := decimalDigits m e (digits - 1)
  let trim := fun (s : String) => if marked then s else withoutZeros s
  if -4 ≤ power ∧ power < digits then trim (fixed m e ((digits : Int) - 1 - power).toNat marked)
  else
    let (n, power) := decimalDigits m e (digits - 1)
    trim (withPoint (toString n) (digits - 1) marked) ++ "e" ++ exponentText 2 power

/-- The text with digits of base sixteen after `0x`, as many as are needed or as are asked for. -/
def hexadecimal (m : Nat) (e : Int) (places : Option Nat) (marked : Bool) : String :=
  let hex := fun (n : Nat) => String.ofList (Nat.toDigits 16 n)
  let body :=
    match places with
    | none =>
      let text := withoutZeros (withPoint (hex m) 13 false)
      if marked && !text.contains '.' then text ++ "." else text
    | some places =>
      let n :=
        if places < 13 then divideEven m (Nat.pow 16 (13 - places))
        else m * Nat.pow 16 (places - 13)
      withPoint (hex n) places marked
  "0x" ++ body ++ "p" ++ exponentText 1 (if m = 0 then 0 else e + 52)

end Value

end NodeCoverage.Simulator.Double
