import NodeCoverage.Simulator.Notation
import NodeCoverage.Simulator.Shell.Arithmetic
import NodeCoverage.Text.Utf8

/-!
# Formatted output

The bytes that `echo` and `printf` write: escapes that start with a backslash, and directives that
start with a percent sign.
-/

namespace NodeCoverage.Simulator.Shell

/-! ## Escapes -/

/-- The bytes of a character. -/
def charBytes (c : Char) : List UInt8 :=
  Text.utf8 c.toString

/-- Whether a character is an octal digit. -/
def isOctal (c : Char) : Bool :=
  '0' ≤ c && c ≤ '7'

/-- The byte that octal digits stand for. -/
def octalByte (digits : List Char) : UInt8 :=
  UInt8.ofNat (digits.foldl (fun n c => 8 * n + (c.toNat - '0'.toNat)) 0)

/-- The byte that a letter after a backslash stands for. -/
def escapedByte? : Char → Option UInt8
  | 'a' => some 7
  | 'b' => some 8
  | 'e' => some 27
  | 'f' => some 12
  | 'n' => some 10
  | 'r' => some 13
  | 't' => some 9
  | 'v' => some 11
  | '\\' => some 92
  | _ => none

/-- What the characters after a backslash stand for, and how many they are. In an argument a zero
stands before octal digits and is none of them. -/
def escape (argument : Bool) : List Char → List UInt8 × Nat
  | [] => ([92], 0)
  | c :: rest =>
    if argument ∧ c = '0' then
      let digits := (rest.take 3).takeWhile isOctal
      ([octalByte digits], digits.length + 1)
    else if isOctal c then
      let digits := c :: (rest.take 2).takeWhile isOctal
      ([octalByte digits], digits.length)
    else
      match escapedByte? c with
      | some b => ([b], 1)
      | none => ([92], 0)

/-- The bytes of an argument in which backslashes count, without the first `skipped` characters,
and whether nothing may be written after them. -/
def argumentBytes (skipped : Nat) : List Char → List UInt8 × Bool
  | [] => ([], false)
  | c :: rest =>
    if skipped ≠ 0 then argumentBytes (skipped - 1) rest
    else if c = '\\' then
      if rest.head? = some 'c' then ([], true)
      else
        let (bytes, size) := escape true rest
        let (more, stopped) := argumentBytes size rest
        (bytes ++ more, stopped)
    else
      let (more, stopped) := argumentBytes 0 rest
      (charBytes c ++ more, stopped)

/-- What `echo` writes. -/
def echoBytes : List String → List UInt8
  | "-n" :: words => (argumentBytes 0 (" ".intercalate words).toList).1
  | words =>
    let (bytes, stopped) := argumentBytes 0 (" ".intercalate words).toList
    if stopped then bytes else bytes ++ [10]

/-! ## Directives -/

/-- How a directive fills its place. -/
structure Placing where
  left : Bool := false
  zero : Bool := false
  plus : Bool := false
  blank : Bool := false
  marked : Bool := false
  width : Nat := 0
  precision : Option Nat := none

/-- What has been written, what is left of the arguments, and what went wrong. -/
structure Printing where
  bytes : List UInt8 := []
  arguments : List String
  complaints : List String := []
  /-- Whether nothing more is written. -/
  stopped : Bool := false
  /-- Whether the format makes no sense, so that the command fails as a whole. -/
  broken : Bool := false

namespace Placing

/-- Fills a place on the left or on the right. -/
def fill (p : Placing) (bytes : List UInt8) : List UInt8 :=
  let blanks := List.replicate (p.width - bytes.length) (32 : UInt8)
  if p.left then bytes ++ blanks else blanks ++ bytes

/-- The text of a number in digits, with what stands before it. -/
def number (p : Placing) (opening : String) (digits : String) : List UInt8 :=
  let least := p.precision.getD 1
  let digits := if least = 0 ∧ digits = "0" then "" else digits
  let digits := String.ofList (List.replicate (least - digits.length) '0') ++ digits
  let size := opening.length + digits.length
  let zeros :=
    if p.zero && !p.left && p.precision.isNone then
      String.ofList (List.replicate (p.width - size) '0')
    else ""
  p.fill (Text.utf8 (opening ++ zeros ++ digits))

/-- The text of an integer with its sign. -/
def signed (p : Placing) (n : Int) : List UInt8 :=
  let opening := if n < 0 then "-" else if p.plus then "+" else if p.blank then " " else ""
  p.number opening (toString n.natAbs)

/-- The text of an integer without a sign in a base. -/
def unsigned (p : Placing) (base : Nat) (upper : Bool) (n : Int) : List UInt8 :=
  let n := (n % UInt64.size).toNat
  let digits := String.ofList (Nat.toDigits base n)
  let opening :=
    if p.marked && n ≠ 0 then
      if base = 16 then "0x" else if base = 8 then "0" else ""
    else ""
  let cased := fun (s : String) => if upper then String.ofList (s.toList.map Char.toUpper) else s
  p.number (cased opening) (cased digits)

/-- The text of a double in the notation that a letter stands for. -/
def real (p : Placing) (letter : Char) (v : Double.Value) : List UInt8 :=
  let upper := letter.isUpper
  let cased := fun (s : String) => if upper then String.ofList (s.toList.map Char.toUpper) else s
  let sign := fun (negative : Bool) =>
    if negative then "-" else if p.plus then "+" else if p.blank then " " else ""
  match v with
  | .infinite negative => p.fill (Text.utf8 (sign negative ++ cased "inf"))
  | .undefined negative => p.fill (Text.utf8 (sign negative ++ cased "nan"))
  | .finite negative m e =>
    let places := p.precision.getD 6
    let text :=
      match letter.toLower with
      | 'f' => Double.Value.fixed m e places p.marked
      | 'e' => Double.Value.scientific m e places p.marked
      | 'g' => Double.Value.general m e places p.marked
      | _ => Double.Value.hexadecimal m e p.precision p.marked
    let size := (sign negative).length + text.length
    let zeros :=
      if p.zero && !p.left then String.ofList (List.replicate (p.width - size) '0') else ""
    let (opening, body) :=
      if letter.toLower = 'a' then ("0x", String.ofList (text.toList.drop 2)) else ("", text)
    p.fill (Text.utf8 (sign negative ++ cased opening ++ zeros ++ cased body))

end Placing

namespace Printing

/-- Adds bytes. -/
def write (p : Printing) (bytes : List UInt8) : Printing :=
  { p with bytes := p.bytes ++ bytes }

/-- The next argument, which is empty if there is none. -/
def next (p : Printing) : String × Printing :=
  match p.arguments with
  | [] => ("", p)
  | a :: rest => (a, { p with arguments := rest })

/-- The next argument as a number, which is zero if there is none. Without a sign in the output it
has the range of words, and a negative one counts from their end. -/
def nextNumber (p : Printing) (word : Bool) : Int × Printing :=
  match p.arguments with
  | [] => (0, p)
  | a :: rest =>
    let p := { p with arguments := rest }
    let complain := fun (n : Int) (what : String) =>
      (n, { p with complaints := p.complaints ++ [s!"{a}: {what}"] })
    match a.toList with
    | quote :: cs =>
      if quote = '\'' ∨ quote = '"' then
        (((charBytes (cs.headD '\x00')).headD 0).toNat, p)
      else
        let s := a.toList.dropWhile isSpace
        let (negative, s) :=
          match s with
          | '-' :: rest => (true, rest)
          | '+' :: rest => (false, rest)
          | s => (false, s)
        match natural? true s with
        | none => complain 0 "expected numeric value"
        | some (n, rest) =>
          let isOutside := if word then UInt64.size ≤ n else false
          let n : Int := if negative then -(n : Int) else n
          let clamped := if isOutside then -1 else if word then n else (clampToInt64 n).toInt
          if isOutside || clamped ≠ n then complain clamped "Numerical result out of range"
          else if rest.isEmpty then (n, p)
          else complain n "not completely converted"
    | [] => (0, p)

/-- The next argument as a double, which is zero if there is none. -/
def nextReal (p : Printing) : Double.Value × Printing :=
  let zero : Double.Value := .finite false 0 Double.Value.leastExponent
  match p.arguments with
  | [] => (zero, p)
  | a :: rest =>
    let p := { p with arguments := rest }
    let complain := fun (v : Double.Value) (what : String) =>
      (v, { p with complaints := p.complaints ++ [s!"{a}: {what}"] })
    match a.toList with
    | [] => (zero, p)
    | quote :: cs =>
      if quote = '\'' ∨ quote = '"' then
        let n := ((charBytes (cs.headD '\x00')).headD 0).toNat
        ((Double.Value.ofRatio false n 1).1, p)
      else
        match Double.Value.read (a.toList.dropWhile isSpace) with
        | none => complain zero "expected numeric value"
        | some (v, outside, rest) =>
          if !rest.isEmpty then complain v "not completely converted"
          else if outside then complain v "Numerical result out of range"
          else (v, p)

/-- The format makes no sense. -/
def giveUp (p : Printing) (complaint : String) : Printing :=
  { p with complaints := p.complaints ++ [complaint], stopped := true, broken := true }

/-- Carries out the directive of a letter, which `text` is the whole of. -/
def convert (p : Printing) (placing : Placing) (text : String) (c : Char) : Printing :=
  let cut := fun (bytes : List UInt8) =>
    match placing.precision with
    | none => bytes
    | some n => bytes.take n
  if c = 'd' ∨ c = 'i' then
    let (n, p) := p.nextNumber false
    p.write (placing.signed n)
  else if c = 'u' then
    let (n, p) := p.nextNumber true
    p.write (placing.unsigned 10 false n)
  else if c = 'o' then
    let (n, p) := p.nextNumber true
    p.write (placing.unsigned 8 false n)
  else if c = 'x' ∨ c = 'X' then
    let (n, p) := p.nextNumber true
    p.write (placing.unsigned 16 (c = 'X') n)
  else if c = 'c' then
    let (a, p) := p.next
    p.write (placing.fill ((Text.utf8 a ++ [0]).take 1))
  else if c = 's' then
    let (a, p) := p.next
    p.write (placing.fill (cut (Text.utf8 a)))
  else if c = 'b' then
    let (a, p) := p.next
    let (bytes, stopped) := argumentBytes 0 a.toList
    { p.write (placing.fill (cut bytes)) with stopped := stopped }
  else if "aAeEfFgG".contains c then
    let (v, p) := p.nextReal
    p.write (placing.real c v)
  else p.giveUp s!"{text}: invalid directive"

/-- A width or a precision at the front: digits, or an asterisk for the next argument. -/
def takeSize (p : Printing) (s : List Char) : Int × Printing × List Char :=
  match s with
  | '*' :: rest =>
    let (n, p) := p.nextNumber false
    (n, p, rest)
  | s => (digitsValue (s.takeWhile Char.isDigit), p, s.dropWhile Char.isDigit)

/-- Carries out the directive after a percent sign, and gives the rest of the format. -/
def directive (p : Printing) (s : List Char) : Printing × List Char :=
  match s with
  | '%' :: rest => (p.write [37], rest)
  | whole =>
    let isFlag := fun (c : Char) => "-0+ #".contains c
    let flags := whole.takeWhile isFlag
    let (width, p, s) := p.takeSize (whole.dropWhile isFlag)
    let (precision, p, s) : Option Int × Printing × List Char :=
      match s with
      | '.' :: rest =>
        let (n, p, s) := p.takeSize rest
        (some n, p, s)
      | s => (none, p, s)
    let placing : Placing := {
      left := flags.contains '-' || width < 0
      zero := flags.contains '0'
      plus := flags.contains '+'
      blank := flags.contains ' '
      marked := flags.contains '#'
      width := width.natAbs
      precision := (precision.filter (0 ≤ ·)).map Int.toNat }
    match s with
    | [] => (p.giveUp "missing format character", [])
    | c :: rest =>
      let text := String.ofList ('%' :: whole.take (whole.length - rest.length))
      (p.convert placing text c, rest)

/-- Goes through a format of no more than `fuel` characters once. -/
def once (p : Printing) (fuel : Nat) (s : List Char) : Printing :=
  match fuel, s with
  | 0, _ | _, [] => p
  | fuel + 1, c :: rest =>
    if p.stopped then p
    else if c = '\\' then
      let (bytes, size) := escape false rest
      (p.write bytes).once fuel (rest.drop size)
    else if c = '%' then
      let (p, rest) := p.directive rest
      p.once fuel rest
    else (p.write (charBytes c)).once fuel rest

/-- Goes through a format again and again while that takes arguments. -/
def repeated (p : Printing) (format : List Char) : (fuel : Nat) → Printing
  | 0 => p
  | fuel + 1 =>
    let after := p.once (format.length + 1) format
    if after.stopped || after.arguments.isEmpty
      || after.arguments.length == p.arguments.length then after
    else repeated after format fuel

end Printing

/-- What `printf` writes. -/
def printfBytes (format : String) (arguments : List String) : Printing :=
  ({ arguments := arguments } : Printing).repeated format.toList (arguments.length + 1)

end NodeCoverage.Simulator.Shell
