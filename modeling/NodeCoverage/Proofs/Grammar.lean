import NodeCoverage.Json.Text
import NodeCoverage.Json.Head

/-!
# The grammar of JSON

What may stand at the front of a text. Each relation takes the text first and what is left of it
last, so that parts are put together by handing the rest of one to the next. Nothing here says
how a text is read.

* `Blanks`, `Digits`, `Numeral`, `Integer`, `Number`: blanks and numbers. An integer comes with its
  value; a number that nobody asks for does not.
* `Chars`, `Letters`: strings after their opening quote, with the characters that they spell, or
  only their shape.
* `WellFormed`: any value, of any nesting. This is what a field may hold that nobody asks for.

`Stops` holds of a text that does not go on with a number: only the end of a number depends on what
comes after it.
-/

namespace NodeCoverage.Json

/-- Blanks, perhaps none. -/
inductive Blanks : List UInt8 → List UInt8 → Prop
  | nil {s : List UInt8} : Blanks s s
  | cons {b : UInt8} {s t : List UInt8} : isBlank b = true → Blanks s t → Blanks (b :: s) t

/-! ## Numbers -/

/-- Digits, perhaps none, after digits that spell the first number. All of them spell the second. -/
inductive Digits : Nat → List UInt8 → Nat → List UInt8 → Prop
  | nil {n : Nat} {s : List UInt8} : Digits n s n s
  | cons {n m : Nat} {d : UInt8} {s t : List UInt8} : isDigit d = true →
      Digits (10 * n + digitValue d) s m t → Digits n (d :: s) m t

/-- A natural number in decimal, without leading zeros. -/
inductive Numeral : List UInt8 → Nat → List UInt8 → Prop
  | zero {t : List UInt8} : Numeral (0x30 :: t) 0 t
  | positive {d : UInt8} {s t : List UInt8} {n : Nat} : isDigit d = true → d ≠ 0x30 →
      Digits (digitValue d) s n t → Numeral (d :: s) n t

/-- An integer in decimal. Zero may have a sign. -/
inductive Integer : List UInt8 → Int → List UInt8 → Prop
  | natural {s t : List UInt8} {n : Nat} : Numeral s n t → Integer s n t
  | negative {s t : List UInt8} {n : Nat} : Numeral s n t → Integer (0x2D :: s) (-n) t

/-- A point and digits, or nothing. -/
inductive Fraction : List UInt8 → List UInt8 → Prop
  | absent {s : List UInt8} : Fraction s s
  | present {d : UInt8} {m : Nat} {s t : List UInt8} : isDigit d = true → Digits 0 s m t →
      Fraction (0x2E :: d :: s) t

/-- A sign, or nothing. -/
inductive Sign : List UInt8 → List UInt8 → Prop
  | absent {s : List UInt8} : Sign s s
  | plus {s : List UInt8} : Sign (0x2B :: s) s
  | minus {s : List UInt8} : Sign (0x2D :: s) s

/-- A letter, a sign and digits, or nothing. -/
inductive Exponent : List UInt8 → List UInt8 → Prop
  | absent {s : List UInt8} : Exponent s s
  | present {b d : UInt8} {m : Nat} {s u t : List UInt8} : b = 0x65 ∨ b = 0x45 →
      Sign s (d :: u) → isDigit d = true → Digits 0 u m t → Exponent (b :: s) t

/-- A number. -/
inductive Number.Written : List UInt8 → List UInt8 → Prop
  | intro {s u v t : List UInt8} {i : Int} : Integer s i u → Fraction u v → Exponent v t →
      Number.Written s t

/-- The text does not go on with a number. -/
def Stops : List UInt8 → Prop
  | [] => True
  | b :: _ => isDigit b = false ∧ b ≠ 0x2E ∧ b ≠ 0x65 ∧ b ≠ 0x45

/-! ## Strings -/

/-- The rest of a string up to its closing quote, and the characters that it spells: each stands
for itself, or is written as a short escape, with four hexadecimal digits, or as a pair of these. -/
inductive Chars : List UInt8 → List Char → List UInt8 → Prop
  | close {t : List UInt8} : Chars (0x22 :: t) [] t
  | plain {c : Char} {s t : List UInt8} {cs : List Char} : 0x20 ≤ c.toNat → c ≠ '"' → c ≠ '\\' →
      Chars s cs t → Chars (String.utf8EncodeChar c ++ s) (c :: cs) t
  | short {b e : UInt8} {s t : List UInt8} {cs : List Char} : shortEscape? b = some e →
      Chars s cs t → Chars (0x5C :: b :: s) (Char.ofNat e.toNat :: cs) t
  | hex {x y z w : UInt8} {c : Char} {s t : List UInt8} {cs : List Char} :
      hexNumber? [x, y, z, w] = some c.toNat → Chars s cs t →
      Chars (0x5C :: 0x75 :: x :: y :: z :: w :: s) (c :: cs) t
  | pair {x y z w x' y' z' w' : UInt8} {high low : Nat} {c : Char} {s t : List UInt8}
      {cs : List Char} :
      hexNumber? [x, y, z, w] = some high → 0xD800 ≤ high → high ≤ 0xDBFF →
      hexNumber? [x', y', z', w'] = some low → 0xDC00 ≤ low → low ≤ 0xDFFF →
      c.toNat = 0x10000 + 0x400 * (high - 0xD800) + (low - 0xDC00) → Chars s cs t →
      Chars (0x5C :: 0x75 :: x :: y :: z :: w :: 0x5C :: 0x75 :: x' :: y' :: z' :: w' :: s)
        (c :: cs) t

/-- The rest of a string up to its closing quote, of which only the shape counts. -/
inductive Letters : List UInt8 → List UInt8 → Prop
  | close {t : List UInt8} : Letters (0x22 :: t) t
  | plain {b : UInt8} {s t : List UInt8} : 0x20 ≤ b → b ≠ 0x22 → b ≠ 0x5C → Letters s t →
      Letters (b :: s) t
  | short {b e : UInt8} {s t : List UInt8} : shortEscape? b = some e → Letters s t →
      Letters (0x5C :: b :: s) t
  | hex {x y z w : UInt8} {n : Nat} {s t : List UInt8} : hexNumber? [x, y, z, w] = some n →
      Letters s t → Letters (0x5C :: 0x75 :: x :: y :: z :: w :: s) t

/-! ## Values -/

/-- What a text is looked at for: a value, or what follows an item of a list or a member of a
record up to the closing bracket. -/
inductive Part where
  | value
  | items
  | members
  deriving DecidableEq, Repr

/-- A key of which only the shape counts, with the blanks before it and its colon. -/
inductive Key : List UInt8 → List UInt8 → Prop
  | intro {s u v t : List UInt8} : Blanks s (0x22 :: u) → Letters u v → Blanks v (0x3A :: t) →
      Key s t

/-- A value, or the rest of one. -/
inductive WellFormed : Part → List UInt8 → List UInt8 → Prop
  | null {t : List UInt8} : WellFormed .value (0x6E :: 0x75 :: 0x6C :: 0x6C :: t) t
  | yes {t : List UInt8} : WellFormed .value (0x74 :: 0x72 :: 0x75 :: 0x65 :: t) t
  | no {t : List UInt8} : WellFormed .value (0x66 :: 0x61 :: 0x6C :: 0x73 :: 0x65 :: t) t
  | number {s t : List UInt8} : Number.Written s t → WellFormed .value s t
  | text {s t : List UInt8} : Letters s t → WellFormed .value (0x22 :: s) t
  | emptyList {s t : List UInt8} : Blanks s (0x5D :: t) → WellFormed .value (0x5B :: s) t
  | list {s u v t : List UInt8} : Blanks s u → WellFormed .value u v → WellFormed .items v t →
      WellFormed .value (0x5B :: s) t
  | listEnd {s t : List UInt8} : Blanks s (0x5D :: t) → WellFormed .items s t
  | item {s u v w t : List UInt8} : Blanks s (0x2C :: u) → Blanks u v → WellFormed .value v w →
      WellFormed .items w t → WellFormed .items s t
  | emptyRecord {s t : List UInt8} : Blanks s (0x7D :: t) → WellFormed .value (0x7B :: s) t
  | record {s u v w t : List UInt8} : Key s u → Blanks u v → WellFormed .value v w →
      WellFormed .members w t → WellFormed .value (0x7B :: s) t
  | recordEnd {s t : List UInt8} : Blanks s (0x7D :: t) → WellFormed .members s t
  | member {s u v w x t : List UInt8} : Blanks s (0x2C :: u) → Key u v → Blanks v w →
      WellFormed .value w x → WellFormed .members x t → WellFormed .members s t

end NodeCoverage.Json
