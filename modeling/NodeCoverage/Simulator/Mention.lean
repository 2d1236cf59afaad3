import NodeCoverage.Text.Utf8

/-!
# Names in complaints

How a program mentions a text that it was given: between quotes with escapes, or the way a shell
could read it back. Bytes that are not printable ASCII are written by their numbers.
-/

namespace NodeCoverage.Simulator.Text

open NodeCoverage.Text (utf8)

/-- Whether a byte is printable ASCII. -/
def isVisible (b : UInt8) : Bool :=
  32 ≤ b && b ≤ 126

/-- A byte after a backslash: the letter of a common control, or three octal digits. -/
def escape (b : UInt8) : String :=
  let digit := fun (n : Nat) => Char.ofNat ('0'.toNat + n % 8)
  let octal := [digit (b.toNat / 64), digit (b.toNat / 8), digit b.toNat]
  let letter := if b < 7 then none else "abtnvfr".toList[b.toNat - 7]?
  String.ofList ('\\' :: (letter.map ([·])).getD octal)

/-- A text between quotes, in which quotes, backslashes and what is not visible are escaped. -/
def mention (s : String) : String :=
  let one (b : UInt8) : String :=
    if b = 39 ∨ b = 92 then String.ofList ['\\', Char.ofNat b.toNat]
    else if isVisible b then (Char.ofNat b.toNat).toString
    else escape b
  "'" ++ String.join ((utf8 s).map one) ++ "'"

/-- Whether a shell reads a character as itself between double quotes and without any, the `first`
character being taken more strictly. -/
def isHarmless (first : Bool) (c : Char) : Bool :=
  c.isAlphanum || "%+,-./@]_".contains c || (!first && "#~".contains c)

/-- The inside of quotes that a shell reads as some bytes. What is not visible stands in quotes of
another kind, which are `opened` or not. -/
def quotedInside (opened : Bool) : List UInt8 → String
  | [] => ""
  | b :: rest =>
    if b = 39 then "'\\''" ++ quotedInside false rest
    else if isVisible b then
      (if opened then "''" else "") ++ (Char.ofNat b.toNat).toString ++ quotedInside false rest
    else (if opened then "" else "'$'") ++ escape b ++ quotedInside true rest

/-- A text as a quoted word that a shell reads as that text. Double quotes are used for one that has
quotes of the other kind and nothing else that matters. -/
def quotedWord (s : String) : String :=
  let plain := fun (c : Char) => isHarmless true c || c = '\'' || c = ' ' || c = ':'
  let leading := s.toList.head?.any fun c => c = '#' || c = '~'
  let rest := if leading then s.toList.drop 1 else s.toList
  if s.contains '\'' && rest.all plain then "\"" ++ s ++ "\""
  else "'" ++ quotedInside false (utf8 s) ++ "'"

/-- A text as a word that a shell reads as that text, quoted only if it must be. A brace that stands
alone must, and so must a colon, which ends the word in a complaint. -/
def word (s : String) : String :=
  let isBare (c : Char) (first : Bool) : Bool :=
    isHarmless first c || (1 < s.length && (c = '\x7b' || c = '\x7d'))
  match s.toList with
  | c :: rest => if isBare c true && rest.all (isBare · false) then s else quotedWord s
  | [] => quotedWord s

end NodeCoverage.Simulator.Text
