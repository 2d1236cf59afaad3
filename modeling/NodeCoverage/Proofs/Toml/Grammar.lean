import NodeCoverage.Toml.Document

/-!
# The grammar of TOML

What may stand at the front of a text. Each relation takes the text first and what is left of it
last. Nothing here says how a text is read.

* `Blanks`, `Comment`, `Newline`, `Gap`: what says nothing.
* `Chars`, `Digits`, `Natural`, `Items`, `Written`: basic strings, integers that are not negative,
  and lists of basic strings, with the values that they spell.
* `Key`, `Path`: keys, bare or quoted, and dotted ones.
* `Line`, `Lines`, `Document`: lines that give a value to a key or open a table, and documents of
  them. `statementsOf` are the statements that write tables one after another.
* `Opens`: the beginning of a line about a path. Whatever comes after it, it is about nothing else.
-/

namespace NodeCoverage.Toml

/-! ## What says nothing -/

/-- Blanks, perhaps none. -/
inductive Blanks : List Char → List Char → Prop
  | nil {s : List Char} : Blanks s s
  | cons {c : Char} {s t : List Char} : isBlank c = true → Blanks s t → Blanks (c :: s) t

/-- The characters of a comment, perhaps none. -/
inductive Remark : List Char → List Char → Prop
  | nil {s : List Char} : Remark s s
  | cons {c : Char} {s t : List Char} : isText c = true → Remark s t → Remark (c :: s) t

/-- A comment, or nothing. -/
inductive Comment : List Char → List Char → Prop
  | absent {s : List Char} : Comment s s
  | present {s t : List Char} : Remark s t → Comment ('#' :: s) t

/-- The end of a line. -/
inductive Newline : List Char → List Char → Prop
  | feed {t : List Char} : Newline ('\n' :: t) t
  | returnFeed {t : List Char} : Newline ('\r' :: '\n' :: t) t

/-- The end of a line, or of the document. -/
inductive LineEnd : List Char → List Char → Prop
  | newline {s t : List Char} : Newline s t → LineEnd s t
  | document : LineEnd [] []

/-- Blanks, with any number of ends of lines between them, each perhaps after a comment. -/
inductive Gap : List Char → List Char → Prop
  | blanks {s t : List Char} : Blanks s t → Gap s t
  | line {s u v w t : List Char} : Blanks s u → Comment u v → Newline v w → Gap w t → Gap s t

/-- A byte order mark, or nothing. -/
inductive Mark : List Char → List Char → Prop
  | absent {s : List Char} : Mark s s
  | present {s : List Char} : Mark ('\uFEFF' :: s) s

/-! ## Strings -/

/-- A character that is written as a backslash and a letter. -/
inductive Short : Char → Char → Prop
  | backspace : Short 'b' '\x08'
  | formFeed : Short 'f' '\x0C'
  | lineFeed : Short 'n' '\n'
  | carriageReturn : Short 'r' '\r'
  | tab : Short 't' '\t'
  | quote : Short '"' '"'
  | backslash : Short '\\' '\\'

/-- So many hexadecimal digits, after digits that spell the first number. All of them spell the
second. -/
inductive Hex : Nat → Nat → List Char → Nat → List Char → Prop
  | nil {n : Nat} {s : List Char} : Hex 0 n s n s
  | cons {count n m : Nat} {d : Char} {s t : List Char} : isHexDigit d = true →
      Hex count (16 * n + digitValue d) s m t → Hex (count + 1) n (d :: s) m t

/-- The rest of a basic string up to its closing quote, and the characters that it spells: each
stands for itself, or is written as a short escape or with four or eight hexadecimal digits. -/
inductive Chars : List Char → List Char → List Char → Prop
  | close {t : List Char} : Chars ('"' :: t) [] t
  | plain {c : Char} {s cs t : List Char} : isText c = true → c ≠ '"' → c ≠ '\\' →
      Chars s cs t → Chars (c :: s) (c :: cs) t
  | short {e c : Char} {s cs t : List Char} : Short e c → Chars s cs t →
      Chars ('\\' :: e :: s) (c :: cs) t
  | four {c : Char} {s u cs t : List Char} : Hex 4 0 s c.toNat u → Chars u cs t →
      Chars ('\\' :: 'u' :: s) (c :: cs) t
  | eight {c : Char} {s u cs t : List Char} : Hex 8 0 s c.toNat u → Chars u cs t →
      Chars ('\\' :: 'U' :: s) (c :: cs) t

/-! ## Integers -/

/-- Digits of one kind, perhaps with single underscores between them, and the digits alone. -/
inductive Digits (isDigit : Char → Bool) : List Char → List Char → Prop
  | one {c : Char} : isDigit c = true → Digits isDigit [c] [c]
  | cons {c : Char} {s ds : List Char} : isDigit c = true → Digits isDigit s ds →
      Digits isDigit (c :: s) (c :: ds)
  | group {c : Char} {s ds : List Char} : isDigit c = true → Digits isDigit s ds →
      Digits isDigit (c :: '_' :: s) (c :: ds)

/-- A natural number in decimal, without leading zeros. -/
inductive Decimal : List Char → Nat → Prop
  | intro {s ds : List Char} : Digits Char.isDigit s ds → ds.head? ≠ some '0' ∨ ds.length = 1 →
      Decimal s (ofDigits 10 ds)

/-- A natural number in any of its notations. In decimal it may have a sign. -/
inductive Natural : List Char → Nat → Prop
  | decimal {s : List Char} {n : Nat} : Decimal s n → Natural s n
  | plus {s : List Char} {n : Nat} : Decimal s n → Natural ('+' :: s) n
  | minus {s : List Char} : Decimal s 0 → Natural ('-' :: s) 0
  | hexadecimal {s ds : List Char} : Digits isHexDigit s ds →
      Natural ('0' :: 'x' :: s) (ofDigits 16 ds)
  | octal {s ds : List Char} : Digits (fun c => '0' ≤ c && c ≤ '7') s ds →
      Natural ('0' :: 'o' :: s) (ofDigits 8 ds)
  | binary {s ds : List Char} : Digits (fun c => c = '0' || c = '1') s ds →
      Natural ('0' :: 'b' :: s) (ofDigits 2 ds)

/-! ## Values -/

/-- The basic strings of a list from a place on where one may stand, and the closing bracket. -/
inductive Items : List Char → List String → List Char → Prop
  | close {s t : List Char} : Gap s (']' :: t) → Items s [] t
  | last {s u v cs t : List Char} : Gap s ('"' :: u) → Chars u cs v → Gap v (']' :: t) →
      Items s [String.ofList cs] t
  | next {s u v w cs t : List Char} {ws : List String} : Gap s ('"' :: u) → Chars u cs v →
      Gap v (',' :: w) → Items w ws t → Items s (String.ofList cs :: ws) t

/-- A basic string, an integer that is not negative and fits, or a list of basic strings. -/
inductive Written : List Char → Value → List Char → Prop
  | text {s cs t : List Char} : Chars s cs t → Written ('"' :: s) (.text (String.ofList cs)) t
  | integer {s t : List Char} {n : Nat} : Natural s n → (n : Int) < integerBound →
      Written (s ++ t) (.integer n) t
  | list {s t : List Char} {ws : List String} : Items s ws t →
      Written ('[' :: s) (.list (ws.map .text)) t

/-! ## Keys -/

/-- A key, bare or quoted. -/
inductive Key : List Char → String → List Char → Prop
  | bare {k t : List Char} : k ≠ [] → (∀ c ∈ k, isKeyChar c = true) →
      Key (k ++ t) (String.ofList k) t
  | basic {s cs t : List Char} : Chars s cs t → Key ('"' :: s) (String.ofList cs) t
  | literal {k t : List Char} : (∀ c ∈ k, isText c = true ∧ c ≠ '\'') →
      Key ('\'' :: (k ++ '\'' :: t)) (String.ofList k) t

/-- Keys with dots between them, and blanks around each. -/
inductive Path : List Char → List String → List Char → Prop
  | one {s u v t : List Char} {k : String} : Blanks s u → Key u k v → Blanks v t → Path s [k] t
  | dot {s u v w t : List Char} {k : String} {ks : List String} : Blanks s u → Key u k v →
      Blanks v ('.' :: w) → Path w ks t → Path s (k :: ks) t

/-! ## Lines -/

/-- What a line says: nothing, a value for a key, or which table it opens. -/
inductive Line : List Char → Option Statement → List Char → Prop
  | nothing {s t : List Char} : Blanks s t → Line s none t
  | entry {s u v w t : List Char} {k : String} {a : Value} : Path s [k] ('=' :: u) →
      Blanks u v → Written v a w → Blanks w t → Line s (some (.assignment [k] a)) t
  | header {s u w t : List Char} {k : String} : Blanks s ('[' :: u) → Path u [k] (']' :: w) →
      Blanks w t → Line s (some (.header (.table [k]))) t

/-- Lines, each with its end. -/
inductive Lines : List Char → List Statement → List Char → Prop
  | nil {s : List Char} : Lines s [] s
  | cons {s u v w t : List Char} {a : Option Statement} {ss : List Statement} : Line s a u →
      Comment u v → Newline v w → Lines w ss t → Lines s (a.toList ++ ss) t

/-- Lines, of which the last has no end. -/
inductive Document : List Char → List Statement → Prop
  | intro {s u v : List Char} {a : Option Statement} {ss : List Statement} : Lines s ss u →
      Line u a v → Comment v [] → Document s (ss ++ a.toList)

/-- The statements of tables: a header for each, and values for its keys below. -/
def statementsOf (tables : List (String × List (String × Value))) : List Statement :=
  tables.flatMap fun x => .header (.table [x.1]) :: x.2.map fun y => .assignment [y.1] y.2

/-! ## Beginnings -/

/-- The text does not go on with a bare key. -/
def EndsKey (t : List Char) : Prop :=
  ∀ c ∈ t.head?, isKeyChar c = false

/-- The path of a header. -/
def Header.path : Header → List String
  | .table path => path
  | .element path => path

/-- The path that a statement is about, where keys are below another. -/
def Statement.path (above : List String) : Statement → List String
  | .assignment path _ => above ++ path
  | .header h => h.path

/-- The path that keys are below after statements, where it was another before. -/
def below (above : List String) : List Statement → List String
  | [] => above
  | .assignment _ _ :: ss => below above ss
  | .header h :: ss => below h.path ss

/-- The beginning of a line about a path, where keys are below another. Anything may come after
the last key that does not make that key longer. -/
inductive Opens (above : List String) : List Char → List String → Prop
  | assignment {s t : List Char} {ks : List String} : Path s ks t → EndsKey t →
      Opens above s (above ++ ks)
  | table {s u t : List Char} {ks : List String} : Blanks s ('[' :: u) → Path u ks t → EndsKey t →
      Opens above s ks
  | element {s u t : List Char} {ks : List String} : Blanks s ('[' :: '[' :: u) → Path u ks t →
      EndsKey t → Opens above s ks

end NodeCoverage.Toml
