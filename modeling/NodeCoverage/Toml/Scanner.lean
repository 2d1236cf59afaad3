/-!
# Scanning TOML

A `Scanner` takes something off the front of a text, or fails. A TOML document is either sound or
not, so a failure needs no cause. What a scanner takes is never empty, which is part of its type.
-/

namespace NodeCoverage.Toml

/-- Takes a value off the front of a text and gives it with the rest. -/
structure Scanner (α : Type) where
  scan : List Char → Option (α × List Char)
  consumes : ∀ {s r : List Char} {a : α}, scan s = some (a, r) → r.length < s.length

/-! ## Blanks, newlines and comments -/

/-- Whether a character is a blank inside a line. -/
def isBlank (c : Char) : Bool :=
  c = ' ' || c = '\t'

/-- The text from its first character that is no blank. -/
def skipBlanks (s : List Char) : List Char :=
  s.dropWhile isBlank

/-- Whether a character may stand in a comment, a literal or a basic string: a tab, or anything
that is no control character. -/
def isText (c : Char) : Bool :=
  c = '\t' || (0x20 ≤ c.toNat && c.toNat ≠ 0x7F)

/-- Takes the end of a line. -/
def newline? : List Char → Option (List Char)
  | '\n' :: rest => some rest
  | '\r' :: '\n' :: rest => some rest
  | _ => none

/-- The text from the end of a comment, if it starts with one. -/
def skipComment : List Char → List Char
  | '#' :: rest => rest.dropWhile isText
  | s => s

/-- Takes blanks, a comment and the end of the line or of the document. -/
def lineEnd? (s : List Char) : Option (List Char) :=
  match skipComment (skipBlanks s) with
  | [] => some []
  | rest => newline? rest

theorem skipBlanks_length_le (s : List Char) : (skipBlanks s).length ≤ s.length :=
  (List.dropWhile_suffix _).length_le

theorem skipComment_length_le (s : List Char) : (skipComment s).length ≤ s.length := by
  unfold skipComment
  split
  · exact Nat.le_succ_of_le (List.dropWhile_suffix _).length_le
  · exact Nat.le_refl _

theorem newline?_consumes {s r : List Char} (h : newline? s = some r) : r.length < s.length := by
  unfold newline? at h
  split at h
  · cases h; exact Nat.lt_succ_self _
  · cases h; exact Nat.lt_succ_of_lt (Nat.lt_succ_self _)
  · cases h

theorem lineEnd?_length_le {s r : List Char} (h : lineEnd? s = some r) :
    r.length ≤ s.length := by
  have := skipComment_length_le (skipBlanks s)
  have := skipBlanks_length_le s
  unfold lineEnd? at h
  split at h
  · cases h; exact Nat.zero_le _
  · have := newline?_consumes h
    omega

/-- Takes blanks, comments and newlines in any number. -/
def skipLines (s : List Char) : List Char :=
  match h : newline? (skipComment (skipBlanks s)) with
  | none => skipBlanks s
  | some rest =>
    have := newline?_consumes h
    have := skipComment_length_le (skipBlanks s)
    have := skipBlanks_length_le s
    skipLines rest
termination_by s.length

theorem skipLines_length_le (s : List Char) : (skipLines s).length ≤ s.length := by
  fun_induction skipLines s with
  | case1 s h => exact skipBlanks_length_le s
  | case2 s rest h h1 h2 h3 ih => omega

end NodeCoverage.Toml
