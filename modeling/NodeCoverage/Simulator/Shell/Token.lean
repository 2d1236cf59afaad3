import NodeCoverage.Simulator.Shell.Word

/-!
# Tokens of shell scripts

How a script falls into words and operators. The same reading, with fewer characters that mean
something, gives the parts of a document that stands in a script and of a word inside braces.
-/

namespace NodeCoverage.Simulator.Shell

/-- What a redirection does with a descriptor. -/
inductive Direction where
  | input
  | output
  /-- Makes the file empty, whatever a switch says. -/
  | overwrite
  | append
  /-- Reads and writes without making the file empty. -/
  | inputOutput
  /-- Becomes a copy of another descriptor. -/
  | copy
  /-- Reads the document of a number, which stands in the script. -/
  | document (n : Nat)
  deriving DecidableEq, Repr

/-- A token of a script. -/
inductive Lexeme where
  /-- A word, the line that it stands in, and the aliases that it comes from. -/
  | word (w : Word) (line : Nat) (origins : List String)
  | redirect (descriptor : Nat) (d : Direction)
  /-- The end of a line, and the number of the last line that is taken with it. -/
  | newline (last : Nat)
  | semicolon
  | doubleSemicolon
  | ampersand
  | pipe
  | both
  | either
  | opening
  | closing
  /-- Quotes or brackets without their end, and the last line. -/
  | unclosed (u : Unclosed) (line : Nat)
  deriving DecidableEq, Repr

/-- A text that stands in a script as the input of a command. -/
structure Document where
  text : String
  /-- Its first line. -/
  line : Nat
  /-- Whether parameters in it are expanded. -/
  expands : Bool
  deriving DecidableEq, Repr

/-- A document that is announced and has not come yet. -/
structure Announced where
  /-- The line that ends it. -/
  last : String
  expands : Bool
  /-- Whether tabs at the start of its lines are dropped. -/
  untabbed : Bool
  deriving DecidableEq, Repr

/-- What is being read, which decides the characters that mean something. -/
inductive Ground where
  | script
  /-- A word by itself, in which blanks and operators are plain. -/
  | word
  /-- A word in quotes that stand outside of it. -/
  | quotedWord
  /-- A document, in which quotes are plain. -/
  | document
  /-- An expression, in which quotes are plain as well. -/
  | expression
  deriving DecidableEq, Repr

/-- The quotes that are open. -/
inductive Quoting where
  | none
  | single
  | double
  /-- A comment, up to the end of the line. -/
  | comment
  deriving DecidableEq, Repr

/-- The tokens so far in reverse, and the parts of the word at hand in reverse. -/
structure Lexing where
  ground : Ground
  quoting : Quoting := .none
  done : List Lexeme := []
  word : Option (List Part) := none
  line : Nat := 1
  /-- The documents so far in reverse. -/
  documents : List Document := []
  /-- Whether the next word names the end of a document, and whether that is untabbed. -/
  names : Option Bool := none
  /-- The documents that start after the line, in reverse. -/
  announced : List Announced := []

/-- The text of a word without what quotes it. -/
def Word.bareText (w : Word) : String :=
  String.ofList <| w.filterMap fun
    | .char c _ => some c
    | _ => none

/-- Whether something in a word is quoted. -/
def Word.hasQuotes (w : Word) : Bool :=
  w.any fun
    | .char _ quoted => quoted
    | .quotes => true
    | _ => false

/-- The lines of a document, and how many characters it takes with the line that ends it. In one
that is expanded, a line that ends in a backslash goes on with the next one. -/
def documentLines (a : Announced) :
    (fuel : Nat) → (joined : Bool) → List Char → List Char × Nat
  | 0, _, _ => ([], 0)
  | _, _, [] => ([], 0)
  | fuel + 1, joined, s =>
    let raw := s.takeWhile (· ≠ '\n')
    let line := if a.untabbed && !joined then raw.dropWhile (· = '\t') else raw
    let size := raw.length + 1
    if String.ofList line = a.last ∧ !joined then ([], size)
    else
      let backslashes := (raw.reverse.takeWhile (· = '\\')).length
      let (more, n) := documentLines a fuel (a.expands && backslashes % 2 = 1) (s.drop size)
      let ending := if raw.length < s.length then ['\n'] else []
      (line ++ ending ++ more, size + n)

namespace Lexing

/-- Ends the word at hand. -/
def flush (l : Lexing) : Lexing :=
  match l.word with
  | none => l
  | some parts =>
    let w : Word := parts.reverse
    let l := { l with done := .word w l.line [] :: l.done, word := none }
    match l.names with
    | none => l
    | some untabbed =>
      { l with
        names := none
        announced := ⟨Word.bareText w, !Word.hasQuotes w, untabbed⟩ :: l.announced }

/-- Adds a part to the word at hand. -/
def add (l : Lexing) (p : Part) : Lexing :=
  { l with word := some (p :: l.word.getD []) }

/-- Ends the word at hand and adds a token. -/
def token (l : Lexing) (t : Lexeme) : Lexing :=
  { l.flush with done := t :: l.flush.done }

/-- The descriptor that a digit right before a redirection names, and what is read without it. -/
def descriptor (l : Lexing) (standard : Nat) : Nat × Lexing :=
  match l.word with
  | some [.char c false] =>
    if c.isDigit then (c.toNat - '0'.toNat, { l with word := none }) else (standard, l)
  | _ => (standard, l)

/-- Adds a redirection. -/
def redirect (l : Lexing) (standard : Nat) (d : Direction) : Lexing :=
  let (n, l) := l.descriptor standard
  l.token (.redirect n d)

/-- Adds the redirection to a document. -/
def document (l : Lexing) (untabbed : Bool) : Lexing :=
  let (n, l) := l.descriptor 0
  let l := l.token (.redirect n (.document (l.documents.length + l.announced.length)))
  { l with names := some untabbed }

/-- Ends a line, after which the announced documents are taken. -/
def endLine (l : Lexing) (rest : List Char) : Lexing × Nat :=
  let l := l.flush
  let (l, n) := l.announced.reverse.foldl
    (fun (l, n) a =>
      let line := l.line + 1 + (rest.take n).count '\n'
      let (text, size) := documentLines a ((rest.drop n).length + 1) false (rest.drop n)
      ({ l with documents := ⟨String.ofList text, line, a.expands⟩ :: l.documents }, n + size))
    ({ l with announced := [] }, 0)
  (l.token (.newline (l.line + (rest.take n).count '\n')), n)

/-- Adds the token for what is left open up to the end. -/
def leaveOpen (l : Lexing) (u : Unclosed) (rest : List Char) : Lexing × Nat :=
  (l.token (.unclosed u (l.line + rest.count '\n')), rest.length)

/-- Reads what follows a dollar sign or a backquote. -/
def takeExpansion (l : Lexing) (c : Char) (rest : List Char) (quoted : Bool) : Lexing × Nat :=
  if c = '$' then
    match Dollar.read quoted l.line rest with
    | .part p n => (l.add p, n)
    | .plain => (l.add (.char c quoted), 0)
    | .unclosed u => l.leaveOpen u rest
  else
    match enclosed [.back] rest with
    | none => l.leaveOpen .backquotes rest
    | some text =>
      let special := if quoted then "$`\\\"" else "$`\\"
      (l.add (.output (unescape special text) none quoted), text.length + 1)
where
  /-- The text without the backslashes before special characters. -/
  unescape (special : String) : List Char → String
    | [] => ""
    | [c] => c.toString
    | '\\' :: c :: rest =>
      if special.contains c then c.toString ++ unescape special rest
      else "\\" ++ unescape special (c :: rest)
    | c :: rest => c.toString ++ unescape special rest

/-- Takes a character of text that is quoted. A backslash counts before `special` characters. -/
def takeQuoted (l : Lexing) (special : String) (c : Char) (rest : List Char) : Lexing × Nat :=
  if c = '$' ∨ c = '`' then l.takeExpansion c rest true
  else if c = '\\' then
    match rest with
    | '\n' :: _ => (l, 1)
    | d :: _ => if special.contains d then (l.add (.char d true), 1) else (l.add (.char c true), 0)
    | [] => (l.add (.char c true), 0)
  else (l.add (.char c true), 0)

/-- Opens double quotes. -/
def openDouble (l : Lexing) : Lexing :=
  { l.add .quotes with quoting := .double }

/-- Closes double quotes. If nothing but all arguments stood in them they make no field. -/
def closeDouble (l : Lexing) : Lexing :=
  let word :=
    match l.word with
    | some (.parameter .arguments true :: .quotes :: before) =>
      some (.parameter .arguments true :: before)
    | word => word
  { l with word := word, quoting := .none }

/-- Takes a character that stands in no quotes, in a word. -/
def takeBare (l : Lexing) (c : Char) (rest : List Char) : Lexing × Nat :=
  if c = '\'' then ({ l.add .quotes with quoting := .single }, 0)
  else if c = '"' then (l.openDouble, 0)
  else if c = '$' ∨ c = '`' then l.takeExpansion c rest false
  else if c = '\\' then
    match rest with
    | '\n' :: _ => (l, 1)
    | d :: _ => (l.add (.char d true), 1)
    | [] => (l.add (.char c false), 0)
  else (l.add (.char c false), 0)

/-- Takes a character that stands in no quotes, in a script. -/
def takeScript (l : Lexing) (c : Char) (rest : List Char) : Lexing × Nat :=
  match c, rest with
  | ' ', _ | '\t', _ => (l.flush, 0)
  | '\n', _ => l.endLine rest
  | ';', ';' :: _ => (l.token .doubleSemicolon, 1)
  | ';', _ => (l.token .semicolon, 0)
  | '&', '&' :: _ => (l.token .both, 1)
  | '&', _ => (l.token .ampersand, 0)
  | '|', '|' :: _ => (l.token .either, 1)
  | '|', _ => (l.token .pipe, 0)
  | '(', _ => (l.token .opening, 0)
  | ')', _ => (l.token .closing, 0)
  | '<', '<' :: '-' :: _ => (l.document true, 2)
  | '<', '<' :: _ => (l.document false, 1)
  | '<', '&' :: _ => (l.redirect 0 .copy, 1)
  | '<', '>' :: _ => (l.redirect 0 .inputOutput, 1)
  | '<', _ => (l.redirect 0 .input, 0)
  | '>', '>' :: _ => (l.redirect 1 .append, 1)
  | '>', '&' :: _ => (l.redirect 1 .copy, 1)
  | '>', '|' :: _ => (l.redirect 1 .overwrite, 1)
  | '>', _ => (l.redirect 1 .output, 0)
  | '#', _ => if l.word.isNone then ({ l with quoting := .comment }, 0) else l.takeBare c rest
  | _, _ => l.takeBare c rest

/-- Takes a character: what is read then, and how many of the following belong to it. -/
def take (l : Lexing) (c : Char) (rest : List Char) : Lexing × Nat :=
  match l.quoting, l.ground with
  | .comment, _ => if c = '\n' then { l with quoting := .none }.endLine rest else (l, 0)
  | .single, _ => if c = '\'' then ({ l with quoting := .none }, 0) else (l.add (.char c true), 0)
  | .double, _ => if c = '"' then (l.closeDouble, 0) else l.takeQuoted "$`\"\\" c rest
  | .none, .script => l.takeScript c rest
  | .none, .word => l.takeBare c rest
  | .none, .quotedWord => if c = '"' then (l, 0) else l.takeQuoted "$`\"\\\x7d" c rest
  | .none, .document => l.takeQuoted "$`\\" c rest
  | .none, .expression => l.takeQuoted "$`\"\\" c rest

/-- Takes all characters but the first `skipped`, which are read already. -/
def run (l : Lexing) (skipped : Nat) : List Char → Lexing
  | [] =>
    match l.quoting with
    | .single | .double => l.token (.unclosed .quotes l.line)
    | _ => l.flush
  | c :: rest =>
    let (next, n) := if skipped = 0 then l.take c rest else (l, skipped - 1)
    { next with line := if c = '\n' then next.line + 1 else next.line }.run n rest

end Lexing

/-- The tokens of a script, and the documents in it. -/
def tokens (script : String) : List Lexeme × List Document :=
  let l := Lexing.run { ground := .script } 0 script.toList
  (l.done.reverse, l.documents.reverse)

/-- The tokens of a text that is a word by itself and starts on a line. -/
def wordTokens (ground : Ground) (line : Nat) (text : String) : List Lexeme :=
  (Lexing.run { ground := ground, line := line } 0 text.toList).done.reverse

/-- The word that a text makes by itself on a line. -/
def Word.ofText (ground : Ground) (line : Nat) (text : String) : Word :=
  match wordTokens ground line text with
  | .word w _ _ :: _ => w
  | _ => []

/-- The word of a document. -/
def Document.word (d : Document) : Word :=
  if d.expands then Word.ofText .document d.line d.text else d.text.toList.map (.char · true)

end NodeCoverage.Simulator.Shell
