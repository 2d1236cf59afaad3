import NodeCoverage.Simulator.Shell.Token

/-!
# Shell scripts

The commands of a script. A script is read a line at a time, where a line goes on as long as
something in it is open; the lines before one that is not sound are run all the same.
-/

namespace NodeCoverage.Simulator.Shell

/-- What a command does with a descriptor while it runs. -/
structure Redirection where
  descriptor : Nat
  direction : Direction
  target : Word
  deriving DecidableEq, Repr

/-- A command. -/
inductive Command where
  | simple (line : Nat) (assignments : List (String × Word)) (words : List Word)
    (redirections : List Redirection)
  /-- Each stage reads what the one before it writes. -/
  | pipeline (stages : List Command)
  /-- Succeeds if the command fails. -/
  | negated (c : Command)
  /-- The second runs if the first succeeds. -/
  | both (first second : Command)
  /-- The second runs if the first fails. -/
  | either (first second : Command)
  | background (c : Command)
  | group (body : List Command)
  /-- Runs in a shell of its own. -/
  | subshell (body : List Command)
  | choice (condition consequent alternative : List Command)
  /-- Runs while the condition succeeds, or until it does. -/
  | loop (inverted : Bool) (condition body : List Command)
  /-- Runs for each item, or for each argument of the script. -/
  | forEach (line : Nat) (name : String) (items : Option (List Word)) (body : List Command)
  /-- Runs the first body with a pattern that matches the subject. -/
  | select (line : Nat) (subject : Word) (arms : List (List Word × List Command))
  | define (name : String) (body : Command)
  | redirected (line : Nat) (c : Command) (redirections : List Redirection)
  deriving Inhabited

/-- The command of the stages of a pipeline. -/
def Command.ofStages : List Command → Command
  | [c] => c
  | stages => .pipeline stages

/-- The command with redirections. Braces around one command stand for that command; where it is a
subshell, what redirects them takes the place of what redirects it. -/
def Command.redirect (line : Nat) (rs : List Redirection) : Command → Command
  | .redirected _ (.subshell body) _ => .redirected line (.subshell body) rs
  | c => .redirected line c rs

/-- What is left of a script: its tokens, and the documents in it. -/
structure Source where
  tokens : List Lexeme
  documents : List Document
  /-- The line that reading has got to. -/
  reached : Nat := 1
  /-- The last line. -/
  last : Nat
  /-- The lines that are left, if they can be shown. -/
  lines : List String := []
  /-- How many lines have been taken. -/
  taken : Nat := 0

/-! ## Words that mean something -/

/-- The text of a word that has no quotes and no parameters. -/
def bare? (w : Word) : Option String :=
  (w.mapM fun
    | Part.char c false => some c
    | _ => none).map String.ofList

/-- The text of a token that has no quotes and no parameters. -/
def Lexeme.bare? : Lexeme → Option String
  | .word w _ _ => Shell.bare? w
  | _ => none

/-- The words that the shell reserves. -/
def reservedWords : List String :=
  ["!", "case", "do", "done", "elif", "else", "esac", "fi", "for", "if", "in", "then", "until",
    "while", "\x7b", "\x7d"]

/-- The reserved words that end a list of commands. -/
def endingWords : List String :=
  ["do", "done", "elif", "else", "esac", "fi", "then", "\x7d"]

/-- The commands whose errors end the shell, and whose assignments last. No function has the name
of one. -/
def specialCommands : List String :=
  [".", ":", "break", "continue", "eval", "exec", "exit", "export", "local", "readonly", "return",
    "set", "shift", "times", "trap", "unset"]

/-- The tokens after the newlines at the front. -/
def skipNewlines (ts : List Lexeme) : List Lexeme :=
  ts.dropWhile fun
    | .newline _ => true
    | _ => false

/-- The tokens after a given word at the front. -/
def after? (word : String) : List Lexeme → Option (List Lexeme)
  | t :: rest => if t.bare? = some word then some rest else none
  | [] => none

/-- The name and the value of a variable that a word sets. -/
def assignment? (w : Word) : Option (String × Word) :=
  let name := w.takeWhile fun
    | .char c false => isNameChar c
    | _ => false
  match w.drop name.length, bare? name with
  | .char '=' false :: value, some name => if isName name then some (name, value) else none
  | _, _ => none

/-! ## Aliases -/

/-- The words that stand for other words. -/
abbrev Aliases := List (String × String)

/-- The tokens after the alias at the front, if there is one, has given way to what it stands for,
down to some depth. A blank at its end lets the next word be an alias too. -/
def headAlias (aliases : Aliases) : (depth : Nat) → List Lexeme → List Lexeme
  | 0, ts => ts
  | depth + 1, .word w line origins :: rest =>
    let named := (bare? w).bind fun name => (aliases.lookup name).map fun value => (name, value)
    match named with
    | some (name, value) =>
      if origins.contains name then .word w line origins :: rest
      else
        let inner := (tokens value).1.map fun
          | .word w _ _ => Lexeme.word w line (name :: origins)
          | t => t
        let rest := if value.endsWith " " || value.endsWith "\t" then headAlias aliases depth rest
          else rest
        headAlias aliases depth (inner ++ rest)
    | none => .word w line origins :: rest
  | _ + 1, ts => ts

/-- How many aliases may stand for one another. -/
def aliasDepth : Nat := 64

/-! ## What can be wrong -/

/-- What is wrong with a script. -/
inductive SyntaxError where
  /-- A token stands where it cannot, perhaps in the place of another. -/
  | unexpected (found : String) (expected : Option String)
  | badLoopVariable
  | badFunctionName
  | badDescriptor
  | openQuotes
  | openBraces
  | openBrackets
  | openBackquotes
  deriving DecidableEq, Repr

/-- The text of the error. -/
def SyntaxError.message : SyntaxError → String
  | .unexpected found none => s!"{found} unexpected"
  | .unexpected found (some expected) => s!"{found} unexpected (expecting {expected})"
  | .badLoopVariable => "Bad for loop variable"
  | .badFunctionName => "Bad function name"
  | .badDescriptor => "Bad fd number"
  | .openQuotes => "Unterminated quoted string"
  | .openBraces => "Missing '\x7d'"
  | .openBrackets => "Missing '))'"
  | .openBackquotes => "EOF in backquote substitution"

/-- An error, and the line that reading had got to. -/
structure Fault where
  error : SyntaxError
  line : Nat

/-- The end of a script, as errors name it. -/
def endText : String := "end of file"

/-- A sign or a reserved word, as errors name it. -/
def quotedSign (text : String) : String :=
  "\"" ++ text ++ "\""

/-- A token, as errors name it. Words that the shell reserves count as such if `reserving`. -/
def Lexeme.text (reserving : Bool) (t : Lexeme) : String :=
  match t with
  | .word w _ _ =>
    match (Shell.bare? w).filter fun s => reserving && reservedWords.contains s with
    | some reserved => quotedSign reserved
    | none => "word"
  | .redirect .. => "redirection"
  | .newline _ => "newline"
  | .semicolon => quotedSign ";"
  | .doubleSemicolon => quotedSign ";;"
  | .ampersand => quotedSign "&"
  | .pipe => quotedSign "|"
  | .both => quotedSign "&&"
  | .either => quotedSign "||"
  | .opening => quotedSign "("
  | .closing => quotedSign ")"
  | .unclosed .. => endText

/-- What reading gives, or what is wrong and the tokens from there on. -/
abbrev Parsing := Except (SyntaxError × List Lexeme)

/-- A part of a script, and the tokens after it. -/
abbrev Before (α : Type) := α × List Lexeme

/-- The first token is wrong. -/
def unexpected {α : Type} (ts : List Lexeme) (expected : Option String := none)
    (reserving : Bool := true) : Parsing α :=
  .error (.unexpected ((ts.head?.map (·.text reserving)).getD endText) expected, ts)

/-- The tokens after a reserved word at the front, which must be there. -/
def expect (word : String) (ts : List Lexeme) : Parsing (List Lexeme) :=
  match after? word ts with
  | some rest => .ok rest
  | none => unexpected ts (some (quotedSign word))

/-! ## Simple commands and redirections -/

section Parsing

variable (aliases : Aliases)

/-- What a simple command is made of. -/
structure Simple where
  assignments : List (String × Word) := []
  words : List Word := []
  redirections : List Redirection := []

/-- The parts of a simple command at the front, of which the words are in reverse. -/
def takeSimple : (fuel : Nat) → Simple → List Lexeme → Parsing (Before Simple)
  | 0, s, ts => .ok (s, ts)
  | fuel + 1, s, ts =>
    let onward := fun (rest : List Lexeme) =>
      if s.words.isEmpty then headAlias aliases aliasDepth rest else rest
    match ts with
    | .redirect n d :: .word w _ _ :: rest =>
      takeSimple fuel { s with redirections := s.redirections ++ [⟨n, d, w⟩] } (onward rest)
    | .redirect _ _ :: rest => unexpected rest
    | .word w _ _ :: rest =>
      match s.words, assignment? w with
      | [], some a =>
        takeSimple fuel { s with assignments := s.assignments ++ [a] } (onward rest)
      | words, _ => takeSimple fuel { s with words := w :: words } rest
    | ts => .ok (s, ts)

/-- The redirections at the front. -/
def takeRedirections : List Lexeme → Parsing (Before (List Redirection))
  | .redirect n d :: .word w _ _ :: rest => do
    let (more, rest) ← takeRedirections rest
    return (⟨n, d, w⟩ :: more, rest)
  | .redirect _ _ :: rest => unexpected rest
  | ts => .ok ([], ts)

/-- The line of the first token that has one. -/
def lineOf (ts : List Lexeme) : Nat :=
  (ts.findSome? fun
    | .word _ line _ => some line
    | _ => none).getD 1

/-- A simple command. -/
def simple (ts : List Lexeme) : Parsing (Before Command) := do
  let (s, rest) ← takeSimple aliases (ts.length + 1000 * aliases.length + 1) {} ts
  return (.simple (lineOf ts) s.assignments s.words.reverse s.redirections, rest)

/-- The words at the front. -/
def takeWords : List Lexeme → List Word × List Lexeme
  | .word w _ _ :: rest =>
    let (more, rest) := takeWords rest
    (w :: more, rest)
  | ts => ([], ts)

/-- The patterns of an arm of a choice by pattern, up to the bracket that ends them. -/
def takePatterns : List Lexeme → Parsing (Before (List Word))
  | .word w _ _ :: .closing :: rest => .ok ([w], rest)
  | .word w _ _ :: .pipe :: rest => do
    let (more, rest) ← takePatterns rest
    return (w :: more, rest)
  | ts => unexpected (ts.drop 1) (some (quotedSign ")")) false

/-- The items of a loop, after its name. -/
def takeItems (ts : List Lexeme) : Parsing (Before (Option (List Word))) :=
  match after? "in" (skipNewlines ts) with
  | some rest =>
    match takeWords rest with
    | (items, .semicolon :: rest) => .ok (some items, rest)
    | (items, .newline _ :: rest) => .ok (some items, rest)
    | (_, rest) => unexpected rest
  | none =>
    match skipNewlines ts with
    | .semicolon :: rest => .ok (none, rest)
    | rest => .ok (none, rest)

/-! ## Commands -/

/-- Whether a token ends a list of commands. -/
def endsList : Lexeme → Bool
  | .closing | .doubleSemicolon => true
  | t => t.bare?.any endingWords.contains

mutual

/-- The commands up to a token that goes on with no command. There need not be any if
`mayBeEmpty`. -/
def list (fuel : Nat) (mayBeEmpty : Bool) (ts : List Lexeme) : Parsing (Before (List Command)) :=
  match fuel with
  | 0 => unexpected ts
  | fuel + 1 =>
    match headAlias aliases aliasDepth (skipNewlines ts) with
    | [] => .ok ([], [])
    | t :: rest =>
      if mayBeEmpty && endsList t then .ok ([], t :: rest)
      else do
        let (first, rest) ← andOr fuel (t :: rest)
        match rest with
        | .semicolon :: rest | .newline _ :: rest => do
          let (more, rest) ← list fuel true rest
          return (first :: more, rest)
        | .ampersand :: rest => do
          let (more, rest) ← list fuel true rest
          return (.background first :: more, rest)
        | rest => return ([first], rest)

/-- Commands up to a reserved word. -/
def upTo (fuel : Nat) (word : String) (ts : List Lexeme) : Parsing (Before (List Command)) :=
  match fuel with
  | 0 => unexpected ts
  | fuel + 1 => do
    let (body, rest) ← list fuel false ts
    return (body, ← expect word rest)

/-- Pipelines joined by success and failure. -/
def andOr (fuel : Nat) (ts : List Lexeme) : Parsing (Before Command) :=
  match fuel with
  | 0 => unexpected ts
  | fuel + 1 => do
    let (first, rest) ← pipeline fuel ts
    joined fuel first rest

/-- What is joined to a command, which stands to the left. -/
def joined (fuel : Nat) (left : Command) (ts : List Lexeme) : Parsing (Before Command) :=
  match fuel with
  | 0 => unexpected ts
  | fuel + 1 =>
    match ts with
    | .both :: rest => do
      let (right, rest) ← pipeline fuel (skipNewlines rest)
      joined fuel (.both left right) rest
    | .either :: rest => do
      let (right, rest) ← pipeline fuel (skipNewlines rest)
      joined fuel (.either left right) rest
    | rest => .ok (left, rest)

/-- Commands with pipes between them. -/
def pipeline (fuel : Nat) (ts : List Lexeme) : Parsing (Before Command) :=
  match fuel with
  | 0 => unexpected ts
  | fuel + 1 =>
    let ts := headAlias aliases aliasDepth ts
    match after? "!" ts with
    | some rest => do
      let (stages, rest) ← stages fuel rest
      return (.negated (Command.ofStages stages), rest)
    | none => do
      let (stages, rest) ← stages fuel ts
      return (Command.ofStages stages, rest)

/-- The commands of a pipeline. -/
def stages (fuel : Nat) (ts : List Lexeme) : Parsing (Before (List Command)) :=
  match fuel with
  | 0 => unexpected ts
  | fuel + 1 => do
    let (first, rest) ← command fuel ts
    match rest with
    | .pipe :: rest => do
      let (more, rest) ← stages fuel (skipNewlines rest)
      return (first :: more, rest)
    | rest => return ([first], rest)

/-- The arms of a choice by pattern, up to the word that ends it. -/
def arms (fuel : Nat) (ts : List Lexeme) : Parsing (Before (List (List Word × List Command))) :=
  match fuel with
  | 0 => unexpected ts
  | fuel + 1 =>
    let ts := skipNewlines ts
    match after? "esac" ts with
    | some rest => .ok ([], rest)
    | none => do
      let ts :=
        match ts with
        | .opening :: rest => rest
        | ts => ts
      let (patterns, rest) ← takePatterns ts
      let (body, rest) ← list fuel true rest
      match after? "esac" rest, rest with
      | some rest, _ => return ([(patterns, body)], rest)
      | none, .doubleSemicolon :: rest => do
        let (more, rest) ← arms fuel rest
        return ((patterns, body) :: more, rest)
      | none, rest => unexpected rest (some (quotedSign ";;"))

/-- A choice after its first word. -/
def choice (fuel : Nat) (ts : List Lexeme) : Parsing (Before Command) :=
  match fuel with
  | 0 => unexpected ts
  | fuel + 1 => do
    let (condition, rest) ← upTo fuel "then" ts
    let (consequent, rest) ← list fuel false rest
    match after? "elif" rest, after? "else" rest with
    | some rest, _ => do
      let (alternative, rest) ← choice fuel rest
      return (.choice condition consequent [alternative], rest)
    | none, some rest => do
      let (alternative, rest) ← upTo fuel "fi" rest
      return (.choice condition consequent alternative, rest)
    | none, none => return (.choice condition consequent [], ← expect "fi" rest)

/-- A loop after its first word. -/
def loop (fuel : Nat) (inverted : Bool) (ts : List Lexeme) : Parsing (Before Command) :=
  match fuel with
  | 0 => unexpected ts
  | fuel + 1 => do
    let (condition, rest) ← upTo fuel "do" ts
    let (body, rest) ← upTo fuel "done" rest
    return (.loop inverted condition body, rest)

/-- A command that is closed by itself, if the first token opens one. -/
def compound? (fuel : Nat) (line : Nat) (t : Lexeme) (rest : List Lexeme) :
    Option (Parsing (Before Command)) :=
  match fuel with
  | 0 => some (unexpected rest)
  | fuel + 1 =>
    match t, t.bare? with
    | .opening, _ => some do
      match ← list fuel false rest with
      | (body, .closing :: rest) => return (.subshell body, rest)
      | (_, rest) => unexpected rest (some (quotedSign ")"))
    | _, some "\x7b" => some do
      let (body, rest) ← upTo fuel "\x7d" rest
      match body with
      | [c] => return (c, rest)
      | body => return (.group body, rest)
    | _, some "if" => some (choice fuel rest)
    | _, some "while" => some (loop fuel false rest)
    | _, some "until" => some (loop fuel true rest)
    | _, some "for" => some do
      match (rest.head?.bind Lexeme.bare?).filter isName with
      | none => .error (.badLoopVariable, rest)
      | some name =>
        let (items, rest) ← takeItems (rest.drop 1)
        let (body, rest) ← upTo fuel "done" (← expect "do" (skipNewlines rest))
        return (.forEach line name items body, rest)
    | _, some "case" => some do
      match rest with
      | .word subject _ _ :: rest =>
        let (arms, rest) ← arms fuel (← expect "in" (skipNewlines rest))
        return (.select line subject arms, rest)
      | rest => unexpected rest (some "word")
    | _, _ => none

/-- A command without pipes. -/
def command (fuel : Nat) (ts : List Lexeme) : Parsing (Before Command) :=
  match fuel with
  | 0 => unexpected ts
  | fuel + 1 => do
    let ts := headAlias aliases aliasDepth ts
    match ts with
    | [] => unexpected ts
    | t :: rest =>
      match compound? fuel (lineOf ts) t rest with
      | some found => do
        let (c, rest) ← found
        match ← takeRedirections rest with
        | ([], rest) => return (c, rest)
        | (redirections, rest) => return (c.redirect (lineOf ts) redirections, rest)
      | none =>
        match t, rest with
        | .word w _ _, .opening :: rest =>
          if (bare? w).any reservedWords.contains then unexpected ts
          else if (assignment? w).isSome then simple aliases ts
          else
            let isFree := fun (name : String) => isName name && !specialCommands.contains name
            match rest, (bare? w).filter isFree with
            | .closing :: rest, some name => do
              let (body, rest) ← command fuel (skipNewlines rest)
              return (.define name body, rest)
            | .closing :: _, none => .error (.badFunctionName, rest)
            | rest, _ => unexpected rest (some (quotedSign ")")) false
        | .word w _ _, _ =>
          if (bare? w).any reservedWords.contains then unexpected ts else simple aliases ts
        | .redirect .., _ => simple aliases ts
        | _, _ => unexpected ts

end

/-- The commands of a line, and the number of the last line that is taken. -/
def wholeLine (fuel : Nat) :
    (count : Nat) → List Lexeme → Parsing (Before (List Command × Option Nat))
  | 0, ts => unexpected ts
  | count + 1, ts => do
    let (first, rest) ← andOr aliases fuel ts
    let (first, separated, rest) :=
      match rest with
      | .semicolon :: rest => (first, true, rest)
      | .ampersand :: rest => (.background first, true, rest)
      | rest => (first, false, rest)
    match rest with
    | [] => return (([first], none), [])
    | .newline last :: rest => return (([first], some last), rest)
    | rest =>
      if separated then do
        let ((more, last), rest) ← wholeLine fuel count rest
        return ((first :: more, last), rest)
      else unexpected rest

end Parsing

/-! ## Lines -/

/-- What a script goes on with. -/
inductive Next where
  /-- A line, and the number of the last line that is taken with it, if there are more. -/
  | line (commands : List Command) (rest : Source) (last : Option Nat)
  | ended
  /-- Something that is not sound. -/
  | unsound (f : Fault)

/-- The line that reading has got to after a token. -/
def Lexeme.lineAfter (line : Nat) : Lexeme → Nat
  | .word _ n _ | .unclosed _ n => n
  | .newline last => last + 1
  | _ => line

namespace Source

/-- The script of a text. -/
def ofText (text : String) : Source :=
  let (ts, documents) := Shell.tokens text
  { tokens := ts, documents := documents, last := text.toList.count '\n' + 1 }

/-- The script with its lines, which can be shown then. -/
def withLines (s : Source) (text : String) : Source :=
  let lines := text.splitOn "\n"
  let whole := (lines.dropLast).map (· ++ "\n")
  { s with lines := whole ++ lines.getLast?.toList.filter (!·.isEmpty) }

/-- The lines up to the one of a number, and the rest of the script. Without a number that is all
of them. -/
def takeLines (s : Source) (last : Option Nat) : List String × Source :=
  let n := (last.map (· - s.taken)).getD s.lines.length
  (s.lines.take n, { s with lines := s.lines.drop n, taken := s.taken + n })

/-- How deep commands can be nested in a script, more than enough. -/
def depth (s : Source) (aliases : Aliases) : Nat :=
  8 * s.tokens.length + 1000 * aliases.length + 8

/-- The script after some of its tokens, `rest` being those that are left. -/
def leave (s : Source) (rest : List Lexeme) (taken : Nat) : Source :=
  let reached :=
    if rest.isEmpty then s.last else (s.tokens.take taken).foldl Lexeme.lineAfter s.reached
  { s with tokens := rest, reached := reached }

/-- What is wrong in the documents that some tokens announce. -/
def documentFault? (s : Source) (check : Lexeme → Option Fault) (ts : List Lexeme) :
    Option Fault :=
  ts.findSome? fun
    | .redirect _ (.document n) => do
      let d ← s.documents[n]?
      if d.expands then (wordTokens .document d.line d.text).findSome? check else none
    | _ => none

/-- What is wrong in a script of which `read` reads a part: something in a token, in the order of
the tokens, or what reading says. -/
def readWith {α : Type} (s : Source) (check : Lexeme → Option Fault)
    (read : List Lexeme → Parsing (Before α)) : Except Fault (α × Source) :=
  let size := s.tokens.length
  match read s.tokens with
  | .error (e, rest) =>
    let taken := size - rest.length + 1
    match (s.tokens.take taken).findSome? check with
    | some f => .error f
    | none => .error ⟨e, (s.leave (rest.drop 1) (if rest.isEmpty then size else taken)).reached⟩
  | .ok (a, rest) =>
    let taken := size - rest.length
    let ts := s.tokens.take taken
    match ts.findSome? check <|> s.documentFault? check ts with
    | some f => .error f
    | none => .ok (a, s.leave rest taken)

/-- Reads a line, of which the tokens must pass a check. -/
def nextWith (check : Lexeme → Option Fault) (aliases : Aliases) (s : Source) : Next :=
  match skipNewlines s.tokens with
  | [] => .ended
  | _ =>
    let fuel := s.depth aliases
    let read := fun (ts : List Lexeme) => wholeLine aliases fuel (fuel + 1) (skipNewlines ts)
    match s.readWith check read with
    | .error f => .unsound f
    | .ok ((line, last), rest) => .line line rest last

/-- What is wrong with a script that stands in a word, up to a parenthesis if it is `bracketed`.
Otherwise what follows its commands does not count. -/
def faultWith? (check : Lexeme → Option Fault) (aliases : Aliases) (bracketed : Bool)
    (s : Source) : Option Fault :=
  let read := fun (ts : List Lexeme) => do
    let (cs, rest) ← list aliases (s.depth aliases) true ts
    match bracketed, rest with
    | true, .closing :: rest => return (cs, rest)
    | true, rest => unexpected rest (some (quotedSign ")"))
    | false, rest => return (cs, rest)
  match s.readWith check read with
  | .ok _ => none
  | .error f => some f

/-- The script with a parenthesis at its end. -/
def closed (s : Source) : Source :=
  { s with tokens := s.tokens ++ [.closing] }

end Source

/-- What is wrong in a token, down to some depth. -/
def Lexeme.fault? (aliases : Aliases) : (depth : Nat) → Lexeme → Option Fault
  | 0, _ => none
  | depth + 1, t =>
    let check := Lexeme.fault? aliases depth
    let inside := fun (bracketed : Bool) (line : Nat) (s : Source) =>
      (s.faultWith? check aliases bracketed).map fun f => { f with line := f.line + line - 1 }
    match t with
    | .word w line _ =>
      w.findSome? fun
        | .output script (some line) _ => inside true line (Source.ofText script).closed
        | .output script none _ => inside false 1 (Source.ofText script)
        | .modified _ _ _ text quoted =>
          (wordTokens (if quoted then .quotedWord else .word) line text).findSome? check
        | .arithmetic text _ => (wordTokens .expression line text).findSome? check
        | _ => none
    | .unclosed u line =>
      match u with
      | .quotes => some ⟨.openQuotes, line⟩
      | .brackets => some ⟨.openBrackets, line⟩
      | .backquotes => some ⟨.openBackquotes, line⟩
      | .braces quoted text =>
        let start := line - text.toList.count '\n'
        let inner :=
          (wordTokens (if quoted then .quotedWord else .word) start text).findSome? check
        inner <|> some ⟨if quoted then .openQuotes else .openBraces, line⟩
      | .script text =>
        inside true (line - text.toList.count '\n') (Source.ofText text)
    | _ => none

/-- How deep scripts in words are checked. -/
def nestingLimit : Nat := 32

/-- Reads a line. -/
def Source.next (aliases : Aliases) (s : Source) : Next :=
  s.nextWith (Lexeme.fault? aliases nestingLimit) aliases

/-- Reads all of a script that stands in a word. What follows its commands does not count. -/
def Source.whole (aliases : Aliases) (s : Source) : Next :=
  match s.readWith (Lexeme.fault? aliases nestingLimit) (list aliases (s.depth aliases) true) with
  | .error f => .unsound f
  | .ok ([], _) => .ended
  | .ok (cs, rest) => .line cs { rest with tokens := [] } none

/-- Whether a text is one simple command and nothing else. -/
def isSimpleText (aliases : Aliases) (text : String) : Bool :=
  match (Source.ofText text).whole aliases with
  | .line [.simple ..] _ _ => true
  | _ => false

end NodeCoverage.Simulator.Shell
