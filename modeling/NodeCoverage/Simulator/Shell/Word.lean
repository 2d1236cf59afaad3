/-!
# Words of shell scripts

A word is a list of parts: characters, and what stands for text that is found when the word is
expanded. What braces, parentheses and backquotes enclose stays text here, and is read when it is
its turn.
-/

namespace NodeCoverage.Simulator.Shell

/-- What a dollar sign may stand before. -/
inductive Parameter where
  /-- A variable. -/
  | named (name : String)
  /-- The argument of a number, the name of the script being number zero. -/
  | argument (n : Nat)
  /-- All arguments, each for itself. -/
  | arguments
  /-- All arguments in one text. -/
  | joined
  /-- The number of arguments. -/
  | count
  /-- The status of the last command. -/
  | status
  /-- The letters of the options. -/
  | options
  /-- The number of the shell's process. -/
  | process
  /-- The number of the last process in the background. -/
  | background
  deriving DecidableEq, Repr

/-- Whether a parameter stands for values that are apart from each other. -/
def Parameter.isApart (p : Parameter) (quoted : Bool) : Bool :=
  p == .arguments || (p == .joined && !quoted)

/-- What braces do with the value of a parameter and a further word. -/
inductive Modifier where
  /-- The word, if there is no value. -/
  | fallback
  /-- The word, if there is no value, which then becomes the value. -/
  | assign
  /-- An error with the word as its text, if there is no value. -/
  | require
  /-- The word, if there is a value. -/
  | alternative
  /-- The value without what the word matches at its start. -/
  | dropHead (longest : Bool)
  /-- The value without what the word matches at its end. -/
  | dropTail (longest : Bool)
  /-- An error: the braces hold nothing that is known. -/
  | unknown
  deriving DecidableEq, Repr

/-- A part of a word. Quoted text is neither split into fields nor a pattern. -/
inductive Part where
  | char (c : Char) (quoted : Bool)
  /-- A pair of quotes, which makes a field even if nothing is in it. -/
  | quotes
  | parameter (p : Parameter) (quoted : Bool)
  /-- The length of a value in bytes. -/
  | length (p : Parameter) (quoted : Bool)
  /-- A value with a modifier; `orEmpty` if an empty value counts as none. -/
  | modified (p : Parameter) (m : Modifier) (orEmpty : Bool) (word : String) (quoted : Bool)
  /-- What a script writes, which starts on a line if it counts the lines around it. -/
  | output (script : String) (line : Option Nat) (quoted : Bool)
  /-- The value of an expression. -/
  | arithmetic (expression : String) (quoted : Bool)
  deriving DecidableEq, Repr

/-- A word before it is expanded. -/
abbrev Word := List Part

/-! ## Names -/

/-- Whether a name may start with a character. -/
def isNameStart (c : Char) : Bool :=
  c.isAlpha || c = '_'

/-- Whether a character may stand in a name. -/
def isNameChar (c : Char) : Bool :=
  c.isAlphanum || c = '_'

/-- Whether a text is a name. -/
def isName (s : String) : Bool :=
  s.toList.head?.any isNameStart && s.toList.all isNameChar

/-- The number that digits stand for. -/
def digitsValue (digits : List Char) : Nat :=
  digits.foldl (fun n c => 10 * n + (c.toNat - '0'.toNat)) 0

/-- The parameter at the front, and how many characters it takes. Only in braces a number may have
several digits. -/
def parameter? (braced : Bool) : List Char → Option (Parameter × Nat)
  | [] => none
  | '@' :: _ => some (.arguments, 1)
  | '*' :: _ => some (.joined, 1)
  | '#' :: _ => some (.count, 1)
  | '?' :: _ => some (.status, 1)
  | '-' :: _ => some (.options, 1)
  | '$' :: _ => some (.process, 1)
  | '!' :: _ => some (.background, 1)
  | c :: rest =>
    if c.isDigit then
      let digits := if braced then c :: rest.takeWhile Char.isDigit else [c]
      some (.argument (digitsValue digits), digits.length)
    else if isNameStart c then
      let name := c :: rest.takeWhile isNameChar
      some (.named (String.ofList name), name.length)
    else none

/-! ## Enclosed text -/

/-- What can be open inside a word. -/
inductive Bracket where
  /-- Parentheses around commands, with the characters of the word at hand in reverse if it stands
  where a command starts. -/
  | round (heading : Option (List Char))
  /-- A choice by pattern, in which a closing parenthesis ends a pattern. -/
  | arms (heading : Option (List Char))
  /-- The parenthesis after a dollar sign, which a second one may follow. -/
  | opened
  /-- Two parentheses around an expression, where quotes are plain. -/
  | expression
  /-- The same, after a parenthesis that closes it if a second one follows. -/
  | closing
  /-- Parentheses in an expression. -/
  | group
  /-- Braces, and whether they stand in double quotes, where a single quote is plain. -/
  | brace (quoted : Bool)
  | double
  | single
  | back
  /-- A backslash, which the next character belongs to. -/
  | escape
  /-- A dollar sign, which the next character may belong to. -/
  | dollar
  deriving DecidableEq, Repr

namespace Bracket

/-- Whether a character closes a bracket. -/
def closedBy (c : Char) : Bracket → Bool
  | .round _ | .group => c == ')'
  | .brace _ => c == '}'
  | .double => c == '"'
  | .single => c == '\''
  | .back => c == '`'
  | .escape => true
  | .arms _ | .dollar | .opened | .expression | .closing => false

/-- Whether an expression stands in a bracket. -/
def holdsExpression : Bracket → Bool
  | .expression | .group => true
  | _ => false

/-- Whether a single quote is plain text in a bracket. -/
def isQuoting : Bracket → Bool
  | .double | .brace true => true
  | top => top.holdsExpression

/-- Whether commands stand in a bracket. -/
def holdsCommands : Bracket → Bool
  | .round _ | .arms _ => true
  | _ => false

/-- Whether a character ends a word. -/
def endsWord (c : Char) : Bool :=
  " \t\n;&|()".contains c

/-- The words after which a command starts. -/
def leadingWords : List String :=
  ["then", "do", "else", "elif", "if", "in", "while", "until", "!", "\x7b"]

/-- The word where a command starts, after one more character. -/
def headingAfter (c : Char) (heading : Option (List Char)) : Option (List Char) :=
  if c = ' ' ∨ c = '\t' then
    let leads := fun (w : List Char) =>
      w.isEmpty || leadingWords.contains (String.ofList w.reverse)
    if heading.any leads then some [] else none
  else if endsWord c then some []
  else heading.map (c :: ·)

/-- What is open after a character that opens and closes nothing. -/
def kept (c : Char) (top : Bracket) : List Bracket :=
  let opening := "case".toList.reverse
  match top with
  | .round heading =>
    if endsWord c ∧ heading = some opening then [.arms none, .round none]
    else [.round (headingAfter c heading)]
  | .arms heading =>
    if endsWord c ∧ heading = some opening then [.arms none, .arms none]
    else [.arms (headingAfter c heading)]
  | top => [top]

/-- What is open after a character that has nothing to do with the one before it. -/
def afterPlain (c : Char) : List Bracket → List Bracket
  | [] => []
  | top :: outer =>
    if endsWord c ∧ top = .arms (some "esac".toList.reverse) then afterPlain c outer
    else if c = '\\' ∧ top ≠ .single then .escape :: top.kept c ++ outer
    else if top.closedBy c then outer
    else if top = .single ∨ top = .back then top :: outer
    else if c = '$' then .dollar :: top.kept c ++ outer
    else if c = '`' then .back :: top.kept c ++ outer
    else if c = '"' ∧ !top.holdsExpression then .double :: top.kept c ++ outer
    else if c = '\'' ∧ !top.isQuoting then .single :: top.kept c ++ outer
    else if c = ')' ∧ top = .expression then .closing :: outer
    else if c = '(' ∧ top.holdsExpression then .group :: top :: outer
    else if c = '(' ∧ top.holdsCommands then .round (some []) :: top.kept c ++ outer
    else top.kept c ++ outer

/-- What is open after a character. The innermost comes first. -/
def after (c : Char) : List Bracket → List Bracket
  | .escape :: outer => outer
  | .dollar :: outer =>
    if c = '(' then .opened :: outer
    else if c = '{' then .brace (outer.head?.any isQuoting) :: outer
    else if c = '$' then outer
    else afterPlain c outer
  | .opened :: outer =>
    if c = '(' then .expression :: outer else afterPlain c (.round (some []) :: outer)
  | .closing :: outer => if c = ')' then outer else afterPlain c (.expression :: outer)
  | brackets => afterPlain c brackets

end Bracket

/-- The text up to the character after which nothing is open any more. -/
def enclosed (opened : List Bracket) : List Char → Option (List Char)
  | [] => none
  | c :: rest =>
    match Bracket.after c opened with
    | [] => some []
    | opened => (enclosed opened rest).map (c :: ·)

/-! ## What a dollar sign starts -/

/-- The part that braces with a text stand for. -/
def braces (text : List Char) (quoted : Bool) : Part :=
  let unknown : Part := .modified .count .unknown false "" quoted
  let modified (p : Parameter) (rest : List Char) : Part :=
    let part (m : Modifier) (orEmpty : Bool) (word : List Char) : Part :=
      .modified p m orEmpty (String.ofList word) quoted
    match rest with
    | [] => .parameter p quoted
    | ':' :: '-' :: w => part .fallback true w
    | ':' :: '=' :: w => part .assign true w
    | ':' :: '?' :: w => part .require true w
    | ':' :: '+' :: w => part .alternative true w
    | '-' :: w => part .fallback false w
    | '=' :: w => part .assign false w
    | '?' :: w => part .require false w
    | '+' :: w => part .alternative false w
    | '#' :: '#' :: w => part (.dropHead true) false w
    | '#' :: w => part (.dropHead false) false w
    | '%' :: '%' :: w => part (.dropTail true) false w
    | '%' :: w => part (.dropTail false) false w
    | _ => unknown
  let measured : Option Part := do
    let '#' :: rest := text | none
    let (p, n) ← parameter? true rest
    if rest.length = n then some (.length p quoted) else none
  match measured with
  | some part => part
  | none =>
    match parameter? true text with
    | some (p, n) => modified p (text.drop n)
    | none => unknown

/-- What can be left without its end. -/
inductive Unclosed where
  | quotes
  /-- Braces, which may stand in quotes, and what is in them. -/
  | braces (quoted : Bool) (text : String)
  /-- The brackets of an expression. -/
  | brackets
  /-- The parentheses around a script. -/
  | script (text : String)
  | backquotes
  deriving DecidableEq, Repr

/-- What follows a dollar sign. -/
inductive Dollar where
  /-- A part, and how many characters it takes after the dollar sign. -/
  | part (p : Part) (size : Nat)
  /-- Nothing that gives a dollar sign a meaning. -/
  | plain
  /-- Something without its end. -/
  | unclosed (u : Unclosed)

/-- Reads what follows a dollar sign on a line. Two parentheses hold an expression and nothing
else. -/
def Dollar.read (quoted : Bool) (line : Nat) : List Char → Dollar
  | '(' :: '(' :: rest =>
    match enclosed [.expression] rest with
    | some text => .part (.arithmetic (String.ofList text.dropLast) quoted) (text.length + 3)
    | none => .unclosed .brackets
  | '(' :: rest =>
    match enclosed [.round (some [])] rest with
    | some text => .part (.output (String.ofList text) (some line) quoted) (text.length + 2)
    | none => .unclosed (.script (String.ofList rest))
  | '{' :: rest =>
    match enclosed [.brace quoted] rest with
    | none => .unclosed (.braces quoted (String.ofList rest))
    | some text => .part (braces text quoted) (text.length + 2)
  | rest =>
    match parameter? false rest with
    | some (p, n) => .part (.parameter p quoted) n
    | none => .plain

end NodeCoverage.Simulator.Shell
