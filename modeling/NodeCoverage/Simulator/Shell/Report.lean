import NodeCoverage.Simulator.Shell.State

/-!
# Options, complaints and output of built-in commands

What the built-in commands have in common: how they read the options at the front of their
arguments, what an error of theirs does, and how they write values that can be read again.
-/

namespace NodeCoverage.Simulator.Shell

/-- The commands whose arguments may be assignments. -/
def declaringCommands : List String :=
  ["export", "readonly", "local"]

/-! ## Options -/

/-- The options at the front of some arguments, with their arguments, and what follows them. -/
structure Given where
  options : List (Char × String)
  rest : List String
  deriving Repr

namespace Given

/-- Whether an option was given. -/
def has (g : Given) (c : Char) : Bool :=
  g.options.any (·.1 = c)

/-- Whether an option takes an argument, if there is one of the letter: a colon follows it. -/
def takes? (allowed : List Char) (c : Char) : Option Bool :=
  match allowed.dropWhile (· ≠ c) with
  | [] => none
  | _ :: ':' :: _ => some true
  | _ :: _ => some false

/-- Reads the letters of an argument, and gives what is left of the arguments after it. -/
def readLetters (allowed : List Char) (rest : List String) :
    List Char → Except String (List (Char × String) × List String)
  | [] => .ok ([], rest)
  | c :: letters =>
    match if c = ':' then none else takes? allowed c with
    | none => .error s!"Illegal option -{c}"
    | some false => do
      let (more, rest) ← readLetters allowed rest letters
      return ((c, "") :: more, rest)
    | some true =>
      match letters, rest with
      | _ :: _, rest => .ok ([(c, String.ofList letters)], rest)
      | [], value :: rest => .ok ([(c, value)], rest)
      | [], [] => .error s!"No arg for -{c} option"

/-- Reads the options among no more than `fuel` arguments. Two hyphens end them. -/
def readAll (allowed : List Char) : (fuel : Nat) → List String → Except String Given
  | 0, arguments => .ok ⟨[], arguments⟩
  | fuel + 1, arguments =>
    match arguments with
    | [] => .ok ⟨[], []⟩
    | a :: rest =>
      match a.toList with
      | ['-', '-'] => .ok ⟨[], rest⟩
      | '-' :: c :: letters => do
        let (options, rest) ← readLetters allowed rest (c :: letters)
        let more ← readAll allowed fuel rest
        return { more with options := options ++ more.options }
      | _ => .ok ⟨[], a :: rest⟩

/-- Reads the options at the front of some arguments. -/
def read (allowed : String) (arguments : List String) : Except String Given :=
  readAll allowed.toList arguments.length arguments

end Given

/-! ## Quoting -/

/-- A text in quotes: single ones, and double ones around single ones. -/
def quotedWord (s : String) : String :=
  String.ofList (go s.length s.toList)
where
  /-- The same of no more than `fuel` runs of characters. -/
  go : (fuel : Nat) → List Char → List Char
    | 0, _ => ['\'', '\'']
    | fuel + 1, cs =>
      let plain := cs.takeWhile (· ≠ '\'')
      let rest := cs.drop plain.length
      let quotes := rest.takeWhile (· = '\'')
      let opening := '\'' :: plain ++ ['\'']
      if quotes.isEmpty then opening
      else
        let after := rest.drop quotes.length
        let more := if after.isEmpty then [] else go fuel after
        opening ++ '"' :: quotes ++ '"' :: more

/-- The place of a name in a table of some size, which decides the order of listings. -/
def tablePlace (size : Nat) (name : String) : Nat :=
  let bytes := (Text.utf8 name).map (·.toNat)
  (16 * bytes.headD 0 + bytes.foldl (· + ·) 0) % size

/-- Entries in the order of a table of some size, those of one place as they came. -/
def tableOrder {α : Type} (size : Nat) (entries : List (String × α)) : List (String × α) :=
  entries.mergeSort fun a b => tablePlace size a.1 ≤ tablePlace size b.1

/-- The size of the table of variables. -/
def variableTableSize : Nat := 39

namespace State

/-- An error of a built-in command. -/
def refuse (st : State) (command text : String) : State :=
  let st := (st.complain text).done 2
  if specialCommands.contains command then st.giveUp else st

/-- Goes on with the options of a command. -/
def withOptions (st : State) (command allowed : String) (arguments : List String)
    (go : Given → State) : State :=
  match Given.read allowed arguments with
  | .ok given => go given
  | .error text => st.refuse command text

/-- Goes on with the number that an argument is. -/
def withNumber (st : State) (command text : String) (go : Nat → State) : State :=
  match integer? false text with
  | some n =>
    if 0 ≤ n ∧ n ≤ Int32.maxValue.toInt then go n.toNat
    else st.refuse command s!"Illegal number: {text}"
  | none => st.refuse command s!"Illegal number: {text}"

/-- Ends a command that writes something, which fails if nobody can get it. -/
def emit (st : State) (command : String) (bytes : List UInt8) (status : Nat) : State :=
  if st.isOpen 1 || bytes.isEmpty then (st.write 1 bytes).done status
  else (st.complain s!"{command}: I/O error").done 1

/-- Ends a command that writes a text. -/
def emitText (st : State) (command text : String) (status : Nat) : State :=
  st.emit command (Text.utf8 text) status

/-- The variables that are passed on, in the order of their table. -/
def passedOn (st : State) : List (String × String) :=
  (tableOrder variableTableSize st.bindings).filterMap fun (name, b) =>
    if b.exported then b.value.map (name, ·) else none

/-- Writes a complaint that has no heading. -/
def remark (st : State) (text : String) : State :=
  st.write 2 (Text.utf8 (text ++ "\n"))

end State

end NodeCoverage.Simulator.Shell
