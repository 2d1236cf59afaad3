import NodeCoverage.Simulator.FileSystem

/-!
# Patterns

Patterns for texts and for the names of files: a question mark stands for a byte, an asterisk for
any bytes, and brackets for one of the bytes in them. A quoted character is itself, and so is one
after a backslash.
-/

namespace NodeCoverage.Simulator.Shell

/-- A character of an expanded word. -/
structure Glyph where
  char : Char
  quoted : Bool
  deriving DecidableEq, Repr

/-- A byte of an expanded word. -/
structure Octet where
  byte : UInt8
  quoted : Bool
  deriving DecidableEq, Repr

/-- What brackets hold. -/
inductive ByteClass where
  | range (low high : UInt8)
  | named (name : String)
  deriving DecidableEq, Repr

/-- Whether a byte is in a class. -/
def ByteClass.contains (b : UInt8) (k : ByteClass) : Bool :=
  let c := Char.ofNat b.toNat
  match k with
  | .range low high => low ≤ b && b ≤ high
  | .named "alpha" => c.isAlpha
  | .named "digit" => c.isDigit
  | .named "alnum" => c.isAlphanum
  | .named "upper" => c.isUpper
  | .named "lower" => c.isLower
  | .named "blank" => c = ' ' || c = '\t'
  | .named "space" => b = 32 || (9 ≤ b && b ≤ 13)
  | .named "punct" => 33 ≤ b && b ≤ 126 && !c.isAlphanum
  | .named "print" => 32 ≤ b && b ≤ 126
  | .named "graph" => 33 ≤ b && b ≤ 126
  | .named "cntrl" => b < 32 || b = 127
  | .named "xdigit" => c.isDigit || ('a' ≤ c && c ≤ 'f') || ('A' ≤ c && c ≤ 'F')
  | .named _ => false

/-- A piece of a pattern. -/
inductive PatternItem where
  | byte (b : UInt8)
  | one
  | many
  | oneOf (negated : Bool) (classes : List ByteClass)
  deriving DecidableEq, Repr

/-- A pattern. -/
abbrev Pattern := List PatternItem

namespace Pattern

/-- The class between brackets and colons at the front, and how many bytes it takes. -/
def namedClass? (s : List Octet) : Option (ByteClass × Nat) :=
  match s with
  | ⟨91, false⟩ :: ⟨58, false⟩ :: rest =>
    let name := rest.takeWhile fun u => 97 ≤ u.byte && u.byte ≤ 122
    match rest.drop name.length with
    | ⟨58, false⟩ :: ⟨93, false⟩ :: _ =>
      some (.named (String.ofList (name.map fun u => Char.ofNat u.byte.toNat)), name.length + 4)
    | _ => none
  | _ => none

/-- The classes up to the bracket that ends them, and the rest. A bracket right at the start is a
byte like others. -/
def classes? (start : Bool) (skipped : Nat) : List Octet → Option (List ByteClass × List Octet)
  | [] => none
  | u :: rest =>
    if skipped ≠ 0 then classes? false (skipped - 1) rest
    else if u = ⟨93, false⟩ ∧ !start then some ([], rest)
    else
      let (item, size) : ByteClass × Nat :=
        match namedClass? (u :: rest), rest with
        | some (named, n), _ => (named, n)
        | none, ⟨45, false⟩ :: high :: _ =>
          if high = ⟨93, false⟩ then (.range u.byte u.byte, 1) else (.range u.byte high.byte, 3)
        | none, _ => (.range u.byte u.byte, 1)
      (classes? false (size - 1) rest).map fun (more, rest) => (item :: more, rest)

/-- What an opening bracket starts, and the rest. -/
def bracket? (s : List Octet) : Option (PatternItem × List Octet) :=
  match s with
  | ⟨33, false⟩ :: rest => (classes? true 0 rest).map fun (ks, rest) => (.oneOf true ks, rest)
  | rest => (classes? true 0 rest).map fun (ks, rest) => (.oneOf false ks, rest)

/-- The pattern of no more than `fuel` bytes. -/
def read (fuel : Nat) (s : List Octet) : Pattern :=
  match fuel, s with
  | 0, _ | _, [] => []
  | fuel + 1, ⟨92, false⟩ :: u :: rest => .byte u.byte :: read fuel rest
  | fuel + 1, u :: rest =>
    if u = ⟨42, false⟩ then .many :: read fuel rest
    else if u = ⟨63, false⟩ then .one :: read fuel rest
    else if u = ⟨91, false⟩ then
      match bracket? rest with
      | some (item, rest) => item :: read fuel rest
      | none => .byte 91 :: read fuel rest
    else .byte u.byte :: read fuel rest

/-- The pattern that characters make. -/
def ofGlyphs (s : List Glyph) : Pattern :=
  let units := s.flatMap fun g => (Text.utf8 g.char.toString).map (⟨·, g.quoted⟩)
  read units.length units

/-- Whether a pattern matches all of some bytes. -/
def matchesAll : Pattern → List UInt8 → Bool
  | [], s => s.isEmpty
  | .many :: p, s =>
    matchesAll p s ||
      match s with
      | [] => false
      | _ :: rest => matchesAll (.many :: p) rest
  | _ :: _, [] => false
  | .byte a :: p, b :: rest => a == b && matchesAll p rest
  | .one :: p, _ :: rest => matchesAll p rest
  | .oneOf negated classes :: p, b :: rest =>
    (classes.any (·.contains b)) != negated && matchesAll p rest
termination_by p s => p.length + s.length

/-- Whether a pattern matches a whole text. -/
def matchesText (p : Pattern) (s : String) : Bool :=
  p.matchesAll (Text.utf8 s)

/-- The bytes without what a pattern matches at their start. -/
def dropHead (p : Pattern) (longest : Bool) (s : List UInt8) : List UInt8 :=
  let found := (List.range (s.length + 1)).filter fun n => p.matchesAll (s.take n)
  s.drop ((if longest then found.getLast? else found.head?).getD 0)

/-- The bytes without what a pattern matches at their end. -/
def dropTail (p : Pattern) (longest : Bool) (s : List UInt8) : List UInt8 :=
  let found := (List.range (s.length + 1)).filter fun n => p.matchesAll (s.drop n)
  s.take ((if longest then found.head? else found.getLast?).getD s.length)

/-- Some values without what a pattern matches at the start of the first one. All of them go if the
longest match counts and that is all of the first one. -/
def dropHeads (p : Pattern) (longest : Bool) : List (List UInt8) → List (List UInt8)
  | [] => []
  | first :: rest =>
    if longest && p.matchesAll first then [] else p.dropHead longest first :: rest

/-- Some values up to what a pattern matches at the end of one: of the first one if the longest
match counts, else of the last one in which there is a match. -/
def dropTails (p : Pattern) (longest : Bool) (values : List (List UInt8)) : List (List UInt8) :=
  let isCut := fun (s : List UInt8) =>
    (List.range (s.length + 1)).any fun n => p.matchesAll (s.drop n)
  let searched := if longest then values.take 1 else values
  match searched.reverse.dropWhile (!isCut ·) with
  | [] => values
  | last :: before => before.reverse ++ [p.dropTail longest last]

end Pattern

/-! ## Names of files -/

/-- Whether characters may be a pattern for names of files. -/
def hasPattern (s : List Glyph) : Bool :=
  s.any fun g => !g.quoted && "*?[".contains g.char

/-- The text of characters. -/
def glyphText (s : List Glyph) : String :=
  String.ofList (s.map (·.char))

/-- The parts between slashes. -/
def splitSlashes : List Glyph → List (List Glyph)
  | [] => [[]]
  | g :: rest =>
    if g.char = '/' then [] :: splitSlashes rest
    else
      match splitSlashes rest with
      | first :: more => (g :: first) :: more
      | [] => [[g]]

/-- The names in the directory of a path, with those of the directory itself and its parent. -/
def namesIn (fs : FileSystem) (path : String) : List String :=
  match fs.find (if path.isEmpty then "." else path) with
  | .ok e => if e.isDirectory then "." :: ".." :: e.names else []
  | .error _ => []

/-- The paths that go on from some paths by the parts of a pattern. -/
def expandParts (fs : FileSystem) (starts : List String) : List (List Glyph) → List String
  | [] => starts
  | part :: rest =>
    let last := rest.isEmpty
    let next := starts.flatMap fun start =>
      if hasPattern part then
        let p := Pattern.ofGlyphs part
        let names := (namesIn fs start).filter fun name =>
          (!name.startsWith "." || part.head?.any (·.char = '.')) && p.matchesText name
        let paths := names.map (start ++ ·)
        if last then paths
        else (paths.filter fun path => fs.contains (path ++ "/.")).map (· ++ "/")
      else
        let path := start ++ glyphText part
        if last then (if fs.contains path then [path] else []) else [path ++ "/"]
    expandParts fs next rest

/-- The paths of the files that characters match, or their own text if there are none. -/
def expandNames (fs : FileSystem) (s : List Glyph) : List String :=
  if hasPattern s then
    match expandParts fs [""] (splitSlashes s) with
    | [] => [glyphText s]
    | paths => paths.mergeSort fun a b => a ≤ b
  else [glyphText s]

end NodeCoverage.Simulator.Shell
