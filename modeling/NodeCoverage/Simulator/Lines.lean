import NodeCoverage.Simulator.Shell.Pattern

/-!
# Lines

Bytes as lines, which programs select, order and search.
-/

namespace NodeCoverage.Simulator

namespace Lines

/-- The lines of some bytes, each with the newline that ends it. -/
def split (bytes : List UInt8) : List (List UInt8) :=
  match bytes with
  | [] => []
  | b :: rest =>
    if b = 10 then [b] :: split rest
    else
      match split rest with
      | [] => [[b]]
      | line :: more => (b :: line) :: more

/-- A line without the newline that ends it. -/
def body (line : List UInt8) : List UInt8 :=
  if line.getLast? = some 10 then line.dropLast else line

/-- A line with a newline at its end. -/
def ended (line : List UInt8) : List UInt8 :=
  body line ++ [10]

/-- What is selected at the front or at the end of something. -/
inductive Extent where
  | first (n : Nat)
  /-- All but some at the end. -/
  | butLast (n : Nat)
  | last (n : Nat)
  /-- All from the one of a number on. -/
  | fromNumber (n : Nat)
  deriving DecidableEq, Repr

/-- Selects a part of a list. -/
def Extent.select {α : Type} (e : Extent) (xs : List α) : List α :=
  match e with
  | .first n => xs.take n
  | .butLast n => xs.take (xs.length - n)
  | .last n => xs.drop (xs.length - n)
  | .fromNumber n => xs.drop (n - 1)

/-! ## Order -/

/-- The number at the start of a line, zero if there is none. -/
def number (line : List UInt8) : Int :=
  let blank := fun (b : UInt8) => b = 32 || b = 9
  let isDigit := fun (b : UInt8) => 48 ≤ b && b ≤ 57
  let value := fun (s : List UInt8) =>
    (s.takeWhile isDigit).foldl (fun (n : Int) b => 10 * n + (b.toNat - 48 : Nat)) 0
  match line.dropWhile blank with
  | 45 :: rest => -(value rest)
  | rest => value rest

/-- Whether bytes come before others or are the same. -/
def precedes : List UInt8 → List UInt8 → Bool
  | [], _ => true
  | _ :: _, [] => false
  | a :: s, b :: t => a < b || (a = b && precedes s t)

/-- Whether a line may stand before another, by its number first if `numeric`. -/
def inOrder (numeric : Bool) (a b : List UInt8) : Bool :=
  let n := number a
  let m := number b
  if numeric && n ≠ m then n < m else precedes a b

/-- Lines without those that equal the one before. -/
def distinct : List (List UInt8) → List (List UInt8)
  | a :: b :: rest => if a = b then distinct (b :: rest) else a :: distinct (b :: rest)
  | lines => lines

/-- Lines in order. -/
def sort (numeric reversed unique : Bool) (lines : List (List UInt8)) : List (List UInt8) :=
  let sorted := lines.mergeSort fun a b =>
    if reversed then inOrder numeric b a else inOrder numeric a b
  if unique then distinct sorted else sorted

/-! ## Searching -/

open Shell (PatternItem Octet)

/-- A step of a search: a byte of some kind, once or any number of times. -/
structure Step where
  item : PatternItem
  repeated : Bool := false
  deriving Repr

/-- What is searched for. -/
structure Search where
  steps : List Step
  /-- Whether it stands at the start of a line. -/
  atStart : Bool := false
  /-- Whether it stands at the end of a line. -/
  atEnd : Bool := false
  deriving Repr

namespace Search

/-- The steps of no more than `fuel` bytes, and whether a dollar sign ends them. -/
def readSteps : (fuel : Nat) → List UInt8 → List Step × Bool
  | 0, _ | _, [] => ([], false)
  | _ + 1, [36] => ([], true)
  | fuel + 1, b :: rest =>
    let (item, rest) : PatternItem × List UInt8 :=
      match b, rest with
      | 92, c :: rest => (.byte c, rest)
      | 46, rest => (.one, rest)
      | 91, rest =>
        let negated := rest.head? = some 94
        let inner := (if negated then rest.drop 1 else rest).map fun b => (⟨b, false⟩ : Octet)
        match Shell.Pattern.classes? true 0 inner with
        | some (classes, rest) => (.oneOf negated classes, rest.map (·.byte))
        | none => (.byte b, rest)
      | b, rest => (.byte b, rest)
    let (repeated, rest) :=
      match rest with
      | 42 :: rest => (true, rest)
      | rest => (false, rest)
    let (more, ended) := readSteps fuel rest
    (⟨item, repeated⟩ :: more, ended)

/-- The search for what an expression describes. -/
def ofExpression (text : List UInt8) : Search :=
  let (atStart, text) :=
    match text with
    | 94 :: rest => (true, rest)
    | text => (false, text)
  let (found, atEnd) := readSteps text.length text
  ⟨found, atStart, atEnd⟩

/-- The search for a text. -/
def ofText (text : List UInt8) : Search where
  steps := text.map fun b => ⟨.byte b, false⟩

/-- Whether steps lead through the bytes at the front, to the last one if `whole`. -/
def leads (whole : Bool) : List Step → List UInt8 → Bool
  | [], s => !whole || s.isEmpty
  | ⟨item, false⟩ :: rest, s =>
    match s with
    | [] => false
    | b :: s => Shell.Pattern.matchesAll [item] [b] && leads whole rest s
  | ⟨item, true⟩ :: rest, s =>
    leads whole rest s ||
      match s with
      | [] => false
      | b :: s => Shell.Pattern.matchesAll [item] [b] && leads whole (⟨item, true⟩ :: rest) s
termination_by steps s => steps.length + s.length

/-- Whether a line has what is searched for. -/
def isIn (q : Search) (line : List UInt8) : Bool :=
  leads q.atEnd q.steps line ||
    match line with
    | [] => false
    | _ :: rest => !q.atStart && q.isIn rest

end Search

end Lines

end NodeCoverage.Simulator
