import NodeCoverage.Int128
import NodeCoverage.Json.Skip

/-!
# Readers of JSON values

A `Reader` takes one value off the front of a text. It always consumes something, which is part of
its type, so lists and records of any length are read by recursion on what is left. Reading goes
from left to right and stops at the first failure; nothing after that is looked at.
-/

namespace NodeCoverage.Json

/-- Reads one value and gives it with the rest of the text. -/
structure Reader (α : Type) where
  read : List UInt8 → Except Failure (α × List UInt8)
  consumes : ∀ {s r : List UInt8} {a : α}, read s = .ok (a, r) → r.length < s.length

/-- A failure at the place where reading is. -/
def here {α : Type} : Except Cause α → Except Failure α
  | .ok a => .ok a
  | .error e => .error ⟨e, []⟩

/-- A mismatch at the place where reading is. -/
def mismatch {α : Type} (m : Mismatch) : Except Failure α :=
  .error ⟨.mismatched m, []⟩

theorem here_eq_ok {α : Type} {x : Except Cause α} {a : α} : here x = .ok a ↔ x = .ok a := by
  cases x <;> simp [here]

/-- Reads a whole text: one value, and blanks around it. -/
def Reader.decode {α : Type} (reader : Reader α) (s : List UInt8) : Except Failure α :=
  match reader.read s with
  | .error f => .error f
  | .ok (a, rest) =>
    match skipBlank rest with
    | [] => .ok a
    | _ => .error ⟨.malformed .trailingCharacters, []⟩

namespace Reader

variable {α β : Type}

/-! ## Scalars -/

/-- Reads a value by its head alone. -/
def ofHead (value : Head → Except Mismatch α) : Reader α where
  read s :=
    match readHead s with
    | .error e => .error ⟨e, []⟩
    | .ok (head, rest) =>
      match value head with
      | .error m => mismatch m
      | .ok a => .ok (a, rest)
  consumes {s r a} h := by
    split at h
    · cases h
    · next hh =>
      have := readHead_consumes hh
      split at h
      · cases h
      · cases h; assumption

/-- Reads a natural number, of which `ofWord?` makes a value if it can. -/
def natural (expected : String) (ofWord? : UInt64 → Option α) : Reader α :=
  ofHead fun
    | .number (.natural n) =>
      match ofWord? n with
      | some a => .ok a
      | none => .error (.wrongValue (.integer n.toNat) expected)
    | .number (.negative n) => .error (.wrongValue (.integer (-n)) expected)
    | head => .error (.wrongType head.found expected)

/-- A word of 64 bits. -/
def uint64 : Reader UInt64 :=
  natural "u64" some

/-- A word of 32 bits. -/
def uint32 : Reader UInt32 :=
  natural "u32" fun n => if n.toNat < UInt32.size then some n.toUInt32 else none

/-- A text. -/
def text : Reader String :=
  ofHead fun
    | .text s => .ok s
    | head => .error (.wrongType head.found "a string")

/-- Reads an integer of 128 bits. It is scanned by itself, so anything but an integer is malformed
here, and what follows the digits is left to whoever reads on. -/
def readInt128 (s : List UInt8) : Except Failure (Int128 × List UInt8) :=
  match skipBlank s with
  | [] => .error ⟨.ended .value, []⟩
  | b :: rest => here (scanInteger Int128.ofInt? (Int128.bound.toNat + 1) (b :: rest))

theorem readInt128_consumes {s r : List UInt8} {a : Int128} (h : readInt128 s = .ok (a, r)) :
    r.length < s.length := by
  unfold readInt128 at h
  split at h
  · cases h
  · next hs =>
    have := scanInteger_consumes (here_eq_ok.1 h)
    have := length_of_skipBlank hs
    simp only [List.length_cons] at *
    omega

/-- An integer of 128 bits. -/
def int128 : Reader Int128 where
  read := readInt128
  consumes := readInt128_consumes

/-! ## Places and choices -/

/-- The same reader, for a part of a value: failures tell which part. -/
def within (segment : Segment) (reader : Reader α) : Reader α where
  read s := (reader.read s).mapError (·.within segment)
  consumes {s r a} h := by
    cases hr : reader.read s with
    | error f => rw [hr] at h; cases h
    | ok p => rw [hr] at h; cases h; exact reader.consumes hr

/-- The same reader, with a function applied to the value. -/
def map (f : α → β) (reader : Reader α) : Reader β where
  read s := (reader.read s).map fun (a, r) => (f a, r)
  consumes {s r b} h := by
    cases hr : reader.read s with
    | error e => rw [hr] at h; cases h
    | ok p => rw [hr] at h; cases h; exact reader.consumes hr

/-- Null, or a value. -/
def optional (reader : Reader α) : Reader (Option α) where
  read s :=
    match skipBlank s with
    | 0x6E :: rest => here ((readWord [0x75, 0x6C, 0x6C] rest).map (none, ·))
    | _ => (reader.map some).read s
  consumes {s r a} h := by
    split at h
    · next hs =>
      obtain ⟨r', hw, hr⟩ := map_eq_ok.1 (here_eq_ok.1 h)
      cases hr
      have := readWord_length_le hw
      have := length_of_skipBlank hs
      omega
    · exact (reader.map some).consumes h

/-! ## Lists -/

/-- What comes next in a list. -/
inductive ListStep where
  /-- The list ends before `rest`. -/
  | done (rest : List UInt8)
  /-- An element starts at `start`. -/
  | element (start : List UInt8)

/-- Goes to the next element of a list, or past its end. `first` is for the place after the
opening bracket, where no comma is due. -/
def nextElement (first : Bool) (s : List UInt8) : Except Cause ListStep :=
  match skipBlank s with
  | [] => .error (.ended .list)
  | b :: rest =>
    if b = 0x5D then .ok (.done rest)
    else if first then .ok (.element (b :: rest))
    else if b = 0x2C then
      match skipBlank rest with
      | [] => .error (.ended .value)
      | c :: more =>
        if c = 0x5D then .error (.malformed .trailingComma) else .ok (.element (c :: more))
    else .error (.malformed .expectedListEnd)

theorem nextElement_done {first : Bool} {s rest : List UInt8}
    (h : nextElement first s = .ok (.done rest)) : rest.length < s.length := by
  unfold nextElement at h
  split at h
  · cases h
  · next hs =>
    have := length_of_skipBlank hs
    split at h
    · cases h; assumption
    · split at h
      · cases h
      · split at h
        · split at h
          · cases h
          · split at h <;> cases h
        · cases h

theorem nextElement_element {first : Bool} {s start : List UInt8}
    (h : nextElement first s = .ok (.element start)) : start.length ≤ s.length := by
  unfold nextElement at h
  split at h
  · cases h
  · next hs =>
    have := length_of_skipBlank hs
    split at h
    · cases h
    · split at h
      · cases h; simp only [List.length_cons]; omega
      · split at h
        · split at h
          · cases h
          · next hr =>
            have := length_of_skipBlank hr
            split at h <;> cases h
            simp only [List.length_cons]; omega
        · cases h

/-- The elements of a list from number `i` on, put in reverse before `done`. -/
def elements (item : Reader α) (i : Nat) (done : List α) (s : List UInt8) :
    Except Failure (List α × List UInt8) :=
  match hs : nextElement (i == 0) s with
  | .error e => .error ⟨e, []⟩
  | .ok (.done rest) => .ok (done.reverse, rest)
  | .ok (.element start) =>
    match hi : (item.within (.index i)).read start with
    | .error f => .error f
    | .ok (a, r) =>
      have := nextElement_element hs
      have := (item.within (.index i)).consumes hi
      elements item (i + 1) (a :: done) r
termination_by s.length

theorem elements_consumes {item : Reader α} {i : Nat} {done xs : List α} {s r : List UInt8}
    (h : elements item i done s = .ok (xs, r)) : r.length < s.length := by
  fun_induction elements item i done s with
  | case1 => cases h
  | case2 i done s rest hs => cases h; exact nextElement_done hs
  | case3 => cases h
  | case4 i done s start hs a r' hi h1 h2 ih =>
    have := ih h
    have := nextElement_element hs
    omega

/-- A list of any length. -/
def list (item : Reader α) : Reader (List α) where
  read s :=
    match readHead s with
    | .error e => .error ⟨e, []⟩
    | .ok (.list, rest) => elements item 0 [] rest
    | .ok (head, _) => mismatch (.wrongType head.found "a sequence")
  consumes {s r a} h := by
    split at h
    · cases h
    · next hh =>
      have := readHead_consumes hh
      have := elements_consumes h
      omega
    · cases h

end Reader

end NodeCoverage.Json
