import NodeCoverage.Json.Head

/-!
# Passing over JSON values

The value of a field that nobody asked for is passed over. Its brackets, commas and colons are
checked, and so is the shape of its scalars, but numbers are not valued and strings are not
decoded. The open brackets are kept in a list, so nesting has no limit.
-/

namespace NodeCoverage.Json

/-- What an open bracket holds. -/
inductive Nest where
  | list
  | record
  deriving DecidableEq, Repr

namespace Nest

/-- The bracket that closes it. -/
def closing : Nest → UInt8
  | .list => 0x5D
  | .record => 0x7D

/-- The cause when the text ends inside. -/
def unfinished : Nest → Cause
  | .list => .ended .list
  | .record => .ended .record

/-- The cause when neither a comma nor the closing bracket follows a value. -/
def unseparated : Nest → Cause
  | .list => .malformed .expectedListEnd
  | .record => .malformed .expectedRecordEnd

end Nest

/-- What may come next while values are passed over. -/
inductive Awaiting where
  /-- A value. -/
  | value
  /-- What follows an opening bracket: the first value, or the closing bracket. -/
  | first
  /-- A key, the colon and the value. -/
  | member
  /-- What follows a value: a comma or a closing bracket, or the end of it all. -/
  | next
  deriving DecidableEq, Repr

/-- Passes over a scalar that starts with byte `b`. -/
def skipScalar (b : UInt8) (rest : List UInt8) : Except Cause (List UInt8) :=
  if b = 0x6E then readWord [0x75, 0x6C, 0x6C] rest
  else if b = 0x74 then readWord [0x72, 0x75, 0x65] rest
  else if b = 0x66 then readWord [0x61, 0x6C, 0x73, 0x65] rest
  else if b = 0x22 then skipText rest
  else if b = 0x2D ∨ isDigit b then
    (Literal.scan (.malformed .invalidNumber) (b :: rest)).map (·.2)
  else .error (.malformed .expectedValue)

/-- Passes over a key and its colon. -/
def skipKey (s : List UInt8) : Except Cause (List UInt8) :=
  match skipBlank s with
  | [] => .error (.ended .record)
  | b :: rest =>
    if b = 0x22 then
      match skipText rest with
      | .error e => .error e
      | .ok r =>
        match skipBlank r with
        | [] => .error (.ended .record)
        | c :: r => if c = 0x3A then .ok r else .error (.malformed .expectedColon)
    else .error (.malformed .keyNotText)

theorem skipScalar_length_le {b : UInt8} {rest r : List UInt8} (h : skipScalar b rest = .ok r) :
    r.length ≤ rest.length := by
  unfold skipScalar at h
  split at h
  · exact readWord_length_le h
  split at h
  · exact readWord_length_le h
  split at h
  · exact readWord_length_le h
  split at h
  · exact Nat.le_of_lt (skipText_consumes h)
  split at h
  · obtain ⟨⟨l, r'⟩, ha, hb⟩ := map_eq_ok.1 h
    cases hb
    exact Nat.le_of_lt_succ (Literal.scan_consumes ha)
  · cases h

theorem skipKey_consumes {s r : List UInt8} (h : skipKey s = .ok r) : r.length < s.length := by
  unfold skipKey at h
  split at h
  · cases h
  · next hs =>
    have := length_of_skipBlank hs
    split at h
    · split at h
      · cases h
      · next ht =>
        have := skipText_consumes ht
        split at h
        · cases h
        · next hr =>
          have := length_of_skipBlank hr
          split at h <;> cases h
          omega
    · cases h

/-- Passes over what is awaited and all that is still open around it, innermost bracket first. -/
def skip (awaiting : Awaiting) (nests : List Nest) (s : List UInt8) :
    Except Cause (List UInt8) :=
  match awaiting, nests with
  | .next, [] => .ok s
  | .next, nest :: outer =>
    match h : skipBlank s with
    | [] => .error nest.unfinished
    | b :: rest =>
      have := length_of_skipBlank h
      if b = 0x2C then
        match nest with
        | .list => skip .value (.list :: outer) rest
        | .record => skip .member (.record :: outer) rest
      else if b = nest.closing then skip .next outer rest
      else .error nest.unseparated
  | .first, [] => .ok s
  | .first, nest :: outer =>
    match h : skipBlank s with
    | [] => .error nest.unfinished
    | b :: rest =>
      have := length_of_skipBlank h
      if b = nest.closing then skip .next outer rest
      else
        match nest with
        | .list => skip .value (.list :: outer) s
        | .record => skip .member (.record :: outer) s
  | .member, nests =>
    match h : skipKey s with
    | .error e => .error e
    | .ok r =>
      have := skipKey_consumes h
      skip .value nests r
  | .value, nests =>
    match h : skipBlank s with
    | [] => .error (.ended .value)
    | b :: rest =>
      have := length_of_skipBlank h
      if b = 0x5B then skip .first (.list :: nests) rest
      else if b = 0x7B then skip .first (.record :: nests) rest
      else
        match h : skipScalar b rest with
        | .error e => .error e
        | .ok r =>
          have := skipScalar_length_le h
          skip .next nests r
termination_by (s.length, if awaiting = .first then 1 else 0)
decreasing_by all_goals (simp_wf; first | (left; omega) | (right; trivial))

/-- Passes over one value. -/
def skipValue (s : List UInt8) : Except Cause (List UInt8) :=
  skip .value [] s

theorem skip_length_le {a : Awaiting} {nests : List Nest} {s r : List UInt8}
    (h : skip a nests s = .ok r) :
    r.length + (if a = .value then 1 else 0) ≤ s.length := by
  fun_induction skip a nests s <;> simp_all <;> omega

theorem skipValue_consumes {s r : List UInt8} (h : skipValue s = .ok r) : r.length < s.length :=
  skip_length_le h

end NodeCoverage.Json
