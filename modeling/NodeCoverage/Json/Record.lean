import NodeCoverage.Json.Reader

/-!
# Readers of JSON records

A record is written as an object, its fields in any order and among fields that it does not have,
or as an array of its fields in order. A field that is not given keeps the value it has in the
blank record, unless the record is strict and wants every field.
-/

namespace NodeCoverage.Json

/-- A field of a record: its name, and how its value changes the record. -/
structure Member (R : Type) where
  name : String
  update : Reader (R → R)

/-- The field of a name, by a reader of its value and a setter. -/
def Member.of {R α : Type} (name : String) (value : Reader α) (set : α → R → R) :
    Member R where
  name := name
  update := value.map set

/-- The form of a record. -/
structure RecordForm (R : Type) where
  /-- The name for messages. -/
  name : String
  /-- The record that has none of its fields given. -/
  blank : R
  members : List (Member R)
  /-- Whether every field must be given. -/
  strict : Bool := false

/-- What comes next in an object. -/
inductive ObjectStep where
  /-- The object ends before `rest`. -/
  | done (rest : List UInt8)
  /-- The text of a key starts at `start`, after its quote. -/
  | key (start : List UInt8)

/-- Goes to the next key of an object, or past its end. `first` is for the place after the opening
bracket, where no comma is due. -/
def nextKey (first : Bool) (s : List UInt8) : Except Cause ObjectStep :=
  match skipBlank s with
  | [] => .error (.ended .record)
  | b :: rest =>
    if b = 0x7D then .ok (.done rest)
    else if first then
      if b = 0x22 then .ok (.key rest) else .error (.malformed .keyNotText)
    else if b = 0x2C then
      match skipBlank rest with
      | [] => .error (.ended .value)
      | c :: more =>
        if c = 0x22 then .ok (.key more)
        else if c = 0x7D then .error (.malformed .trailingComma)
        else .error (.malformed .keyNotText)
    else .error (.malformed .expectedRecordEnd)

/-- Goes past the colon after a key. -/
def readColon (s : List UInt8) : Except Cause (List UInt8) :=
  match skipBlank s with
  | [] => .error (.ended .record)
  | b :: rest => if b = 0x3A then .ok rest else .error (.malformed .expectedColon)

/-- Goes past the end of an array all of whose elements are read. -/
def readArrayEnd (s : List UInt8) : Except Cause (List UInt8) :=
  match skipBlank s with
  | [] => .error (.ended .list)
  | b :: rest =>
    if b = 0x5D then .ok rest
    else if b = 0x2C then
      match skipBlank rest with
      | 0x5D :: _ => .error (.malformed .trailingComma)
      | _ => .error (.malformed .trailingCharacters)
    else .error (.malformed .trailingCharacters)

theorem nextKey_done {first : Bool} {s rest : List UInt8}
    (h : nextKey first s = .ok (.done rest)) : rest.length < s.length := by
  unfold nextKey at h
  split at h
  · cases h
  · next hs =>
    have := length_of_skipBlank hs
    split at h
    · cases h; assumption
    · split at h
      · split at h <;> cases h
      · split at h
        · split at h
          · cases h
          · split at h
            · cases h
            · split at h <;> cases h
        · cases h

theorem nextKey_key {first : Bool} {s start : List UInt8}
    (h : nextKey first s = .ok (.key start)) : start.length < s.length := by
  unfold nextKey at h
  split at h
  · cases h
  · next hs =>
    have := length_of_skipBlank hs
    split at h
    · cases h
    · split at h
      · split at h <;> cases h
        assumption
      · split at h
        · split at h
          · cases h
          · next hr =>
            have := length_of_skipBlank hr
            split at h
            · cases h; omega
            · split at h <;> cases h
        · cases h

theorem readColon_consumes {s r : List UInt8} (h : readColon s = .ok r) :
    r.length < s.length := by
  unfold readColon at h
  split at h
  · cases h
  · next hs =>
    have := length_of_skipBlank hs
    split at h <;> cases h
    assumption

theorem readArrayEnd_consumes {s r : List UInt8} (h : readArrayEnd s = .ok r) :
    r.length < s.length := by
  unfold readArrayEnd at h
  split at h
  · cases h
  · next hs =>
    have := length_of_skipBlank hs
    split at h
    · cases h; assumption
    · split at h
      · split at h <;> cases h
      · cases h

namespace RecordForm

variable {R : Type} (form : RecordForm R)

/-- The phrase for the record in messages. -/
def phrase : String :=
  s!"struct {form.name}"

/-- The field of a name. -/
def member? (key : String) : Option (Member R) :=
  form.members.find? (·.name == key)

/-- The first field that must be given and is not among `seen`. -/
def missing? (seen : List String) : Option String :=
  if form.strict then (form.members.map (·.name)).find? (!seen.contains ·) else none

/-- The fields of a record written as an array, from number `i` on. -/
def readPositional : List (Member R) → Nat → R → List UInt8 →
    Except Failure (R × List UInt8)
  | [], _, record, s => here ((readArrayEnd s).map (record, ·))
  | member :: members, i, record, s =>
    match Reader.nextElement (i == 0) s with
    | .error e => .error ⟨e, []⟩
    | .ok (.done rest) =>
      if form.strict then
        mismatch (.wrongLength i s!"{form.phrase} with {form.members.length} elements")
      else .ok (record, rest)
    | .ok (.element start) =>
      match (member.update.within (.index i)).read start with
      | .error f => .error f
      | .ok (set, rest) => readPositional members (i + 1) (set record) rest

/-- The colon and the value of a key: a change to the record for a field of it, and nothing for
any other key, whose value is passed over. -/
def readValue (key : String) (s : List UInt8) : Except Failure ((R → R) × List UInt8) :=
  match readColon s with
  | .error e => .error ⟨e, []⟩
  | .ok rest =>
    match form.member? key with
    | some member => (member.update.within (.field key)).read rest
    | none =>
      match skipValue rest with
      | .error e => .error ⟨e, [.field key]⟩
      | .ok r => .ok (id, r)

/-- A key, after its quote. A field that was `seen` before may not come again. -/
def readKey (seen : List String) (s : List UInt8) : Except Failure (String × List UInt8) :=
  match readText s with
  | .error e => .error ⟨e, [.unknown]⟩
  | .ok (key, rest) =>
    if seen.contains key then mismatch (.duplicateField key) else .ok (key, rest)

theorem readKey_consumes {seen : List String} {s r : List UInt8} {key : String}
    (h : readKey seen s = .ok (key, r)) : r.length < s.length := by
  unfold readKey at h
  split at h
  · cases h
  · next ht =>
    have := readText_consumes ht
    split at h <;> cases h
    assumption

theorem readValue_consumes {key : String} {s r : List UInt8} {set : R → R}
    (h : form.readValue key s = .ok (set, r)) : r.length < s.length := by
  unfold readValue at h
  split at h
  · cases h
  · next hc =>
    have := readColon_consumes hc
    split at h
    · next member _ =>
      have := (member.update.within (.field key)).consumes h
      omega
    · split at h
      · cases h
      · next hv =>
        have := skipValue_consumes hv
        cases h
        omega

/-- The keys and values of a record written as an object. `seen` are its fields given so far. -/
def readKeyed (first : Bool) (seen : List String) (record : R) (s : List UInt8) :
    Except Failure (R × List UInt8) :=
  match hs : nextKey first s with
  | .error e => .error ⟨e, [.unknown]⟩
  | .ok (.done rest) =>
    match form.missing? seen with
    | some name => mismatch (.missingField name)
    | none => .ok (record, rest)
  | .ok (.key start) =>
    match hk : readKey seen start with
    | .error f => .error f
    | .ok (key, rest) =>
      match hv : form.readValue key rest with
      | .error f => .error f
      | .ok (set, rest') =>
        have := nextKey_key hs
        have := readKey_consumes hk
        have := form.readValue_consumes hv
        readKeyed false (if (form.member? key).isSome then key :: seen else seen) (set record) rest'
termination_by s.length

theorem readPositional_consumes {members : List (Member R)} {i : Nat} {record a : R}
    {s r : List UInt8} (h : form.readPositional members i record s = .ok (a, r)) :
    r.length < s.length := by
  fun_induction readPositional form members i record s with
  | case1 i record s =>
    obtain ⟨r', he, hr⟩ := map_eq_ok.1 (here_eq_ok.1 h)
    cases hr
    exact readArrayEnd_consumes he
  | case2 => cases h
  | case3 => cases h
  | case4 member members i record s rest hs hstrict =>
    cases h; exact Reader.nextElement_done hs
  | case5 => cases h
  | case6 member members i record s start hs set rest hr ih =>
    have := ih h
    have := Reader.nextElement_element hs
    have := (member.update.within (.index i)).consumes hr
    omega

theorem readKeyed_consumes {first : Bool} {seen : List String} {record a : R} {s r : List UInt8}
    (h : form.readKeyed first seen record s = .ok (a, r)) : r.length < s.length := by
  fun_induction readKeyed form first seen record s with
  | case1 => cases h
  | case2 => cases h
  | case3 first seen record s rest hs hm => cases h; exact nextKey_done hs
  | case4 => cases h
  | case5 => cases h
  | case6 first seen record s start hs key rest hk set rest' hv h1 h2 h3 ih =>
    have := ih h
    omega

/-- The reader of a record. -/
def reader : Reader R where
  read s :=
    match readHead s with
    | .error e => .error ⟨e, []⟩
    | .ok (.list, rest) => form.readPositional form.members 0 form.blank rest
    | .ok (.record, rest) => form.readKeyed true [] form.blank rest
    | .ok (head, _) => mismatch (.wrongType head.found form.phrase)
  consumes {s r a} h := by
    split at h
    · cases h
    · next hh =>
      have := readHead_consumes hh
      have := form.readPositional_consumes h
      omega
    · next hh =>
      have := readHead_consumes hh
      have := form.readKeyed_consumes h
      omega
    · cases h

end RecordForm

end NodeCoverage.Json
