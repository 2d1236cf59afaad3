import NodeCoverage.Json.Number
import NodeCoverage.Json.Text

/-!
# The start of a JSON value

`readHead` reads what decides the type of a value: a scalar whole, a list or a record up to its
opening bracket. A value of the wrong type is thus still read as far as its head, so that a head
that is malformed is reported as such.
-/

namespace NodeCoverage.Json

/-! ## Blanks and words -/

/-- Whether a byte may stand between tokens. -/
def isBlank (b : UInt8) : Bool :=
  b == 0x20 || b == 0x09 || b == 0x0A || b == 0x0D

/-- The text from its first byte that is no blank. -/
def skipBlank (s : List UInt8) : List UInt8 :=
  s.dropWhile isBlank

theorem skipBlank_length_le (s : List UInt8) : (skipBlank s).length ≤ s.length :=
  (List.dropWhile_suffix _).length_le

theorem length_of_skipBlank {s rest : List UInt8} {b : UInt8} (h : skipBlank s = b :: rest) :
    rest.length < s.length := by
  have := skipBlank_length_le s
  rw [h] at this
  exact this

/-- Reads the rest of a word whose first letter is known. -/
def readWord : List UInt8 → List UInt8 → Except Cause (List UInt8)
  | [], s => .ok s
  | _ :: _, [] => .error (.ended .value)
  | w :: word, b :: s => if b = w then readWord word s else .error (.malformed .expectedIdent)

theorem readWord_length_le {word s r : List UInt8} (h : readWord word s = .ok r) :
    r.length ≤ s.length := by
  induction word generalizing s with
  | nil => cases h; exact Nat.le_refl _
  | cons w word ih =>
    cases s with
    | nil => cases h
    | cons b s =>
      simp only [readWord] at h
      split at h
      · have := ih h
        simp only [List.length_cons]; omega
      · cases h

/-! ## Numbers consume -/

theorem map_eq_ok {α β : Type} {f : α → β} {x : Except Cause α} {b : β} :
    x.map f = .ok b ↔ ∃ a, x = .ok a ∧ f a = b := by
  cases x <;> simp [Except.map]

theorem scanSign_length_le (s : List UInt8) : (scanSign s).2.length ≤ s.length := by
  unfold scanSign
  split <;> simp

theorem scanDigits_consumes {e : Cause} {s r ds : List UInt8}
    (h : scanDigits e s = .ok (ds, r)) : r.length < s.length := by
  unfold scanDigits at h
  split at h
  · cases h
  · split at h <;> cases h
    exact Nat.lt_succ_of_le (List.dropWhile_suffix _).length_le

theorem scanWhole_consumes {e : Cause} {s r ds : List UInt8}
    (h : scanWhole e s = .ok (ds, r)) : r.length < s.length := by
  unfold scanWhole at h
  split at h
  · split at h <;> cases h
    simp
  · exact scanDigits_consumes h

theorem scanFraction_length_le {e : Cause} {s r : List UInt8} {f : Option (List UInt8)}
    (h : scanFraction e s = .ok (f, r)) : r.length ≤ s.length := by
  unfold scanFraction at h
  split at h
  · obtain ⟨⟨ds, r'⟩, hd, hr⟩ := map_eq_ok.1 h
    cases hr
    have := scanDigits_consumes hd
    simp only [List.length_cons]; omega
  · cases h; exact Nat.le_refl _

theorem scanExponentSign_length_le (s : List UInt8) :
    (scanExponentSign s).2.length ≤ s.length := by
  unfold scanExponentSign
  split <;> simp

theorem scanExponent_length_le {e : Cause} {s r : List UInt8} {x : Option (Bool × List UInt8)}
    (h : scanExponent e s = .ok (x, r)) : r.length ≤ s.length := by
  unfold scanExponent at h
  split at h
  · cases h; exact Nat.le_refl _
  · next b rest =>
    split at h
    · obtain ⟨⟨ds, r'⟩, hd, hr⟩ := map_eq_ok.1 h
      cases hr
      have := scanDigits_consumes hd
      have := scanExponentSign_length_le rest
      simp only [List.length_cons]; omega
    · cases h; exact Nat.le_refl _

theorem Literal.scan_consumes {e : Cause} {s r : List UInt8} {l : Literal}
    (h : Literal.scan e s = .ok (l, r)) : r.length < s.length := by
  unfold Literal.scan at h
  have hs := scanSign_length_le s
  simp only [bind, Except.bind, pure, Except.pure] at h
  split at h
  · cases h
  · next hw =>
    have := scanWhole_consumes hw
    split at h
    · cases h
    · next hf =>
      have := scanFraction_length_le hf
      split at h
      · cases h
      · next hx =>
        have := scanExponent_length_le hx
        cases h
        omega

theorem scanInteger_consumes {α : Type} {f : Int → Option α} {bound : Nat} {s r : List UInt8}
    {a : α} (h : scanInteger f bound s = .ok (a, r)) : r.length < s.length := by
  unfold scanInteger at h
  have hs := scanSign_length_le s
  simp only [bind, Except.bind, pure, Except.pure, throw, throwThe, MonadExceptOf.throw] at h
  split at h
  · cases h
  · next hw =>
    have := scanWhole_consumes hw
    split at h <;> cases h
    omega

/-! ## Heads -/

/-- A scalar, or the opening of a list or a record. -/
inductive Head where
  | null
  | boolean (b : Bool)
  | number (n : Number)
  | text (s : String)
  | list
  | record
  deriving DecidableEq, Repr

/-- The head as found in place of something else. -/
def Head.found : Head → Found
  | .null => .null
  | .boolean b => .boolean b
  | .number n => n.found
  | .text s => .text s
  | .list => .list
  | .record => .record

/-- A number with its value. -/
def readNumber (s : List UInt8) : Except Cause (Number × List UInt8) :=
  match Literal.scan (.ended .value) s with
  | .error e => .error e
  | .ok (literal, rest) =>
    match literal.number with
    | .error e => .error e
    | .ok n => .ok (n, rest)

/-- The head of the value that starts with byte `b`, of which `rest` is what follows the byte. -/
def readHeadAt (b : UInt8) (rest : List UInt8) : Except Cause (Head × List UInt8) :=
  if b = 0x6E then (readWord [0x75, 0x6C, 0x6C] rest).map (Head.null, ·)
  else if b = 0x74 then (readWord [0x72, 0x75, 0x65] rest).map (Head.boolean true, ·)
  else if b = 0x66 then (readWord [0x61, 0x6C, 0x73, 0x65] rest).map (Head.boolean false, ·)
  else if b = 0x22 then (readText rest).map fun (t, r) => (Head.text t, r)
  else if b = 0x5B then .ok (Head.list, rest)
  else if b = 0x7B then .ok (Head.record, rest)
  else if b = 0x2D ∨ isDigit b then
    (readNumber (b :: rest)).map fun (n, r) => (Head.number n, r)
  else .error (.malformed .expectedValue)

/-- The head of the next value. -/
def readHead (s : List UInt8) : Except Cause (Head × List UInt8) :=
  match skipBlank s with
  | [] => .error (.ended .value)
  | b :: rest => readHeadAt b rest

theorem readNumber_consumes {s r : List UInt8} {n : Number} (h : readNumber s = .ok (n, r)) :
    r.length < s.length := by
  unfold readNumber at h
  split at h
  · cases h
  · next hl =>
    have := Literal.scan_consumes hl
    split at h <;> cases h
    assumption

theorem readHeadAt_length_le {b : UInt8} {rest r : List UInt8} {h : Head}
    (e : readHeadAt b rest = .ok (h, r)) : r.length ≤ rest.length := by
  have word : ∀ {word : List UInt8} {c : Head},
      (readWord word rest).map (c, ·) = .ok (h, r) → r.length ≤ rest.length := by
    intro word c e
    obtain ⟨a, ha, hb⟩ := map_eq_ok.1 e
    cases hb
    exact readWord_length_le ha
  unfold readHeadAt at e
  split at e
  · exact word e
  split at e
  · exact word e
  split at e
  · exact word e
  split at e
  · obtain ⟨⟨t, r'⟩, ha, hb⟩ := map_eq_ok.1 e
    cases hb
    exact Nat.le_of_lt (readText_consumes ha)
  split at e
  · cases e; exact Nat.le_refl _
  split at e
  · cases e; exact Nat.le_refl _
  split at e
  · obtain ⟨⟨t, r'⟩, ha, hb⟩ := map_eq_ok.1 e
    cases hb
    exact Nat.le_of_lt_succ (readNumber_consumes ha)
  · cases e

theorem readHead_consumes {s r : List UInt8} {h : Head} (e : readHead s = .ok (h, r)) :
    r.length < s.length := by
  unfold readHead at e
  split at e
  · cases e
  · next hs =>
    have := length_of_skipBlank hs
    have := readHeadAt_length_le e
    omega

end NodeCoverage.Json
