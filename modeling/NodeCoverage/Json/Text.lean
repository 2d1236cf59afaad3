import NodeCoverage.Json.Failure
import NodeCoverage.Text.Utf8

/-!
# JSON strings

Both readers start after the opening quote. `readText` gives the text, which takes paired
surrogates and sound UTF-8; `skipText` passes over a string that nobody asked for and checks only
what is needed to find its end. Both consume at least one byte (`readText_consumes`,
`skipText_consumes`).
-/

namespace NodeCoverage.Json

/-! ## Escapes -/

/-- The value of a hexadecimal digit. -/
def hexValue? (b : UInt8) : Option Nat :=
  if 0x30 ≤ b ∧ b ≤ 0x39 then some (b.toNat - 0x30)
  else if 0x61 ≤ b ∧ b ≤ 0x66 then some (b.toNat - 0x57)
  else if 0x41 ≤ b ∧ b ≤ 0x46 then some (b.toNat - 0x37)
  else none

/-- The number that hexadecimal digits spell. -/
def hexNumber? (digits : List UInt8) : Option Nat :=
  digits.foldlM (fun n b => (hexValue? b).map (16 * n + ·)) 0

/-- Four hexadecimal digits. -/
def readHex4 : List UInt8 → Except Cause (Nat × List UInt8)
  | a :: b :: c :: d :: rest =>
    match hexNumber? [a, b, c, d] with
    | some n => .ok (n, rest)
    | none => .error (.malformed .invalidEscape)
  | _ => .error (.ended .text)

/-- The second half of a surrogate pair whose first half is `high`. -/
def readLowSurrogate (high : Nat) : List UInt8 → Except Cause (Nat × List UInt8)
  | [] => .error (.ended .text)
  | [0x5C] => .error (.ended .text)
  | 0x5C :: 0x75 :: rest =>
    match readHex4 rest with
    | .error e => .error e
    | .ok (low, rest) =>
      if 0xDC00 ≤ low ∧ low ≤ 0xDFFF then
        .ok (0x10000 + 0x400 * (high - 0xD800) + (low - 0xDC00), rest)
      else .error (.malformed .loneSurrogate)
  | _ => .error (.malformed .brokenSurrogatePair)

/-- The code point of a `\u` escape, after the letter. -/
def readCodePoint (s : List UInt8) : Except Cause (Nat × List UInt8) :=
  match readHex4 s with
  | .error e => .error e
  | .ok (n, rest) =>
    if 0xDC00 ≤ n ∧ n ≤ 0xDFFF then .error (.malformed .loneSurrogate)
    else if 0xD800 ≤ n ∧ n ≤ 0xDBFF then readLowSurrogate n rest
    else .ok (n, rest)

/-- The byte that a one-letter escape stands for. -/
def shortEscape? (b : UInt8) : Option UInt8 :=
  if b = 0x22 ∨ b = 0x5C ∨ b = 0x2F then some b
  else if b = 0x62 then some 0x08
  else if b = 0x66 then some 0x0C
  else if b = 0x6E then some 0x0A
  else if b = 0x72 then some 0x0D
  else if b = 0x74 then some 0x09
  else none

/-- An escape, after the backslash: the bytes it stands for. -/
def readEscape : List UInt8 → Except Cause (List UInt8 × List UInt8)
  | [] => .error (.ended .text)
  | b :: rest =>
    if b = 0x75 then
      (readCodePoint rest).map fun (n, r) => (String.utf8EncodeChar (Char.ofNat n), r)
    else match shortEscape? b with
      | some c => .ok ([c], rest)
      | none => .error (.malformed .invalidEscape)

/-- Passes over an escape, after the backslash. -/
def skipEscape : List UInt8 → Except Cause (List UInt8)
  | [] => .error (.ended .text)
  | b :: rest =>
    if b = 0x75 then (readHex4 rest).map (·.2)
    else match shortEscape? b with
      | some _ => .ok rest
      | none => .error (.malformed .invalidEscape)

/-! ## Escapes consume -/

theorem readHex4_consumes {s r : List UInt8} {n : Nat} (h : readHex4 s = .ok (n, r)) :
    r.length < s.length := by
  unfold readHex4 at h
  split at h
  · split at h
    · cases h; simp; omega
    · cases h
  · cases h

theorem readLowSurrogate_consumes {high : Nat} {s r : List UInt8} {n : Nat}
    (h : readLowSurrogate high s = .ok (n, r)) : r.length < s.length := by
  unfold readLowSurrogate at h
  split at h
  · cases h
  · cases h
  · split at h
    · cases h
    · next h4 =>
      have := readHex4_consumes h4
      split at h
      · simp only [Except.ok.injEq, Prod.mk.injEq] at h
        obtain ⟨-, rfl⟩ := h
        simp; omega
      · cases h
  · cases h

theorem readCodePoint_consumes {s r : List UInt8} {n : Nat} (h : readCodePoint s = .ok (n, r)) :
    r.length < s.length := by
  unfold readCodePoint at h
  split at h
  · cases h
  · next h4 =>
    have := readHex4_consumes h4
    split at h
    · cases h
    · split at h
      · have := readLowSurrogate_consumes h; omega
      · cases h; assumption

theorem readEscape_consumes {s r bytes : List UInt8} (h : readEscape s = .ok (bytes, r)) :
    r.length < s.length := by
  unfold readEscape at h
  split at h
  · cases h
  · split at h
    · next rest _ =>
      cases hc : readCodePoint rest with
      | error e => rw [hc] at h; cases h
      | ok p =>
        obtain ⟨n, r'⟩ := p
        rw [hc] at h
        cases h
        have := readCodePoint_consumes hc
        simp; omega
    · split at h <;> cases h
      simp

theorem skipEscape_consumes {s r : List UInt8} (h : skipEscape s = .ok r) :
    r.length < s.length := by
  unfold skipEscape at h
  split at h
  · cases h
  · split at h
    · next rest _ =>
      cases hc : readHex4 rest with
      | error e => rw [hc] at h; cases h
      | ok p =>
        obtain ⟨n, r'⟩ := p
        rw [hc] at h
        cases h
        have := readHex4_consumes hc
        simp; omega
    · split at h <;> cases h
      simp

/-! ## Strings -/

/-- The bytes of a string up to its closing quote, put in reverse before `done`. -/
def readBytes (done s : List UInt8) : Except Cause (List UInt8 × List UInt8) :=
  match s with
  | [] => .error (.ended .text)
  | b :: rest =>
    if b = 0x22 then .ok (done.reverse, rest)
    else if b = 0x5C then
      match h : readEscape rest with
      | .error e => .error e
      | .ok (bytes, r) =>
        have := readEscape_consumes h
        readBytes (bytes.reverse ++ done) r
    else if b < 0x20 then .error (.malformed .controlCharacter)
    else readBytes (b :: done) rest
termination_by s.length

/-- The text of a string. Its UTF-8 is checked when its end has been found. -/
def readText (s : List UInt8) : Except Cause (String × List UInt8) :=
  match readBytes [] s with
  | .error e => .error e
  | .ok (bytes, rest) =>
    match Text.ofUtf8? bytes with
    | some text => .ok (text, rest)
    | none => .error (.malformed .invalidUnicode)

/-- Passes over a string. -/
def skipText (s : List UInt8) : Except Cause (List UInt8) :=
  match s with
  | [] => .error (.ended .text)
  | b :: rest =>
    if b = 0x22 then .ok rest
    else if b = 0x5C then
      match h : skipEscape rest with
      | .error e => .error e
      | .ok r =>
        have := skipEscape_consumes h
        skipText r
    else if b < 0x20 then .error (.malformed .controlCharacter)
    else skipText rest
termination_by s.length

theorem readBytes_consumes {done s bytes r : List UInt8}
    (h : readBytes done s = .ok (bytes, r)) : r.length < s.length := by
  fun_induction readBytes done s <;> simp_all <;> omega

theorem readText_consumes {s r : List UInt8} {text : String} (h : readText s = .ok (text, r)) :
    r.length < s.length := by
  unfold readText at h
  split at h
  · cases h
  · next hb =>
    split at h <;> cases h
    exact readBytes_consumes hb

theorem skipText_consumes {s r : List UInt8} (h : skipText s = .ok r) : r.length < s.length := by
  fun_induction skipText s <;> simp_all <;> omega

end NodeCoverage.Json
