import NodeCoverage.Proofs.Grammar

/-!
# Scanning what the grammar derives

The scanners of blanks, numbers and strings take off the front of a text what the grammar says is
there.

Results:
* `Digits.accumulate_eq`, `Digits.accumulate_ne_nil`: digits are valued exactly, or not to the end
  once they reach the bound;
* `Numeral.readNumber_eq`: a natural number below the size of a word is read as it is;
* `Integer.scanInteger_eq`, `Integer.scanInteger_error`: an integer is read as it is, or is out of
  range, however long it is;
* `Number.Written.exists_scan`: a number of any shape is scanned to its end;
* `Chars.readText_eq`: a string is read as the text that its characters make up.
-/

namespace NodeCoverage.Json

/-! ## Blanks -/

section Blanks

variable {b : UInt8} {s t : List UInt8}

theorem skipBlank_cons_of_not_blank (h : isBlank b = false) : skipBlank (b :: s) = b :: s := by
  unfold skipBlank
  rw [List.dropWhile_cons_of_neg (by rw [h]; exact Bool.false_ne_true)]

theorem Blanks.skipBlank_eq (h : Blanks s t) : skipBlank s = skipBlank t := by
  induction h with
  | nil => rfl
  | cons hb _ ih =>
    rw [← ih]
    unfold skipBlank
    rw [List.dropWhile_cons_of_pos hb]

/-- Blanks are passed over up to the first byte that is none. -/
theorem Blanks.skipBlank_cons (h : Blanks s (b :: t)) (hb : isBlank b = false) :
    skipBlank s = b :: t := by
  rw [h.skipBlank_eq, skipBlank_cons_of_not_blank hb]

theorem Stops.nil : Stops [] :=
  trivial

theorem stops_of_isBlank (h : isBlank b = true) : Stops (b :: s) := by
  simp only [isBlank, Bool.or_eq_true, beq_iff_eq] at h
  rcases h with ((rfl | rfl) | rfl) | rfl
  all_goals exact ⟨rfl, by decide, by decide, by decide⟩

/-- Blanks end a number, and so does what comes after them if it does by itself. -/
theorem Blanks.stops (h : Blanks s t) (ht : Stops t) : Stops s := by
  cases h with
  | nil => exact ht
  | cons hb _ => exact stops_of_isBlank hb

theorem stops_comma : Stops (0x2C :: s) :=
  ⟨rfl, by decide, by decide, by decide⟩

theorem stops_listEnd : Stops (0x5D :: s) :=
  ⟨rfl, by decide, by decide, by decide⟩

theorem stops_recordEnd : Stops (0x7D :: s) :=
  ⟨rfl, by decide, by decide, by decide⟩

end Blanks

/-! ## Digits -/

section Digits

variable {n m bound : Nat} {d : UInt8} {s t : List UInt8}

/-- The text does not go on with a digit. -/
def NoDigit : List UInt8 → Prop
  | [] => True
  | b :: _ => isDigit b = false

theorem Stops.noDigit (h : Stops t) : NoDigit t := by
  cases t with
  | nil => trivial
  | cons b t => exact h.1

theorem Digits.le (h : Digits n s m t) : n ≤ m := by
  induction h with
  | nil => exact Nat.le_refl _
  | cons _ _ ih => omega

theorem NoDigit.takeWhile_eq (h : NoDigit t) : t.takeWhile isDigit = [] := by
  cases t with
  | nil => rfl
  | cons b t => rw [List.takeWhile_cons_of_neg (by rw [h]; exact Bool.false_ne_true)]

theorem NoDigit.dropWhile_eq (h : NoDigit t) : t.dropWhile isDigit = t := by
  cases t with
  | nil => rfl
  | cons b t => rw [List.dropWhile_cons_of_neg (by rw [h]; exact Bool.false_ne_true)]

/-- The digits at the front are all that is taken. -/
theorem Digits.dropWhile_eq (h : Digits n s m t) (ht : NoDigit t) :
    s.dropWhile isDigit = t := by
  induction h with
  | nil => exact ht.dropWhile_eq
  | cons hd _ ih => rw [List.dropWhile_cons_of_pos hd, ih ht]

/-- Digits are read to the end below the bound. -/
theorem Digits.accumulate_eq (h : Digits n s m t) (ht : NoDigit t) (hm : m < bound) :
    accumulate bound n (s.takeWhile isDigit) = (m, []) := by
  induction h with
  | nil => rw [ht.takeWhile_eq]; rfl
  | cons hd hs ih =>
    rw [List.takeWhile_cons_of_pos hd, accumulate]
    rw [if_pos (Nat.lt_of_le_of_lt hs.le hm), ih ht hm]

/-- Digits that reach the bound are not read to the end. -/
theorem Digits.accumulate_ne_nil (h : Digits n s m t) (hn : n < bound) (hm : bound ≤ m) :
    (accumulate bound n (s.takeWhile isDigit)).2 ≠ [] := by
  induction h with
  | nil => omega
  | @cons n m d s t hd hs ih =>
    rw [List.takeWhile_cons_of_pos hd, accumulate]
    by_cases hlt : 10 * n + digitValue d < bound
    · rw [if_pos hlt]
      exact ih hlt hm
    · rw [if_neg hlt]
      exact List.cons_ne_nil _ _

end Digits

/-! ## Integers -/

section Integers

variable {α : Type} {n bound : Nat} {i : Int} {e : Cause} {s t u v : List UInt8}

theorem Numeral.digits (h : Numeral s n t) : Digits 0 s n t := by
  cases h with
  | zero => exact .cons rfl .nil
  | positive hd _ hs => exact .cons hd (by rw [Nat.mul_zero, Nat.zero_add]; exact hs)

theorem Numeral.exists_cons (h : Numeral s n t) : ∃ d r, s = d :: r ∧ isDigit d = true := by
  cases h with
  | zero => exact ⟨_, _, rfl, rfl⟩
  | positive hd _ _ => exact ⟨_, _, rfl, hd⟩

/-- A numeral is scanned up to its last digit. -/
theorem Numeral.scanWhole_eq (h : Numeral s n t) (ht : NoDigit t) :
    scanWhole e s = .ok (s.takeWhile isDigit, t) := by
  cases h with
  | zero =>
    have htake : (0x30 :: t).takeWhile isDigit = [0x30] := by
      rw [List.takeWhile_cons_of_pos rfl, ht.takeWhile_eq]
    rw [htake]
    cases t with
    | nil => rfl
    | cons b t =>
      have hb : isDigit b = false := ht
      simp [scanWhole, hb]
  | @positive d s _ _ hd hne hs =>
    have hscan : scanWhole e (d :: s) = scanDigits e (d :: s) := by
      unfold scanWhole
      split
      · next heq => exact absurd (List.cons.inj heq).1 hne
      · rfl
    rw [hscan, scanDigits, if_pos hd, List.takeWhile_cons_of_pos hd, hs.dropWhile_eq ht]

theorem Numeral.below?_eq (h : Numeral s n t) (ht : NoDigit t) (hn : n < bound) :
    below? bound (s.takeWhile isDigit) = some n := by
  unfold below?
  rw [h.digits.accumulate_eq ht hn]

theorem Numeral.below?_eq_none (h : Numeral s n t) (hb : 0 < bound) (hn : bound ≤ n) :
    below? bound (s.takeWhile isDigit) = none := by
  have hleft := h.digits.accumulate_ne_nil hb hn
  unfold below?
  split
  · next heq => rw [heq] at hleft; exact absurd rfl hleft
  · rfl

theorem isDigit_ne {d b : UInt8} (hd : isDigit d = true) (hb : isDigit b = false) : d ≠ b := by
  rintro rfl
  rw [hd] at hb
  exact Bool.noConfusion hb

theorem Numeral.scanSign_eq (h : Numeral s n t) : scanSign s = (false, s) := by
  obtain ⟨d, r, rfl, hd⟩ := h.exists_cons
  unfold scanSign
  split
  · next heq => exact absurd (List.cons.inj heq).1 (isDigit_ne hd rfl)
  · rfl

theorem Stops.scanFraction_eq (ht : Stops t) : scanFraction e t = .ok (none, t) := by
  unfold scanFraction
  split
  · exact absurd rfl ht.2.1
  · rfl

theorem Stops.scanExponent_eq (ht : Stops t) : scanExponent e t = .ok (none, t) := by
  cases t with
  | nil => rfl
  | cons b t => exact if_neg fun hb => hb.elim ht.2.2.1 ht.2.2.2

theorem Numeral.scan_eq (h : Numeral s n t) (ht : Stops t) :
    Literal.scan e s = .ok (⟨false, s.takeWhile isDigit, none, none⟩, t) := by
  simp only [Literal.scan, h.scanSign_eq, h.scanWhole_eq ht.noDigit, ht.scanFraction_eq,
    ht.scanExponent_eq, bind, Except.bind, pure, Except.pure]

/-- A natural number of 64 bits is read as it is. -/
theorem Numeral.readNumber_eq (h : Numeral s n t) (ht : Stops t) (hn : n < UInt64.size) :
    readNumber s = .ok (.natural n.toUInt64, t) := by
  have hvalue : Literal.number ⟨false, s.takeWhile isDigit, none, none⟩ =
      .ok (.natural n.toUInt64) := by
    simp only [Literal.number, h.below?_eq ht.noDigit hn, Bool.not_false, if_true]
  simp only [readNumber, h.scan_eq ht, hvalue]

/-- What is scanned of an integer: whether it has a sign, and a natural number. -/
theorem Integer.exists_numeral (h : Integer s i t) : ∃ negative s' n,
    scanSign s = (negative, s') ∧ Numeral s' n t ∧ i = if negative then -(n : Int) else n := by
  cases h with
  | natural hn => exact ⟨false, s, _, hn.scanSign_eq, hn, rfl⟩
  | negative hn => exact ⟨true, _, _, rfl, hn, rfl⟩

/-- An integer below the bound in size is read if it has a value. -/
theorem Integer.scanInteger_eq (h : Integer s i t) (ht : NoDigit t) {f : Int → Option α} {a : α}
    (hb : i.natAbs < bound) (ha : f i = some a) : scanInteger f bound s = .ok (a, t) := by
  obtain ⟨negative, s', n, hsign, hn, rfl⟩ := h.exists_numeral
  have habs : n < bound := by
    cases negative
    · simpa using hb
    · simpa using hb
  simp only [scanInteger, hsign, hn.scanWhole_eq ht, hn.below?_eq ht habs, bind, Except.bind,
    Option.bind_some, ha, pure, Except.pure]

/-- An integer that reaches the bound or has no value is out of range. -/
theorem Integer.scanInteger_error (h : Integer s i t) (ht : NoDigit t) {f : Int → Option α}
    (hb : 0 < bound) (hf : f i = none) :
    scanInteger f bound s = .error (.malformed .numberOutOfRange) := by
  obtain ⟨negative, s', n, hsign, hn, rfl⟩ := h.exists_numeral
  have hnone : (below? bound (s'.takeWhile isDigit)).bind
      (fun m => f (if negative then -(m : Int) else m)) = none := by
    by_cases hlt : n < bound
    · rw [hn.below?_eq ht hlt]
      exact hf
    · rw [hn.below?_eq_none hb (Nat.le_of_not_lt hlt)]
      rfl
  simp only [scanInteger, hsign, hn.scanWhole_eq ht, hnone, bind, Except.bind, throw, throwThe,
    MonadExceptOf.throw]

/-! ### Numbers with a fraction and an exponent -/

theorem Digits.scanDigits_eq {d : UInt8} {m : Nat} (hd : isDigit d = true) (h : Digits n s m t)
    (ht : NoDigit t) : scanDigits e (d :: s) = .ok (d :: s.takeWhile isDigit, t) := by
  rw [scanDigits, if_pos hd, h.dropWhile_eq ht]

/-- What may follow the digits of a number: no digit, and no point if there was one. -/
theorem Exponent.noDigit (h : Exponent s t) (ht : Stops t) : NoDigit s ∧ s.head? ≠ some 0x2E := by
  cases h with
  | absent =>
    refine ⟨ht.noDigit, ?_⟩
    cases s with
    | nil => simp
    | cons b s => simpa using ht.2.1
  | present hb _ _ _ =>
    rcases hb with rfl | rfl
    · exact ⟨rfl, by simp⟩
    · exact ⟨rfl, by simp⟩

theorem Fraction.noDigit (h : Fraction s u) (hu : NoDigit u) : NoDigit s := by
  cases h with
  | absent => exact hu
  | present _ _ => rfl

theorem Fraction.exists_scanFraction (h : Fraction s u) (hu : NoDigit u ∧ u.head? ≠ some 0x2E) :
    ∃ f, scanFraction e s = .ok (f, u) := by
  cases h with
  | absent =>
    refine ⟨none, ?_⟩
    unfold scanFraction
    split
    · exact absurd rfl hu.2
    · rfl
  | present hd hds => exact ⟨_, by rw [scanFraction, hds.scanDigits_eq hd hu.1]; rfl⟩

theorem Sign.exists_scanExponentSign {d : UInt8} (h : Sign s (d :: u)) (hd : isDigit d = true) :
    ∃ negative, scanExponentSign s = (negative, d :: u) := by
  cases h with
  | absent =>
    refine ⟨false, ?_⟩
    unfold scanExponentSign
    split
    · next heq => exact absurd (List.cons.inj heq).1 (isDigit_ne hd rfl)
    · next heq => exact absurd (List.cons.inj heq).1 (isDigit_ne hd rfl)
    · rfl
  | plus => exact ⟨false, rfl⟩
  | minus => exact ⟨true, rfl⟩

theorem Exponent.exists_scanExponent (h : Exponent s t) (ht : Stops t) :
    ∃ x, scanExponent e s = .ok (x, t) := by
  cases h with
  | absent => exact ⟨none, ht.scanExponent_eq⟩
  | present hb hsign hd hds =>
    obtain ⟨negative, hscan⟩ := hsign.exists_scanExponentSign hd
    exact ⟨_, by rw [scanExponent, if_pos hb, hscan, hds.scanDigits_eq hd ht.noDigit]; rfl⟩

theorem Number.Written.exists_scan (h : Number.Written s t) (ht : Stops t) :
    ∃ l, Literal.scan e s = .ok (l, t) := by
  obtain ⟨hi, hf, hx⟩ := h
  obtain ⟨negative, s', n, hsign, hn, -⟩ := hi.exists_numeral
  have hpoint := hx.noDigit ht
  obtain ⟨f, hfraction⟩ := hf.exists_scanFraction (e := e) hpoint
  obtain ⟨x, hexponent⟩ := hx.exists_scanExponent (e := e) ht
  refine ⟨⟨negative, s'.takeWhile isDigit, f, x⟩, ?_⟩
  simp only [Literal.scan, hsign, hn.scanWhole_eq (hf.noDigit hpoint.1), hfraction, hexponent,
    bind, Except.bind, pure, Except.pure]

end Integers

/-! ## Strings -/

section Strings

variable {b e : UInt8} {c : Char} {cs : List Char} {s t : List UInt8}

/-- A byte that stands for itself in a string. -/
def PlainByte (b : UInt8) : Prop :=
  0x20 ≤ b ∧ b ≠ 0x22 ∧ b ≠ 0x5C

theorem plainByte_of_le (h : 0x80 ≤ b) : PlainByte b := by
  refine ⟨UInt8.le_trans (by decide) h, ?_, ?_⟩
  all_goals
    rintro rfl
    exact absurd h (by decide)

theorem le_ofNat {n : Nat} (hlow : 0x80 ≤ n) (hhigh : n < 256) :
    (0x80 : UInt8) ≤ UInt8.ofNat n := by
  rw [UInt8.le_iff_toNat_le, UInt8.toNat_ofNat_of_lt' hhigh]
  exact hlow

theorem utf8EncodeChar_of_le (hc : c.toNat ≤ 0x7f) :
    String.utf8EncodeChar c = [UInt8.ofNat c.toNat] :=
  if_pos hc

/-- The bytes of a character beyond ASCII all have their highest bit set. -/
theorem le_of_mem_utf8EncodeChar (hc : 0x7f < c.toNat) (hb : b ∈ String.utf8EncodeChar c) :
    0x80 ≤ b := by
  unfold Char.toNat at hc
  unfold String.utf8EncodeChar at hb
  simp only [Nat.not_le.mpr hc, if_false] at hb
  split at hb
  · simp only [List.mem_cons, List.not_mem_nil, or_false] at hb
    rcases hb with rfl | rfl
    all_goals exact le_ofNat (by omega) (by omega)
  split at hb
  · simp only [List.mem_cons, List.not_mem_nil, or_false] at hb
    rcases hb with rfl | rfl | rfl
    all_goals exact le_ofNat (by omega) (by omega)
  · simp only [List.mem_cons, List.not_mem_nil, or_false] at hb
    rcases hb with rfl | rfl | rfl | rfl
    all_goals exact le_ofNat (by omega) (by omega)

theorem plainByte_of_mem_utf8EncodeChar (hc : 0x20 ≤ c.toNat) (hquote : c ≠ '"')
    (hslash : c ≠ '\\') (hb : b ∈ String.utf8EncodeChar c) : PlainByte b := by
  by_cases hascii : c.toNat ≤ 0x7f
  · rw [utf8EncodeChar_of_le hascii, List.mem_singleton] at hb
    subst hb
    have hval : (UInt8.ofNat c.toNat).toNat = c.toNat :=
      UInt8.toNat_ofNat_of_lt' (Nat.lt_of_le_of_lt hascii (by decide))
    have hne : ∀ d : Char, c ≠ d → d.toNat < 256 →
        UInt8.ofNat c.toNat ≠ UInt8.ofNat d.toNat := by
      intro d hcd hd heq
      have hnat := congrArg UInt8.toNat heq
      rw [hval, UInt8.toNat_ofNat_of_lt' hd] at hnat
      exact hcd (Char.toNat_inj.mp hnat)
    refine ⟨?_, hne '"' hquote (by decide), hne '\\' hslash (by decide)⟩
    rw [UInt8.le_iff_toNat_le, hval]
    exact hc
  · exact plainByte_of_le (le_of_mem_utf8EncodeChar (Nat.lt_of_not_le hascii) hb)

theorem not_surrogate (c : Char) :
    ¬(0xDC00 ≤ c.toNat ∧ c.toNat ≤ 0xDFFF) ∧ ¬(0xD800 ≤ c.toNat ∧ c.toNat ≤ 0xDBFF) := by
  have hvalid : c.toNat < 0xD800 ∨ (0xDFFF < c.toNat ∧ c.toNat < 0x110000) := c.valid
  omega

/-! ### Escapes -/

theorem shortEscape?_lt (h : shortEscape? b = some e) : e < 0x80 ∧ b ≠ 0x75 := by
  unfold shortEscape? at h
  grind

theorem utf8EncodeChar_ofNat (he : e < 0x80) :
    String.utf8EncodeChar (Char.ofNat e.toNat) = [e] := by
  have hlt : e.toNat < 0x80 := he
  have hval : (Char.ofNat e.toNat).toNat = e.toNat := by
    rw [Char.ofNat, dif_pos (Or.inl (by omega))]
    rfl
  rw [utf8EncodeChar_of_le (by omega), hval, UInt8.ofNat_toNat]

theorem readHex4_eq {x y z w : UInt8} {n : Nat} (h : hexNumber? [x, y, z, w] = some n) :
    readHex4 (x :: y :: z :: w :: s) = .ok (n, s) := by
  simp only [readHex4, h]

theorem readEscape_short (h : shortEscape? b = some e) : readEscape (b :: s) = .ok ([e], s) := by
  simp only [readEscape, if_neg (shortEscape?_lt h).2, h]

theorem readEscape_hex {x y z w : UInt8} (h : hexNumber? [x, y, z, w] = some c.toNat) :
    readEscape (0x75 :: x :: y :: z :: w :: s) = .ok (String.utf8EncodeChar c, s) := by
  obtain ⟨hlow, hhigh⟩ := not_surrogate c
  simp only [readEscape, if_true, readCodePoint, readHex4_eq h, if_neg hlow, if_neg hhigh,
    Except.map, Char.ofNat_toNat]

theorem readEscape_pair {x y z w x' y' z' w' : UInt8} {high low : Nat}
    (hhigh : hexNumber? [x, y, z, w] = some high) (hle : 0xD800 ≤ high) (hge : high ≤ 0xDBFF)
    (hlow : hexNumber? [x', y', z', w'] = some low) (hle' : 0xDC00 ≤ low) (hge' : low ≤ 0xDFFF)
    (hc : c.toNat = 0x10000 + 0x400 * (high - 0xD800) + (low - 0xDC00)) :
    readEscape (0x75 :: x :: y :: z :: w :: 0x5C :: 0x75 :: x' :: y' :: z' :: w' :: s) =
      .ok (String.utf8EncodeChar c, s) := by
  have hnot : ¬(0xDC00 ≤ high ∧ high ≤ 0xDFFF) := by omega
  simp only [readEscape, if_true, readCodePoint, readHex4_eq hhigh, if_neg hnot,
    if_pos (And.intro hle hge), readLowSurrogate, readHex4_eq hlow,
    if_pos (And.intro hle' hge'), ← hc, Except.map, Char.ofNat_toNat]

/-! ### Whole strings -/

theorem readBytes_append {bs : List UInt8} (h : ∀ b ∈ bs, PlainByte b) (done s : List UInt8) :
    readBytes done (bs ++ s) = readBytes (bs.reverse ++ done) s := by
  induction bs generalizing done with
  | nil => rfl
  | cons b bs ih =>
    obtain ⟨hlow, hquote, hslash⟩ := h b List.mem_cons_self
    rw [List.cons_append, readBytes, if_neg hquote, if_neg hslash, if_neg (UInt8.not_lt.mpr hlow),
      ih (fun b hb => h b (List.mem_cons_of_mem _ hb)), List.reverse_cons, List.append_assoc,
      List.singleton_append]

theorem readBytes_escape {done bytes : List UInt8} (h : readEscape s = .ok (bytes, t)) :
    readBytes done (0x5C :: s) = readBytes (bytes.reverse ++ done) t := by
  rw [readBytes, if_neg (by decide), if_pos rfl]
  split
  · next heq => rw [h] at heq; cases heq
  · next heq => rw [h] at heq; cases heq; rfl

/-- The bytes of a string are those of the characters that it spells. -/
theorem Chars.readBytes_eq (h : Chars s cs t) (done : List UInt8) :
    readBytes done s = .ok (done.reverse ++ cs.flatMap String.utf8EncodeChar, t) := by
  -- one step puts the bytes of one character in reverse before those that are done
  have step : ∀ {c : Char} {cs : List Char} (done : List UInt8),
      ((String.utf8EncodeChar c).reverse ++ done).reverse ++ cs.flatMap String.utf8EncodeChar =
        done.reverse ++ (c :: cs).flatMap String.utf8EncodeChar := by
    intro c cs done
    rw [List.reverse_append, List.reverse_reverse, List.append_assoc, List.flatMap_cons]
  induction h generalizing done with
  | close => rw [readBytes, if_pos rfl, List.flatMap_nil, List.append_nil]
  | plain hc hquote hslash _ ih =>
    rw [readBytes_append (fun _ hb => plainByte_of_mem_utf8EncodeChar hc hquote hslash hb), ih,
      step]
  | short he _ ih =>
    rw [readBytes_escape (readEscape_short he), ← utf8EncodeChar_ofNat (shortEscape?_lt he).1, ih,
      step]
  | hex hx _ ih => rw [readBytes_escape (readEscape_hex hx), ih, step]
  | pair hhigh hle hge hlow hle' hge' hc _ ih =>
    rw [readBytes_escape (readEscape_pair hhigh hle hge hlow hle' hge' hc), ih, step]

/-- **A string is read as the text that its characters make up.** -/
theorem Chars.readText_eq (h : Chars s cs t) : readText s = .ok (String.ofList cs, t) := by
  have hbytes := h.readBytes_eq []
  rw [List.reverse_nil, List.nil_append, ← Text.utf8_ofList] at hbytes
  simp only [readText, hbytes, Text.ofUtf8?_utf8]

theorem skipEscape_short (h : shortEscape? b = some e) : skipEscape (b :: s) = .ok s := by
  simp only [skipEscape, if_neg (shortEscape?_lt h).2, h]

theorem skipEscape_hex {x y z w : UInt8} {n : Nat} (h : hexNumber? [x, y, z, w] = some n) :
    skipEscape (0x75 :: x :: y :: z :: w :: s) = .ok s := by
  simp only [skipEscape, if_true, readHex4_eq h, Except.map]

theorem skipText_escape (h : skipEscape s = .ok t) : skipText (0x5C :: s) = skipText t := by
  rw [skipText, if_neg (by decide), if_pos rfl]
  split
  · next heq => rw [h] at heq; cases heq
  · next heq => rw [h] at heq; cases heq; rfl

theorem Letters.skipText_eq (h : Letters s t) : skipText s = .ok t := by
  induction h with
  | close => rw [skipText, if_pos rfl]
  | plain hlow hquote hslash _ ih =>
    rw [skipText, if_neg hquote, if_neg hslash, if_neg (UInt8.not_lt.mpr hlow), ih]
  | short he _ ih => rw [skipText_escape (skipEscape_short he), ih]
  | hex hx _ ih => rw [skipText_escape (skipEscape_hex hx), ih]

end Strings

end NodeCoverage.Json
