import NodeCoverage.Proofs.Gap
import NodeCoverage.Proofs.Overflow
import NodeCoverage.Proofs.Written

/-!
# Integers where a word is expected

The reader of a word takes any number, and says what it found if that is no such word. An integer
that fits 64 bits, with a sign or without, is found as it is. Any other is found as a floating-point
number, or is too large for one.

Results:
* `writeInt_decimal`: what is written of an integer is its decimal;
* `Decimal.readNumber_eq`: what is read of a decimal;
* **`Decimal.fails_natural`**: how a decimal fails the reader of a word that does not hold it.
-/

namespace NodeCoverage.Json

open Text (utf8)

/-- An integer in decimal, in the one way that has no sign on zero. -/
inductive Decimal : List UInt8 → Int → List UInt8 → Prop
  | natural {s t : List UInt8} {n : Nat} : Numeral s n t → Decimal s n t
  | negative {s t : List UInt8} {n : Nat} : Numeral s n t → 0 < n → Decimal (0x2D :: s) (-n) t

theorem writeInt_decimal (n : Int) (t : List UInt8) : Decimal (utf8 (writeInt n) ++ t) n t := by
  cases n with
  | ofNat n => exact .natural (writeNat_numeral n t)
  | negSucc n =>
    have hutf8 : utf8 (writeInt (.negSucc n)) = 0x2D :: utf8 (writeNat (n + 1)) :=
      Text.utf8_append "-" _
    rw [hutf8]
    exact .negative (writeNat_numeral (n + 1) t) n.succ_pos

/-- Only zero has more than one spelling. -/
theorem Integer.decimal {n : Int} {s t : List UInt8} (h : Integer s n t) (hn : n ≠ 0) :
    Decimal s n t := by
  cases h with
  | natural h => exact .natural h
  | negative h => exact .negative h (by omega)

/-- What an integer is read as: itself if it fits 64 bits, or a floating-point number. -/
def Number.ofInt (n : Int) : Except Cause Number :=
  if 0 ≤ n ∧ n < 2 ^ 64 then .ok (.natural n.toNat.toUInt64)
  else if -2 ^ 63 ≤ n ∧ n < 0 then .ok (.negative n.natAbs)
  else if n.natAbs < Double.decimalLimit then .ok .floating
  else .error (.malformed .numberOutOfRange)

/-- Why an integer is not a word of the kind that is expected. -/
def refusal (expected : String) (n : Int) : Cause :=
  if -2 ^ 63 ≤ n ∧ n < 2 ^ 64 then .mismatched (.wrongValue (.integer n) expected)
  else if n.natAbs < Double.decimalLimit then .mismatched (.wrongType .floating expected)
  else .malformed .numberOutOfRange

section Words

variable {n : Int} {m : Nat} {negative : Bool} {r s t : List UInt8}

/-- Digits alone as a floating-point number. -/
theorem Numeral.productOverflows_eq (h : Numeral s m t) (ht : NoDigit t) (negative : Bool) :
    let l : Literal := ⟨negative, s.takeWhile isDigit, none, none⟩
    Double.productOverflows l.scaled.1 (l.scaled.2 + l.power) =
      decide (Double.decimalLimit ≤ m) := by
  intro l
  have hscaled : l.scaled = ((accumulate UInt64.size 0 (s.takeWhile isDigit)).1,
      ((accumulate UInt64.size 0 (s.takeWhile isDigit)).2.length : Int)) := by
    simp [l, Literal.scaled, accumulate]
  have hpower : l.power = 0 := rfl
  rw [hscaled, hpower, Int.add_zero, Bool.eq_iff_iff, decide_eq_true_iff]
  exact (h.leads ht).productOverflows_iff

/-- **Digits are valued** as a word if they fit one, and as a floating-point number if not. -/
theorem Numeral.number_eq (h : Numeral s m t) (ht : NoDigit t) {negative : Bool}
    (hm : negative = true → 0 < m) :
    Literal.number ⟨negative, s.takeWhile isDigit, none, none⟩ =
      Number.ofInt (if negative then -(m : Int) else m) := by
  have hfloating := h.productOverflows_eq ht negative
  have hsize : UInt64.size = 2 ^ 64 := rfl
  by_cases hlt : m < UInt64.size
  · simp only [Literal.number, h.below?_eq ht hlt, hfloating, Number.ofInt]
    cases negative with
    | false => grind
    | true => grind
  · simp only [Literal.number, h.below?_eq_none (by decide) (Nat.le_of_not_lt hlt), hfloating,
      Number.ofInt]
    cases negative with
    | false => grind
    | true => grind

theorem Decimal.exists_literal (h : Decimal s n t) (ht : Stops t) :
    ∃ l, Literal.scan (.ended .value) s = .ok (l, t) ∧ l.number = Number.ofInt n := by
  cases h with
  | natural h => exact ⟨_, h.scan_eq ht, h.number_eq ht.noDigit (nofun : false = true → _)⟩
  | negative h hm =>
    refine ⟨_, ?_, h.number_eq ht.noDigit fun _ : true = true => hm⟩
    simp only [Literal.scan, scanSign, h.scanWhole_eq ht.noDigit, ht.scanFraction_eq,
      ht.scanExponent_eq, bind, Except.bind, pure, Except.pure]

/-- **An integer is read as what it is**, however long it is. -/
theorem Decimal.readNumber_eq (h : Decimal s n t) (ht : Stops t) :
    readNumber s = (Number.ofInt n).map (·, t) := by
  obtain ⟨l, hscan, hnumber⟩ := h.exists_literal ht
  simp only [readNumber, hscan, hnumber]
  generalize Number.ofInt n = x
  cases x with
  | error _ => rfl
  | ok _ => rfl

theorem Decimal.integer (h : Decimal s n t) : Integer s n t := by
  cases h with
  | natural h => exact .natural h
  | negative h _ => exact .negative h

theorem Decimal.readHead_eq (h : Decimal s n t) (ht : Stops t) (hr : Blanks r s) :
    readHead r = (Number.ofInt n).map fun number => (.number number, t) := by
  have hread := h.readNumber_eq ht
  obtain ⟨b, s', rfl, hb⟩ := h.integer.exists_cons
  have hne : ∀ c : UInt8, c ≠ 0x2D → isDigit c = false → b ≠ c := by
    rintro c hc hdigit rfl
    rcases hb with hb | hb
    · exact hc hb
    · exact isDigit_ne hb hdigit rfl
  rw [Json.readHead_eq hr h.integer.startsValue.1, readHeadAt,
    if_neg (hne _ (by decide) rfl), if_neg (hne _ (by decide) rfl),
    if_neg (hne _ (by decide) rfl), if_neg (hne _ (by decide) rfl),
    if_neg (hne _ (by decide) rfl), if_neg (hne _ (by decide) rfl), if_pos hb, hread]
  cases Number.ofInt n with
  | error _ => rfl
  | ok _ => rfl

/-- **An integer that is no word of the kind** is refused, however long it is. -/
theorem Decimal.fails_natural {α : Type} {expected : String} {ofWord? : UInt64 → Option α}
    (h : Decimal s n t) (ht : Stops t)
    (hn : ∀ w : UInt64, (w.toNat : Int) = n → ofWord? w = none) :
    (Reader.natural expected ofWord?).Fails s ⟨refusal expected n, []⟩ := by
  intro r hr
  simp only [Reader.natural, Reader.ofHead, h.readHead_eq ht hr]
  unfold Number.ofInt refusal
  by_cases hword : 0 ≤ n ∧ n < 2 ^ 64
  · have hnat : (n.toNat.toUInt64.toNat : Int) = n := by
      rw [UInt64.toNat_ofNat_of_lt' (by unfold UInt64.size; omega)]
      omega
    rw [if_pos hword, if_pos (And.intro (by omega) hword.2)]
    simp only [Except.map, hn _ hnat, hnat, mismatch]
  by_cases hsigned : -2 ^ 63 ≤ n ∧ n < 0
  · rw [if_neg hword, if_pos hsigned, if_pos (And.intro hsigned.1 (by omega))]
    have habs : -(n.natAbs : Int) = n := by omega
    simp only [Except.map, habs, mismatch]
  · have hwide : ¬(-2 ^ 63 ≤ n ∧ n < 2 ^ 64) := by omega
    rw [if_neg hword, if_neg hsigned, if_neg hwide]
    by_cases hlimit : n.natAbs < Double.decimalLimit
    · rw [if_pos hlimit, if_pos hlimit]
      rfl
    · rw [if_neg hlimit, if_neg hlimit]
      rfl

theorem Decimal.fails_uint64 (h : Decimal s n t) (ht : Stops t) (hn : ¬(0 ≤ n ∧ n < 2 ^ 64)) :
    Reader.uint64.Fails s ⟨refusal "u64" n, []⟩ := by
  refine h.fails_natural ht fun w hw => ?_
  have hlt : w.toNat < 2 ^ 64 := w.toNat_lt
  omega

theorem Decimal.fails_uint32 (h : Decimal s n t) (ht : Stops t) (hn : ¬(0 ≤ n ∧ n < 2 ^ 32)) :
    Reader.uint32.Fails s ⟨refusal "u32" n, []⟩ := by
  refine h.fails_natural ht fun w hw => if_neg ?_
  unfold UInt32.size
  omega

end Words

end NodeCoverage.Json
