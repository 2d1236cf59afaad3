import Mathlib.Data.List.Basic
import Mathlib.Data.List.TakeWhile
import NodeCoverage.Proofs.Settled

/-!
# More text behind a number

A number alone ends where something else begins. On a text whose last byte cannot be part of a
number its scanners stop before the end of the text, and more text makes no difference to them.

Results:
* `stopped_scan`, `stopped_scanInteger`, `stopped_readNumber`: numbers on a closed text;
* `Stopped.settled_tail`: the scanner of a number, on any text.
-/

namespace NodeCoverage.Json

open Leaving Caused

/-! ## Closed texts -/

/-- A byte that may be part of a number. -/
def isNumberByte (b : UInt8) : Bool :=
  isDigit b || b == 0x2B || b == 0x2D || b == 0x2E || b == 0x65 || b == 0x45

/-- The text ends with a byte that cannot be part of a number. -/
def Closed (s : List UInt8) : Prop :=
  ∃ b, s.getLast? = some b ∧ isNumberByte b = false

namespace Closed

variable {b : UInt8} {s r : List UInt8}

theorem of_suffix (h : Closed s) (hr : r <:+ s) (hne : r ≠ []) : Closed r := by
  obtain ⟨c, rfl⟩ := hr
  obtain ⟨b, hb, hnumber⟩ := h
  rw [List.getLast?_append_of_ne_nil c hne] at hb
  exact ⟨b, hb, hnumber⟩

/-- Not all bytes can be part of a number. -/
theorem exists_mem (h : Closed s) : ∃ b ∈ s, isNumberByte b = false := by
  obtain ⟨b, hb, hnumber⟩ := h
  exact ⟨b, List.mem_of_getLast? hb, hnumber⟩

theorem exists_cons (h : Closed s) : ∃ b r, s = b :: r := by
  obtain ⟨b, hb, -⟩ := h.exists_mem
  exact List.exists_cons_of_ne_nil (List.ne_nil_of_mem hb)

theorem tail (h : Closed (b :: s)) (hb : isNumberByte b = true) : Closed s := by
  refine h.of_suffix (List.suffix_cons b s) ?_
  rintro rfl
  obtain ⟨c, hc, hnumber⟩ := h.exists_mem
  rw [List.mem_singleton.mp hc, hb] at hnumber
  cases hnumber

theorem dropWhile (h : Closed s) : Closed (s.dropWhile isDigit) := by
  refine h.of_suffix (List.dropWhile_suffix _) fun hnil => ?_
  rw [List.dropWhile_eq_nil_iff] at hnil
  obtain ⟨b, hb, hnumber⟩ := h.exists_mem
  rw [isNumberByte, hnil b hb] at hnumber
  cases hnumber

theorem takeWhile_append (h : Closed s) (t : List UInt8) :
    (s ++ t).takeWhile isDigit = s.takeWhile isDigit := by
  rw [List.takeWhile_append, if_neg]
  intro hlength
  obtain ⟨b, hb, hnumber⟩ := h.exists_mem
  have hall : s.takeWhile isDigit = s := (List.takeWhile_prefix isDigit).eq_of_length hlength
  rw [isNumberByte, List.takeWhile_eq_self_iff.mp hall b hb] at hnumber
  cases hnumber

theorem dropWhile_append (h : Closed s) (t : List UInt8) :
    (s ++ t).dropWhile isDigit = s.dropWhile isDigit ++ t := by
  obtain ⟨b, hb, -⟩ := h.dropWhile.exists_mem
  rw [List.dropWhile_append, if_neg]
  rw [List.isEmpty_iff]
  exact List.ne_nil_of_mem hb

end Closed

/-- What a scanner of a part of a number makes of a closed text: it stops before its end. -/
inductive Stopped {α : Type} (x : List UInt8 → Except Cause (α × List UInt8)) (s : List UInt8) :
    Prop
  | failed {e : Cause} : (∀ t, x (s ++ t) = .error e) → Stopped x s
  | found {a : α} {r : List UInt8} : Closed r → r <:+ s →
      (∀ t, x (s ++ t) = .ok (a, r ++ t)) → Stopped x s

namespace Stopped

variable {α β : Type} {x : List UInt8 → Except Cause (α × List UInt8)} {s : List UInt8}

/-- The scanner of a number after its first byte. -/
theorem settled_tail {clear : Prop} {b : UInt8} (h : Closed (b :: s) → Stopped x (b :: s))
    (hsuffix : ∀ {a r}, x (b :: s) = .ok (a, r) → r <:+ b :: s)
    (hconsumes : ∀ {a r}, x (b :: s) = .ok (a, r) → r.length < (b :: s).length)
    (hclear : clear → Closed (b :: s)) : Settled clear (fun s => x (b :: s)) s := by
  have htail {a : α} {r : List UInt8} (hr : x (b :: s) = .ok (a, r)) : r <:+ s := by
    rcases List.suffix_cons_iff.mp (hsuffix hr) with rfl | hsuffix
    · exact absurd (hconsumes hr) (Nat.lt_irrefl _)
    · exact hsuffix
  by_cases hclosed : Closed (b :: s)
  · cases h hclosed with
    | failed h => exact .failed h
    | @found a r _ _ h =>
      have hnow := h []
      rw [List.append_nil, List.append_nil] at hnow
      exact .found (b := (a, r)) (htail hnow) h
  · -- the number may go on in what is behind the text, and only what is left of it is known
    exact .unclear (fun h => hclosed (hclear h)) fun p hr => htail hr

theorem bind {k : α × List UInt8 → Except Cause (β × List UInt8)} (hx : Stopped x s)
    (hk : ∀ a r, Closed r → Stopped (fun r => k (a, r)) r) :
    Stopped (fun s => (x s).bind k) s := by
  cases hx with
  | failed h => exact .failed fun t => congrArg (Except.bind · k) (h t)
  | @found a r hclosed hr h =>
    have hstep (t : List UInt8) : (x (s ++ t)).bind k = k (a, r ++ t) :=
      congrArg (Except.bind · k) (h t)
    cases hk a r hclosed with
    | failed h' => exact .failed fun t => (hstep t).trans (h' t)
    | found hclosed' hr' h' =>
      exact .found hclosed' (hr'.trans hr) fun t => (hstep t).trans (h' t)

theorem map (hx : Stopped x s) (f : α → β) :
    Stopped (fun s => (x s).map fun p => (f p.1, p.2)) s := by
  cases hx with
  | failed h => exact .failed fun t => congrArg (Except.map _) (h t)
  | @found a r hclosed hr h =>
    exact .found (a := f a) hclosed hr fun t => congrArg (Except.map fun p => (f p.1, p.2)) (h t)

/-- A scanner that goes on with another one after the first bytes. -/
theorem of_suffix {y : List UInt8 → Except Cause (α × List UInt8)} {r : List UInt8}
    (hy : Stopped y r) (hr : r <:+ s) (heq : ∀ t, x (s ++ t) = y (r ++ t)) : Stopped x s := by
  cases hy with
  | failed h => exact .failed fun t => (heq t).trans (h t)
  | found hclosed hr' h => exact .found hclosed (hr'.trans hr) fun t => (heq t).trans (h t)

end Stopped

section Numbers

variable {clear : Prop} {b : UInt8} {s : List UInt8}

theorem scanSign_of_ne (h : b ≠ 0x2D) : scanSign (b :: s) = (false, b :: s) := by
  unfold scanSign
  split
  · next heq => exact absurd (List.cons.inj heq).1 h
  · rfl

/-- After the sign of a number a text is as closed as before. -/
theorem Closed.scanSign (h : Closed s) : ∃ r, Closed r ∧ r <:+ s ∧ ∃ negative, ∀ t,
    Json.scanSign (s ++ t) = (negative, r ++ t) := by
  obtain ⟨b, s, rfl⟩ := h.exists_cons
  by_cases hb : b = 0x2D
  · subst hb
    exact ⟨s, h.tail rfl, List.suffix_cons _ s, true, fun _ => rfl⟩
  · exact ⟨b :: s, h, List.suffix_refl _, false, fun t => scanSign_of_ne hb⟩

theorem stopped_scanDigits (e : Cause) (h : Closed s) : Stopped (scanDigits e) s := by
  obtain ⟨b, s, rfl⟩ := h.exists_cons
  by_cases hb : isDigit b = true
  · have hs : Closed s := h.tail (by rw [isNumberByte, hb]; rfl)
    refine .found (a := b :: s.takeWhile isDigit) hs.dropWhile
      ((List.dropWhile_suffix _).trans (List.suffix_cons b s)) fun t => ?_
    simp only [List.cons_append, scanDigits, if_pos hb, hs.takeWhile_append, hs.dropWhile_append]
  · refine .failed (e := .malformed .invalidNumber) fun t => ?_
    simp only [List.cons_append, scanDigits, if_neg hb]

theorem scanWhole_of_ne (e : Cause) (h : b ≠ 0x30) :
    scanWhole e (b :: s) = scanDigits e (b :: s) := by
  unfold scanWhole
  split
  · next heq => exact absurd (List.cons.inj heq).1 h
  · rfl

theorem stopped_scanWhole (e : Cause) (h : Closed s) : Stopped (scanWhole e) s := by
  obtain ⟨b, s, rfl⟩ := h.exists_cons
  by_cases hb : b = 0x30
  · subst hb
    have hs : Closed s := h.tail rfl
    obtain ⟨c, s, rfl⟩ := hs.exists_cons
    by_cases hc : isDigit c = true
    · refine .failed (e := .malformed .invalidNumber) fun t => ?_
      simp only [List.cons_append, scanWhole, if_pos hc]
    · refine .found (a := [0x30]) hs (List.suffix_cons _ _) fun t => ?_
      simp only [List.cons_append, scanWhole, if_neg hc]
  · exact (stopped_scanDigits e h).of_suffix (List.suffix_refl _) fun t => scanWhole_of_ne e hb

theorem scanFraction_of_ne (e : Cause) (h : b ≠ 0x2E) :
    scanFraction e (b :: s) = .ok (none, b :: s) := by
  unfold scanFraction
  split
  · next heq => exact absurd (List.cons.inj heq).1 h
  · rfl

theorem stopped_scanFraction (e : Cause) (h : Closed s) : Stopped (scanFraction e) s := by
  obtain ⟨b, s, rfl⟩ := h.exists_cons
  by_cases hb : b = 0x2E
  · subst hb
    exact ((stopped_scanDigits e (h.tail rfl)).map some).of_suffix (List.suffix_cons _ s)
      fun _ => rfl
  · exact .found h (List.suffix_refl _) fun t => scanFraction_of_ne e hb

theorem scanExponentSign_of_ne (hminus : b ≠ 0x2D) (hplus : b ≠ 0x2B) :
    scanExponentSign (b :: s) = (false, b :: s) := by
  unfold scanExponentSign
  split
  · next heq => exact absurd (List.cons.inj heq).1 hminus
  · next heq => exact absurd (List.cons.inj heq).1 hplus
  · rfl

/-- After the sign of an exponent a text is as closed as before. -/
theorem Closed.scanExponentSign (h : Closed s) : ∃ r, Closed r ∧ r <:+ s ∧ ∃ negative, ∀ t,
    Json.scanExponentSign (s ++ t) = (negative, r ++ t) := by
  obtain ⟨b, s, rfl⟩ := h.exists_cons
  by_cases hminus : b = 0x2D
  · subst hminus
    exact ⟨s, h.tail rfl, List.suffix_cons _ s, true, fun _ => rfl⟩
  by_cases hplus : b = 0x2B
  · subst hplus
    exact ⟨s, h.tail rfl, List.suffix_cons _ s, false, fun _ => rfl⟩
  exact ⟨b :: s, h, List.suffix_refl _, false, fun t => scanExponentSign_of_ne hminus hplus⟩

theorem stopped_scanExponent (e : Cause) (h : Closed s) : Stopped (scanExponent e) s := by
  obtain ⟨b, s, rfl⟩ := h.exists_cons
  by_cases hb : b = 0x65 ∨ b = 0x45
  · have hs : Closed s := h.tail (by rcases hb with rfl | rfl <;> rfl)
    obtain ⟨r, hclosed, hr, negative, hsign⟩ := hs.scanExponentSign
    refine ((stopped_scanDigits e hclosed).map fun ds => some (negative, ds)).of_suffix
      (hr.trans (List.suffix_cons b s)) fun t => ?_
    simp only [List.cons_append, scanExponent, if_pos hb, hsign]
  · refine .found (a := none) h (List.suffix_refl _) fun t => ?_
    simp only [List.cons_append, scanExponent, if_neg hb]

theorem scan_eq (e : Cause) (s : List UInt8) :
    Literal.scan e s =
      (scanWhole e (scanSign s).2).bind fun w => (scanFraction e w.2).bind fun f =>
        (scanExponent e f.2).map fun x => (⟨(scanSign s).1, w.1, f.1, x.1⟩, x.2) :=
  rfl

/-- **A number is scanned** up to a byte that does not belong to it. -/
theorem stopped_scan (e : Cause) (h : Closed s) : Stopped (Literal.scan e) s := by
  obtain ⟨r, hclosed, hr, negative, hsign⟩ := h.scanSign
  have hparts : Stopped (fun s => (scanWhole e s).bind fun w => (scanFraction e w.2).bind fun f =>
      (scanExponent e f.2).map fun x => (Literal.mk negative w.1 f.1 x.1, x.2)) r := by
    refine (stopped_scanWhole e hclosed).bind fun w r hw => ?_
    simp only
    refine (stopped_scanFraction e hw).bind fun f r hf => ?_
    exact (stopped_scanExponent e hf).map fun x => Literal.mk negative w f x
  exact hparts.of_suffix hr fun t => by rw [scan_eq, hsign]

theorem scanInteger_eq {α : Type} (ofInt? : Int → Option α) (bound : Nat) (s : List UInt8) :
    scanInteger ofInt? bound s =
      (scanWhole (.malformed .invalidNumber) (scanSign s).2).bind fun w =>
        match (below? bound w.1).bind fun n => ofInt? (if (scanSign s).1 then -n else n) with
        | some v => .ok (v, w.2)
        | none => .error (.malformed .numberOutOfRange) :=
  rfl

/-- An integer in its own right is scanned up to a byte that does not belong to it. -/
theorem stopped_scanInteger {α : Type} (ofInt? : Int → Option α) (bound : Nat) (h : Closed s) :
    Stopped (scanInteger ofInt? bound) s := by
  obtain ⟨r, hclosed, hr, negative, hsign⟩ := h.scanSign
  have hparts : Stopped (fun s => (scanWhole (.malformed .invalidNumber) s).bind fun w =>
      match (below? bound w.1).bind fun n => ofInt? (if negative then -n else n) with
      | some v => .ok (v, w.2)
      | none => .error (.malformed .numberOutOfRange)) r := by
    refine (stopped_scanWhole _ hclosed).bind fun w r hw => ?_
    simp only
    cases (below? bound w).bind fun n => ofInt? (if negative then -n else n) with
    | none => exact .failed fun _ => rfl
    | some v => exact .found hw (List.suffix_refl r) fun _ => rfl
  exact hparts.of_suffix hr fun t => by rw [scanInteger_eq, hsign]

theorem readNumber_eq (s : List UInt8) :
    readNumber s = (Literal.scan (.ended .value) s).bind fun p =>
      p.1.number.map fun n => (n, p.2) := by
  unfold readNumber
  cases Literal.scan (.ended .value) s with
  | error e => rfl
  | ok p =>
    simp only [Except.bind]
    cases p.1.number <;> rfl

/-! What is left of a number is the end of the text, also where the text is not closed. -/

theorem scanSign_suffix (s : List UInt8) : (scanSign s).2 <:+ s := by
  unfold scanSign
  split
  · exact List.suffix_cons _ _
  · exact List.suffix_refl s

theorem scanDigits_suffix {e : Cause} {ds r : List UInt8} (h : scanDigits e s = .ok (ds, r)) :
    r <:+ s := by
  unfold scanDigits at h
  split at h
  · cases h
  · split at h
    · cases h
      exact (List.dropWhile_suffix _).trans (List.suffix_cons _ _)
    · cases h

theorem scanWhole_suffix {e : Cause} {ds r : List UInt8} (h : scanWhole e s = .ok (ds, r)) :
    r <:+ s := by
  unfold scanWhole at h
  split at h
  · split at h
    · cases h
    · cases h
      exact List.suffix_cons _ _
  · exact scanDigits_suffix h

theorem scanFraction_suffix {e : Cause} {f : Option (List UInt8)} {r : List UInt8}
    (h : scanFraction e s = .ok (f, r)) : r <:+ s := by
  unfold scanFraction at h
  split at h
  · obtain ⟨⟨ds, r⟩, hds, ⟨⟩⟩ := map_eq_ok.mp h
    exact (scanDigits_suffix hds).trans (List.suffix_cons _ _)
  · cases h
    exact List.suffix_refl _

theorem scanExponentSign_suffix (s : List UInt8) : (scanExponentSign s).2 <:+ s := by
  unfold scanExponentSign
  split
  · exact List.suffix_cons _ _
  · exact List.suffix_cons _ _
  · exact List.suffix_refl s

theorem scanExponent_suffix {e : Cause} {x : Option (Bool × List UInt8)} {r : List UInt8}
    (h : scanExponent e s = .ok (x, r)) : r <:+ s := by
  unfold scanExponent at h
  split at h
  · cases h
    exact List.suffix_refl _
  · split at h
    · obtain ⟨⟨ds, r⟩, hds, ⟨⟩⟩ := map_eq_ok.mp h
      exact ((scanDigits_suffix hds).trans (scanExponentSign_suffix _)).trans (List.suffix_cons _ _)
    · cases h
      exact List.suffix_refl _

theorem scan_suffix {e : Cause} {l : Literal} {r : List UInt8}
    (h : Literal.scan e s = .ok (l, r)) : r <:+ s := by
  rw [scan_eq] at h
  obtain ⟨w, hw, h⟩ := bind_eq_ok.mp h
  obtain ⟨f, hf, h⟩ := bind_eq_ok.mp h
  obtain ⟨x, hx, ⟨⟩⟩ := map_eq_ok.mp h
  have hfraction : _ <:+ _ := (scanExponent_suffix hx).trans (scanFraction_suffix hf)
  exact (hfraction.trans (scanWhole_suffix hw)).trans (scanSign_suffix s)

theorem scanInteger_suffix {α : Type} {ofInt? : Int → Option α} {bound : Nat} {a : α}
    {r : List UInt8} (h : scanInteger ofInt? bound s = .ok (a, r)) : r <:+ s := by
  rw [scanInteger_eq] at h
  obtain ⟨w, hw, h⟩ := bind_eq_ok.mp h
  split at h
  · cases h
    exact (scanWhole_suffix hw).trans (scanSign_suffix s)
  · cases h

theorem readNumber_suffix {n : Number} {r : List UInt8} (h : readNumber s = .ok (n, r)) :
    r <:+ s := by
  rw [readNumber_eq] at h
  obtain ⟨l, hl, h⟩ := bind_eq_ok.mp h
  obtain ⟨m, -, ⟨⟩⟩ := map_eq_ok.mp h
  exact scan_suffix hl

theorem stopped_readNumber (h : Closed s) : Stopped readNumber s := by
  simp only [funext readNumber_eq]
  refine (stopped_scan _ h).bind fun l r hr => ?_
  simp only
  cases l.number with
  | error e => exact .failed fun _ => rfl
  | ok n => exact .found hr (List.suffix_refl r) fun _ => rfl

end Numbers

end NodeCoverage.Json
