import NodeCoverage.Proofs.Toml.Scanning

/-!
# Scanning integers and lists

A scalar without quotes is taken as the longest run of its characters and classified as a whole, so
that an integer must be told from every other kind of scalar.

Results:
* `Natural.classify?_eq`: a natural number in any notation is no truth value, no moment and no
  float, and is classified as itself;
* `Items.items_eq`: a list is read with all of its strings, however they are laid out;
* `Written.value_scan_eq`: a value is read as it is written.
-/

namespace NodeCoverage.Toml

/-! ## Integers -/

section Integers

variable {p : Char → Bool} {c : Char} {n : Nat} {s t ds : List Char}

theorem Digits.exists_cons (h : Digits p s ds) : ∃ c r, s = c :: r ∧ p c = true := by
  cases h <;> exact ⟨_, _, rfl, by assumption⟩

theorem Digits.mem (h : Digits p s ds) (hc : c ∈ s) : p c = true ∨ c = '_' := by
  induction h with
  | one hd =>
    rw [List.mem_singleton] at hc
    exact .inl (hc ▸ hd)
  | cons hd _ ih =>
    rcases List.mem_cons.mp hc with rfl | hc
    · exact .inl hd
    · exact ih hc
  | group hd _ ih =>
    rcases List.mem_cons.mp hc with rfl | hc
    · exact .inl hd
    · rcases List.mem_cons.mp hc with rfl | hc
      · exact .inr rfl
      · exact ih hc

/-- Digits lose their underscores. -/
theorem Digits.ungroup?_eq (h : Digits p s ds) (hp : p '_' = false) :
    ungroup? p s = some ds := by
  induction h with
  | one hd => rw [ungroup?, if_pos hd]
  | cons hd hs ih =>
    obtain ⟨c, r, rfl, hc⟩ := hs.exists_cons
    have hne : c ≠ '_' := by
      rintro rfl
      rw [hp] at hc
      cases hc
    rw [ungroup?, if_pos hd, ih]
    · rfl
    · intro heq
      cases heq
    · intro rest heq
      exact hne (List.cons.inj heq).1
  | group hd _ ih =>
    rw [ungroup?, if_pos hd, ih]
    rfl

/-- A prefix is not made of decimal digits. -/
theorem ungroup?_prefixed (hdigit : c.isDigit = false) (hc : c ≠ '_') :
    ungroup? Char.isDigit ('0' :: c :: s) = none := by
  have hnone : ungroup? Char.isDigit (c :: s) = none := by
    unfold ungroup?
    split
    · rfl
    · next heq =>
      cases heq
      rw [hdigit]
      rfl
    · next heq =>
      cases heq
      rw [hdigit]
      rfl
    · next heq =>
      cases heq
      rw [hdigit]
      rfl
  rw [ungroup?, hnone]
  · rfl
  · intro heq
    cases heq
  · intro rest heq
    exact hc (List.cons.inj heq).1

theorem wholeDigits?_prefixed (hdigit : c.isDigit = false) (hc : c ≠ '_') :
    wholeDigits? ('0' :: c :: s) = none := by
  unfold wholeDigits?
  rw [ungroup?_prefixed hdigit hc]
  rfl

theorem Decimal.exists_wholeDigits? (h : Decimal s n) :
    ∃ ds, wholeDigits? s = some ds ∧ ofDigits 10 ds = n := by
  obtain ⟨hs, hzero⟩ := h
  refine ⟨_, ?_, rfl⟩
  unfold wholeDigits?
  rw [hs.ungroup?_eq (by decide), Option.bind_eq_bind, Option.bind_some, guard, if_pos hzero]
  rfl

theorem Decimal.mem (h : Decimal s n) (hc : c ∈ s) : c.isDigit = true ∨ c = '_' := by
  obtain ⟨hs, -⟩ := h
  exact hs.mem hc

theorem Decimal.exists_cons (h : Decimal s n) : ∃ c r, s = c :: r ∧ c.isDigit = true := by
  obtain ⟨hs, -⟩ := h
  exact hs.exists_cons

theorem Decimal.splitSign_eq (h : Decimal s n) : splitSign s = (false, s) := by
  obtain ⟨c, r, rfl, hc⟩ := h.exists_cons
  unfold splitSign
  split
  · next heq =>
    cases heq
    cases hc
  · next heq =>
    cases heq
    cases hc
  · rfl

/-- A natural number in decimal is no float, whatever its sign. -/
theorem Decimal.isFloat_eq_false (h : Decimal t n) {negative : Bool}
    (hs : splitSign s = (negative, t)) : isFloat s = false := by
  have hdigit (c : Char) (hc : c ∈ t) : isExponentMark c = false ∧ c ≠ '.' := by
    rcases h.mem hc with hd | rfl
    · constructor
      · rw [Bool.eq_false_iff]
        intro he
        simp only [isExponentMark, Bool.or_eq_true, decide_eq_true_eq] at he
        rcases he with rfl | rfl <;> cases hd
      · rintro rfl
        cases hd
    · exact ⟨rfl, by decide⟩
  have hmantissa : t.takeWhile (!isExponentMark ·) = t :=
    List.takeWhile_eq_self_iff.mpr fun c hc => by rw [(hdigit c hc).1]; rfl
  have hpower : t.dropWhile (!isExponentMark ·) = [] :=
    List.dropWhile_eq_nil_iff.mpr fun c hc => by rw [(hdigit c hc).1]; rfl
  have hwhole : t.takeWhile (· ≠ '.') = t :=
    List.takeWhile_eq_self_iff.mpr fun c hc => decide_eq_true (hdigit c hc).2
  have hpoint : t.dropWhile (· ≠ '.') = [] :=
    List.dropWhile_eq_nil_iff.mpr fun c hc => decide_eq_true (hdigit c hc).2
  obtain ⟨c, r, rfl, hc⟩ := h.exists_cons
  obtain ⟨ds, hds, -⟩ := h.exists_wholeDigits?
  unfold isFloat
  rw [hs]
  dsimp only
  rw [if_neg, hmantissa, hpower, hwhole, hpoint, hds]
  · rfl
  · rintro (heq | heq) <;> cases heq <;> cases hc

theorem isFloat_prefixed (hdigit : c.isDigit = false) (hc : c ≠ '_')
    (hmark : isExponentMark c = false) (hdot : c ≠ '.') : isFloat ('0' :: c :: s) = false := by
  have hsign : splitSign ('0' :: c :: s) = (false, '0' :: c :: s) := rfl
  unfold isFloat
  rw [hsign]
  dsimp only
  have hmantissa : ('0' :: c :: s).takeWhile (!isExponentMark ·) =
      '0' :: c :: s.takeWhile (!isExponentMark ·) := by
    rw [List.takeWhile_cons_of_pos (by decide), List.takeWhile_cons_of_pos (by simp [hmark])]
  have hwhole (r : List Char) : ('0' :: c :: r).takeWhile (· ≠ '.') =
      '0' :: c :: r.takeWhile (· ≠ '.') := by
    rw [List.takeWhile_cons_of_pos (by decide), List.takeWhile_cons_of_pos (by simp [hdot])]
  rw [if_neg (by rintro (heq | heq) <;> cases heq), hmantissa, hwhole,
    wholeDigits?_prefixed hdigit hc]

theorem isAlphanum_of_isDigit (h : c.isDigit = true) : c.isAlphanum = true := by
  rw [Char.isAlphanum, h, Bool.or_true]

theorem isAlphanum_of_isHexDigit (h : isHexDigit c = true) : c.isAlphanum = true := by
  have hall : ∀ n < 128, isHexDigit (Char.ofNat n) = true →
      (Char.ofNat n).isAlphanum = true := by
    decide +kernel
  have hc := hall c.toNat (toNat_lt_of_isHexDigit h)
  rw [Char.ofNat_toNat] at hc
  exact hc h

theorem isAlphanum_of_octal (h : ('0' ≤ c && c ≤ '7') = true) : c.isAlphanum = true := by
  refine isAlphanum_of_isDigit ?_
  simp only [Bool.and_eq_true, decide_eq_true_eq, Char.le_def] at h
  simp only [Char.isDigit, Bool.and_eq_true, decide_eq_true_eq]
  exact ⟨h.1, UInt32.le_trans h.2 (by decide)⟩

theorem isAlphanum_of_binary (h : (c = '0' || c = '1') = true) : c.isAlphanum = true := by
  simp only [Bool.or_eq_true, decide_eq_true_eq] at h
  rcases h with rfl | rfl <;> rfl

/-- The characters of a natural number: a digit or a sign, then digits, letters and underscores. -/
theorem Natural.exists_cons (h : Natural s n) :
    ∃ c r, s = c :: r ∧ (c.isDigit = true ∨ c = '+' ∨ c = '-') ∧
      ∀ d ∈ r, d.isAlphanum = true ∨ d = '_' := by
  have hletters {p : Char → Bool} {x : Char} {s ds : List Char} (hx : x.isAlphanum = true)
      (hp : ∀ c, p c = true → c.isAlphanum = true) (hs : Digits p s ds) :
      ∀ d ∈ x :: s, d.isAlphanum = true ∨ d = '_' := by
    intro d hd
    rcases List.mem_cons.mp hd with rfl | hd
    · exact .inl hx
    · exact (hs.mem hd).imp_left (hp d)
  cases h with
  | decimal h =>
    obtain ⟨c, r, rfl, hc⟩ := h.exists_cons
    exact ⟨c, r, rfl, .inl hc, fun d hd =>
      (h.mem (List.mem_cons_of_mem c hd)).imp_left isAlphanum_of_isDigit⟩
  | plus h =>
    exact ⟨_, _, rfl, .inr (.inl rfl), fun d hd => (h.mem hd).imp_left isAlphanum_of_isDigit⟩
  | minus h =>
    exact ⟨_, _, rfl, .inr (.inr rfl), fun d hd => (h.mem hd).imp_left isAlphanum_of_isDigit⟩
  | hexadecimal hs =>
    exact ⟨_, _, rfl, .inl rfl, hletters rfl (fun _ => isAlphanum_of_isHexDigit) hs⟩
  | octal hs => exact ⟨_, _, rfl, .inl rfl, hletters rfl (fun _ => isAlphanum_of_octal) hs⟩
  | binary hs => exact ⟨_, _, rfl, .inl rfl, hletters rfl (fun _ => isAlphanum_of_binary) hs⟩

theorem Natural.isFloat_eq_false (h : Natural s n) : isFloat s = false := by
  cases h with
  | decimal h => exact h.isFloat_eq_false h.splitSign_eq
  | plus h => exact h.isFloat_eq_false rfl
  | minus h => exact h.isFloat_eq_false rfl
  | hexadecimal _ => exact isFloat_prefixed rfl (by decide) rfl (by decide)
  | octal _ => exact isFloat_prefixed rfl (by decide) rfl (by decide)
  | binary _ => exact isFloat_prefixed rfl (by decide) rfl (by decide)

theorem fitting?_eq (h : (n : Int) < integerBound) : fitting? n = some (n : Int) := by
  unfold integerBound at h
  unfold fitting? integerBound
  rw [if_pos (by omega)]

theorem integer?_plus :
    integer? ('+' :: s) = (wholeDigits? s).bind fun ds => fitting? (ofDigits 10 ds) :=
  rfl

theorem integer?_minus :
    integer? ('-' :: s) = (wholeDigits? s).bind fun ds => fitting? (-(ofDigits 10 ds : Int)) :=
  rfl

theorem integer?_hexadecimal : integer? ('0' :: 'x' :: s) =
    (ungroup? isHexDigit s).bind fun ds => fitting? (ofDigits 16 ds) :=
  rfl

theorem integer?_octal : integer? ('0' :: 'o' :: s) =
    (ungroup? (fun c => '0' ≤ c && c ≤ '7') s).bind fun ds => fitting? (ofDigits 8 ds) :=
  rfl

theorem integer?_binary : integer? ('0' :: 'b' :: s) =
    (ungroup? (fun c => c = '0' || c = '1') s).bind fun ds => fitting? (ofDigits 2 ds) :=
  rfl

theorem Natural.integer?_eq (h : Natural s n) (hn : (n : Int) < integerBound) :
    integer? s = some (n : Int) := by
  cases h with
  | decimal h =>
    obtain ⟨ds, hds, rfl⟩ := h.exists_wholeDigits?
    have hlead (c : Char) (hdigit : c.isDigit = false) (hc : c ≠ '_') (r : List Char) :
        s ≠ '0' :: c :: r := by
      rintro rfl
      rw [wholeDigits?_prefixed hdigit hc] at hds
      cases hds
    unfold integer?
    split
    · exact absurd rfl (hlead 'x' rfl (by decide) _)
    · exact absurd rfl (hlead 'o' rfl (by decide) _)
    · exact absurd rfl (hlead 'b' rfl (by decide) _)
    · rw [h.splitSign_eq]
      dsimp only
      rw [hds, Option.bind_some, if_neg Bool.false_ne_true, fitting?_eq hn]
  | plus h =>
    obtain ⟨ds, hds, rfl⟩ := h.exists_wholeDigits?
    rw [integer?_plus, hds, Option.bind_some, fitting?_eq hn]
  | minus h =>
    obtain ⟨ds, hds, hzero⟩ := h.exists_wholeDigits?
    have hneg : (-((0 : Nat) : Int)) = ((0 : Nat) : Int) := rfl
    rw [integer?_minus, hds, Option.bind_some, hzero, hneg, fitting?_eq hn]
  | hexadecimal hs =>
    rw [integer?_hexadecimal, hs.ungroup?_eq (by decide), Option.bind_some, fitting?_eq hn]
  | octal hs =>
    rw [integer?_octal, hs.ungroup?_eq (by decide), Option.bind_some, fitting?_eq hn]
  | binary hs =>
    rw [integer?_binary, hs.ungroup?_eq (by decide), Option.bind_some, fitting?_eq hn]

/-- A text without a colon, and without a dash after its first character, is no moment. -/
theorem isMoment_eq_false (hcolon : ':' ∉ s) (hdash : '-' ∉ s.tail) :
    isMoment s = false ∧ isDate s = false := by
  have htime : time? s = none := by
    unfold time? hourMinute?
    split
    · simp at hcolon
    · rfl
  have hdate : date? s = none := by
    unfold date?
    split
    · simp at hdash
    · rfl
  constructor
  · unfold isMoment
    rw [htime, hdate]
    rfl
  · unfold isDate
    rw [hdate]
    rfl

theorem Natural.isMoment_eq_false (h : Natural s n) : isMoment s = false ∧ isDate s = false := by
  obtain ⟨c, r, rfl, hc, hr⟩ := h.exists_cons
  refine Toml.isMoment_eq_false (fun hmem => ?_) fun hmem => ?_
  · rcases List.mem_cons.mp hmem with rfl | hmem
    · rcases hc with hc | hc | hc <;> cases hc
    · rcases hr _ hmem with hd | hd <;> cases hd
  · rcases hr _ hmem with hd | hd <;> cases hd

theorem Natural.head_ne {r : List Char} (h : Natural (c :: r) n) {d : Char}
    (hd : d.isDigit = false) (hplus : d ≠ '+') (hminus : d ≠ '-') : c ≠ d := by
  obtain ⟨c', r', heq, hc, -⟩ := h.exists_cons
  cases heq
  rintro rfl
  rcases hc with hc | hc | hc
  · exact Bool.false_ne_true (hd.symm.trans hc)
  · exact hplus hc
  · exact hminus hc

/-- **A natural number** is classified as the integer that it is. -/
theorem Natural.classify?_eq (h : Natural s n) (hn : (n : Int) < integerBound) :
    classify? s = some (.integer n) := by
  have htrue : s ≠ ['t', 'r', 'u', 'e'] := by
    rintro rfl
    exact h.head_ne rfl (by decide) (by decide) rfl
  have hfalse : s ≠ ['f', 'a', 'l', 's', 'e'] := by
    rintro rfl
    exact h.head_ne rfl (by decide) (by decide) rfl
  unfold classify?
  rw [if_neg htrue, if_neg hfalse, h.isMoment_eq_false.1,
    if_neg Bool.false_ne_true, h.isFloat_eq_false, if_neg Bool.false_ne_true, h.integer?_eq hn]
  rfl

/-- The text does not go on with a scalar or a string. -/
def Stops (t : List Char) : Prop :=
  ∀ c ∈ t.head?, isScalarChar c = false ∧ c ≠ '"'

theorem Natural.isScalarChar (h : Natural s n) : ∀ c ∈ s, isScalarChar c = true := by
  obtain ⟨c, r, rfl, hc, hr⟩ := h.exists_cons
  have halphanum {c : Char} (hc : c.isAlphanum = true) : Toml.isScalarChar c = true := by
    rw [Toml.isScalarChar, hc]
    rfl
  intro d hd
  rcases List.mem_cons.mp hd with rfl | hd
  · rcases hc with hc | rfl | rfl
    · exact halphanum (isAlphanum_of_isDigit hc)
    · rfl
    · rfl
  · rcases hr d hd with hd | rfl
    · exact halphanum hd
    · rfl

theorem Natural.scalar?_eq (h : Natural s n) (hn : (n : Int) < integerBound) (ht : Stops t) :
    scalar? (s ++ t) = some (.integer n, t) := by
  have hends (c : Char) (hc : c ∈ t.head?) : Toml.isScalarChar c = false := (ht c hc).1
  have hafter : timeAfter? s t = none := by
    unfold timeAfter?
    split
    · rw [h.isMoment_eq_false.2]
      rfl
    · rfl
  unfold scalar?
  dsimp only
  rw [takeWhile_append_eq h.isScalarChar hends, dropWhile_append_eq h.isScalarChar hends, if_neg,
    hafter, h.classify?_eq hn]
  · rfl
  · obtain ⟨c, r, rfl, -⟩ := h.exists_cons
    exact Nat.succ_ne_zero _

end Integers

/-! ## Values -/

section Values

variable {c : Char} {depth : Nat} {n : Nat} {w : String} {ws : List String} {a : Value}
  {s t u cs : List Char}

/-- Without a bracket in front the depth does not matter. -/
theorem value_scan_cons (hlist : c ≠ '[') (htable : c ≠ '\x7b') :
    (value depth).scan (c :: s) =
      match text? (c :: s) with
      | some (t, r) => some (.text t, r)
      | none => scalar? (c :: s) := by
  have hzero : (value 0).scan (c :: s) =
      match text? (c :: s) with
      | some (t, r) => some (.text t, r)
      | none => scalar? (c :: s) := by
    unfold value
    rfl
  cases depth with
  | zero => exact hzero
  | succ depth =>
    rw [value]
    dsimp only
    split
    · next heq => exact absurd (List.cons.inj heq).1 hlist
    · next heq => exact absurd (List.cons.inj heq).1 htable
    · exact hzero

theorem value_scan_list : (value (depth + 1)).scan ('[' :: s) =
    (items (value depth) [] s).map fun (vs, r) => (.list vs, r) := by
  simp only [value]

theorem Chars.value_scan_eq (h : Chars s cs t) (ht : t.head? ≠ some '"') :
    (value depth).scan ('"' :: s) = some (.text (String.ofList cs), t) := by
  rw [value_scan_cons (by decide) (by decide), h.text?_eq ht]

theorem Natural.value_scan_eq (h : Natural s n) (hn : (n : Int) < integerBound) (ht : Stops t) :
    (value depth).scan (s ++ t) = some (.integer n, t) := by
  have hscalar := h.scalar?_eq hn ht
  obtain ⟨c, r, rfl, -⟩ := h.exists_cons
  have htext : text? (c :: (r ++ t)) = none := by
    unfold text? quoted?
    split
    · next heq => exact absurd (List.cons.inj heq).1 (h.head_ne rfl (by decide) (by decide))
    · next heq => exact absurd (List.cons.inj heq).1 (h.head_ne rfl (by decide) (by decide))
    · split
      · next heq => exact absurd (List.cons.inj heq).1 (h.head_ne rfl (by decide) (by decide))
      · next heq => exact absurd (List.cons.inj heq).1 (h.head_ne rfl (by decide) (by decide))
      · rfl
  rw [List.cons_append] at hscalar ⊢
  rw [value_scan_cons (h.head_ne rfl (by decide) (by decide))
    (h.head_ne rfl (by decide) (by decide)), htext, hscalar]

/-! ### Lists -/

variable {α : Type} {item : Scanner α} {done : List α} {b : α} {v : List Char}

theorem items_eq (item : Scanner α) (done : List α) (s : List Char) :
    items item done s =
      match skipLines s with
      | ']' :: rest => some (done.reverse, rest)
      | start =>
        match item.scan start with
        | none => none
        | some (b, r) =>
          match skipLines r with
          | ',' :: rest => items item (b :: done) rest
          | ']' :: rest => some ((b :: done).reverse, rest)
          | _ => none := by
  rw [items]
  split
  · next h => simp only [h]
  · next hne =>
    split
    · next h => simp only [h]
    · next b r h =>
      simp only [h]
      split <;> rename_i hr <;> simp only [hr]

theorem items_close (h : skipLines s = ']' :: t) : items item done s = some (done.reverse, t) := by
  rw [items_eq, h]
  rfl

theorem items_last (hs : skipLines s = c :: u) (hc : c ≠ ']')
    (hi : item.scan (c :: u) = some (b, v)) (hv : skipLines v = ']' :: t) :
    items item done s = some ((b :: done).reverse, t) := by
  rw [items_eq, hs]
  split
  · next heq => exact absurd (List.cons.inj heq).1 hc
  · simp only [hi, hv]

theorem items_next (hs : skipLines s = c :: u) (hc : c ≠ ']')
    (hi : item.scan (c :: u) = some (b, v)) (hv : skipLines v = ',' :: t) :
    items item done s = items item (b :: done) t := by
  rw [items_eq, hs]
  split
  · next heq => exact absurd (List.cons.inj heq).1 hc
  · simp only [hi, hv]

/-- **The strings of a list** are read to its closing bracket. -/
theorem Items.items_eq (h : Items s ws t) {done : List Value} :
    items (value depth) done s = some (done.reverse ++ ws.map .text, t) := by
  induction h generalizing done with
  | close hgap => rw [items_close (hgap.skipLines_cons rfl rfl), List.map_nil, List.append_nil]
  | last hgap hchars hend =>
    rw [items_last (hgap.skipLines_cons rfl rfl) (by decide)
      (hchars.value_scan_eq (hend.head?_ne_quote (by decide))) (hend.skipLines_cons rfl rfl),
      List.reverse_cons]
    rfl
  | next hgap hchars hend _ ih =>
    rw [items_next (hgap.skipLines_cons rfl rfl) (by decide)
      (hchars.value_scan_eq (hend.head?_ne_quote (by decide))) (hend.skipLines_cons rfl rfl), ih,
      List.reverse_cons, List.append_assoc]
    rfl

/-- **A value** is read as it is written, where brackets may stand at all. -/
theorem Written.value_scan_eq (h : Written s a t) (hdepth : 0 < depth) (ht : Stops t) :
    (value depth).scan s = some (a, t) := by
  obtain ⟨inner, rfl⟩ := Nat.exists_eq_succ_of_ne_zero (Nat.ne_of_gt hdepth)
  cases h with
  | text h => exact h.value_scan_eq fun heq => (ht _ heq).2 rfl
  | integer h hn => exact h.value_scan_eq hn ht
  | list h =>
    rw [value_scan_list, h.items_eq]
    rfl

end Values

end NodeCoverage.Toml
