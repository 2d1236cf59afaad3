import Mathlib.Algebra.Group.Nat.Defs
import NodeCoverage.Double
import NodeCoverage.Proofs.Scanning

/-!
# Where long integers overflow

An integer that fits no word is valued as a double: the product of its leading digits and a power
of ten, each rounded by itself. Digits are read as long as they fit into a word, so that the product
is close to the integer but need not be on the same side of the largest double.

Results:
* **`Double.round_mono`**: rounding keeps the order, so that the ends of a range tell what
  happens in between;
* `Numeral.leads`: the digits that are read lead the number, and the rest of them is counted;
* **`Leads.productOverflows_iff`**: the product is infinite exactly from `Double.decimalLimit` on.
-/

namespace NodeCoverage

/-! ## Rounding keeps the order -/

namespace Double

/-- The unit that a number is rounded to. -/
def unit (n : Nat) : Nat :=
  2 ^ (n.log2 + 1 - 53)

theorem unit_pos (n : Nat) : 0 < unit n :=
  Nat.two_pow_pos _

/-- The digits that are kept of a number with quotient `q` and rest `r`. -/
def nearest (unit q r : Nat) : Nat :=
  if 2 * r < unit then q else if unit < 2 * r then q + 1 else q + q % 2

theorem round_eq (n : Nat) : round n = nearest (unit n) (n / unit n) (n % unit n) * unit n := by
  unfold nearest
  rw [ite_mul, ite_mul]
  rfl

theorem le_nearest (u q r : Nat) : q ≤ nearest u q r := by
  grind [nearest]

theorem nearest_le (u q r : Nat) : nearest u q r ≤ q + 1 := by
  grind [nearest]

/-- The larger the rest, the more is kept. -/
theorem nearest_mono {u q r r' : Nat} (h : r ≤ r') : nearest u q r ≤ nearest u q r' := by
  grind [nearest]

/-- A number is rounded to a power of two at most, if it is below it. -/
theorem round_le_two_pow (n : Nat) : round n ≤ 2 ^ (n.log2 + 1) := by
  have hdvd : unit n ∣ 2 ^ (n.log2 + 1) := Nat.pow_dvd_pow 2 (Nat.sub_le _ _)
  obtain ⟨k, hk⟩ := hdvd
  have hlt : n / unit n < k := by
    rw [Nat.div_lt_iff_lt_mul (unit_pos n), Nat.mul_comm, ← hk]
    exact Nat.lt_log2_self
  rw [round_eq, hk, Nat.mul_comm (unit n)]
  exact Nat.mul_le_mul_right _ (Nat.le_trans (nearest_le _ _ _) hlt)

/-- A number is rounded to a power of two at least, if it has reached it. -/
theorem two_pow_le_round {n : Nat} (hn : n ≠ 0) : 2 ^ n.log2 ≤ round n := by
  have hdvd : unit n ∣ 2 ^ n.log2 := Nat.pow_dvd_pow 2 (by omega)
  obtain ⟨k, hk⟩ := hdvd
  have hle : k ≤ n / unit n := by
    rw [Nat.le_div_iff_mul_le (unit_pos n), Nat.mul_comm, ← hk]
    exact Nat.log2_self_le hn
  rw [round_eq, hk, Nat.mul_comm (unit n)]
  exact Nat.mul_le_mul_right _ (Nat.le_trans hle (le_nearest _ _ _))

theorem log2_mono {m n : Nat} (h : m ≤ n) : m.log2 ≤ n.log2 := by
  obtain rfl | hm := Nat.eq_zero_or_pos m
  · exact Nat.zero_le _
  · exact (Nat.le_log2 (by omega)).mpr (Nat.le_trans (Nat.log2_self_le (by omega)) h)

/-- **Rounding keeps the order.** -/
theorem round_mono {m n : Nat} (h : m ≤ n) : round m ≤ round n := by
  obtain heq | hlt := Nat.eq_or_lt_of_le (log2_mono h)
  · -- the same unit: the quotients decide, and then the rests
    have hunit : unit m = unit n := by rw [unit, unit, heq]
    rw [round_eq, round_eq, hunit]
    refine Nat.mul_le_mul_right _ ?_
    obtain hq | hq := Nat.eq_or_lt_of_le (Nat.div_le_div_right h : m / unit n ≤ n / unit n)
    · have hrest : m % unit n ≤ n % unit n := by
        have hm := Nat.div_add_mod m (unit n)
        have hn := Nat.div_add_mod n (unit n)
        rw [hq] at hm
        omega
      rw [hq]
      exact nearest_mono hrest
    · exact Nat.le_trans (nearest_le _ _ _) (Nat.le_trans hq (le_nearest _ _ _))
  · -- a power of two lies between them
    have hn : n ≠ 0 := by
      rintro rfl
      exact Nat.not_lt_zero _ hlt
    calc round m ≤ 2 ^ (m.log2 + 1) := round_le_two_pow m
      _ ≤ 2 ^ n.log2 := Nat.pow_le_pow_right Nat.two_pos hlt
      _ ≤ round n := two_pow_le_round hn

/-- The least integer that is valued as infinite. It is a little below the largest double. -/
def decimalLimit : Nat :=
  17976931348623156225 * 10 ^ 289

theorem productOverflows_natCast (m k : Nat) : productOverflows m (k : Int) = true ↔
    m ≠ 0 ∧ (308 < k ∨ limit ≤ round m * round (10 ^ k)) := by
  have hcast : (308 : Int) < k ↔ 308 < k := by omega
  simp [productOverflows, hcast]

theorem round_mul_mono {m n j k : Nat} (h : m ≤ n) (hk : j ≤ k) :
    round m * round (10 ^ j) ≤ round n * round (10 ^ k) :=
  Nat.mul_le_mul (round_mono h) (round_mono (Nat.pow_le_pow_right (by decide) hk))

end Double

namespace Json

/-! ## The leading digits of a number -/

section Leading

variable {n m bound lead k : Nat} {s t : List UInt8}

theorem digitValue_le {d : UInt8} (h : isDigit d = true) : digitValue d ≤ 9 := by
  have hle : d.toNat ≤ 0x39 := by
    simp only [isDigit, Bool.and_eq_true, decide_eq_true_eq] at h
    exact h.2
  unfold digitValue
  omega

/-- Further digits refine a number, and do not reach the next one. -/
theorem Digits.bounds (h : Digits n s m t) (ht : NoDigit t) :
    n * 10 ^ (s.takeWhile isDigit).length ≤ m ∧
      m < (n + 1) * 10 ^ (s.takeWhile isDigit).length := by
  induction h with
  | nil =>
    rw [ht.takeWhile_eq]
    exact ⟨Nat.le_of_eq (Nat.mul_one _), by rw [List.length_nil]; omega⟩
  | @cons n m d s t hd _ ih =>
    obtain ⟨hle, hlt⟩ := ih ht
    have hdigit := digitValue_le hd
    rw [List.takeWhile_cons_of_pos hd, List.length_cons, Nat.pow_succ', ← Nat.mul_assoc,
      ← Nat.mul_assoc]
    exact ⟨Nat.le_trans (Nat.mul_le_mul_right _ (by omega)) hle,
      Nat.lt_of_lt_of_le hlt (Nat.mul_le_mul_right _ (by omega))⟩

/-- The number `m` starts with the digits of `lead`, after which `k` more are left. The next digit
could make it reach the bound. -/
structure Leads (bound m lead k : Nat) : Prop where
  lead_lt : lead < bound
  le_number : lead * 10 ^ k ≤ m
  number_lt : m < (lead + 1) * 10 ^ k
  bound_le : 0 < k → bound ≤ 10 * lead + 9

theorem Leads.mul_le_iff (h : Leads bound m lead k) : n * 10 ^ k ≤ m ↔ n ≤ lead := by
  constructor
  · intro hm
    exact Nat.le_of_lt_succ (Nat.lt_of_mul_lt_mul_right (Nat.lt_of_le_of_lt hm h.number_lt))
  · exact fun hn => Nat.le_trans (Nat.mul_le_mul_right _ hn) h.le_number

/-- **What is accumulated** leads the number, and what is left over counts its other digits. -/
theorem Digits.leads (h : Digits n s m t) (ht : NoDigit t) (hn : n < bound) :
    Leads bound m (accumulate bound n (s.takeWhile isDigit)).1
      (accumulate bound n (s.takeWhile isDigit)).2.length := by
  induction h with
  | nil =>
    rw [ht.takeWhile_eq]
    exact ⟨hn, Nat.le_of_eq (Nat.mul_one _), by rw [accumulate, List.length_nil]; omega, nofun⟩
  | @cons n m d s t hd hs ih =>
    rw [List.takeWhile_cons_of_pos hd, accumulate]
    by_cases hlt : 10 * n + digitValue d < bound
    · rw [if_pos hlt]
      exact ih ht hlt
    · rw [if_neg hlt]
      obtain ⟨hle, hlt'⟩ := (Digits.cons hd hs).bounds ht
      rw [List.takeWhile_cons_of_pos hd] at hle hlt'
      have hdigit := digitValue_le hd
      exact ⟨hn, hle, hlt', fun _ => by omega⟩

open Double in
/-- **The product of the leading digits and a power of ten is infinite** exactly from
`Double.decimalLimit` on. -/
theorem Leads.productOverflows_iff (h : Leads UInt64.size m lead k) :
    productOverflows lead (k : Int) = true ↔ decimalLimit ≤ m := by
  have hlead : 0 < k → 1844674407370955161 ≤ lead := by
    intro hk
    have hfull := h.bound_le hk
    unfold UInt64.size at hfull
    omega
  rw [productOverflows_natCast]
  obtain hk | hk | hk : k ≤ 288 ∨ k = 289 ∨ 290 ≤ k := by omega
  · -- too few digits to reach the limit
    have hsmall : Double.round lead * Double.round (10 ^ k) < limit :=
      Nat.lt_of_le_of_lt (round_mul_mono (Nat.le_of_lt h.lead_lt) hk) (by decide +kernel)
    have hm : m < decimalLimit := by
      calc m < (lead + 1) * 10 ^ k := h.number_lt
        _ ≤ UInt64.size * 10 ^ 288 :=
          Nat.mul_le_mul h.lead_lt (Nat.pow_le_pow_right (by decide) hk)
        _ ≤ decimalLimit := by decide +kernel
    omega
  · -- the leading digits decide
    have hlimit : decimalLimit = 17976931348623156225 * 10 ^ k := by rw [hk, decimalLimit]
    rw [hlimit, h.mul_le_iff]
    constructor
    · rintro ⟨-, hlong | hinfinite⟩
      · omega
      · refine Nat.le_of_not_lt fun hlow => ?_
        have hround := round_mul_mono (Nat.le_of_lt_succ hlow) (Nat.le_of_eq hk)
        have hbelow : Double.round 17976931348623156224 * Double.round (10 ^ 289) < limit := by
          decide +kernel
        exact absurd (Nat.le_trans hinfinite hround) (Nat.not_le.mpr hbelow)
    · intro hlow
      have hround := round_mul_mono hlow (Nat.le_of_eq hk.symm)
      have habove : limit ≤ Double.round 17976931348623156225 * Double.round (10 ^ 289) := by
        decide +kernel
      exact ⟨by omega, .inr (Nat.le_trans habove hround)⟩
  · -- too many digits to stay below the limit
    have hlow := hlead (by omega)
    have hround := round_mul_mono hlow hk
    have habove : limit ≤ Double.round 1844674407370955161 * Double.round (10 ^ 290) := by
      decide +kernel
    have hm : decimalLimit ≤ m := by
      calc decimalLimit ≤ 1844674407370955161 * 10 ^ 290 := by decide +kernel
        _ ≤ lead * 10 ^ k := Nat.mul_le_mul hlow (Nat.pow_le_pow_right (by decide) hk)
        _ ≤ m := h.le_number
    exact iff_of_true ⟨by omega, .inr (Nat.le_trans habove hround)⟩ hm

theorem Numeral.leads (h : Numeral s n t) (ht : NoDigit t) :
    Leads UInt64.size n (accumulate UInt64.size 0 (s.takeWhile isDigit)).1
      (accumulate UInt64.size 0 (s.takeWhile isDigit)).2.length :=
  h.digits.leads ht (by decide)

end Leading

end Json

end NodeCoverage
