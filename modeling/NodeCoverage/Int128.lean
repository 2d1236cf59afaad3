/-!
# Integers of 128 bits

The range of ids and indices on the wire. A value is an integer together with the proof that it
lies in the range, so it is read back by `val` and never wraps.
-/

namespace NodeCoverage

/-- Two to the power 127. -/
def Int128.bound : Int := 170141183460469231731687303715884105728

/-- An integer `n` with `-2 ^ 127 ≤ n < 2 ^ 127`. -/
structure Int128 where
  val : Int
  min_le : -Int128.bound ≤ val := by decide
  lt_bound : val < Int128.bound := by decide
  deriving DecidableEq, Repr

namespace Int128

instance : Inhabited Int128 := ⟨{ val := 0 }⟩

/-- The value for an integer in the range, and nothing for any other. -/
def ofInt? (n : Int) : Option Int128 :=
  if h : -bound ≤ n ∧ n < bound then some ⟨n, h.1, h.2⟩ else none

@[ext]
theorem ext {a b : Int128} (h : a.val = b.val) : a = b := by
  cases a; cases b; simp_all

theorem ofInt?_eq_some_iff {n : Int} {a : Int128} : ofInt? n = some a ↔ a.val = n := by
  unfold ofInt?
  split
  · next h =>
    constructor
    · rintro ⟨⟩; rfl
    · rintro rfl; rfl
  · next h =>
    constructor
    · simp
    · rintro rfl; exact absurd ⟨a.min_le, a.lt_bound⟩ h

@[simp]
theorem ofInt?_val (a : Int128) : ofInt? a.val = some a :=
  ofInt?_eq_some_iff.2 rfl

theorem ofInt?_eq_none_iff {n : Int} : ofInt? n = none ↔ ¬(-bound ≤ n ∧ n < bound) := by
  unfold ofInt?
  split
  · next h => exact iff_of_false (by simp) (not_not_intro h)
  · next h => exact iff_of_true rfl h

end Int128

end NodeCoverage
