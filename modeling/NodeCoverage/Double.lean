/-!
# The range of doubles

When a number written in decimal is too large for a double, in exact arithmetic on naturals. No
double is ever computed here: what counts is where rounding would end.
-/

namespace NodeCoverage.Double

/-- The multiple of a power of two nearest to `n` among those with 53 significant bits, a tie going
to the even one. This is the double nearest to `n`, with no bound on its exponent. -/
def round (n : Nat) : Nat :=
  let unit := Nat.pow 2 (n.log2 + 1 - 53)
  let quotient := n / unit
  let twice := 2 * (n % unit)
  if twice < unit then quotient * unit
  else if unit < twice then (quotient + 1) * unit
  else (quotient + quotient % 2) * unit

/-- From here on a number rounds to an infinite double. -/
def limit : Nat :=
  (Nat.pow 2 54 - 1) * Nat.pow 2 970

/-- Whether `m * 10 ^ e` rounds to an infinite double. A power of ten that is plainly too small or
too large is not computed. -/
def exceeds (m : Nat) (e : Int) : Bool :=
  m != 0 &&
    match e with
    | .ofNat k => 308 < k || limit ≤ m * Nat.pow 10 k
    | .negSucc k => 3 * (k + 1) ≤ m.log2 && limit * Nat.pow 10 (k + 1) ≤ m

/-- Whether the product of the doubles nearest to `m` and to `10 ^ e` is infinite. Powers of ten
above `10 ^ 308` are infinite by themselves, and those below one are no danger. -/
def productOverflows (m : Nat) (e : Int) : Bool :=
  m != 0 && (308 < e || 0 ≤ e && limit ≤ round m * round (Nat.pow 10 e.toNat))

end NodeCoverage.Double
