import HwcSession.Basic

/-!
# The `float` arithmetic of the refresh rate

`updateRefreshRateHintInternal` derives its rate as
`static_cast<int>(round(nsecsPerSec / vsyncPeriod * 0.1f) * 10)`, where `nsecsPerSec` is a
`constexpr float` and `vsyncPeriod` a `uint32_t`. Each conversion to `float` and each `float`
operation gives the exact result rounded to 24 significant bits, ties to even; `round`
rounds halves away from zero, and the cast to `int` drops the fraction.

A nonnegative binary32 value is kept as `mant * 2 ^ exp`. `round32 n d e` is the binary32
value nearest `n / d * 2 ^ e`: the bit lengths of `n` and `d` give the power of two that
scales `n / d` into `[2 ^ 23, 2 ^ 24)`, and the scaled quotient is rounded to an integer.
Every operand here lies far inside the normal range, so subnormals, infinities and the
sign are not part of the model.

## Main results

* `bitLength_spec`: `bitLength b n` is the number of binary digits of `0 < n < 2 ^ b`.
* `roundHalfEven_near`: the rounding of every operation is within half a unit.
* `Binary32.roundHalfAway_near`: so is `round`, on every value it is given.
-/

namespace HwcSession.PowerHint

/-- A binary32 value `mant * 2 ^ exp`. -/
structure Binary32 where
  mant : Nat
  exp : Int
  deriving DecidableEq, Repr

/-- The number of binary digits of `n`, for `n < 2 ^ b`. -/
def bitLength : Nat → Nat → Nat
  | 0, _ => 0
  | b + 1, n => if 2 ^ b ≤ n then b + 1 else bitLength b n

/-- `n / d` rounded to an integer, ties to even. -/
def roundHalfEven (n d : Nat) : Nat :=
  if 2 * (n % d) < d then n / d
  else if d < 2 * (n % d) then n / d + 1
  else n / d + n / d % 2

/-- The binary32 value nearest `n / d * 2 ^ e`, for `0 < n` and `0 < d` below `2 ^ 64`.
Scaled by `2 ^ s`, `n / d` lies in `(2 ^ 23, 2 ^ 25)`; one more halving brings it under
`2 ^ 24` when it is not there already. -/
def round32 (n d : Nat) (e : Int) : Binary32 :=
  let s : Int := 24 + (bitLength 64 d : Int) - bitLength 64 n
  let n' := if 0 ≤ s then n * 2 ^ s.toNat else n
  let d' := if 0 ≤ s then d else d * 2 ^ (-s).toNat
  if 2 ^ 24 * d' ≤ n' then ⟨roundHalfEven n' (2 * d'), e - (s - 1)⟩
  else ⟨roundHalfEven n' d', e - s⟩

namespace Binary32

/-- The conversion of an integer to `float`. -/
def ofNat (n : Nat) : Binary32 := round32 n 1 0

/-- `a / b` in `float`, for `b ≠ 0`. -/
def div (a b : Binary32) : Binary32 := round32 a.mant b.mant (a.exp - b.exp)

/-- `a * b` in `float`. -/
def mul (a b : Binary32) : Binary32 := round32 (a.mant * b.mant) 1 (a.exp + b.exp)

/-- `round(a)`: the nearest integer, halves away from zero. -/
def roundHalfAway (a : Binary32) : Nat :=
  if 0 ≤ a.exp then a.mant * 2 ^ a.exp.toNat
  else (2 * a.mant + 2 ^ (-a.exp).toNat) / 2 ^ ((-a.exp).toNat + 1)

/-- `static_cast<int>(a)`: the integer part. -/
def trunc (a : Binary32) : Nat :=
  if 0 ≤ a.exp then a.mant * 2 ^ a.exp.toNat else a.mant / 2 ^ (-a.exp).toNat

end Binary32

/-- `nsecsPerSec`, one second in nanoseconds as a `constexpr float`. -/
def nsecsPerSec : Binary32 := .ofNat 1000000000

/-- The `float` literal `0.1f`. -/
def tenth : Binary32 := round32 1 10 0

/-- `0.1f` is `13421773 * 2 ^ -27`, a little above a tenth. -/
example : tenth = ⟨13421773, -27⟩ := by decide

/-! ## The roundings are to the nearest -/

theorem bitLength_spec {n : Nat} (hn : 0 < n) :
    ∀ {b : Nat}, n < 2 ^ b → 2 ^ bitLength b n ≤ 2 * n ∧ n < 2 ^ bitLength b n
  | 0, h => absurd (Nat.pow_zero 2 ▸ h) (by omega)
  | b + 1, h => by
    unfold bitLength
    split_ifs with hb
    · exact ⟨by rw [Nat.pow_succ]; omega, h⟩
    · exact bitLength_spec hn (Nat.not_le.1 hb)

/-- `roundHalfEven n d` is within half a unit of `n / d`. -/
theorem roundHalfEven_near (n : Nat) {d : Nat} (hd : 0 < d) :
    d * (2 * roundHalfEven n d) ≤ 2 * n + d ∧ 2 * n ≤ d * (2 * roundHalfEven n d) + d := by
  have hdm := Nat.div_add_mod n d
  have hlt := Nat.mod_lt n hd
  unfold roundHalfEven
  rcases Nat.mod_two_eq_zero_or_one (n / d) with h | h <;> split_ifs <;>
    simp only [h, Nat.mul_add, Nat.mul_left_comm d 2, Nat.mul_one, Nat.add_zero] <;> omega

/-- `round` is within half a unit of `mant * 2 ^ exp`, rounding a half up. -/
theorem roundHalfAway_near {a : Binary32} (ha : a.exp < 0) :
    2 ^ (-a.exp).toNat * (2 * a.roundHalfAway) ≤ 2 * a.mant + 2 ^ (-a.exp).toNat ∧
      2 * a.mant + 2 ^ (-a.exp).toNat < 2 ^ (-a.exp).toNat * (2 * a.roundHalfAway) +
        2 * 2 ^ (-a.exp).toNat := by
  rw [Binary32.roundHalfAway, if_neg (not_le.2 ha), Nat.pow_succ]
  have hk : 0 < 2 ^ (-a.exp).toNat := by positivity
  generalize 2 ^ (-a.exp).toNat = k at *
  have hdm := Nat.div_add_mod (2 * a.mant + k) (k * 2)
  have hlt := Nat.mod_lt (2 * a.mant + k) (by omega : 0 < k * 2)
  rw [Nat.mul_assoc, Nat.mul_left_comm] at hdm
  rw [Nat.mul_left_comm]
  constructor <;> omega

end HwcSession.PowerHint
