/-!
# Rounding to a binary precision

Fractions of seconds are computed with 53 significant binary digits, each operation rounded to
the nearest such number and a tie to the one whose last digit is even.  The numbers here are
exact fractions, and rounding is a function on them.
-/

set_option autoImplicit false

namespace LintRun

/-- The integer nearest to `n / d`; of two that are equally near, the even one. -/
def roundQuotient (n d : Nat) : Nat :=
  let q := n / d
  let r := n % d
  if 2 * r < d then q
  else if d < 2 * r then q + 1
  else if q % 2 = 0 then q
  else q + 1

/-- A fraction that is not negative. -/
structure Fraction where
  num : Nat
  den : Nat := 1
  den_pos : 0 < den := by decide

namespace Fraction

/-- A fraction multiplied by an integer. -/
def mul (x : Fraction) (n : Nat) : Fraction :=
  { x with num := x.num * n }

/-- A fraction divided by a positive integer. -/
def div (x : Fraction) (n : Nat) (h : 0 < n) : Fraction :=
  ⟨x.num, x.den * n, Nat.mul_pos x.den_pos h⟩

/-- The fraction times a power of two. -/
def scale (x : Fraction) (e : Int) : Fraction :=
  if 0 ≤ e then
    { x with num := x.num <<< e.toNat }
  else
    ⟨x.num, x.den <<< (-e).toNat, Nat.shiftLeft_pos_iff.mpr x.den_pos⟩

/-- The nearest integer, of two equally near ones the even one. -/
def nearest (x : Fraction) : Nat :=
  roundQuotient x.num x.den

/-- The power of two by which a positive fraction is divided so that its integer part has
exactly `digits` binary digits. -/
def exponent (digits : Nat) (x : Fraction) : Int :=
  let e : Int := (x.num.log2 : Int) - x.den.log2 - digits
  let y := x.scale (-(e + 1))
  if y.num < y.den <<< (digits - 1) then e else e + 1

/-- The nearest number with at most `digits` significant binary digits, of two equally near
ones the one whose last digit is even. -/
def round (digits : Nat) (x : Fraction) : Fraction :=
  if x.num = 0 then x
  else
    let e := x.exponent digits
    (Fraction.mk (x.scale (-e)).nearest 1 (by decide)).scale e

end Fraction

end LintRun
