/-!
# Double precision numbers

A double is a sign, a significand below `2 ^ 53` and a power of two, or an infinity, or no number
at all. Everything is computed exactly on natural numbers: `Binary64.ofRatio` is the double nearest
to a quotient, of two equally near ones the one with an even significand. Reading a decimal,
multiplying and dividing are this one rounding applied to an exact quotient.
-/

namespace LanguageHost

/-- A double precision number. The finite one with these parts is `± significand * 2 ^ exponent`. -/
inductive Binary64 where
  | nan
  | infinite (negative : Bool)
  | finite (negative : Bool) (significand : Nat) (exponent : Int)
  deriving DecidableEq, Repr

namespace Binary64

/-- The exponent of the smallest positive double. -/
def leastExponent : Int := -1074

/-- The largest exponent of a double. -/
def greatestExponent : Int := 971

/-- The largest `k` with `2 ^ k ≤ num / den`, for positive numbers. -/
def magnitude (num den : Nat) : Int :=
  let guess : Int := (num.log2 : Int) - (den.log2 : Int)
  let reached : Bool :=
    if 0 ≤ guess then den * Nat.pow 2 guess.toNat ≤ num
    else den ≤ num * Nat.pow 2 (-guess).toNat
  if reached then guess else guess - 1

/-- The nearest natural number to a quotient, of two equally near ones the even one. -/
def roundHalfEven (num den : Nat) : Nat :=
  let q := num / den
  let r := num % den
  if 2 * r < den then q
  else if den < 2 * r then q + 1
  else if q % 2 = 0 then q else q + 1

/-- The double nearest to `± num / den`, where `den` is positive. -/
def ofRatio (negative : Bool) (num den : Nat) : Binary64 :=
  if num = 0 then .finite negative 0 leastExponent
  else
    let exponent := max (magnitude num den - 52) leastExponent
    let significand :=
      if 0 ≤ exponent then roundHalfEven num (den * Nat.pow 2 exponent.toNat)
      else roundHalfEven (num * Nat.pow 2 (-exponent).toNat) den
    let (significand, exponent) :=
      if significand = Nat.pow 2 53 then (Nat.pow 2 52, exponent + 1) else (significand, exponent)
    if greatestExponent < exponent then .infinite negative
    else .finite negative significand exponent

/-- The double nearest to `± digits * 10 ^ scale`. A value beyond every double, or below half of
the smallest one, is settled by its number of digits alone. -/
def ofDecimal (negative : Bool) (digits : Nat) (scale : Int) : Binary64 :=
  if digits = 0 then .finite negative 0 leastExponent
  else
    let bits : Int := digits.log2
    -- A number of b bits lies between 10 ^ (3 * b / 10) and 10 ^ (b / 3 + 1).
    if 310 < bits * 3 / 10 + scale then .infinite negative
    else if bits / 3 + 1 + scale < -330 then .finite negative 0 leastExponent
    else if 0 ≤ scale then ofRatio negative (digits * Nat.pow 10 scale.toNat) 1
    else ofRatio negative digits (Nat.pow 10 (-scale).toNat)

/-- The exact quotient that a finite double is, without its sign. -/
def toRatio (significand : Nat) (exponent : Int) : Nat × Nat :=
  if 0 ≤ exponent then (significand * Nat.pow 2 exponent.toNat, 1)
  else (significand, Nat.pow 2 (-exponent).toNat)

/-- The double nearest to a finite double multiplied by a natural number. -/
def scale (x : Binary64) (factor : Nat) : Binary64 :=
  match x with
  | .finite negative significand exponent =>
    let (num, den) := toRatio significand exponent
    ofRatio negative (num * factor) den
  | other => other

/-- The integer part of a finite double, toward zero; zero for the others. -/
def truncate : Binary64 → Int
  | .finite negative significand exponent =>
    let (num, den) := toRatio significand exponent
    if negative then -((num / den : Nat) : Int) else ((num / den : Nat) : Int)
  | _ => 0

end Binary64

end LanguageHost
