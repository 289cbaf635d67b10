/-!
Binary floating-point numbers of 64 bits, kept as sign, significand and exponent.
Every operation computes the exact rational result and rounds it once, to the nearest number
with ties to the even significand.
-/

namespace MessageFlow

/-- A finite number is `significand * 2 ^ exponent`, with at most 53 bits and an exponent of at
least `-1074`. -/
inductive Binary64 where
  | finite (negative : Bool) (significand : Nat) (exponent : Int)
  | infinite (negative : Bool)
  | nan
  deriving DecidableEq, Repr, Inhabited

namespace Binary64

def significandBits : Nat := 53
def minExponent : Int := -1074
def maxExponent : Int := 971

def zero : Binary64 := .finite false 0 minExponent

/-- `2 ^ n`, and 1 when `n` is negative. -/
def twoTo (n : Int) : Nat := Nat.pow 2 n.toNat

/-- `10 ^ n`, and 1 when `n` is negative. -/
def tenTo (n : Int) : Nat := Nat.pow 10 n.toNat

/-- The quotient rounded to the nearest natural number, a tie to the even one. -/
def roundDiv (num den : Nat) : Nat :=
  let quotient := num / den
  let twice := 2 * (num % den)
  if den < twice ∨ (twice = den ∧ quotient % 2 = 1) then quotient + 1 else quotient

/-- The fraction `num / (den * 2 ^ exponent)` without a negative power. -/
def scaled (num den : Nat) (exponent : Int) : Nat × Nat :=
  (num * twoTo (-exponent), den * twoTo exponent)

/-- The exponent at which `num / den` has a significand of 53 bits, or the least one. -/
def fittingExponent (num den : Nat) : Int :=
  let estimate : Int := (Nat.log2 num : Int) - Nat.log2 den - (significandBits - 1 : Nat)
  let (n, d) := scaled num den estimate
  let exact := if n < d * twoTo (significandBits - 1) then estimate - 1 else estimate
  max exact minExponent

/-- The number nearest to `num / den`. -/
def ofRatio (negative : Bool) (num den : Nat) : Binary64 :=
  if num = 0 then .finite negative 0 minExponent
  else
    let exponent := fittingExponent num den
    let (n, d) := scaled num den exponent
    let rounded := roundDiv n d
    let (significand, exponent) :=
      if rounded = twoTo significandBits then (twoTo (significandBits - 1), exponent + 1)
      else (rounded, exponent)
    if maxExponent < exponent then .infinite negative
    else if significand = 0 then .finite negative 0 minExponent
    else .finite negative significand exponent

def digitCount (n : Nat) : Nat := (Nat.toDigits 10 n).length

/-- The number nearest to `digits * 10 ^ exponent`; far exponents are decided without computing the
power. -/
def ofDecimal (negative : Bool) (digits : Nat) (exponent : Int) : Binary64 :=
  let magnitude : Int := exponent + digitCount digits
  if digits = 0 ∨ magnitude < -330 then .finite negative 0 minExponent
  else if 310 < magnitude then .infinite negative
  else ofRatio negative (digits * tenTo exponent) (tenTo (-exponent))

def ofInt (n : Int) : Binary64 := ofRatio (n < 0) n.natAbs 1

/-- The absolute value of a finite number as a fraction. -/
def ratio (significand : Nat) (exponent : Int) : Nat × Nat :=
  (significand * twoTo exponent, twoTo (-exponent))

def signed (negative : Bool) (n : Nat) : Int := if negative then -(n : Int) else n

/-- The product with a positive integer. -/
def scale : Binary64 → Nat → Binary64
  | .finite negative significand exponent, factor =>
    let (n, d) := ratio significand exponent
    ofRatio negative (n * factor) d
  | .infinite negative, _ => .infinite negative
  | .nan, _ => .nan

/-- A finite number as a multiple of `2 ^ minExponent`. -/
def units (negative : Bool) (significand : Nat) (exponent : Int) : Int :=
  signed negative (significand * twoTo (exponent - minExponent))

def ofUnits (n : Int) : Binary64 := ofRatio (n < 0) n.natAbs (twoTo (-minExponent))

def negate : Binary64 → Binary64
  | .finite negative significand exponent => .finite (!negative) significand exponent
  | .infinite negative => .infinite (!negative)
  | .nan => .nan

def add : Binary64 → Binary64 → Binary64
  | .finite n₁ s₁ e₁, .finite n₂ s₂ e₂ => ofUnits (units n₁ s₁ e₁ + units n₂ s₂ e₂)
  | .infinite n₁, .infinite n₂ => if n₁ = n₂ then .infinite n₁ else .nan
  | .infinite n, .finite .. => .infinite n
  | .finite .., .infinite n => .infinite n
  | .nan, _ => .nan
  | _, .nan => .nan

def sub (x y : Binary64) : Binary64 := add x (negate y)

/-- The comparison of two numbers, none when one of them is not a number. -/
def compare? : Binary64 → Binary64 → Option Ordering
  | .finite n₁ s₁ e₁, .finite n₂ s₂ e₂ => some (compare (units n₁ s₁ e₁) (units n₂ s₂ e₂))
  | .infinite n₁, .infinite n₂ => some (compare n₂ n₁)
  | .infinite n, .finite .. => some (if n then .lt else .gt)
  | .finite .., .infinite n => some (if n then .gt else .lt)
  | .nan, _ => none
  | _, .nan => none

def isZero : Binary64 → Bool
  | .finite _ significand _ => significand == 0
  | _ => false

def isPositive (x : Binary64) : Bool := compare? x zero == some .gt

/-- The integer part, rounding toward zero. -/
def truncate : Binary64 → Option Int
  | .finite negative significand exponent =>
    let (n, d) := ratio significand exponent
    some (signed negative (n / d))
  | _ => none

/-- The nearest integer, a tie away from zero. -/
def roundAway : Binary64 → Option Int
  | .finite negative significand exponent =>
    let (n, d) := ratio significand exponent
    some (signed negative ((2 * n + d) / (2 * d)))
  | _ => none

def isFinite : Binary64 → Bool
  | .finite .. => true
  | _ => false

/-- Minus infinity and the numbers below zero, and minus zero. -/
def isNegative : Binary64 → Bool
  | .finite negative .. | .infinite negative => negative
  | .nan => false

/-- The value when it is an integer. -/
def toInt? : Binary64 → Option Int
  | .finite negative significand exponent =>
    let (n, d) := ratio significand exponent
    if n % d = 0 then some (signed negative (n / d)) else none
  | _ => none

end Binary64
end MessageFlow
