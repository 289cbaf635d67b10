import MessageFlow.Number.Binary64

/-!
Numbers as they are written: exact integers and binary numbers. Arithmetic is exact among integers
and rounds as soon as a binary number takes part; comparison is always exact.
-/

namespace MessageFlow

inductive Number where
  | int (value : Int)
  | real (value : Binary64)
  deriving DecidableEq, Repr, Inhabited

namespace Number

def toReal : Number → Binary64
  | .int value => .ofInt value
  | .real value => value

def add : Number → Number → Number
  | .int a, .int b => .int (a + b)
  | a, b => .real (a.toReal.add b.toReal)

def sub : Number → Number → Number
  | .int a, .int b => .int (a - b)
  | a, b => .real (a.toReal.sub b.toReal)

/-- The comparison of an integer with a binary number. -/
def compareInt (a : Int) : Binary64 → Option Ordering
  | .finite negative significand exponent =>
    some (compare (a * Binary64.twoTo (-Binary64.minExponent))
      (Binary64.units negative significand exponent))
  | .infinite negative => some (if negative then .gt else .lt)
  | .nan => none

def compare? : Number → Number → Option Ordering
  | .int a, .int b => some (compare a b)
  | .int a, .real b => compareInt a b
  | .real a, .int b => (compareInt b a).map Ordering.swap
  | .real a, .real b => a.compare? b

def same (a b : Number) : Bool := compare? a b == some .eq

instance : Add Number := ⟨add⟩
instance : Sub Number := ⟨sub⟩
instance : LE Number := ⟨fun a b => (compare? a b).any Ordering.isLE = true⟩
instance : DecidableLE Number := fun _ _ => inferInstanceAs (Decidable (_ = true))

/-- The number of millionths: those of the integer part, and the product of the fraction with a
million, rounded to the nearest integer with a tie to the even one. None for what is not finite. -/
def millionths? : Number → Option Int
  | .int value => some (value * 1000000)
  | .real (.finite negative significand exponent) =>
    let (n, d) := Binary64.ratio significand exponent
    match (Binary64.ofRatio false (n % d) d).scale 1000000 with
    | .finite _ significand exponent =>
      let (m, e) := Binary64.ratio significand exponent
      some (Binary64.signed negative (n / d * 1000000 + Binary64.roundDiv m e))
    | _ => none
  | .real _ => none

end Number
end MessageFlow
