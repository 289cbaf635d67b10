import MessageFlow.Number.Binary64

/-!
The decimal text of a binary number: the fewest digits that read back as the same number, of
those the nearest to it, positional while the decimal exponent is from -4 to 15.
-/

namespace MessageFlow
namespace Binary64

/-- The decimal exponent of the leading digit of `num / den`. -/
def leadingExponent (num den : Nat) : Int :=
  let estimate : Int := (digitCount num : Int) - digitCount den
  if den * tenTo estimate ≤ num * tenTo (-estimate) then estimate else estimate - 1

/-- A decimal number `digits * 10 ^ exponent`. -/
structure Decimal where
  digits : Nat
  exponent : Int
  deriving DecidableEq, Repr

/-- Four times the value and its rounding bounds, as numerators over one denominator. -/
structure Rounding where
  value : Nat
  lower : Nat
  upper : Nat
  denominator : Nat
  closed : Bool
  deriving Repr

/-- The numbers that round to `significand * 2 ^ exponent`. -/
def rounding (significand : Nat) (exponent : Int) : Rounding :=
  let unit := twoTo exponent
  let below := if significand = twoTo (significandBits - 1) ∧ minExponent < exponent then 1 else 2
  { value := 4 * significand * unit
    lower := (4 * significand - below) * unit
    upper := (4 * significand + 2) * unit
    denominator := 4 * twoTo (-exponent)
    closed := significand % 2 = 0 }

/-- Whether the decimal lies among the numbers that round to the value. -/
def Rounding.contains (r : Rounding) (d : Decimal) : Bool :=
  let scaled := d.digits * tenTo d.exponent * r.denominator
  let lower := r.lower * tenTo (-d.exponent)
  let upper := r.upper * tenTo (-d.exponent)
  if r.closed then lower ≤ scaled && scaled ≤ upper else lower < scaled && scaled < upper

/-- The two neighbours of the value among the decimals with this many digits, the nearer first and
the even one first on a tie. -/
def Rounding.neighbours (r : Rounding) (leading : Int) (count : Nat) : List Decimal :=
  let exponent := leading - count + 1
  let n := r.value * tenTo (-exponent)
  let d := r.denominator * tenTo exponent
  let below := n / d
  let twice := 2 * (n % d)
  let down : Decimal := ⟨below, exponent⟩
  let up : Decimal := ⟨below + 1, exponent⟩
  if twice < d ∨ (twice = d ∧ below % 2 = 0) then [down, up] else [up, down]

/-- The first hit on the grids of 1, 2, … 17 digits. -/
def shortest (significand : Nat) (exponent : Int) : Decimal :=
  let r := rounding significand exponent
  let leading := leadingExponent r.value r.denominator
  let candidates := (List.range 17).flatMap fun i => r.neighbours leading (i + 1)
  (candidates.find? r.contains).getD ⟨0, 0⟩

def dropTrailingZeros (digits : List Char) : List Char :=
  (digits.reverse.dropWhile (· == '0')).reverse

def twoDigits (n : Nat) : List Char :=
  if n < 10 then '0' :: Nat.toDigits 10 n else Nat.toDigits 10 n

/-- The text of the digits with the first one at the decimal exponent `leading`. -/
def layout (digits : List Char) (leading : Int) : List Char :=
  if -4 ≤ leading ∧ leading < 0 then
    "0.".toList ++ List.replicate (-leading - 1).toNat '0' ++ digits
  else if 0 ≤ leading ∧ leading < 16 then
    let whole := leading.toNat + 1
    let padded := digits ++ List.replicate (whole - digits.length) '0'
    let fraction := padded.drop whole
    padded.take whole ++ '.' :: (if fraction.isEmpty then ['0'] else fraction)
  else
    let mantissa := match digits with
      | [] => ['0']
      | [d] => [d]
      | d :: rest => d :: '.' :: rest
    mantissa ++ 'e' :: (if leading < 0 then '-' else '+') :: twoDigits leading.natAbs

/-- The shortest text that reads back as the number. -/
def render : Binary64 → String
  | .finite negative significand exponent =>
    let body :=
      if significand = 0 then "0.0".toList
      else
        let d := shortest significand exponent
        let digits := Nat.toDigits 10 d.digits
        layout (dropTrailingZeros digits) (d.exponent + digits.length - 1)
    String.ofList (if negative then '-' :: body else body)
  | .infinite negative => if negative then "-inf" else "inf"
  | .nan => "nan"

end Binary64
end MessageFlow
