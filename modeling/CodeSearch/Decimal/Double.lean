/-!
# Binary64 numbers

Non-negative numbers in the 64-bit binary format, held by their bit pattern, which orders them. Rounding is
exact: `ofRatio` answers the number nearest to a quotient of naturals, the one with an even last bit of two
that are equally near. Powers of naturals are written `Nat.pow` throughout, which means the same whatever
else is imported.
-/

namespace CodeSearch

/-- A number with its sign apart. `bits` is the pattern of the absolute value. -/
structure Double where
  negative : Bool
  bits : Nat
  deriving DecidableEq, Repr, Inhabited

namespace Double

def infinityBits : Nat := 2047 * Nat.pow 2 52

/-- The significand and the binary exponent, shifted to be a natural: the value is
`significand * 2 ^ exponent / 2 ^ 1074`. -/
def parts (bits : Nat) : Nat × Nat :=
  let biased := bits / Nat.pow 2 52
  if biased = 0 then (bits, 0) else (bits % Nat.pow 2 52 + Nat.pow 2 52, biased - 1)

def ratio (bits : Nat) : Nat × Nat :=
  let (significand, exponent) := parts bits
  (significand * Nat.pow 2 exponent, Nat.pow 2 1074)

/-- The natural nearest to a quotient, the even one of two equally near. -/
def roundHalfEven (num den : Nat) : Nat :=
  let q := num / den
  let r := num % den
  if 2 * r < den then q else if den < 2 * r then q + 1 else if q % 2 = 0 then q else q + 1

/-- The exponent at which a quotient, in units of `2 ^ -1074`, has 53 bits; 0 for small ones. -/
def unitExponent (num den : Nat) : Nat :=
  let guess := num.log2 + 1074 - den.log2 - 52
  if guess = 0 then 0
  else if num * Nat.pow 2 1074 < den * Nat.pow 2 (guess + 52) then guess - 1
  else guess

/-- The pattern of the number nearest to `num / den`, infinity if that is too large. -/
def ofRatio (num den : Nat) : Nat :=
  if num = 0 || den = 0 then 0
  else
    let exponent := unitExponent num den
    let significand := roundHalfEven (num * Nat.pow 2 1074) (den * Nat.pow 2 exponent)
    min infinityBits (exponent * Nat.pow 2 52 + significand)

def ofNat (n : Nat) : Nat := ofRatio n 1

def mul (a b : Nat) : Nat :=
  let (an, ad) := ratio a
  let (bn, bd) := ratio b
  ofRatio (an * bn) (ad * bd)

def div (a b : Nat) : Nat :=
  let (an, ad) := ratio a
  let (bn, bd) := ratio b
  ofRatio (an * bd) (ad * bn)

def tenTo (n : Nat) : Nat := ofRatio (Nat.pow 10 n) 1

/-- The number nearest to `digits * 10 ^ exponent`. Exponents far out of range answer zero or infinity
without a large power. -/
def ofDecimal (digits : Nat) (exponent : Int) : Nat :=
  if digits = 0 then 0
  else if 400 < exponent then infinityBits
  else if exponent + digits.log2 < -1200 then 0
  else if 0 ≤ exponent then ofRatio (digits * Nat.pow 10 exponent.toNat) 1
  else ofRatio digits (Nat.pow 10 (-exponent).toNat)

end Double

end CodeSearch
