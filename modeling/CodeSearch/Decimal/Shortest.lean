import CodeSearch.Decimal.Double

/-!
# Shortest decimals

The fewest decimal digits that read back as a number. Among those with the fewest digits the one nearest
to the number is taken.
-/

namespace CodeSearch.Double

structure Decimal where
  digits : Nat
  exponent : Int
  deriving DecidableEq, Repr

def scaled (num den : Nat) (exponent : Int) : Nat × Nat :=
  if 0 ≤ exponent then (num, den * Nat.pow 10 exponent.toNat)
  else (num * Nat.pow 10 (-exponent).toNat, den)

/-- The position of the first decimal digit: the greatest `e` with `10 ^ e ≤ num / den`. -/
def leadingExponent (num den : Nat) : Int :=
  let guess : Int := ((num.log2 : Int) - den.log2) * 30103 / 100000
  let atMost (e : Int) : Bool :=
    let (n, d) := scaled num den e
    d ≤ n
  if atMost (guess + 1) then guess + 1 else if atMost guess then guess else guess - 1

def readsBack (bits : Nat) (d : Decimal) : Bool := ofDecimal d.digits d.exponent = bits

/-- The decimals next to the value in units of `10 ^ exponent`, the nearer first. -/
def neighbours (num den : Nat) (exponent : Int) : List Decimal :=
  let (n, d) := scaled num den exponent
  let below := n / d
  let above : Decimal := ⟨below + 1, exponent⟩
  if 2 * (n % d) ≤ d then [⟨below, exponent⟩, above] else [above, ⟨below, exponent⟩]

/-- The shortest decimal of a positive finite number. Seventeen digits always suffice. -/
def shortest (bits : Nat) : Decimal :=
  let (num, den) := ratio bits
  let lead := leadingExponent num den
  let found := (List.range 17).findSome? fun (k : Nat) =>
    (neighbours num den (lead - k)).find? (readsBack bits)
  found.getD ⟨0, 0⟩

def Decimal.normal (fuel : Nat) (d : Decimal) : Decimal :=
  match fuel with
  | 0 => d
  | fuel + 1 =>
    if d.digits ≠ 0 && d.digits % 10 = 0 then Decimal.normal fuel ⟨d.digits / 10, d.exponent + 1⟩ else d

/-- Where a decimal is written with an exponent and how: positional from `least` up to below `most`,
given as powers of ten. -/
structure PlainRange where
  least : Int
  most : Int

def plainRange : PlainRange := ⟨-5, 16⟩

/-- Digits with the point after the first `point` of them, zeros filled in where there are none. -/
def positional (digits : List Char) (point : Int) : List Char :=
  if point ≤ 0 then ['0', '.'] ++ List.replicate (-point).toNat '0' ++ digits
  else
    let whole := point.toNat
    if digits.length ≤ whole then
      digits ++ List.replicate (whole - digits.length) '0' ++ ['.', '0']
    else digits.take whole ++ ['.'] ++ digits.drop whole

def scientific (digits : List Char) (exponent : Int) : List Char :=
  let mantissa := match digits with
    | [d] => [d]
    | d :: ds => d :: '.' :: ds
    | [] => []
  let sign := if exponent < 0 then '-' else '+'
  mantissa ++ ['e', sign] ++ (toString exponent.natAbs).toList

/-- The text of a finite number: shortest digits, always with a point or an exponent. -/
def text (d : Double) : String :=
  let sign := if d.negative then "-" else ""
  if d.bits = 0 then sign ++ "0.0"
  else
    let short := (shortest d.bits).normal 20
    let digits := (toString short.digits).toList
    let point : Int := short.exponent + digits.length
    let body :=
      if plainRange.least < point && point ≤ plainRange.most then positional digits point
      else scientific digits (point - 1)
    sign ++ String.ofList body

end CodeSearch.Double
