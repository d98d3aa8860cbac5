import CodeSearch.Decimal.Double

/-!
# Durations for reading

Milliseconds as text: whole ones below a second, seconds with two decimals below a minute, else minutes and
seconds with one decimal. Decimals are those of the binary64 number of seconds.
-/

namespace CodeSearch.Cli

/-- The value of a pattern in units of `10 ^ -places`, rounded half to even. -/
def decimals (places bits : Nat) : Nat :=
  let (num, den) := Double.ratio bits
  Double.roundHalfEven (num * Nat.pow 10 places) den

def pointed (places n : Nat) : String :=
  let fraction := toString (n % Nat.pow 10 places)
  toString (n / Nat.pow 10 places) ++ "." ++
    String.ofList (List.replicate (places - fraction.length) '0') ++ fraction

/-- The difference of two numbers, rounded, and whether it is below zero. -/
def subtract (a b : Nat) : Bool × Nat :=
  let (an, den) := Double.ratio a
  let (bn, _) := Double.ratio b
  if bn ≤ an then (false, Double.ofRatio (an - bn) den) else (true, Double.ofRatio (bn - an) den)

def formatDuration (ms : Nat) : String :=
  let secs := Double.div (Double.ofNat ms) (Double.ofNat 1000)
  if Double.ofNat 60 ≤ secs then
    let quotient := Double.div secs (Double.ofNat 60)
    let (num, den) := Double.ratio quotient
    let mins := num / den
    -- The quotient may have been rounded up to a whole number of minutes.
    let (below, rest) := subtract secs (Double.mul (Double.ofNat mins) (Double.ofNat 60))
    toString mins ++ "m " ++ (if below then "-" else "") ++ pointed 1 (decimals 1 rest) ++ "s"
  else if Double.ofNat 1 ≤ secs then pointed 2 (decimals 2 secs) ++ "s"
  else toString ms ++ "ms"

end CodeSearch.Cli
