/-!
# Decimal digits

Runs of ASCII digits and the numbers they denote.
-/

namespace CodeSearch.Text

def isDigit (c : Char) : Bool := '0' ≤ c && c ≤ '9'

def digitValue (c : Char) : Nat := c.toNat - 48

def natOfDigits (cs : List Char) : Nat :=
  cs.foldl (fun n c => n * 10 + digitValue c) 0

/-- Reads a non-empty run of ASCII digits, with no sign and nothing around it. -/
def decimal? (cs : List Char) : Option Nat :=
  if cs.isEmpty || !cs.all isDigit then none else some (natOfDigits cs)

def decimalOfBits? (bits : Nat) (cs : List Char) : Option Nat :=
  (decimal? cs).filter (· < Nat.pow 2 bits)

/-- A number as a word, unless it needs more than 64 bits. -/
def word? (v : Nat) : Option UInt64 := if v < UInt64.size then some (UInt64.ofNat v) else none

/-- A word with one more decimal digit at its end; the product and the sum are checked. -/
def pushDigit? (n : UInt64) (c : Char) : Option UInt64 := do
  let tens ← word? (n.toNat * 10)
  word? (tens.toNat + digitValue c)

/-- Whether a word has at most `bits` bits. Every word has at most 64, which no shift can test. -/
def fitsBits (bits n : UInt64) : Bool := 64 ≤ bits || n >>> bits == 0

/-- Reads a word of at most `bits` bits from a non-empty run of ASCII digits, digit by digit. -/
def wordOfBits? (bits : UInt64) (cs : List Char) : Option UInt64 :=
  if cs.isEmpty || !cs.all isDigit then none else (cs.foldlM pushDigit? 0).filter (fitsBits bits)

def hexValue? (c : Char) : Option Nat :=
  if isDigit c then some (digitValue c)
  else if 'a' ≤ c && c ≤ 'f' then some (c.toNat - 87)
  else if 'A' ≤ c && c ≤ 'F' then some (c.toNat - 55)
  else none

def isHexDigit (c : Char) : Bool := (hexValue? c).isSome

def lowerHexDigit (n : Nat) : Char := if n < 10 then Char.ofNat (48 + n) else Char.ofNat (87 + n)

def upperHexDigit (n : Nat) : Char := if n < 10 then Char.ofNat (48 + n) else Char.ofNat (55 + n)

def lowerHex (n : Nat) : String :=
  if n < 16 then String.singleton (lowerHexDigit n)
  else lowerHex (n / 16) ++ String.singleton (lowerHexDigit (n % 16))
  decreasing_by omega

end CodeSearch.Text
