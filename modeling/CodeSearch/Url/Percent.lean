import CodeSearch.Text.Digits
import CodeSearch.Text.Utf8

/-!
# Percent-encoding

Bytes written as a percent sign and two hexadecimal digits. Decoding leaves a percent sign without two
digits after it as it is.
-/

namespace CodeSearch.Percent

def digit? (b : UInt8) : Option Nat :=
  if b < 0x80 then Text.hexValue? (Char.ofNat b.toNat) else none

def upperDigit (n : Nat) : UInt8 := (Text.upperHexDigit n).toNat.toUInt8

def encodeByte (b : UInt8) : Bytes := [0x25, upperDigit (b.toNat / 16), upperDigit (b.toNat % 16)]

/-- Encodes the bytes in a set; all bytes of non-ASCII characters are encoded. -/
def encodeBytes (inSet : UInt8 → Bool) (bs : Bytes) : Bytes :=
  bs.flatMap fun b => if 0x80 ≤ b || inSet b then encodeByte b else [b]

def asciiText (bs : Bytes) : String := String.ofList (bs.map fun b => Char.ofNat b.toNat)

def encode (inSet : UInt8 → Bool) (s : String) : String :=
  asciiText (encodeBytes inSet (Utf8.encode s))

/-- Decodes every complete escape. -/
def decode : Bytes → Bytes
  | 0x25 :: a :: b :: rest =>
    match digit? a, digit? b with
    | some x, some y => (x * 16 + y).toUInt8 :: decode rest
    | _, _ => 0x25 :: decode (a :: b :: rest)
  | b :: rest => b :: decode rest
  | [] => []

end CodeSearch.Percent
