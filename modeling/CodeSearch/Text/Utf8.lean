/-!
# UTF-8

Byte strings and their reading as text. A well-formed byte string decodes to its characters. In the
lossy reading every longest stretch that begins a character and cannot be finished, and every byte
that begins none, becomes one replacement character.
-/

namespace CodeSearch

abbrev Bytes := List UInt8

namespace Utf8

/-- What has been read of the character under way: its bits so far, how many bytes are still due,
and the bounds of the next one. -/
inductive Pending where
  | fresh
  | within (bits due : Nat) (low high : UInt8)
  deriving DecidableEq, Repr

/-- A decoder holds the units read so far, newest first; `none` stands for an ill-formed stretch. -/
structure Decoder where
  pending : Pending
  units : List (Option Char)

/-- Reads a byte at which a character begins. The bounds of the second byte keep out overlong forms,
surrogates and values above U+10FFFF. -/
def Decoder.lead (units : List (Option Char)) (b : UInt8) : Decoder :=
  if b < 0x80 then ⟨.fresh, some (Char.ofNat b.toNat) :: units⟩
  else if b < 0xC2 then ⟨.fresh, none :: units⟩
  else if b < 0xE0 then ⟨.within (b.toNat - 0xC0) 1 0x80 0xBF, units⟩
  else if b = 0xE0 then ⟨.within 0 2 0xA0 0xBF, units⟩
  else if b = 0xED then ⟨.within 0xD 2 0x80 0x9F, units⟩
  else if b < 0xF0 then ⟨.within (b.toNat - 0xE0) 2 0x80 0xBF, units⟩
  else if b = 0xF0 then ⟨.within 0 3 0x90 0xBF, units⟩
  else if b < 0xF4 then ⟨.within (b.toNat - 0xF0) 3 0x80 0xBF, units⟩
  else if b = 0xF4 then ⟨.within 4 3 0x80 0x8F, units⟩
  else ⟨.fresh, none :: units⟩

def Decoder.step (d : Decoder) (b : UInt8) : Decoder :=
  match d.pending with
  | .fresh => Decoder.lead d.units b
  | .within bits due low high =>
    if low ≤ b ∧ b ≤ high then
      let bits := bits * 64 + (b.toNat - 0x80)
      if due ≤ 1 then ⟨.fresh, some (Char.ofNat bits) :: d.units⟩
      else ⟨.within bits (due - 1) 0x80 0xBF, d.units⟩
    else Decoder.lead (none :: d.units) b

/-- The units in order; a character cut off by the end is an ill-formed stretch. -/
def Decoder.finish (d : Decoder) : List (Option Char) :=
  match d.pending with
  | .fresh => d.units.reverse
  | .within .. => (none :: d.units).reverse

def units (bs : Bytes) : List (Option Char) :=
  (bs.foldl Decoder.step ⟨.fresh, []⟩).finish

def replacement : Char := '\uFFFD'

/-- The characters of a byte string, with U+FFFD for each ill-formed stretch. -/
def lossyChars (bs : Bytes) : List Char :=
  (units bs).map (·.getD replacement)

def decodeLossy (bs : Bytes) : String := String.ofList (lossyChars bs)

def chars? (bs : Bytes) : Option (List Char) :=
  let us := units bs
  if us.all Option.isSome then some (us.filterMap id) else none

def decode? (bs : Bytes) : Option String := (chars? bs).map String.ofList

def encodeChars (cs : List Char) : Bytes := cs.flatMap String.utf8EncodeChar

def encode (s : String) : Bytes := encodeChars s.toList

end Utf8

end CodeSearch
