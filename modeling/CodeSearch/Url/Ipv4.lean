import CodeSearch.Text.Digits

/-!
# IPv4 addresses in hosts

A host whose last part is a number is an address. It has one to four parts, decimal, octal after a zero or
hexadecimal after `0x`; the last part fills all bytes that are left.
-/

namespace CodeSearch.Ipv4

open Text

def part? (cs : List Char) : Option Nat :=
  let (base, digits) : Nat × List Char := match cs with
    | '0' :: 'x' :: rest | '0' :: 'X' :: rest => (16, rest)
    | '0' :: c :: rest => (8, c :: rest)
    | _ => (10, cs)
  if cs.isEmpty then none
  else if digits.all fun c => (hexValue? c).any (· < base) then
    some (digits.foldl (fun n c => n * base + (hexValue? c).getD 0) 0)
  else none

/-- The parts between dots; a last empty one does not count. -/
def partsOf (host : List Char) : List (List Char) :=
  let parts := host.splitOnP (· == '.')
  if 1 < parts.length && (parts.getLast?.any (·.isEmpty)) then parts.dropLast else parts

def endsInNumber (host : List Char) : Bool :=
  match (partsOf host).getLast? with
  | some last => (!last.isEmpty && last.all isDigit) || (part? last).isSome
  | none => false

def parse? (host : List Char) : Option Nat := do
  let numbers ← (partsOf host).mapM part?
  if 4 < numbers.length then none
  let last ← numbers.getLast?
  let front := numbers.dropLast
  if front.any (255 < ·) || Nat.pow 256 (4 - front.length) ≤ last then none
  return (front.zipIdx.foldl (fun n (p, i) => n + p * Nat.pow 256 (3 - i)) last)

def text (address : Nat) : String :=
  String.intercalate "." ([3, 2, 1, 0].map fun i => toString (address / Nat.pow 256 i % 256))

end CodeSearch.Ipv4
