import CodeSearch.Text.Digits

/-!
# IPv6 addresses

Eight groups of sixteen bits. In writing, one run of zero groups may be left out, and the last two groups may
be given as an IPv4 address.
-/

namespace CodeSearch.Ipv6

open Text

def group? (part : List Char) : Option Nat :=
  if part.isEmpty || 4 < part.length || !part.all isHexDigit then none
  else some (part.foldl (fun n c => n * 16 + (hexValue? c).getD 0) 0)

/-- Reads one part of a dotted address: no leading zeros, at most 255. -/
def octet? (part : List Char) : Option Nat :=
  if 1 < part.length && part.head? == some '0' then none else (decimal? part).filter (· ≤ 255)

def dotted? (part : List Char) : Option (List Nat) := do
  match ← (part.splitOnP (· == '.')).mapM octet? with
  | [a, b, c, d] => some [a * 256 + b, c * 256 + d]
  | _ => none

/-- Reads groups between colons, of which the last may be a dotted address where `last` says so. -/
def groups? (last : Bool) : List (List Char) → Option (List Nat)
  | [] => some []
  | [part] => if last && part.contains '.' then dotted? part else (group? part).map ([·])
  | part :: parts => do
    let g ← group? part
    let gs ← groups? last parts
    return g :: gs

def cutDouble? : List Char → Option (List Char × List Char)
  | ':' :: ':' :: rest => some ([], rest)
  | c :: rest => (cutDouble? rest).map fun (front, back) => (c :: front, back)
  | [] => none

def partsOf (cs : List Char) : List (List Char) := if cs.isEmpty then [] else cs.splitOnP (· == ':')

def parse? (cs : List Char) : Option (List Nat) := do
  match cutDouble? cs with
  | none =>
    let gs ← groups? true (partsOf cs)
    if gs.length = 8 then some gs else none
  | some (front, back) =>
    let left ← groups? false (partsOf front)
    let right ← groups? true (partsOf back)
    if left.length + right.length < 8 then
      some (left ++ List.replicate (8 - left.length - right.length) 0 ++ right)
    else none

/-- The longest run of zero groups, the first of equally long ones: where it begins and its length. -/
def longestZeros (groups : List Nat) : Nat × Nat :=
  let runs := (List.range groups.length).map fun i => (i, ((groups.drop i).takeWhile (· == 0)).length)
  runs.foldl (fun best run => if best.2 < run.2 then run else best) (0, 0)

/-- The text of an address: a run of at least two zero groups is left out. -/
def text (groups : List Nat) : String :=
  let hex (gs : List Nat) : String := String.intercalate ":" (gs.map lowerHex)
  let (start, count) := longestZeros groups
  if count < 2 then hex groups
  else hex (groups.take start) ++ "::" ++ hex (groups.drop (start + count))

end CodeSearch.Ipv6
