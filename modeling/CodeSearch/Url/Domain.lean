import CodeSearch.Charset.CaseFold
import CodeSearch.Charset.Property
import CodeSearch.Text.Utf8

/-!
# Domain names

The ASCII form of a domain name: letters in lower case, and labels with other characters in Punycode after
the mark `xn--`.
-/

namespace CodeSearch.Domain

def base : Nat := 36

def adapt (delta count : Nat) (first : Bool) : Nat :=
  let delta := if first then delta / 700 else delta / 2
  let rec go (fuel delta k : Nat) : Nat :=
    match fuel with
    | 0 => k
    | fuel + 1 => if 455 < delta then go fuel (delta / 35) (k + base) else k + 36 * delta / (delta + 38)
  go 32 (delta + delta / count) 0

def digit (n : Nat) : Char := if n < 26 then Char.ofNat (97 + n) else Char.ofNat (22 + n)

/-- How far a digit position is from the bias, between 1 and 26. -/
def threshold (k bias : Nat) : Nat := if k ≤ bias then 1 else if bias + 26 ≤ k then 26 else k - bias

def variableDigits (fuel q k bias : Nat) : List Char :=
  match fuel with
  | 0 => []
  | fuel + 1 =>
    let t := threshold k bias
    if q < t then [digit q]
    else digit (t + (q - t) % (base - t)) :: variableDigits fuel ((q - t) / (base - t)) (k + base) bias

/-- What a run over the label leaves: output so far, newest first, and the state of the coder. -/
structure Coder where
  out : List Char
  delta : Nat
  bias : Nat
  handled : Nat

def encodeRound (cs : List Char) (n ascii : Nat) (coder : Coder) : Coder :=
  cs.foldl (fun st c =>
    if c.toNat < n then { st with delta := st.delta + 1 }
    else if c.toNat = n then
      { out := (variableDigits 64 st.delta base st.bias).reverse ++ st.out
        delta := 0
        bias := adapt st.delta (st.handled + 1) (st.handled = ascii)
        handled := st.handled + 1 }
    else st) coder

def encodeFrom (cs : List Char) (ascii : Nat) (fuel n : Nat) (coder : Coder) : List Char :=
  match fuel with
  | 0 => coder.out.reverse
  | fuel + 1 =>
    match (cs.filter fun c => n ≤ c.toNat).map Char.toNat |>.min? with
    | none => coder.out.reverse
    | some m =>
      let coder := encodeRound cs m ascii
        { coder with delta := coder.delta + (m - n) * (coder.handled + 1) }
      encodeFrom cs ascii fuel (m + 1) { coder with delta := coder.delta + 1 }

def punycode (cs : List Char) : List Char :=
  let plain := cs.filter (·.toNat < 0x80)
  let front := if plain.isEmpty then [] else plain ++ ['-']
  front ++ encodeFrom cs plain.length (cs.length + 1) 0x80 ⟨[], 0, 72, plain.length⟩

def lower (c : Char) : Char :=
  if c.toNat < 0x80 then Charset.asciiLower c
  else
    match Charset.foldGroups.find? (·.contains c.toNat) with
    | none => c
    | some group =>
      let unstable := (Charset.find? Charset.propertyTable "changeswhencasefolded").getD .empty
      ((group.find? fun n => !unstable.contains n).map Char.ofNat).getD c

def isForbidden (c : Char) : Bool :=
  c.toNat ≤ 0x20 || c.toNat == 0x7F ||
    ['#', '/', ':', '<', '>', '?', '@', '[', '\\', ']', '^', '\x60', '\x7b', '|', '\x7d',
      '%'].contains c

def isIgnored (c : Char) : Bool :=
  c.toNat == 0xAD || c.toNat == 0x200B || c.toNat == 0x2060 || c.toNat == 0xFEFF ||
    (0xFE00 ≤ c.toNat && c.toNat ≤ 0xFE0F)

def plainForm (c : Char) : Char :=
  if 0xFF01 ≤ c.toNat && c.toNat ≤ 0xFF5E then Char.ofNat (c.toNat - 0xFEE0)
  else if c.toNat == 0x3002 || c.toNat == 0xFF61 then '.'
  else c

/-- Characters that no name may hold: controls, private ones and those that are not assigned. -/
def unusable : Charset := (Charset.categories ["cc", "co", "zl", "zp", "zs"]).union .unassigned

def marks : Charset := Charset.categories ["mn", "mc", "me"]

def label? (cs : List Char) : Option (List Char) :=
  if cs.any isForbidden then none
  else if cs.all (·.toNat < 0x80) then some cs
  else if cs.any unusable.mem || cs.head?.any marks.mem then none
  else some ("xn--".toList ++ punycode cs)

def toAscii? (cs : List Char) : Option String := do
  let mapped := ((cs.filter fun c => !isIgnored c).map plainForm).map lower
  let labels ← (mapped.splitOnP (· == '.')).mapM label?
  return String.ofList (List.intercalate ['.'] labels)

end CodeSearch.Domain
