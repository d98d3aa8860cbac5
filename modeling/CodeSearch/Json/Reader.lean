import CodeSearch.Json.Node
import CodeSearch.Text.Digits
import CodeSearch.Text.Utf8

/-!
# Reading JSON

From bytes to a node. Containers under way are held on a stack, so that nesting costs no recursion; the
fuel is the number of bytes, of which each step takes at least one.
-/

namespace CodeSearch.Json

open Text

def isSpace (b : UInt8) : Bool := b == 0x20 || b == 0x0A || b == 0x0D || b == 0x09

def skipSpace (bs : Bytes) : Bytes := bs.dropWhile isSpace

def isDigitByte (b : UInt8) : Bool := 0x30 ≤ b && b ≤ 0x39

def digitOfByte (b : UInt8) : Nat := b.toNat - 0x30

def maxWord : Nat := Nat.pow 2 64 - 1

structure Numeral where
  negative : Bool
  whole : List Nat
  fraction : List Nat
  exponent : Option (Bool × List Nat)

/-- A run of digits is taken into the significand while 64 bits hold it; each further digit raises the
exponent. -/
def takeWhole (digits : List Nat) : Nat × Nat :=
  digits.foldl (fun (significand, dropped) d =>
    if dropped = 0 && significand * 10 + d ≤ maxWord then (significand * 10 + d, 0)
    else (significand, dropped + 1)) (0, 0)

/-- Fraction digits lower the exponent while 64 bits hold them and are dropped after that. -/
def takeFraction (significand : Nat) (digits : List Nat) : Nat × Nat :=
  let (significand, taken, _) := digits.foldl (fun (significand, taken, full) d =>
    if !full && significand * 10 + d ≤ maxWord then (significand * 10 + d, taken + 1, false)
    else (significand, taken, true)) (significand, 0, false)
  (significand, taken)

/-- Divides by the power of ten nearest to `10 ^ n`, in steps of at most 308. -/
def divideByTen (fuel : Nat) (bits n : Nat) : Nat :=
  match fuel with
  | 0 => bits
  | fuel + 1 =>
    if n ≤ 308 then Double.div bits (Double.tenTo n)
    else if bits = 0 then 0
    else divideByTen fuel (Double.div bits (Double.tenTo 308)) (n - 308)

/-- The rounded significand times or by the rounded power of ten; too large a number has no value. -/
def scale (significand : Nat) (exponent : Int) : Option Nat :=
  let bits := Double.ofNat significand
  if 0 ≤ exponent then
    if 308 < exponent then if bits = 0 then some 0 else none
    else some (Double.mul bits (Double.tenTo exponent.toNat)) |>.filter (· < Double.infinityBits)
  else some (divideByTen 400 bits (-exponent).toNat)

/-- An integer where 64 bits hold it; minus zero is a float. -/
def exactOrFloat (negative : Bool) (n : Nat) : Number :=
  if !negative then .int n
  else if n = 0 || Nat.pow 2 63 < n then .float ⟨true, Double.ofNat n⟩
  else .int (-(n : Int))

/-- The exponent digits as a number, unless it passes 31 bits. -/
def exponentValue? (digits : List Nat) : Option Nat :=
  digits.foldl (fun acc d => acc.bind fun n =>
    if n * 10 + d < Nat.pow 2 31 then some (n * 10 + d) else none) (some 0)

def Numeral.value (n : Numeral) : Option Number :=
  let (significand, dropped) := takeWhole n.whole
  if n.fraction.isEmpty && n.exponent.isNone && dropped = 0 then
    some (exactOrFloat n.negative significand)
  else
    let (significand, taken) := takeFraction significand n.fraction
    let start : Int := (dropped : Int) - taken
    let float (bits : Nat) : Number := .float ⟨n.negative, bits⟩
    match n.exponent with
    | none => (scale significand start).map float
    | some (below, digits) =>
      match exponentValue? digits with
      | some e => (scale significand (if below then start - e else start + e)).map float
      | none => if significand = 0 || below then some (float 0) else none

def fraction? (bs : Bytes) : Option (List Nat × Bytes) :=
  match bs with
  | 0x2E :: rest =>
    let ds := rest.takeWhile isDigitByte
    if ds.isEmpty then none else some (ds.map digitOfByte, rest.dropWhile isDigitByte)
  | _ => some ([], bs)

def exponent? (bs : Bytes) : Option (Option (Bool × List Nat) × Bytes) :=
  match bs with
  | b :: rest =>
    if b == 0x65 || b == 0x45 then
      let (below, rest) := match rest with
        | 0x2D :: more => (true, more)
        | 0x2B :: more => (false, more)
        | _ => (false, rest)
      let ds := rest.takeWhile isDigitByte
      if ds.isEmpty then none
      else some (some (below, ds.map digitOfByte), rest.dropWhile isDigitByte)
    else some (none, bs)
  | [] => some (none, [])

/-- Reads a number: no leading zeros, and digits on both sides of a point. -/
def numeral? (bs : Bytes) : Option (Numeral × Bytes) := do
  let (negative, bs) := match bs with
    | 0x2D :: rest => (true, rest)
    | _ => (false, bs)
  let whole := bs.takeWhile isDigitByte
  if whole.isEmpty || (whole.head? == some 0x30 && 1 < whole.length) then none
  let (fraction, rest) ← fraction? (bs.dropWhile isDigitByte)
  let (exponent, rest) ← exponent? rest
  return (⟨negative, whole.map digitOfByte, fraction, exponent⟩, rest)

def hexByte? (b : UInt8) : Option Nat := if b < 0x80 then hexValue? (Char.ofNat b.toNat) else none

def hexFour? (a b c d : UInt8) : Option Nat := do
  let a ← hexByte? a
  let b ← hexByte? b
  let c ← hexByte? c
  let d ← hexByte? d
  return ((a * 16 + b) * 16 + c) * 16 + d

def simpleEscape? (b : UInt8) : Option UInt8 :=
  if b == 0x22 || b == 0x5C || b == 0x2F then some b
  else if b == 0x62 then some 0x08
  else if b == 0x66 then some 0x0C
  else if b == 0x6E then some 0x0A
  else if b == 0x72 then some 0x0D
  else if b == 0x74 then some 0x09
  else none

def encodeCode (n : Nat) : Bytes := String.utf8EncodeChar (Char.ofNat n)

/-- Reads text up to the closing quote. `acc` holds the bytes so far, newest first; `whole` says that every
surrogate had its partner. A first half waits in `half` for the escape right after it. -/
def string? (acc : Bytes) (whole : Bool) (half : Option Nat) :
    Bytes → Option (Option String × Bytes)
  | [] => none
  | 0x22 :: rest =>
    some (if whole && half.isNone then Utf8.decode? acc.reverse else none, rest)
  | 0x5C :: 0x75 :: a :: b :: c :: d :: rest =>
    match hexFour? a b c d with
    | none => none
    | some n =>
      match half with
      | some high =>
        if 0xDC00 ≤ n && n < 0xE000 then
          let code := 0x10000 + (high - 0xD800) * 0x400 + (n - 0xDC00)
          string? ((encodeCode code).reverse ++ acc) whole none rest
        else string? acc false none rest
      | none =>
        if 0xD800 ≤ n && n < 0xDC00 then string? acc whole (some n) rest
        else if 0xDC00 ≤ n && n < 0xE000 then string? acc false none rest
        else string? ((encodeCode n).reverse ++ acc) whole none rest
  | 0x5C :: b :: rest =>
    match simpleEscape? b with
    | none => none
    | some e => string? (e :: acc) (whole && half.isNone) none rest
  | b :: rest =>
    if b < 0x20 || b == 0x5C then none
    else string? (b :: acc) (whole && half.isNone) none rest

def dropWord? (word : String) (bs : Bytes) : Option Bytes :=
  let w := Utf8.encode word
  if w.isPrefixOf bs then some (bs.drop w.length) else none

/-- A value without parts of its own. -/
def scalar? (bs : Bytes) : Option (Node × Bytes) :=
  match bs with
  | 0x22 :: rest => (string? [] true none rest).map fun (s, rest) => (.text s, rest)
  | 0x6E :: _ => (dropWord? "null" bs).map (.null, ·)
  | 0x74 :: _ => (dropWord? "true" bs).map (.bool true, ·)
  | 0x66 :: _ => (dropWord? "false" bs).map (.bool false, ·)
  | _ => (numeral? bs).map fun (n, rest) => (.number n.value, rest)

/-- A container under way, its parts newest first; an object also holds the name of its next value. -/
inductive Open where
  | array (items : List Node)
  | object (fields : List (Option String × Node)) (key : Option String)

def key? (bs : Bytes) : Option (Option String × Bytes) :=
  match skipSpace bs with
  | 0x22 :: rest =>
    match string? [] true none rest with
    | some (key, rest) =>
      match skipSpace rest with
      | 0x3A :: rest => some (key, rest)
      | _ => none
    | none => none
  | _ => none

/-- What comes next: a value, or what follows one that is complete. -/
inductive Want where
  | value
  | after (node : Node)

def read? (fuel : Nat) (want : Want) (stack : List Open) (bs : Bytes) : Option (Node × Bytes) :=
  match want, stack with
  | .after node, [] => some (node, bs)
  | .after node, .array items :: outer =>
    match fuel, skipSpace bs with
    | fuel + 1, 0x2C :: rest => read? fuel .value (.array (node :: items) :: outer) rest
    | fuel + 1, 0x5D :: rest => read? fuel (.after (.array (node :: items).reverse)) outer rest
    | _, _ => none
  | .after node, .object fields key :: outer =>
    match fuel, skipSpace bs with
    | fuel + 1, 0x2C :: rest =>
      match key? rest with
      | some (next, rest) => read? fuel .value (.object ((key, node) :: fields) next :: outer) rest
      | none => none
    | fuel + 1, 0x7D :: rest =>
      read? fuel (.after (.object ((key, node) :: fields).reverse)) outer rest
    | _, _ => none
  | .value, stack =>
    match fuel, skipSpace bs with
    | fuel + 1, 0x5B :: rest =>
      match skipSpace rest with
      | 0x5D :: rest => read? fuel (.after (.array [])) stack rest
      | rest => read? fuel .value (.array [] :: stack) rest
    | fuel + 1, 0x7B :: rest =>
      match skipSpace rest with
      | 0x7D :: rest => read? fuel (.after (.object [])) stack rest
      | rest =>
        match key? rest with
        | some (key, rest) => read? fuel .value (.object [] key :: stack) rest
        | none => none
    | fuel + 1, bs =>
      match scalar? bs with
      | some (node, rest) => read? fuel (.after node) stack rest
      | none => none
    | 0, _ => none

def node? (bs : Bytes) : Option Node :=
  match read? (bs.length + 1) .value [] bs with
  | some (node, rest) => if (skipSpace rest).isEmpty then some node else none
  | none => none

def maxDepth : Nat := 127

def parse? (bs : Bytes) : Option Json := (node? bs).bind (Node.keep maxDepth)

end CodeSearch.Json
