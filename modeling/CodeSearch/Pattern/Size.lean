import CodeSearch.Pattern.Basic

/-!
# The size of a pattern

The memory that an automaton for a pattern takes when counted repetitions are written out and characters
are read as bytes. Patterns whose automaton is too large are refused, so that a short text cannot ask for
an unbounded amount of work.
-/

namespace CodeSearch.Pattern

/-- A sequence of byte ranges, each given by its ends. -/
abbrev ByteRanges := List (Nat × Nat)

def codeBytes (n : Nat) : List Nat := (String.utf8EncodeChar (Char.ofNat n)).map UInt8.toNat

/-- Cuts a range of code points, none of them a surrogate, into parts whose encodings have one length and
form a product of byte ranges. Each cut leaves two smaller ranges. -/
def byteRanges (fuel low high : Nat) : List ByteRanges :=
  match fuel with
  | 0 => []
  | fuel + 1 =>
    if high < low then []
    else
      let cut (last : Nat) := byteRanges fuel low last ++ byteRanges fuel (last + 1) high
      match [0x7F, 0x7FF, 0xFFFF].find? fun last => low ≤ last && last < high with
      | some last => cut last
      | none =>
        if high ≤ 0x7F then [[(low, high)]]
        else
          let uneven := [6, 12, 18].findSome? fun bits =>
            let block := Nat.pow 2 bits
            if low / block = high / block then none
            else if low % block ≠ 0 then some ((low / block + 1) * block - 1)
            else if high % block ≠ block - 1 then some (high / block * block - 1)
            else none
          match uneven with
          | some last => cut last
          | none => [(codeBytes low).zip (codeBytes high)]

def setRanges (s : Charset) : List ByteRanges :=
  (s.diff .surrogates).ranges.flatMap fun r => byteRanges 64 r.1 r.2

def commonFront : ByteRanges → ByteRanges → Nat
  | a :: as, b :: bs => if a = b then commonFront as bs + 1 else 0
  | _, _ => 0

def beginnings (seqs : List ByteRanges) : Nat :=
  (seqs.foldl (fun (acc : Nat × ByteRanges) seq =>
    (acc.1 + (seq.length - commonFront acc.2 seq), seq)) (0, [])).1

/-- Bytes for one state of the automaton. -/
def stateSize : Nat := 32

def setSize (s : Charset) : Nat :=
  match s.ranges with
  | [(low, high)] =>
    if low = high then stateSize * (codeBytes low).length else wide s
  | _ => wide s
where
  wide (s : Charset) : Nat :=
    if s.isAscii then 2 * stateSize + 8 * s.ranges.length
    else
      let seqs := setRanges s
      2 * stateSize + 4 * seqs.length + stateSize * beginnings seqs

def branchSize : Nat := stateSize + 8

/-- Bytes for the automaton of a pattern. -/
def size : Pattern → Nat
  | .empty => 0
  | .set s => setSize s
  | .look _ => stateSize
  | .seq p q => p.size + q.size
  | .alt p q => branchSize + p.size + q.size
  | .rep low none p => max low 1 * p.size + branchSize
  | .rep low (some high) p => low * p.size + (high - low) * (p.size + branchSize)

def sizeLimit : Nat := 10485760

end CodeSearch.Pattern
