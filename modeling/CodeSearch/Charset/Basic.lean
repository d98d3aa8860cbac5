/-!
# Sets of characters

A set of code points as a list of closed ranges, kept in order and apart by `ofRanges`. Union, meet and
complement are taken on the ranges.
-/

namespace CodeSearch

def maxCodePoint : Nat := 0x10FFFF

structure Charset where
  ranges : List (Nat × Nat)
  deriving DecidableEq, Repr, Inhabited

namespace Charset

/-- A cheap hash: sets that differ in size or first range mostly differ here. -/
instance : Hashable Charset where
  hash s := mixHash (hash s.ranges.length) (hash s.ranges.head?)

def contains (s : Charset) (n : Nat) : Bool := s.ranges.any fun r => r.1 ≤ n && n ≤ r.2

def mem (s : Charset) (c : Char) : Bool := s.contains c.toNat

def empty : Charset := ⟨[]⟩

def all : Charset := ⟨[(0, maxCodePoint)]⟩

/-- Joins a range to a reversed list of ranges that starts no later than it. -/
def joinRange (acc : List (Nat × Nat)) (r : Nat × Nat) : List (Nat × Nat) :=
  match acc with
  | [] => [r]
  | last :: rest => if r.1 ≤ last.2 + 1 then (last.1, max last.2 r.2) :: rest else r :: acc

/-- Sorts the ranges and joins those that meet or touch. -/
def ofRanges (rs : List (Nat × Nat)) : Charset :=
  ⟨((rs.mergeSort (fun a b => a.1 ≤ b.1)).foldl joinRange []).reverse⟩

def single (n : Nat) : Charset := ⟨[(n, n)]⟩

def ofChar (c : Char) : Charset := single c.toNat

def range (low high : Nat) : Charset := ⟨[(low, high)]⟩

def union (s t : Charset) : Charset := ofRanges (s.ranges ++ t.ranges)

/-- What ranges in order leave out from `start` on. -/
def gaps (start : Nat) : List (Nat × Nat) → List (Nat × Nat)
  | [] => if start ≤ maxCodePoint then [(start, maxCodePoint)] else []
  | r :: rest => if start < r.1 then (start, r.1 - 1) :: gaps (r.2 + 1) rest else gaps (r.2 + 1) rest

def compl (s : Charset) : Charset := ⟨gaps 0 s.ranges⟩

def inter (s t : Charset) : Charset :=
  ofRanges (s.ranges.flatMap fun a => t.ranges.filterMap fun b =>
    if max a.1 b.1 ≤ min a.2 b.2 then some (max a.1 b.1, min a.2 b.2) else none)

def diff (s t : Charset) : Charset := s.inter t.compl

def symmDiff (s t : Charset) : Charset := (s.union t).diff (s.inter t)

def unions (ss : List Charset) : Charset := ofRanges (ss.flatMap (·.ranges))

def ascii : Charset := range 0 0x7F

def isAscii (s : Charset) : Bool := s.ranges.all fun r => r.2 ≤ 0x7F

def hexNat (cs : List Char) : Nat :=
  cs.foldl (fun n c => n * 16 + (if c.toNat < 58 then c.toNat - 48 else c.toNat - 87)) 0

/-- Reads one range, `low-high` or a single code point. -/
def rangeOfText (cs : List Char) : Nat × Nat :=
  let low := cs.takeWhile (· != '-')
  match cs.dropWhile (· != '-') with
  | _ :: high => (hexNat low, hexNat high)
  | [] => (hexNat low, hexNat low)

def words (line : String) : List (List Char) :=
  (line.toList.splitOnP (· == ' ')).filter (!·.isEmpty)

/-- Reads ranges in lower-case hexadecimal, separated by blanks, from the lines of a table. -/
def ofText (lines : List String) : Charset :=
  ⟨lines.flatMap fun line => (words line).map rangeOfText⟩

def find? (table : List (List String × List String)) (name : String) : Option Charset :=
  (table.find? fun row => row.1.contains name).map fun row => ofText row.2

end Charset

end CodeSearch
