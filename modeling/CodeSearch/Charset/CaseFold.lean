import CodeSearch.Charset.Basic
import CodeSearch.Charset.FoldTable

/-!
# Case-insensitive sets

The closure of a set under simple case folding: with a character it holds all its case partners.
-/

namespace CodeSearch.Charset

def foldGroups : List (List Nat) :=
  foldText.flatMap fun line =>
    (words line).map fun group => (group.splitOnP (· == ',')).map hexNat

/-- Adds every case partner of a member. -/
def foldCase (s : Charset) : Charset :=
  let added := foldGroups.filter fun group => group.any s.contains
  if added.isEmpty then s else ofRanges (s.ranges ++ added.flatten.map fun n => (n, n))

def foldAscii (s : Charset) : Charset :=
  let upper := s.inter (range 65 90)
  let lower := s.inter (range 97 122)
  ofRanges (s.ranges ++ upper.ranges.map (fun r => (r.1 + 32, r.2 + 32)) ++
    lower.ranges.map (fun r => (r.1 - 32, r.2 - 32)))

end CodeSearch.Charset
