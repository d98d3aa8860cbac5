/-!
# Lines

A text is cut at each line feed. A carriage return just before the line feed belongs to the line end,
and a text that ends with a line feed has no empty line after it. Every line of a text is a contiguous
part of it without a line feed.
-/

namespace CodeSearch.Text

/-- The pieces between the characters that satisfy `p`: one more than there are such characters. -/
def pieces (p : Char → Bool) (cs : List Char) : List (List Char) := cs.splitOnP p

def dropReturn (line : List Char) : List Char :=
  match line.reverse with
  | '\r' :: rest => rest.reverse
  | _ => line

/-- Every piece but the last has a line end after it; the last is a line unless it is empty. -/
def lineChars (cs : List Char) : List (List Char) :=
  let ps := pieces (· == '\n') cs
  ps.dropLast.map dropReturn ++ ps.getLast?.toList.filter (!·.isEmpty)

def lines (s : String) : List String := (lineChars s.toList).map String.ofList

end CodeSearch.Text
