import CodeSearch.Text.Blank

/-!
# Links to further pages

The `Link` header names the pages around the one it comes with.
-/

namespace CodeSearch.Link

/-- Cuts a text at each comma that a blank follows. `acc` holds the current piece, reversed. -/
def piecesFrom (acc : List Char) : List Char → List (List Char)
  | ',' :: ' ' :: rest => acc.reverse :: piecesFrom [] rest
  | c :: rest => piecesFrom (c :: acc) rest
  | [] => [acc.reverse]

def nextMark : List Char := "; rel=\"next\"".toList

/-- The target of a link that carries the mark, without angle brackets around it. -/
def target? (piece : List Char) : Option (List Char) :=
  if nextMark.isSuffixOf piece then
    let link := piece.take (piece.length - nextMark.length)
    some (Text.dropBackWhile (· == '>') (link.dropWhile (· == '<')))
  else none

/-- The last link to a next page, unless its target is empty. -/
def next? (header : String) : Option String :=
  match ((piecesFrom [] header.toList).filterMap target?).getLast? with
  | some [] => none
  | link => link.map String.ofList

end CodeSearch.Link
