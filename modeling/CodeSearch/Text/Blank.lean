/-!
# Blanks

The characters of the Unicode property `White_Space` and the trimming of text at its ends.
-/

namespace CodeSearch.Text

/-- The code points with the property `White_Space`. -/
def isBlank (c : Char) : Bool :=
  let n := c.toNat
  (0x09 ≤ n && n ≤ 0x0D) || n == 0x20 || n == 0x85 || n == 0xA0 || n == 0x1680 ||
    (0x2000 ≤ n && n ≤ 0x200A) || n == 0x2028 || n == 0x2029 || n == 0x202F || n == 0x205F ||
    n == 0x3000

/-- Removes from the front of a list what satisfies `p`, and likewise from its back. -/
def dropEndsWhile (p : Char → Bool) (cs : List Char) : List Char :=
  (((cs.dropWhile p).reverse).dropWhile p).reverse

def dropBackWhile (p : Char → Bool) (cs : List Char) : List Char :=
  (cs.reverse.dropWhile p).reverse

def trimChars (cs : List Char) : List Char := dropEndsWhile isBlank cs

def trim (s : String) : String := String.ofList (trimChars s.toList)

def trimTrailing (c : Char) (s : String) : String :=
  String.ofList (dropBackWhile (· == c) s.toList)

end CodeSearch.Text
