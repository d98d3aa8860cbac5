import CodeSearch.Text.Utf8

/-!
# Request targets

The path and query of a request. A fragment is cut off; blanks, controls and a few marks make a target
invalid.
-/

namespace CodeSearch

structure Target where
  path : Bytes
  query : Bytes

namespace Target

def isPathByte (b : UInt8) : Bool :=
  b == 0x21 || b == 0x22 || (0x24 ≤ b && b ≤ 0x3B) || b == 0x3D || (0x40 ≤ b && b ≤ 0x5F) || 0x61 ≤ b

def isQueryByte (b : UInt8) : Bool :=
  b == 0x21 || (0x24 ≤ b && b ≤ 0x3B) || b == 0x3D || 0x3F ≤ b

def parse? (target : Bytes) : Option Target :=
  let whole := target.takeWhile (· != 0x23)
  let path := whole.takeWhile (· != 0x3F)
  let query := (whole.drop path.length).drop 1
  if path.all isPathByte && query.all isQueryByte then some ⟨path, query⟩ else none

end Target

end CodeSearch
