import CodeSearch.Vcs.Script

/-!
# Drivers

What a version control system has to offer: bringing a working copy into being and keeping it up to date.
-/

namespace CodeSearch

structure VcsDriver where
  /-- Makes a working copy of a URL and answers its revision. -/
  clone : (dir url : String) → Script (Except Failure String)
  /-- Brings a working copy up to date and answers its revision. -/
  pull : (dir : String) → Script (Except Failure String)
  headRev : (dir : String) → Script (Except Failure String)
  /-- Entries at the top of a working copy that are never searched. -/
  special : List String

end CodeSearch
