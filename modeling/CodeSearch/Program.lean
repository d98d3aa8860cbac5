/-!
# The program

What the program is called and which version it is, as it tells its callers.
-/

namespace CodeSearch.Program

def name : String := "fathom"

def version : String := "0.3.0"

end CodeSearch.Program
