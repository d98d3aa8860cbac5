/-!
# Terminal styles

Colours for what the command line prints.
-/

namespace CodeSearch.Cli

/-- What a piece of output is. -/
inductive Style where
  | label | repoName | url | number | revision | success | warning | error | dim
  deriving DecidableEq, Repr

def Style.code : Style → String
  | .label => "1"
  | .repoName => "36"
  | .url => "34"
  | .number => "33"
  | .revision => "35"
  | .success => "32"
  | .warning => "33"
  | .error => "1;31"
  | .dim => "2"

def Style.begin (style : Style) : List Char := ('\x1b' :: '[' :: style.code.toList) ++ ['m']

def reset : List Char := ['\x1b', '[', '0', 'm']

/-- Begins a style anew after each end of one inside a text. -/
def renew (style : List Char) : List Char → List Char
  | '\x1b' :: '[' :: '0' :: 'm' :: rest => reset ++ style ++ renew style rest
  | c :: rest => c :: renew style rest
  | [] => []

def Style.paint (color : Bool) (style : Style) (text : String) : String :=
  if color then String.ofList (style.begin ++ renew style.begin text.toList ++ reset) else text

def onOff (color : Bool) (on : Bool) : String :=
  if on then Style.success.paint color "on" else Style.dim.paint color "off"

/-- The first twelve bytes of a revision, unless they would cut a character. -/
def shortRev (rev : String) : String :=
  let rec front (bytes : Nat) : List Char → Option (List Char)
    | [] => none
    | c :: cs =>
      if bytes = 0 then some []
      else if c.utf8Size ≤ bytes then (front (bytes - c.utf8Size) cs).map (c :: ·)
      else none
  match front 12 rev.toList with
  | some cs => String.ofList cs
  | none => rev

end CodeSearch.Cli
