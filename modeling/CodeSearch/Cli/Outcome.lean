import CodeSearch.Cli.Style
import CodeSearch.Error
import CodeSearch.Files.Tree

/-!
# What a run leaves

The lines on both outputs, and the code that the program ends with: 0 when all went well, 1 when the
command failed, 2 when there was no command to run, 101 when it panicked.
-/

namespace CodeSearch.Cli

inductive RunError where
  | failure (e : Failure)
  /-- A directory cannot be made. -/
  | directory (e : Files.FileError)
  | unsynced (failed total : Nat)
  | panicked

/-- The text that reports it. What the runtime says of a panic is left out. -/
def RunError.message? : RunError → Option String
  | .failure e => some e.message
  | .directory e => some e.message
  | .unsynced failed total =>
    some (toString failed ++ " of " ++ toString total ++ " repositories failed to sync")
  | .panicked => none

def RunError.exit : RunError → Nat
  | .panicked => 101
  | _ => 1

structure Outcome where
  stdout : List String
  stderr : List String
  exit : Nat
  deriving DecidableEq, Repr

namespace Outcome

def text (lines : List String) : String := String.join (lines.map (· ++ "\n"))

def success (lines : List String) : Outcome := ⟨lines, [], 0⟩

def failure (color : Bool) (lines : List String) (e : RunError) : Outcome :=
  ⟨lines, e.message?.toList.map (Style.error.paint color "Error" ++ ": " ++ ·), e.exit⟩

end Outcome

end CodeSearch.Cli
