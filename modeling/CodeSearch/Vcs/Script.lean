import CodeSearch.Error
import CodeSearch.Files.Directories
import CodeSearch.Text.Blank

/-!
# Scripts

What a version control driver does, one action after another: it runs its tool, makes directories, keeps a
secret in a file. A script is these actions as data, each with what follows on its answer, so that it can be
run by itself or with actions of others in between. Tools are not part of it: a tool is any function from
the calls so far, a call and the files to its answer and the files after it.
-/

namespace CodeSearch

open Files

structure ToolCall where
  /-- The directory it runs in, as it was given. -/
  dir : String
  /-- Where that directory is. -/
  place : List Name
  args : List String
  /-- Environment variables that are set for it. -/
  settings : List (String × String)
  deriving DecidableEq

inductive ToolReply where
  | notStarted (reason : String)
  | ended (success : Bool) (stdout stderr : Bytes)

/-- The tool: what it answers and which files it leaves, after the calls before. -/
abbrev Tool := List ToolCall → ToolCall → Disk → ToolReply × Disk

/-- The files, and the calls that were started so far. -/
structure Site where
  disk : Disk
  calls : List ToolCall

inductive Action where
  /-- Runs the tool. Reports name the call by its label. -/
  | call (label dir : String) (args : List String)
  | makeDirs (dir : String)
  /-- Keeps a text in a file that only its owner may read, unless the file is there. -/
  | keepSecret (path : String) (text : Except Failure String)

inductive Script (α : Type) where
  | done (a : α)
  | act (action : Action) (next : Except Failure String → Script α)
  /-- Goes on by whether there is a directory. -/
  | test (dir : String) (next : Bool → Script α)

namespace Script

variable {α β : Type}

def bind : Script α → (α → Script β) → Script β
  | .done a, f => f a
  | .act action next, f => .act action fun answer => (next answer).bind f
  | .test dir next, f => .test dir fun found => (next found).bind f

instance : Monad Script where
  pure := .done
  bind := bind

def call (label dir : String) (args : List String) : Script (Except Failure String) :=
  .act (.call label dir args) .done

def makeDirs (dir : String) : Script (Except Failure String) := .act (.makeDirs dir) .done

def keepSecret (path : String) (text : Except Failure String) : Script (Except Failure String) :=
  .act (.keepSecret path text) .done

end Script

/-- Tools never ask for passwords. -/
def toolSettings : List (String × String) := [("GIT_TERMINAL_PROMPT", "0")]

namespace Site

/-- Where a call runs, or why it cannot be started. -/
def startPlace (disk : Disk) (dir : String) (args : List String) : Except String (List Name) :=
  if (dir :: args).any fun text => text.toList.contains '\x00' then
    .error "nul byte found in provided data"
  else
    match disk.find true (Utf8.encode dir) with
    | .error e => .error e.message
    | .ok found =>
      match found.tree with
      | none => .error FileError.notFound.message
      | some t => if t.isDir then .ok found.path else .error FileError.notDirectory.message

def report (stdout stderr : Bytes) : String :=
  Text.trim (Utf8.decodeLossy stdout ++ Utf8.decodeLossy stderr)

/-- Has the tool do its work at a place and answers what it printed. -/
def work (tool : Tool) (label dir : String) (args : List String) (place : List Name) (s : Site) :
    Except Failure String × Site :=
  let call : ToolCall := ⟨dir, place, args, toolSettings⟩
  match tool s.calls call s.disk with
  | (.notStarted reason, disk) => (.error (.vcsCommand label dir reason), { s with disk := disk })
  | (.ended success stdout stderr, disk) =>
    (if success then .ok (Utf8.decodeLossy stdout)
      else .error (.vcsCommand label dir (report stdout stderr)),
      ⟨disk, s.calls ++ [call]⟩)

def call (tool : Tool) (label dir : String) (args : List String) (s : Site) :
    Except Failure String × Site :=
  match startPlace s.disk dir args with
  | .error reason => (.error (.vcsCommand label dir reason), s)
  | .ok place => work tool label dir args place s

def makeDirs (dir : String) (s : Site) : Except Failure String × Site :=
  match s.disk.makeDirs dir with
  | (.ok (), disk) => (.ok dir, { s with disk := disk })
  | (.error e, disk) => (.error (.io e.message), { s with disk := disk })

/-- The mode of a file that only its owner may read and write. -/
def ownerOnly : Nat := 0o600

def keepSecret (path : String) (text : Except Failure String) (s : Site) :
    Except Failure String × Site :=
  if s.disk.pathExists path then (.ok path, s)
  else
    match text with
    | .error e => (.error e, s)
    | .ok text =>
      match s.disk.create (Utf8.encode path) (Utf8.encode text) ownerOnly with
      | .ok disk => (.ok path, { s with disk := disk })
      | .error e => (.error (.io e.message), s)

def perform (tool : Tool) : Action → Site → Except Failure String × Site
  | .call label dir args, s => call tool label dir args s
  | .makeDirs dir, s => makeDirs dir s
  | .keepSecret path text, s => keepSecret path text s

end Site

def Script.run {α : Type} (tool : Tool) : Script α → Site → α × Site
  | .done a, s => (a, s)
  | .act action next, s =>
    let (answer, s) := Site.perform tool action s
    (next answer).run tool s
  | .test dir next, s => (next (s.disk.isDir dir)).run tool s

end CodeSearch
