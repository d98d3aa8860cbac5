import CodeSearch.Text.Utf8

/-!
# Files

A tree of directories, files and symbolic links, and what programs do with it: look at, read, make and
write. Names are byte strings, and the entries of a directory have no order that means anything.
-/

namespace CodeSearch

namespace Files

abbrev Name := Bytes

inductive Tree where
  | file (content : Bytes) (mode : Nat)
  | link (target : Bytes)
  | dir (entries : List (Name × Tree))
  deriving Inhabited

inductive FileError where
  | notFound | alreadyExists | notDirectory | isDirectory | nameTooLong | tooManyLinks
  | nulInName | notText
  deriving DecidableEq, Repr

def FileError.message : FileError → String
  | .notFound => "No such file or directory (os error 2)"
  | .alreadyExists => "File exists (os error 17)"
  | .notDirectory => "Not a directory (os error 20)"
  | .isDirectory => "Is a directory (os error 21)"
  | .nameTooLong => "File name too long (os error 36)"
  | .tooManyLinks => "Too many levels of symbolic links (os error 40)"
  | .nulInName => "file name contained an unexpected NUL byte"
  | .notText => "stream did not contain valid UTF-8"

namespace Tree

def isDir : Tree → Bool
  | .dir _ => true
  | _ => false

def entries : Tree → List (Name × Tree)
  | .dir es => es
  | _ => []

def child? (t : Tree) (name : Name) : Option Tree := (t.entries.find? (·.1 == name)).map (·.2)

/-- The tree at the end of a path of names, none of which is a link. -/
def at? (t : Tree) : List Name → Option Tree
  | [] => some t
  | name :: path => (t.child? name).bind fun s => s.at? path

def setChild (t : Tree) (name : Name) (s : Option Tree) : Tree :=
  let others := t.entries.filter (·.1 != name)
  match s with
  | some s =>
    if t.entries.any (·.1 == name) then
      .dir (t.entries.map fun e => if e.1 == name then (name, s) else e)
    else .dir (t.entries ++ [(name, s)])
  | none => .dir others

/-- Changes what is at a path of names whose directories exist. -/
def modify (change : Option Tree → Option Tree) : List Name → Tree → Tree
  | [], t => (change (some t)).getD t
  | [name], t => t.setChild name (change (t.child? name))
  | name :: path, t =>
    match t.child? name with
    | some s => t.setChild name (some (s.modify change path))
    | none => t

end Tree

/-- A computer's files and the directory that relative paths start from. -/
structure Disk where
  root : Tree
  cwd : List Name

def slash : UInt8 := 0x2F

def splitPath (path : Bytes) : List Name := path.splitOnP (· == slash)

def maxLinks : Nat := 40

def maxName : Nat := 255

def dotName : Name := [0x2E]

def dotDotName : Name := [0x2E, 0x2E]

/-- A segment that leads nowhere else. -/
def isIdle (seg : Name) : Bool := seg.isEmpty || seg == dotName

def startOf (path : Bytes) (here : List Name) : List Name := if path.head? == some slash then [] else here

/-- Where a path leads: the names from the root, links resolved, and what is there. -/
structure Found where
  path : List Name
  tree : Option Tree

/-- Follows segments from a directory. The last one need not exist, and is not followed when it is a link
and `follow` is false. A link that is followed is left to `jump`, with the place where its target starts and
all that is to be followed from there. -/
def walkSegments (root : Tree) (follow : Bool) (jump : List Name → List Name → Except FileError Found)
    (here : List Name) : List Name → Except FileError Found
  | [] => .ok ⟨here, root.at? here⟩
  | seg :: rest =>
    match root.at? here with
    | none => .error .notFound
    | some t =>
      if !t.isDir then .error .notDirectory
      else if isIdle seg then walkSegments root follow jump here rest
      else if seg == dotDotName then walkSegments root follow jump here.dropLast rest
      else if maxName < seg.length then .error .nameTooLong
      else
        match t.child? seg with
        | none =>
          if rest.all isIdle then .ok ⟨here ++ [seg], none⟩
          else .error .notFound
        | some (.link target) =>
          if !follow && rest.isEmpty then .ok ⟨here ++ [seg], some (.link target)⟩
          else jump (startOf target here) (splitPath target ++ rest)
        | some _ => walkSegments root follow jump (here ++ [seg]) rest

/-- Follows segments from a directory, and at most as many links as `links`. -/
def walk (root : Tree) (follow : Bool) : (links : Nat) → (here segs : List Name) → Except FileError Found
  | 0 => walkSegments root follow fun _ _ => .error .tooManyLinks
  | links + 1 => walkSegments root follow (walk root follow links)

namespace Disk

def ofDir (path : String) : Disk :=
  let names := (splitPath (Utf8.encode path)).filter (!·.isEmpty)
  ⟨names.foldr (fun name t => .dir [(name, t)]) (.dir []), names⟩

def find (d : Disk) (follow : Bool) (path : Bytes) : Except FileError Found :=
  if path.contains 0 then .error .nulInName
  else if path.isEmpty then .error .notFound
  else walk d.root follow maxLinks (startOf path d.cwd) (splitPath path)

def look (d : Disk) (path : Bytes) : Except FileError Tree := do
  let found ← d.find true path
  match found.tree with
  | some t => .ok t
  | none => .error .notFound

def isDirBytes (d : Disk) (path : Bytes) : Bool :=
  match d.look path with
  | .ok t => t.isDir
  | .error _ => false

def isDir (d : Disk) (path : String) : Bool := d.isDirBytes (Utf8.encode path)

def pathExists (d : Disk) (path : String) : Bool := (d.look (Utf8.encode path)).toBool

def read (d : Disk) (path : String) : Except FileError Bytes := do
  match ← d.look (Utf8.encode path) with
  | .file content _ => .ok content
  | _ => .error .isDirectory

def readText (d : Disk) (path : String) : Except FileError String := do
  match Utf8.decode? (← d.read path) with
  | some text => .ok text
  | none => .error .notText

def mkdir (d : Disk) (path : Bytes) : Except FileError Disk := do
  let found ← d.find false path
  match found.tree with
  | some _ => .error .alreadyExists
  | none => .ok { d with root := d.root.modify (fun _ => some (.dir [])) found.path }

/-- A new file with the mode that its owner gives it; nothing may stand at the path. -/
def create (d : Disk) (path : Bytes) (content : Bytes) (mode : Nat) : Except FileError Disk := do
  let found ← d.find false path
  match found.tree with
  | some _ => .error .alreadyExists
  | none =>
    if path.getLast? == some slash then .error .isDirectory
    else .ok { d with root := d.root.modify (fun _ => some (.file content mode)) found.path }

end Disk

end Files

end CodeSearch
