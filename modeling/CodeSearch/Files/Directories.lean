import CodeSearch.Files.Path
import CodeSearch.Files.Tree

/-!
# Making directories

A directory together with those above it. One that is there already is no error.
-/

namespace CodeSearch.Files.Disk

def makeHere (d : Disk) (path : String) : Except FileError Unit × Disk :=
  match d.mkdir (Utf8.encode path) with
  | .ok d => (.ok (), d)
  | .error e => (if d.isDir path then .ok () else .error e, d)

/-- Makes a directory and, where they are missing, its parents. Each parent is a shorter path. Those that
were made stay when the directory itself cannot be made. -/
def mkdirs (fuel : Nat) (d : Disk) (path : String) : Except FileError Unit × Disk :=
  if path.isEmpty then (.ok (), d)
  else
    match d.mkdir (Utf8.encode path), fuel with
    | .error .notFound, fuel + 1 =>
      match Path.parent? path with
      | some parent =>
        match mkdirs fuel d parent with
        | (.ok (), d) => d.makeHere path
        | (.error e, d) => (.error e, d)
      | none => (.error .notFound, d)
    | _, _ => d.makeHere path

def makeDirs (d : Disk) (path : String) : Except FileError Unit × Disk := d.mkdirs (path.length + 1) path

def createDirAll (d : Disk) (path : String) : Except FileError Disk :=
  match d.makeDirs path with
  | (.ok (), d) => .ok d
  | (.error e, _) => .error e

end CodeSearch.Files.Disk
