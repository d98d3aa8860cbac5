import CodeSearch.Config.Load
import CodeSearch.Proofs.Files.Segments

/-!
# Where working copies are kept

A loaded configuration names the directory of its working copies by an absolute path, or by one that is read
in the current directory of the service. Which of the two it is depends on the environment, on the file, and
on what stands in the file.
-/

namespace CodeSearch.Config

open Files
open CodeSearch.Path (isAbsolute)

/-- The file that a configuration is read from, if it is read from any. -/
def sourceFile? (env : Environment) (disk : Disk) (explicit : Option String) : Option String :=
  match explicit, env "FATHOM_CONFIG" with
  | some path, _ => some path
  | none, some path => some path
  | none, none =>
    if disk.pathExists (UserDirs.ofEnv env).configFile then some (UserDirs.ofEnv env).configFile
    else if disk.pathExists "fathom.toml" then some "fathom.toml"
    else none

/-- The directory of working copies as it stands in a file, if one does. -/
def written? (disk : Disk) (file : String) : Option String :=
  match disk.readText file with
  | .error _ => none
  | .ok text =>
    ((parse (Path.extension? file == some "json") text).toOption.map (·.dbpath)).filter (· != "")

/-- The file that names a directory of working copies, and the directory as it stands there. -/
def namedDir? (env : Environment) (disk : Disk) (explicit : Option String) : Option (String × String) :=
  (sourceFile? env disk explicit).bind fun file => (written? disk file).map fun dir => (file, dir)

/-- A relative directory is meant from where the file is. -/
def fromFile (file dir : String) : String :=
  if isAbsolute dir then dir else Path.join ((Path.parent? file).getD ".") dir

variable {env : Environment} {disk : Disk} {explicit : Option String} {config : Config} {file dir : String}

theorem find_eq (env : Environment) (disk : Disk) (explicit : Option String) :
    find env disk explicit =
      match sourceFile? env disk explicit with
      | some file => ofFile disk file
      | none => .ok default := by
  unfold find sourceFile?
  cases explicit with
  | some path => rfl
  | none =>
    cases env "FATHOM_CONFIG" with
    | some path => rfl
    | none =>
      dsimp only
      split
      · rfl
      · split <;> rfl

theorem written?_eq {text : String} {parsed : Config} (htext : disk.readText file = .ok text)
    (hparse : parse (Path.extension? file == some "json") text = .ok parsed) :
    written? disk file = if parsed.dbpath = "" then none else some parsed.dbpath := by
  by_cases hempty : parsed.dbpath = "" <;> simp [written?, htext, hparse, Except.toOption, hempty]

theorem dbpath_of_ofFile (h : ofFile disk file = .ok config) :
    config.dbpath = ((written? disk file).map (fromFile file)).getD "" := by
  unfold ofFile at h
  cases htext : disk.readText file with
  | error e => simp [htext] at h
  | ok text =>
    cases hparse : parse (Path.extension? file == some "json") text with
    | error e => simp [htext, hparse, bind, Except.bind] at h
    | ok parsed =>
      rw [written?_eq htext hparse]
      simp only [htext, hparse, bind, Except.bind] at h
      by_cases hempty : parsed.dbpath = ""
      · rw [if_pos (by simp [hempty])] at h
        cases h
        simp [hempty]
      · have hnonempty : parsed.dbpath.isEmpty = false := by simpa using hempty
        rw [if_neg hempty, Option.map_some, Option.getD_some, fromFile]
        rw [hnonempty, Bool.false_or] at h
        split at h <;> cases h <;> simp [*]

theorem fromFile_ne_empty (h : written? disk file = some dir) : fromFile file dir ≠ "" := by
  have hnonempty : dir ≠ "" := by
    unfold written? at h
    split at h
    · cases h
    · simpa using (Option.filter_eq_some_iff.1 h).2
  unfold fromFile
  split
  · exact hnonempty
  · exact Path.join_ne_empty hnonempty

/-- The directory that is found, and the user's one where none is. -/
theorem dbpath_of_find (h : find env disk explicit = .ok config) :
    (if config.dbpath.isEmpty then (UserDirs.ofEnv env).reposDir else config.dbpath) =
      match namedDir? env disk explicit with
      | some (file, dir) => fromFile file dir
      | none => (UserDirs.ofEnv env).reposDir := by
  rw [find_eq] at h
  unfold namedDir?
  cases hsource : sourceFile? env disk explicit with
  | none =>
    simp only [hsource] at h
    cases h
    rfl
  | some file =>
    simp only [hsource] at h
    rw [dbpath_of_ofFile h, Option.bind_some]
    cases hwritten : written? disk file with
    | none => rfl
    | some dir => simp [fromFile_ne_empty hwritten]

/-- What the environment says wins over what is found. -/
theorem dbpath_of_load (h : load env disk explicit = .ok config) :
    config.dbpath =
      match env "FATHOM_DATA_DIR" with
      | some dir => Path.join dir "repos"
      | none =>
        match namedDir? env disk explicit with
        | some (file, dir) => fromFile file dir
        | none => (UserDirs.ofEnv env).reposDir := by
  unfold load at h
  cases hfound : find env disk explicit with
  | error e => simp [hfound, bind, Except.bind] at h
  | ok found =>
    have hdbpath := dbpath_of_find hfound
    simp only [hfound, bind, Except.bind, finalize, pure, Except.pure] at h
    split at h
    · cases h
    · cases h
      cases hset : env "FATHOM_DATA_DIR" with
      | some dir => simp [complete, withEnv, hset]
      | none =>
        dsimp only
        rw [← hdbpath]
        by_cases hempty : found.dbpath.isEmpty = true <;> simp [complete, withEnv, hset, hempty]

/-- The path of the working copies is absolute, whatever the current directory is. -/
inductive Rooted (env : Environment) (disk : Disk) (explicit : Option String) : Prop
  | environment {dir : String} (set : env "FATHOM_DATA_DIR" = some dir) (absolute : isAbsolute dir = true)
  | user (unset : env "FATHOM_DATA_DIR" = none) (unnamed : namedDir? env disk explicit = none)
      (absolute : isAbsolute (UserDirs.ofEnv env).data = true)
  | written {file dir : String} (unset : env "FATHOM_DATA_DIR" = none)
      (named : namedDir? env disk explicit = some (file, dir)) (absolute : isAbsolute dir = true)
  | beside {file dir : String} (unset : env "FATHOM_DATA_DIR" = none)
      (named : namedDir? env disk explicit = some (file, dir))
      (absolute : isAbsolute ((Path.parent? file).getD ".") = true)

theorem isAbsolute_repos (dir : String) : isAbsolute (Path.join dir "repos") = isAbsolute dir :=
  Path.isAbsolute_join (by decide)

theorem isAbsolute_fromFile (file dir : String) :
    isAbsolute (fromFile file dir) = (isAbsolute dir || isAbsolute ((Path.parent? file).getD ".")) := by
  unfold fromFile
  by_cases habsolute : isAbsolute dir = true
  · simp [habsolute]
  · have hrelative : isAbsolute dir = false := by simpa using habsolute
    rw [if_neg habsolute, Path.isAbsolute_join hrelative, hrelative, Bool.false_or]

theorem isAbsolute_dbpath_iff (h : load env disk explicit = .ok config) :
    isAbsolute config.dbpath = true ↔ Rooted env disk explicit := by
  rw [dbpath_of_load h]
  constructor
  · intro absolute
    cases hset : env "FATHOM_DATA_DIR" with
    | some dir =>
      simp only [hset, isAbsolute_repos] at absolute
      exact .environment hset absolute
    | none =>
      cases hnamed : namedDir? env disk explicit with
      | none =>
        simp only [hset, hnamed, UserDirs.reposDir, isAbsolute_repos] at absolute
        exact .user hset hnamed absolute
      | some named =>
        simp only [hset, hnamed, isAbsolute_fromFile, Bool.or_eq_true] at absolute
        rcases absolute with absolute | absolute
        · exact .written hset hnamed absolute
        · exact .beside hset hnamed absolute
  · intro rooted
    cases rooted with
    | environment set absolute => simpa only [set, isAbsolute_repos] using absolute
    | user unset unnamed absolute => simpa only [unset, unnamed, UserDirs.reposDir, isAbsolute_repos] using absolute
    | written unset named absolute => simp only [unset, named, isAbsolute_fromFile, absolute, Bool.true_or]
    | beside unset named absolute => simp only [unset, named, isAbsolute_fromFile, absolute, Bool.or_true]

end CodeSearch.Config
