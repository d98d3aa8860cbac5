import CodeSearch.Proofs.Files.Making
import CodeSearch.Proofs.Vcs.Attempts

/-!
# How the git driver goes about its work

The calls that the driver tries, in their order, whatever comes of each of them. A pull finds out which ref to
follow, fetches it and resets to it, and answers the revision that is then checked out; no failure on the way
stops it. A clone is one call in the directory above, and what follows on its success is a pull.
-/

namespace CodeSearch.Git

open Files

variable {output branch : String} {settings : Settings} {dir url : String} {tool : Tool} {site : Site}

/-! ## The branch that a remote names -/

/-- A line that begins with the mark, after blanks, and what stands behind the mark. -/
def Marked (line rest : String) : Prop :=
  ∃ blanks : String, (∀ c ∈ blanks.toList, Text.isBlank c = true) ∧ line = blanks ++ "HEAD branch:" ++ rest

/-- The first line with the mark names a branch; it names none if there is nothing but blanks behind the mark. -/
def Names (output branch : String) : Prop :=
  ∃ before line after rest, Text.lines output = before ++ line :: after ∧ Marked line rest ∧
    (∀ other ∈ before, ∀ rest, ¬Marked other rest) ∧ branch = Text.trim rest ∧ branch ≠ ""

theorem marked_ofList_iff {line rest : List Char} :
    Marked (String.ofList line) (String.ofList rest) ↔
      ∃ blanks : List Char, (∀ c ∈ blanks, Text.isBlank c = true) ∧ line = blanks ++ (headMark ++ rest) := by
  constructor
  · rintro ⟨blanks, hblank, hline⟩
    refine ⟨blanks.toList, hblank, ?_⟩
    have htext := congrArg String.toList hline
    simp only [String.toList_append, String.toList_ofList, List.append_assoc] at htext
    exact htext
  · rintro ⟨blanks, hblank, rfl⟩
    refine ⟨String.ofList blanks, by rwa [String.toList_ofList], ?_⟩
    rw [← String.toList_inj]
    simp only [String.toList_append, String.toList_ofList, List.append_assoc]
    rfl

theorem dropWhile_headMark (rest : List Char) : (headMark ++ rest).dropWhile Text.isBlank = headMark ++ rest := by
  have hmark : headMark = 'H' :: "EAD branch:".toList := by decide
  rw [hmark]
  exact List.dropWhile_cons_of_neg (by decide)

theorem afterMark?_eq_some_iff {line rest : List Char} :
    afterMark? line = some rest ↔ Marked (String.ofList line) (String.ofList rest) := by
  rw [marked_ofList_iff]
  unfold afterMark?
  dsimp only
  constructor
  · intro h
    split at h
    · rename_i hprefix
      obtain ⟨more, hmore⟩ := List.isPrefixOf_iff_prefix.1 hprefix
      rw [← hmore, List.drop_left, Option.some.injEq] at h
      refine ⟨line.takeWhile Text.isBlank, fun c hc => ?_, ?_⟩
      · exact List.all_eq_true.1 (List.all_takeWhile (p := Text.isBlank)) c hc
      · rw [← h, hmore, List.takeWhile_append_dropWhile]
    · cases h
  · rintro ⟨blanks, hblank, rfl⟩
    rw [List.dropWhile_append_of_pos hblank, dropWhile_headMark,
      if_pos (List.isPrefixOf_iff_prefix.2 (List.prefix_append ..)), List.drop_left]

theorem headBranch?_eq_some_iff : headBranch? output = some branch ↔ Names output branch := by
  have hname (rest : List Char) : String.ofList (Text.trimChars rest) = Text.trim (String.ofList rest) := by
    rw [Text.trim, String.toList_ofList]
  unfold headBranch?
  constructor
  · intro h
    cases hfound : (Text.lineChars output.toList).findSome? afterMark? with
    | none => simp [hfound] at h
    | some rest =>
      obtain ⟨before, line, after, hlines, hmark, hbefore⟩ := List.findSome?_eq_some_iff.1 hfound
      simp only [hfound, Option.ite_none_left_eq_some, Option.some.injEq] at h
      obtain ⟨hempty, rfl⟩ := h
      refine ⟨before.map String.ofList, String.ofList line, after.map String.ofList, String.ofList rest, ?_,
        afterMark?_eq_some_iff.1 hmark, ?_, hname rest, by simpa using hempty⟩
      · rw [Text.lines, hlines, List.map_append, List.map_cons]
      · intro other hother rest' hmarked
        obtain ⟨chars, hchars, rfl⟩ := List.mem_map.1 hother
        rw [← String.ofList_toList (s := rest'), ← afterMark?_eq_some_iff, hbefore chars hchars] at hmarked
        cases hmarked
  · rintro ⟨before, line, after, rest, hlines, hmark, hbefore, rfl, hne⟩
    obtain ⟨before', rest', hlines', rfl, hcons⟩ := List.map_eq_append_iff.1 hlines
    obtain ⟨line', after', rfl, rfl, rfl⟩ := List.map_eq_cons_iff.1 hcons
    have hfound : (Text.lineChars output.toList).findSome? afterMark? = some rest.toList := by
      refine List.findSome?_eq_some_iff.2 ⟨before', line', after', hlines', ?_, fun other hother => ?_⟩
      · rwa [afterMark?_eq_some_iff, String.ofList_toList]
      · refine Option.eq_none_iff_forall_ne_some.2 fun rest' hsome => ?_
        exact hbefore _ (List.mem_map_of_mem hother) _ (afterMark?_eq_some_iff.1 hsome)
    simp only [hfound, hname, String.ofList_toList, Option.ite_none_left_eq_some, and_true]
    intro hempty
    apply hne
    rw [Text.trim, List.isEmpty_iff.1 hempty]

/-! ## Pulls -/

/-- The ref that a working copy follows, by what becomes of asking the remote, if it is asked at all. -/
inductive TargetRef (settings : Settings) : Option ToolReply → String → Prop
  | configured (set : settings.ref ≠ "") : TargetRef settings none settings.ref
  | detected {reply : ToolReply} {output branch : String} (unset : settings.ref = "")
      (detects : settings.detectRef = true) (told : reply.output? = some output) (named : Names output branch) :
      TargetRef settings (some reply) branch
  | undetected {reply : ToolReply} (unset : settings.ref = "") (detects : settings.detectRef = true)
      (unnamed : ∀ output branch, reply.output? = some output → ¬Names output branch) :
      TargetRef settings (some reply) "master"
  | fallback (unset : settings.ref = "") (detects : settings.detectRef = false) : TargetRef settings none "master"

theorem remoteHead_spec (dir : String) (tool : Tool) (site : Site) :
    (remoteHead dir).attempts tool site =
        [⟨dir, ["remote", "show", "origin"], site.reply tool dir ["remote", "show", "origin"]⟩] ∧
      ((remoteHead dir).run tool site).1 =
        (site.reply tool dir ["remote", "show", "origin"]).output?.bind headBranch? := by
  have hanswer := Site.call_answer tool "git remote show" dir ["remote", "show", "origin"] site
  constructor
  · refine (Script.attempts_bind ..).trans ?_
    rw [Script.attempts_call]
    cases ((Script.call "git remote show" dir ["remote", "show", "origin"]).run tool site).1 <;> rfl
  · refine (congrArg Prod.fst (Script.run_bind ..)).trans ?_
    rw [Script.run_call, hanswer]
    cases site.reply tool dir ["remote", "show", "origin"] with
    | notStarted reason => rfl
    | ended success stdout stderr => cases success <;> rfl

/-- What is followed is settled by the settings and by what the remote tells. -/
theorem targetRef_spec (settings : Settings) (dir : String) (tool : Tool) (site : Site) :
    ∃ asked, TargetRef settings asked ((targetRef settings remoteHead dir).run tool site).1 ∧
      (targetRef settings remoteHead dir).attempts tool site =
        asked.toList.map fun reply => ⟨dir, ["remote", "show", "origin"], reply⟩ := by
  by_cases hset : settings.ref = ""
  · cases hdetect : settings.detectRef with
    | false =>
      rw [targetRef, if_neg (by simp [hset]), if_neg (by simp [hdetect])]
      exact ⟨none, .fallback hset hdetect, rfl⟩
    | true =>
      obtain ⟨hattempts, hfound⟩ := remoteHead_spec dir tool site
      rw [targetRef, if_neg (by simp [hset]), if_pos hdetect]
      refine ⟨some (site.reply tool dir ["remote", "show", "origin"]), ?_, ?_⟩
      · refine Eq.mpr (congrArg (TargetRef settings _) (congrArg Prod.fst (Script.run_bind ..))) ?_
        rw [hfound]
        cases houtput : (site.reply tool dir ["remote", "show", "origin"]).output? with
        | none => exact .undetected hset hdetect fun output branch told => by rw [houtput] at told; cases told
        | some output =>
          cases hbranch : headBranch? output with
          | none =>
            simp only [Option.bind_some, hbranch]
            refine .undetected hset hdetect fun output' branch told => ?_
            rw [houtput, Option.some.injEq] at told
            rw [← told, ← headBranch?_eq_some_iff, hbranch]
            nofun
          | some branch =>
            simp only [Option.bind_some, hbranch]
            exact .detected hset hdetect houtput (headBranch?_eq_some_iff.1 hbranch)
      · exact (Script.attempts_bind ..).trans (by rw [hattempts]; rfl)
  · rw [targetRef, if_pos (by simpa using hset)]
    exact ⟨none, .configured hset, rfl⟩

/-- The calls of a pull, all in the working copy, and its answer. -/
def Pulls (settings : Settings) (dir : String) (attempts : List Attempt) (answer : Except Failure String) : Prop :=
  ∃ asked ref fetched reset head, TargetRef settings asked ref ∧
    attempts = (asked.toList.map fun reply => ⟨dir, ["remote", "show", "origin"], reply⟩) ++
      [⟨dir, ["fetch", "--prune", "--no-tags", "--depth", "1", "origin",
          "+" ++ ref ++ ":remotes/origin/" ++ ref], fetched⟩,
        ⟨dir, ["reset", "--hard", "origin/" ++ ref], reset⟩,
        ⟨dir, ["rev-parse", "HEAD"], head⟩] ∧
    ∀ rev, answer = .ok rev ↔ ∃ output, head.output? = some output ∧ Text.trim output = rev

/-- Each failure on the way but the last is passed over. -/
theorem follow_spec (ref dir : String) (tool : Tool) (site : Site) :
    ∃ fetched reset head, (follow ref dir).attempts tool site =
        [⟨dir, fetchArgs ref, fetched⟩, ⟨dir, ["reset", "--hard", "origin/" ++ ref], reset⟩,
          ⟨dir, ["rev-parse", "HEAD"], head⟩] ∧
      ((follow ref dir).run tool site).1 = (head.answer "git rev-parse" dir).map Text.trim := by
  refine ⟨_, _, _, rfl, ?_⟩
  change Except.map Text.trim (Site.call tool "git rev-parse" dir ["rev-parse", "HEAD"] _).1 = _
  rw [Site.call_answer]

theorem pulls_pull (settings : Settings) (dir : String) (tool : Tool) (site : Site) :
    Pulls settings dir ((pull settings remoteHead dir).attempts tool site)
      ((pull settings remoteHead dir).run tool site).1 := by
  obtain ⟨asked, htarget, hasked⟩ := targetRef_spec settings dir tool site
  obtain ⟨fetched, reset, head, hfollow, hanswer⟩ :=
    follow_spec ((targetRef settings remoteHead dir).run tool site).1 dir tool
      ((targetRef settings remoteHead dir).run tool site).2
  refine ⟨asked, _, fetched, reset, head, htarget, ?_, fun rev => ?_⟩
  · exact (Script.attempts_bind ..).trans (by rw [hasked, hfollow]; rfl)
  · have hrun : ((pull settings remoteHead dir).run tool site).1 = (head.answer "git rev-parse" dir).map Text.trim :=
      (congrArg Prod.fst (Script.run_bind ..)).trans hanswer
    rw [hrun]
    constructor
    · intro hok
      cases houtput : head.answer "git rev-parse" dir with
      | error e => rw [houtput] at hok; cases hok
      | ok output =>
        rw [houtput] at hok
        exact ⟨output, ToolReply.answer_eq_ok_iff.1 houtput, Except.ok.inj hok⟩
    · rintro ⟨output, houtput, rfl⟩
      rw [ToolReply.answer_eq_ok_iff.2 houtput]
      rfl

/-! ## Clones -/

theorem exists_parent? {name : String} (named : Path.fileName? dir = some name) :
    ∃ parent, Path.parent? dir = some parent := by
  unfold Path.fileName? at named
  unfold Path.parent?
  generalize Path.front dir.toList = parts at named ⊢
  dsimp only
  split
  · rename_i hempty
    rw [List.isEmpty_iff.1 hempty] at named
    cases named
  · exact ⟨_, rfl⟩

variable {parent name : String}

theorem splitDir_of_named (named : Path.fileName? dir = some name) (above : Path.parent? dir = some parent) :
    splitDir dir = .ok (parent, name) := by
  rw [splitDir, named, above]
  rfl

theorem attempts_credentialArgs (settings : Settings) (parent name url : String) (tool : Tool) (site : Site) :
    (credentialArgs settings parent name url).attempts tool site = [] := by
  unfold credentialArgs
  split
  · refine (Script.attempts_bind ..).trans ?_
    cases ((Script.keepSecret (credentialPath parent name)
      (credentialLine url settings.username settings.password)).run tool site).1 <;> rfl
  · rfl

/-- One call to clone, in the directory above. If it fails, its failure is the answer and no call follows;
else a pull follows. -/
inductive Clones (settings : Settings) (dir parent : String) (args : List String) (tool : Tool) (site : Site) :
    List Attempt → Except Failure String × Site → Prop
  | failed {e : Failure} (failure : (site.reply tool parent args).answer "git clone" parent = .error e) :
      Clones settings dir parent args tool site [⟨parent, args, site.reply tool parent args⟩]
        (.error e, (site.call tool "git clone" parent args).2)
  | cloned {output : String} (success : (site.reply tool parent args).answer "git clone" parent = .ok output) :
      Clones settings dir parent args tool site
        (⟨parent, args, site.reply tool parent args⟩ ::
          (pull settings remoteHead dir).attempts tool (site.call tool "git clone" parent args).2)
        ((pull settings remoteHead dir).run tool (site.call tool "git clone" parent args).2)

def cloneCall (settings : Settings) (dir parent : String) (args : List String) : Script (Except Failure String) :=
  (Script.call "git clone" parent args).bind fun
    | .error e => .done (.error e)
    | .ok _ => pull settings remoteHead dir

theorem clones_cloneCall (settings : Settings) (dir parent : String) (args : List String) (tool : Tool) (site : Site) :
    Clones settings dir parent args tool site ((cloneCall settings dir parent args).attempts tool site)
      ((cloneCall settings dir parent args).run tool site) := by
  rw [cloneCall, Script.attempts_bind, Script.run_bind, Script.attempts_call, Script.run_call, Site.call_answer]
  cases hanswer : (site.reply tool parent args).answer "git clone" parent with
  | error e => exact .failed hanswer
  | ok output => exact .cloned hanswer

theorem clone_eq (named : Path.fileName? dir = some name) (above : Path.parent? dir = some parent) :
    clone settings remoteHead dir url = (Script.makeDirs parent).bind fun
      | .error e => .done (.error e)
      | .ok _ => (credentialArgs settings parent name url).bind fun more =>
        cloneCall settings dir parent (["clone", "--depth", "1", url, name] ++ more) := by
  rw [clone, splitDir_of_named named above]
  refine congrArg (Script.act (.makeDirs parent)) (funext fun made => ?_)
  cases made with
  | error e => rfl
  | ok path =>
    refine congrArg (Script.bind (credentialArgs settings parent name url)) (funext fun more => ?_)
    refine congrArg (Script.act (.call "git clone" parent _)) (funext fun answer => ?_)
    cases answer <;> rfl

/-- A path that does not end in a name is refused before anything is done. -/
theorem clone_nameless (nameless : Path.fileName? dir = none) : clone settings remoteHead dir url =
    .done (.error (.config ("Invalid working directory " ++ Text.quotedPath dir))) := by
  rw [clone, splitDir, nameless]
  rfl

/-- What git is asked, where and in which order, and what is answered in the end. -/
structure KeepsProtocol (settings : Settings) (dir url : String) (tool : Tool) (site : Site) : Prop where
  pulls : Pulls settings dir ((pull settings remoteHead dir).attempts tool site)
    ((pull settings remoteHead dir).run tool site).1
  placed : ∀ name, Path.fileName? dir = some name → ∃ parent, Path.parent? dir = some parent
  clones : ∀ name parent, Path.fileName? dir = some name → Path.parent? dir = some parent →
    (site.disk.isDir parent = true ∨ ∃ disk, site.disk.makeDirs parent = (.ok (), disk)) →
    ∃ disk more ready, site.disk.makeDirs parent = (.ok (), disk) ∧
      (credentialArgs settings parent name url).run tool { site with disk := disk } = (more, ready) ∧
      Clones settings dir parent (["clone", "--depth", "1", url, name] ++ more) tool ready
        ((clone settings remoteHead dir url).attempts tool site) ((clone settings remoteHead dir url).run tool site)
  unplaced : ∀ name parent, Path.fileName? dir = some name → Path.parent? dir = some parent →
    ∀ e disk, site.disk.makeDirs parent = (.error e, disk) →
      (clone settings remoteHead dir url).attempts tool site = [] ∧
        (clone settings remoteHead dir url).run tool site = (.error (.io e.message), { site with disk := disk })
  nameless : Path.fileName? dir = none →
    (clone settings remoteHead dir url).attempts tool site = [] ∧
      (clone settings remoteHead dir url).run tool site =
        (.error (.config ("Invalid working directory " ++ Text.quotedPath dir)), site)

theorem keepsProtocol (settings : Settings) (dir url : String) (tool : Tool) (site : Site) :
    KeepsProtocol settings dir url tool site where
  pulls := pulls_pull settings dir tool site
  placed _ named := exists_parent? named
  clones name parent named above there := by
    obtain ⟨disk, hmade⟩ : ∃ disk, site.disk.makeDirs parent = (.ok (), disk) := by
      rcases there with isDir | made
      · exact ⟨site.disk, Disk.makeDirs_of_isDir isDir⟩
      · exact made
    have hsite : site.makeDirs parent = (.ok parent, { site with disk := disk }) := by rw [Site.makeDirs, hmade]
    refine ⟨disk, _, _, hmade, rfl, ?_⟩
    rw [clone_eq named above, Script.attempts_bind, Script.run_bind]
    rw [Script.attempts_makeDirs, Script.run_makeDirs, hsite]
    dsimp only
    rw [Script.attempts_bind, Script.run_bind, attempts_credentialArgs, List.nil_append, List.nil_append]
    exact clones_cloneCall ..
  unplaced name parent named above e disk failed := by
    have hsite : site.makeDirs parent = (.error (.io e.message), { site with disk := disk }) := by
      rw [Site.makeDirs, failed]
    rw [clone_eq named above, Script.attempts_bind, Script.run_bind, Script.attempts_makeDirs, Script.run_makeDirs,
      hsite]
    exact ⟨rfl, rfl⟩
  nameless nameless := by
    rw [clone_nameless nameless]
    exact ⟨rfl, rfl⟩

/-- There may be a directory above a path that does not end in a name. Nothing is cloned there. -/
theorem nothing_cloned_up :
    Path.parent? "/srv/copy/.." = some "/srv/copy" ∧ (Disk.ofDir "/srv/copy").isDir "/srv/copy" = true ∧
      ∀ settings url tool,
        (clone settings remoteHead "/srv/copy/.." url).attempts tool ⟨.ofDir "/srv/copy", []⟩ = [] := by
  refine ⟨by decide +kernel, by decide +kernel, fun settings url tool => ?_⟩
  rw [clone_nameless (by decide +kernel)]
  rfl

end CodeSearch.Git
