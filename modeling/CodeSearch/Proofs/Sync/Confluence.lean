import CodeSearch.Proofs.Sync.Following
import CodeSearch.Proofs.Sync.SideBySide

/-!
# Synchronizing at once and one after another

Whatever task moves next, synchronizing several repositories at once comes to an end, and it ends as
synchronizing them one after another does, in any order: with the same results, the same files, and the same
calls of git about each directory.
-/

namespace CodeSearch.Sync

open Files Config

/-- How the directory of all working copies is found: either its path leads to it by no place of a
repository, and none of these places is a link, or it is missing, and its path leads upwards only from
directories that are there. -/
inductive Prepared (config : Config) (known : String → Prop) (site : Site) : Prop
  | there {place : List Name} (leads : site.disk.LeadsTo (OwnedByAny known place) config.dbpath place)
      (clean : ∀ x, known x → Clean place x site) : Prepared config known site
  | missing (nonempty : config.dbpath ≠ "") (missing : site.disk.isDir config.dbpath = false)
      (grounded : site.disk.Grounded config.dbpath) : Prepared config known site

variable {config : Config} {tool : Tool} {known : String → Prop} {site : Site} {names : List String}

/-- Where the directory of all working copies is new, nothing stands in it. -/
theorem ready_of_new {base : String} {disk : Disk} {place : List Name} (new : Disk.New base disk place) :
    Ready known base place { site with disk := disk } := by
  refine ⟨new.leads.mono ?_, fun x _ => ⟨?_, ?_⟩⟩
  · rintro q ⟨x, -, hown⟩
    exact below_of_owned hown
  · exact fun target => by rw [new.empty _ (below_of_owned (.inl (List.prefix_refl _)))]; simp
  · exact fun target => by rw [new.empty _ (below_of_owned (.inr (List.prefix_refl _)))]; simp

/-- When the directory of all working copies has been made it is there. -/
theorem Prepared.ready (prepared : Prepared config known site)
    (made : (site.disk.makeDirs config.dbpath).1 = .ok ()) :
    ∃ place, Ready known config.dbpath place (site.makeDirs config.dbpath).2 := by
  cases prepared with
  | there leads clean =>
    rw [Site.makeDirs, leads.makeDirs]
    exact ⟨_, leads, clean⟩
  | missing nonempty missing grounded =>
    rcases Disk.makeDirs_cases nonempty missing grounded with ⟨d, place, hmakes, hnew⟩ | ⟨e, d, hfails, -⟩
    · rw [Site.makeDirs, hmakes]
      exact ⟨place, ready_of_new hnew⟩
    · rw [hfails] at made
      cases made

/-- To make the directory of all working copies beforehand does no harm. -/
theorem Prepared.makeDirs (prepared : Prepared config known site)
    (made : (site.disk.makeDirs config.dbpath).1 = .ok ()) :
    Prepared config known (site.makeDirs config.dbpath).2 := by
  obtain ⟨place, ready⟩ := prepared.ready made
  exact .there ready.leads ready.clean

/-- What belongs to one repository of a configuration that passes its checks belongs to no other. -/
theorem disjoint_of_valid (valid : config.validate = .ok ())
    (driven : ∀ x, known x → (Coordinator.ofConfig config).contains x = true) : Disjoint known :=
  fun _ x y _ hx hy => name_eq_of_owned valid (begins_sync (driven x hx)).1 (begins_sync (driven y hy)).1

/-- The synchronizations of a configuration that passes its checks keep apart. -/
theorem exists_apart (valid : config.validate = .ok ()) (tool_local : tool.Local)
    (prepared : Prepared config known site) (sound : ∀ x, known x → (Coordinator.ofConfig config).contains x = true) :
    ∃ Sim, Apart tool known (Coordinator.ofConfig config).sync site Sim := by
  have hbegins : ∀ x, known x → Begins config.dbpath x ((Coordinator.ofConfig config).sync x) := fun x hx =>
    (begins_sync (sound x hx)).2
  have hdisjoint : Disjoint known := disjoint_of_valid valid sound
  cases prepared with
  | there leads clean =>
    exact ⟨_, apart_of_ready tool_local hdisjoint ⟨leads, clean⟩ fun x hx => (hbegins x hx).ownedBy⟩
  | missing nonempty missing grounded =>
    have hnonempty : Path.tidy config.dbpath ≠ "" := mt Path.tidy_eq_empty nonempty
    have hmissing := Disk.isDir_tidy nonempty missing
    rcases Disk.makeDirs_cases hnonempty hmissing (grounded.of_names (pathNames_tidy _) (startOf_tidy _)) with
      ⟨d, place, hmakes, hnew⟩ | ⟨e, d, hfails, hagain, hstays⟩
    · have hready : Ready known config.dbpath place { site with disk := d } :=
        ready_of_new ⟨hnew.leads.of_names (pathNames_tidy _).symm (startOf_tidy _).symm, hnew.empty⟩
      refine ⟨_, apart_of_makes tool_local hdisjoint ⟨hready, hnonempty, hmissing, ?_, fun x hx => ?_⟩ hbegins⟩
      · rw [Site.makeDirs, hmakes]
      · exact hnew.empty _ (below_of_owned (.inl (List.prefix_refl _)))
    · have hblocked : Blocked config.dbpath (.io e.message) site { site with disk := d } :=
        ⟨hnonempty, hmissing, hstays, by rw [Site.makeDirs, hfails], by rw [Site.makeDirs, hagain]⟩
      exact ⟨_, apart_of_blocked hblocked hbegins⟩

/-- How a run of a batch compares with synchronizing its names one after another. -/
structure Batch.Agrees (c : Coordinator VcsDriver) (tool : Tool) (names : List String) (site : Site)
    (moves : List BatchMove) (b : Batch) : Prop where
  /-- A run is short, and goes on until it is over. -/
  bounded : moves.length ≤ 25 * names.length
  goes_on : ¬b.Over → ∃ move b', Batch.step c tool b move = some b'
  /-- Every name has one result. -/
  names_once : b.Over → b.results.keys.Perm names
  unknown : b.Over → ∀ x ∈ names, c.contains x = false → b.results.get? x = some (.error (.repositoryNotFound x))
  /-- All is as after the names one after another, in any order. -/
  sequential : b.Over → ∀ order : List String, order.Perm names →
    ((c.syncMany order).run tool site).1 = b.results ∧ ((c.syncMany order).run tool site).2.Alike b.site
  /-- And it is so without the unknown names. -/
  without_unknown : b.Over → ∀ order : List String, order.Perm (names.filter c.contains) →
    (∀ x ∈ order, ((c.syncMany order).run tool site).1.get? x = b.results.get? x) ∧
      ((c.syncMany order).run tool site).2.Alike b.site

variable {c : Coordinator VcsDriver} {Sim : String → Site → SyncScript → Site → Prop} {moves : List BatchMove}
  {b : Batch}

/-- A batch that is over agrees with every sequence of names with the same known ones. -/
theorem Batch.Follows.sequence (order : List String) (apart : Apart tool known c.sync site Sim)
    (follows : Batch.Follows c tool known site Sim names b) (sound : b.Sound c) (ends : b.Over)
    (all : ∀ x, known x ↔ x ∈ order ∧ c.contains x = true) (distinct : order.Nodup) :
    ((c.syncMany order).run tool site).1 = c.answers tool site ∅ order ∧
      ((c.syncMany order).run tool site).2.Alike b.site := by
  obtain ⟨hresults, hdone, hsame⟩ := apart.run_syncMany all distinct
  obtain ⟨-, hdone', hsame'⟩ := follows.of_over sound ends
  refine ⟨hresults, ?_⟩
  by_cases hsome : ∃ x, known x
  · exact apart.agree hsome fun x hx => ⟨_, _, hdone x hx, hdone' x hx⟩
  · have hnone : ∀ x, ¬known x := not_exists.1 hsome
    rw [hsame hnone, hsame' hnone]
    exact .refl site

/-- Several synchronizations at once agree with the same ones after another. -/
theorem Batch.agrees_of_run (valid : config.validate = .ok ()) (distinct : names.Nodup) (tool_local : tool.Local)
    (prepared : Prepared config (fun x => x ∈ names ∧ (Coordinator.ofConfig config).contains x = true) site)
    (run : runMoves (Batch.step (Coordinator.ofConfig config) tool)
      (Batch.start (Coordinator.ofConfig config) names site) moves = some b) :
    b.Agrees (Coordinator.ofConfig config) tool names site moves := by
  obtain ⟨Sim, apart⟩ := exists_apart valid tool_local prepared fun x hx => hx.2
  have follows := follows_of_run apart (fun _ => Iff.rfl) distinct run
  have sound := sound_of_run run
  have hresults : b.Over → b.results = (Coordinator.ofConfig config).answers tool site ∅ names := fun ends =>
    (follows.of_over sound ends).1
  constructor
  case bounded =>
    have := length_add_left_le (fun _ _ => Coordinator.within_syncTarget) run
    omega
  case goes_on => exact sound.progress (Nat.lt_of_lt_of_le Nat.zero_lt_one (Nat.le_max_right ..))
  case names_once =>
    intro ends
    rw [List.perm_ext_iff_of_nodup (NameMap.keys_nodup _) distinct]
    intro x
    rw [NameMap.mem_keys, NameMap.contains, hresults ends, Coordinator.get?_answers]
    by_cases hx : x ∈ names <;> simp [hx, NameMap.get?_empty]
  case unknown =>
    intro ends x hx hunknown
    rw [hresults ends, Coordinator.get?_answers, if_pos hx, Coordinator.answer,
      Coordinator.sync_of_not_contains hunknown]
    rfl
  case sequential =>
    intro ends order hperm
    obtain ⟨hsequence, halike⟩ := follows.sequence order apart sound ends
      (fun x => by rw [hperm.mem_iff]) (hperm.nodup_iff.2 distinct)
    refine ⟨?_, halike⟩
    rw [hsequence, hresults ends]
    refine NameMap.ext_get? fun x => ?_
    rw [Coordinator.get?_answers, Coordinator.get?_answers]
    simp only [hperm.mem_iff]
  case without_unknown =>
    intro ends order hperm
    obtain ⟨hsequence, halike⟩ := follows.sequence order apart sound ends
      (fun x => by simp [hperm.mem_iff]) (hperm.nodup_iff.2 (distinct.filter _))
    refine ⟨fun x hx => ?_, halike⟩
    have hname : x ∈ names := (List.mem_filter.1 (hperm.mem_iff.1 hx)).1
    rw [hsequence, hresults ends, Coordinator.get?_answers, Coordinator.get?_answers, if_pos hx, if_pos hname]

/-- A git whose remotes are all empty: it makes working copies, and nothing can be fetched for them. -/
def emptyRemotes : Tool := fun _ call disk =>
  if disk.root.node? call.target = none then
    (.ended true [] [],
      { disk with root := disk.root.modify (fun _ => some (.dir [(Utf8.encode ".git", .dir [])])) call.target })
  else (.ended false [] [], disk)

theorem emptyRemotes_local : emptyRemotes.Local := by
  -- a working copy is made only as an entry of the directory where the call runs
  have hmade : ∀ (call : ToolCall) (d : Disk), d.root.node? call.place = some .dir →
      d.root.node? call.target = none → ∀ t q, (d.root.modify (fun _ => some t) call.target).node? q =
        if call.target <+: q then t.node? (q.drop call.target.length) else d.root.node? q := by
    intro call d hplace hnone t q
    rcases call.target_cases with htarget | ⟨name, htarget⟩
    · rw [htarget, hplace] at hnone
      cases hnone
    · obtain ⟨r, hr, hdir⟩ := Tree.node?_eq_some_dir hplace
      rw [htarget, Tree.node?_modify hr hdir, List.length_append, List.length_singleton]
  constructor
  case answers =>
    intro call past past' d d' view
    unfold emptyRemotes
    rw [view.files _ (List.prefix_refl _)]
    split <;> rfl
  case effects =>
    intro call past past' d d' view q hq
    unfold emptyRemotes
    rw [← view.files _ (List.prefix_refl _)]
    split
    · rename_i hnone
      have hnone' := (view.files _ (List.prefix_refl _)).symm.trans hnone
      rw [hmade call d view.here hnone, hmade call d' view.there hnone', if_pos hq, if_pos hq]
    · exact view.files q hq
  case inside =>
    intro call past d hplace q hq
    unfold emptyRemotes
    split
    · rename_i hnone
      rw [hmade call d hplace hnone, if_neg hq]
    · rfl
  case cwd =>
    intro call past d hplace
    unfold emptyRemotes
    split <;> rfl
  case plain =>
    intro call past d hplace hplain
    unfold emptyRemotes
    split
    · rename_i hnone
      intro target
      rw [hmade call d hplace hnone, if_pos (List.prefix_refl _), List.drop_length]
      simp [Tree.node?_nil, Files.Tree.node]
    · exact hplain

def twoCopies (dbpath : String) : Config :=
  { Config.default with
    dbpath := dbpath
    repos := .ofList [("a", .ofUrl "https://x/a"), ("b", .ofUrl "https://x/b")] }

def emptySite : Site := ⟨.ofDir "/srv", []⟩

/-- Both are cloned into a directory that has to be made, and one name is unknown. -/
def bothAtOnce : List BatchMove :=
  [.begin 0, .begin 1, .begin 0, .lock 1, .lock 0, .permit 0, .permit 1, .look 0, .look 1, .operate 1, .operate 0,
    .act 1, .act 0, .collect 0, .act 0, .act 1, .reply 1, .act 1, .reply 1, .reply 0, .act 0, .reply 0, .act 1,
    .reply 1, .act 1, .act 0, .reply 1, .finish 1, .giveBack 1, .unlock 1, .reply 0, .act 0, .collect 0, .reply 0,
    .finish 0, .giveBack 0, .unlock 0, .collect 0]

theorem Batch.agrees_of_bothAtOnce :
    ∃ b, runMoves (Batch.step (Coordinator.ofConfig (twoCopies "/srv/db")) emptyRemotes)
        (Batch.start (Coordinator.ofConfig (twoCopies "/srv/db")) ["b", "c", "a"] emptySite) bothAtOnce = some b ∧
      b.Over ∧
      b.Agrees (Coordinator.ofConfig (twoCopies "/srv/db")) emptyRemotes ["b", "c", "a"] emptySite bothAtOnce := by
  have valid : (twoCopies "/srv/db").validate = .ok () := by decide +kernel
  have missing : emptySite.disk.isDir "/srv/db" = false := by decide +kernel
  have grounded : emptySite.disk.Grounded "/srv/db" := Disk.grounded_of_notMem (by decide +kernel)
  have hrun : (runMoves (Batch.step (Coordinator.ofConfig (twoCopies "/srv/db")) emptyRemotes)
      (Batch.start (Coordinator.ofConfig (twoCopies "/srv/db")) ["b", "c", "a"] emptySite) bothAtOnce).any
        (fun b => decide b.Over) = true := by decide +kernel
  obtain ⟨b, run, ends⟩ := (Option.any_eq_true ..).1 hrun
  exact ⟨b, run, of_decide_eq_true ends,
    Batch.agrees_of_run valid (by decide) emptyRemotes_local (.missing (by decide) missing grounded) run⟩

def offline : Tool := fun _ _ disk => (.ended false [] [], disk)

theorem offline_local : offline.Local where
  answers _ := rfl
  effects view := view.files
  inside _ _ _ _ _ _ := rfl
  cwd _ _ _ _ := rfl
  plain _ _ _ _ plain := plain

/-- Where the path of the directory leads through a working copy, to make it makes that working copy. Then
the order counts: whoever comes first is cloned, and the other one is taken for cloned if it is the one. -/
theorem Batch.disagrees_through_copy :
    (twoCopies "/srv/db/vcs-a/..").validate = .ok () ∧ ["a", "b"].Nodup ∧ offline.Local ∧
      ∃ moves b, runMoves (Batch.step (Coordinator.ofConfig (twoCopies "/srv/db/vcs-a/..")) offline)
          (Batch.start (Coordinator.ofConfig (twoCopies "/srv/db/vcs-a/..")) ["a", "b"] emptySite) moves = some b ∧
        b.Over ∧
        ¬∀ order : List String, order.Perm ["a", "b"] →
          (((Coordinator.ofConfig (twoCopies "/srv/db/vcs-a/..")).syncMany order).run offline emptySite).1 =
            b.results := by
  have valid : (twoCopies "/srv/db/vcs-a/..").validate = .ok () := by decide +kernel
  have first : (((Coordinator.ofConfig (twoCopies "/srv/db/vcs-a/..")).syncMany ["a", "b"]).run offline
      emptySite).1.get? "a" = some (.error (.vcsCommand "git clone" "/srv/db/vcs-a/.." "")) := by
    decide +kernel
  have second : (((Coordinator.ofConfig (twoCopies "/srv/db/vcs-a/..")).syncMany ["b", "a"]).run offline
      emptySite).1.get? "a" = some (.error (.vcsCommand "git rev-parse" "/srv/db/vcs-a/../vcs-a" "")) := by
    decide +kernel
  have hrun : (runMoves (Batch.step (Coordinator.ofConfig (twoCopies "/srv/db/vcs-a/..")) offline)
      (Batch.start (Coordinator.ofConfig (twoCopies "/srv/db/vcs-a/..")) ["a", "b"] emptySite)
      [.begin 0, .lock 0, .permit 0, .look 0, .operate 0, .act 0, .act 0, .reply 0, .finish 0, .giveBack 0, .unlock 0,
        .collect 0, .begin 0, .lock 1, .permit 1, .look 1, .operate 1, .act 1, .act 1, .reply 1, .finish 1,
        .giveBack 1, .unlock 1, .collect 0]).any (fun b => decide b.Over) = true := by decide +kernel
  obtain ⟨b, run, ends⟩ := (Option.any_eq_true ..).1 hrun
  refine ⟨valid, by decide, offline_local, _, b, run, of_decide_eq_true ends, fun agree => ?_⟩
  rw [agree ["a", "b"] (.refl _)] at first
  rw [agree ["b", "a"] (.swap ..)] at second
  exact absurd (first.symm.trans second) (by simp)

/-- The place of one repository is a link to that of another. -/
def linkedSite : Site :=
  let copies : Tree := .dir [(Utf8.encode "vcs-b", .link (Utf8.encode "vcs-a"))]
  ⟨⟨.dir [(Utf8.encode "srv", .dir [(Utf8.encode "db", copies)])], []⟩, []⟩

-- Links are excluded for the same reason: through this one the second repository is taken for cloned, but
-- only once the first one is.
example :
    (((Coordinator.ofConfig (twoCopies "/srv/db")).syncMany ["a", "b"]).run emptyRemotes linkedSite).1.get? "b" =
        some (.error (.vcsCommand "git rev-parse" "/srv/db/vcs-b" "")) ∧
      (((Coordinator.ofConfig (twoCopies "/srv/db")).syncMany ["b", "a"]).run emptyRemotes linkedSite).1.get? "b" =
        some (.error (.vcsCommand "git clone" "/srv/db" "")) := by
  decide +kernel

end CodeSearch.Sync
