import CodeSearch.Proofs.Sync.Places

/-!
# What a synchronization touches

With a tool that keeps to the directory that a call is about, an action of a synchronization depends on the
places of its repository, and changes nothing else.
-/

namespace CodeSearch

open Files Config
open CodeSearch.Path (join tidy)

theorem ToolCall.target_cases (call : ToolCall) :
    call.target = call.place ∨ ∃ name, call.target = call.place ++ [name] := by
  unfold ToolCall.target
  split
  · exact .inr ⟨_, rfl⟩
  · exact .inl rfl

/-- The directory that a call is about holds the same, and saw the same calls. -/
structure ToolCall.SameView (call : ToolCall) (past past' : List ToolCall) (d d' : Disk) : Prop where
  here : d.root.node? call.place = some .dir
  there : d'.root.node? call.place = some .dir
  calls : callsAbout call.target past = callsAbout call.target past'
  files : ∀ q, call.target <+: q → d.root.node? q = d'.root.node? q

/-- What the tool answers and does for a directory depends only on the earlier calls about that directory and
on what it holds, and what it does stays inside. -/
structure Tool.Local (tool : Tool) : Prop where
  answers : ∀ {call past past' d d'}, call.SameView past past' d d' → (tool past call d).1 = (tool past' call d').1
  effects : ∀ {call past past' d d'}, call.SameView past past' d d' → ∀ q, call.target <+: q →
    (tool past call d).2.root.node? q = (tool past' call d').2.root.node? q
  inside : ∀ call past d, d.root.node? call.place = some .dir → ∀ q, ¬call.target <+: q →
    (tool past call d).2.root.node? q = d.root.node? q
  cwd : ∀ call past d, d.root.node? call.place = some .dir → (tool past call d).2.cwd = d.cwd
  /-- The directory does not become a link to elsewhere. -/
  plain : ∀ call past d, d.root.node? call.place = some .dir → d.Plain call.target →
    (tool past call d).2.Plain call.target

namespace Sync

/-- Two sites are the same to the synchronization of a repository. -/
structure SameFor (place : List Name) (name : String) (s t : Site) : Prop where
  files : ∀ q, Owned place name q → s.disk.root.node? q = t.disk.root.node? q
  calls : callsAbout (workPlace place name) s.calls = callsAbout (workPlace place name) t.calls

structure Clean (place : List Name) (name : String) (s : Site) : Prop where
  work : s.disk.Plain (workPlace place name)
  secret : s.disk.Plain (secretPlace place name)

/-- Between two sites only a repository has changed. -/
structure Touches (place : List Name) (name : String) (s s' : Site) : Prop where
  cwd : s'.disk.cwd = s.disk.cwd
  files : ∀ q, ¬Owned place name q → s'.disk.root.node? q = s.disk.root.node? q
  calls : ∀ dir, dir ≠ workPlace place name → callsAbout dir s'.calls = callsAbout dir s.calls
  clean : Clean place name s'

variable {tool : Tool} {place q : List Name} {name base label dir : String} {args : List String} {s t s' : Site}
  {off off' : List Name → Prop} {action : Action}

theorem Touches.refl (clean : Clean place name s) : Touches place name s s :=
  ⟨rfl, fun _ _ => rfl, fun _ _ => rfl, clean⟩

theorem owned_work (h : workPlace place name <+: q) : Owned place name q := .inl h

theorem not_work_prefix_secret : ¬workPlace place name <+: secretPlace place name := fun h =>
  workingName_ne_secretName (Utf8.encode_inj.1 (prefix_inj h (List.prefix_refl (secretPlace place name))))

theorem plain_congr {d d' : Disk} (plain : d.Plain q) (same : d'.root.node? q = d.root.node? q) : d'.Plain q :=
  fun target => same ▸ plain target

theorem callsAbout_concat (dir : List Name) (calls : List ToolCall) (call : ToolCall) :
    callsAbout dir (calls ++ [call]) = callsAbout dir calls ++ if call.target = dir then [call] else [] := by
  rw [callsAbout, List.filter_append, ← callsAbout]
  by_cases h : call.target = dir <;> simp [h]

theorem target_of_ne_clone {call : ToolCall} (h : call.args.head? ≠ some "clone") : call.target = call.place := by
  unfold ToolCall.target
  split
  · rename_i heq
    rw [heq] at h
    exact absurd rfl h
  · rfl

theorem work_owned (tool_local : tool.Local) (same : SameFor place name s t) (clean : Clean place name s)
    (target : ToolCall.target ⟨dir, q, args, toolSettings⟩ = workPlace place name)
    (here : s.disk.root.node? q = some .dir) (there : t.disk.root.node? q = some .dir) :
    (Site.work tool label dir args q s).1 = (Site.work tool label dir args q t).1 ∧
      SameFor place name (Site.work tool label dir args q s).2 (Site.work tool label dir args q t).2 ∧
      Touches place name s (Site.work tool label dir args q s).2 := by
  unfold Site.work
  dsimp only
  generalize hcall : (⟨dir, q, args, toolSettings⟩ : ToolCall) = call at target ⊢
  have hplace : call.place = q := by rw [← hcall]
  have hhere : s.disk.root.node? call.place = some .dir := hplace ▸ here
  have hthere : t.disk.root.node? call.place = some .dir := hplace ▸ there
  have view : call.SameView s.calls t.calls s.disk t.disk :=
    ⟨hhere, hthere, target ▸ same.calls, fun p hp => same.files p (owned_work (target ▸ hp))⟩
  have hanswer := tool_local.answers view
  have heffects := tool_local.effects view
  have hinside := tool_local.inside call s.calls s.disk hhere
  have hinside' := tool_local.inside call t.calls t.disk hthere
  have hcwd := tool_local.cwd call s.calls s.disk hhere
  have hplain := tool_local.plain call s.calls s.disk hhere (target ▸ clean.work)
  generalize tool s.calls call s.disk = after at *
  generalize tool t.calls call t.disk = after' at *
  obtain ⟨reply, d⟩ := after
  obtain ⟨reply', d'⟩ := after'
  obtain rfl : reply = reply' := hanswer
  rw [target] at heffects hinside hinside' hplain
  -- inside the working copy the tool does the same, and outside it does nothing
  have hfiles : ∀ p, Owned place name p → d.root.node? p = d'.root.node? p := by
    intro p hp
    by_cases hin : workPlace place name <+: p
    · exact heffects p hin
    · exact (hinside p hin).trans ((same.files p hp).trans (hinside' p hin).symm)
  have houter : ∀ p, ¬Owned place name p → d.root.node? p = s.disk.root.node? p := fun p hp =>
    hinside p fun hin => hp (owned_work hin)
  have hsecret : d.Plain (secretPlace place name) := plain_congr clean.secret (hinside _ not_work_prefix_secret)
  cases reply with
  | notStarted reason => exact ⟨rfl, ⟨hfiles, same.calls⟩, hcwd, houter, fun _ _ => rfl, hplain, hsecret⟩
  | ended success stdout stderr =>
    refine ⟨rfl, ⟨hfiles, ?_⟩, hcwd, houter, fun other hother => ?_, hplain, hsecret⟩
    · change callsAbout _ (_ ++ _) = callsAbout _ (_ ++ _)
      rw [callsAbout_concat, callsAbout_concat, same.calls]
    · change callsAbout _ (_ ++ _) = _
      rw [callsAbout_concat, if_neg (target ▸ Ne.symm hother), List.append_nil]

/-- A file is put into its place, or the reason why not is the same. -/
theorem create_owned (here : s.disk.LeadsTo off base place) (there : t.disk.LeadsTo off' base place)
    (same : SameFor place name s t) (clean : Clean place name s) (clean' : Clean place name t) (content : Bytes)
    (mode : Nat) :
    (∃ e, s.disk.create (Utf8.encode (join base (secretName name))) content mode = .error e ∧
        t.disk.create (Utf8.encode (join base (secretName name))) content mode = .error e) ∨
      ∃ d d', s.disk.create (Utf8.encode (join base (secretName name))) content mode = .ok d ∧
        t.disk.create (Utf8.encode (join base (secretName name))) content mode = .ok d' ∧
        SameFor place name { s with disk := d } { t with disk := d' } ∧
        Touches place name s { s with disk := d } := by
  have hentry := entry_secretName name
  rw [here.create_join hentry clean.secret, there.create_join hentry clean'.secret]
  have halike := Disk.entry_alike (same.files (secretPlace place name) (.inr (List.prefix_refl _)))
  rcases halike.cases with ⟨e, hs, ht⟩ | ⟨q, hs, ht⟩ | ⟨q, r, u, hs, ht, -⟩ <;> rw [hs, ht]
  · exact .inl ⟨e, rfl, rfl⟩
  · obtain rfl : q = secretPlace place name := Disk.path_of_entry hs
    obtain ⟨r, hr, hdir⟩ := Tree.node?_eq_some_dir here.leads.there.1
    obtain ⟨u, hu, hdir'⟩ := Tree.node?_eq_some_dir there.leads.there.1
    have hnew : ∀ p, (s.disk.root.modify (fun _ => some (.file content mode)) (secretPlace place name)).node? p =
        if secretPlace place name <+: p then (Tree.file content mode).node? (p.drop (place.length + 1))
        else s.disk.root.node? p := fun p => Tree.node?_modify hr hdir
    have hnew' : ∀ p, (t.disk.root.modify (fun _ => some (.file content mode)) (secretPlace place name)).node? p =
        if secretPlace place name <+: p then (Tree.file content mode).node? (p.drop (place.length + 1))
        else t.disk.root.node? p := fun p => Tree.node?_modify hu hdir'
    refine .inr ⟨_, _, rfl, rfl, ⟨fun p hp => ?_, same.calls⟩, rfl, fun p hp => ?_, fun _ _ => rfl, ?_, ?_⟩
    · rw [hnew, hnew', same.files p hp]
    · rw [hnew, if_neg fun hin => hp (.inr hin)]
    · refine plain_congr clean.work ((hnew _).trans (if_neg fun hin => ?_))
      exact workingName_ne_secretName (Utf8.encode_inj.1 (prefix_inj (List.prefix_refl _) hin))
    · intro target
      rw [hnew, if_pos (List.prefix_refl _)]
      simp [secretPlace, Tree.node?_nil, Files.Tree.node]
  · exact .inl ⟨.alreadyExists, rfl, rfl⟩

/-- What an action of a synchronization answers, and all that it changes, depends on the places of its
repository. -/
theorem perform_owned (tool_local : tool.Local) (here : s.disk.LeadsTo off base place)
    (there : t.disk.LeadsTo off' base place) (same : SameFor place name s t) (clean : Clean place name s)
    (clean' : Clean place name t) (owns : Owns base name action) :
    (Site.perform tool action s).1 = (Site.perform tool action t).1 ∧
      SameFor place name (Site.perform tool action s).2 (Site.perform tool action t).2 ∧
      Touches place name s (Site.perform tool action s).2 := by
  have hwork := same.files (workPlace place name) (.inl (List.prefix_refl _))
  have hsecret := same.files (secretPlace place name) (.inr (List.prefix_refl _))
  cases owns with
  | run label args other =>
    -- the tool is started in the working copy
    have halike := here.find_join_alike there (entry_workingName name) clean.work clean'.work true hwork
    have hstart := Site.startPlace_congr halike args
    simp only [Site.perform, Site.call, ← hstart]
    cases hplace : Site.startPlace s.disk (join base (workingName name)) args with
    | error reason => exact ⟨rfl, same, .refl clean⟩
    | ok q =>
      have hq : q = workPlace place name := by
        obtain ⟨u, hfind, -⟩ := Site.found_of_startPlace hplace
        exact Disk.path_of_entry ((here.find_join (entry_workingName name) clean.work true).symm.trans hfind)
      exact work_owned tool_local same clean ((target_of_ne_clone other).trans hq) (Site.dir_of_startPlace hplace)
        (Site.dir_of_startPlace (hstart ▸ hplace))
  | clone label url more =>
    -- the tool is started above the working copy, and makes it
    have hstart := Site.startPlace_congr (here.tidy.find_alike there.tidy)
      (["clone", "--depth", "1", url, workingName name] ++ more)
    simp only [Site.perform, Site.call, ← hstart]
    cases hplace : Site.startPlace s.disk (tidy base)
        (["clone", "--depth", "1", url, workingName name] ++ more) with
    | error reason => exact ⟨rfl, same, .refl clean⟩
    | ok q =>
      have hq : q = place := by
        obtain ⟨u, hfind, -⟩ := Site.found_of_startPlace hplace
        obtain ⟨nonempty, -, -⟩ := Disk.walk_of_find hfind
        obtain ⟨v, hfind', -⟩ := here.tidy.find nonempty
        cases hfind'.symm.trans hfind
        rfl
      exact work_owned tool_local same clean (hq ▸ rfl) (Site.dir_of_startPlace hplace)
        (Site.dir_of_startPlace (hstart ▸ hplace))
  | make =>
    simp only [Site.perform, Site.makeDirs, here.tidy.makeDirs, there.tidy.makeDirs, true_and]
    exact ⟨same, .refl clean⟩
  | keep text =>
    have halike := here.tidy.find_join_alike there.tidy (entry_secretName name) clean.secret clean'.secret true
      hsecret
    simp only [Site.perform, Site.keepSecret, ← Disk.pathExists_congr halike]
    split
    · exact ⟨rfl, same, .refl clean⟩
    cases text with
    | error e => exact ⟨rfl, same, .refl clean⟩
    | ok text =>
      rcases create_owned here.tidy there.tidy same clean clean' (Utf8.encode text) Site.ownerOnly with
        ⟨e, hs, ht⟩ | ⟨d, d', hs, ht, hsame, htouches⟩
      · simp only [hs, ht, true_and]
        exact ⟨same, .refl clean⟩
      · simp only [hs, ht, true_and]
        exact ⟨hsame, htouches⟩

end Sync

end CodeSearch
