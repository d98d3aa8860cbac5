import CodeSearch.Proofs.Files.Masks
import CodeSearch.Proofs.Vcs.Scripts

/-!
# Secrets that scripts keep

Two scripts that differ at most in the secrets that they keep are run on the same files, with a tool that
answers alike. What comes of them differs at most in the contents of the files in which the secrets are
kept. One action is compared at a time; the scripts go on alike because the answers are the same.
-/

namespace CodeSearch

open Files

/-- A file that was put where nothing was, to keep a secret. -/
structure KeptSecret where
  path : String
  place : List Name
  file : Tree

def KeptSecret.newAt (path : String) (before after : Disk) : List KeptSecret :=
  match before.find false (Utf8.encode path) with
  | .ok ⟨place, none⟩ => (after.root.at? place).toList.map (KeptSecret.mk path place)
  | _ => []

/-- What an action has put where nothing was, to keep a secret. -/
def Action.kept : Action → (before after : Disk) → List KeptSecret
  | .keepSecret path _, before, after => KeptSecret.newAt path before after
  | _, _, _ => []

/-- What a tool is asked: a call, after the calls before and with the files as they are. -/
structure Query where
  past : List ToolCall
  call : ToolCall
  disk : Disk

def Query.ofCall (dir : String) (args : List String) (s : Site) : List Query :=
  match Site.startPlace s.disk dir args with
  | .ok place => [⟨s.calls, ⟨dir, place, args, toolSettings⟩, s.disk⟩]
  | .error _ => []

def Action.asked : Action → Site → List Query
  | .call _ dir args, s => Query.ofCall dir args s
  | _, _ => []

namespace Script

variable {α β : Type}

def kept (tool : Tool) : Script α → Site → List KeptSecret
  | .done _, _ => []
  | .act action next, s =>
    let (answer, after) := Site.perform tool action s
    action.kept s.disk after.disk ++ (next answer).kept tool after
  | .test dir next, s => (next (s.disk.isDir dir)).kept tool s

def asked (tool : Tool) : Script α → Site → List Query
  | .done _, _ => []
  | .act action next, s =>
    let (answer, after) := Site.perform tool action s
    action.asked s ++ (next answer).asked tool after
  | .test dir next, s => (next (s.disk.isDir dir)).asked tool s

end Script

variable {hidden : List Name → Bool} {tool : Tool} {s t : Site} {action action' : Action} {path : String}
  {text : Except Failure String} {k : KeptSecret} {d d' e e' : Disk}

/-! ## Files with secrets -/

namespace Site

variable {secret : String} {e : FileError} {disk : Disk}

theorem keepSecret_there (h : s.disk.pathExists path = true) : keepSecret path text s = (.ok path, s) := if_pos h

theorem keepSecret_refused {e : Failure} (free : ¬s.disk.pathExists path = true) :
    keepSecret path (.error e) s = (.error e, s) := if_neg free

theorem keepSecret_failed (free : ¬s.disk.pathExists path = true)
    (h : s.disk.create (Utf8.encode path) (Utf8.encode secret) ownerOnly = .error e) :
    keepSecret path (.ok secret) s = (.error (.io e.message), s) := by
  rw [keepSecret, if_neg free]
  simp only [h]

theorem keepSecret_made (free : ¬s.disk.pathExists path = true)
    (h : s.disk.create (Utf8.encode path) (Utf8.encode secret) ownerOnly = .ok disk) :
    keepSecret path (.ok secret) s = (.ok path, { s with disk := disk }) := by
  rw [keepSecret, if_neg free]
  simp only [h]

/-- To keep a secret leaves the files as they are, or makes a new one that only its owner may read. -/
theorem keepSecret_cases (path : String) (text : Except Failure String) (s : Site) :
    (keepSecret path text s).2 = s ∨ ∃ secret disk place, text = .ok secret ∧
      (keepSecret path text s).2 = { s with disk := disk } ∧
      s.disk.find false (Utf8.encode path) = .ok ⟨place, none⟩ ∧
      disk.root.at? place = some (.file (Utf8.encode secret) ownerOnly) := by
  by_cases free : s.disk.pathExists path = true
  · rw [keepSecret_there free]
    exact .inl rfl
  cases text with
  | error e =>
    rw [keepSecret_refused free]
    exact .inl rfl
  | ok secret =>
    cases hcreate : s.disk.create (Utf8.encode path) (Utf8.encode secret) ownerOnly with
    | error e =>
      rw [keepSecret_failed free hcreate]
      exact .inl rfl
    | ok disk =>
      obtain ⟨place, hfind, hfile⟩ := Disk.create_spec hcreate
      rw [keepSecret_made free hcreate]
      exact .inr ⟨secret, disk, place, rfl, rfl, hfind, hfile⟩

end Site

namespace KeptSecret

theorem mem_newAt : k ∈ newAt path d d' ↔ k.path = path ∧ d.find false (Utf8.encode path) = .ok ⟨k.place, none⟩ ∧
    d'.root.at? k.place = some k.file := by
  obtain ⟨path', place, file⟩ := k
  unfold newAt
  split
  · rename_i other hfind
    simp only [List.mem_map, Option.mem_toList, mk.injEq, hfind]
    constructor
    · rintro ⟨_, hfile, rfl, rfl, rfl⟩
      exact ⟨rfl, rfl, hfile⟩
    · rintro ⟨rfl, hplace, hfile⟩
      obtain ⟨rfl, -⟩ := Found.mk.inj (Except.ok.inj hplace)
      exact ⟨file, hfile, rfl, rfl, rfl⟩
  · rename_i hother
    exact ⟨nofun, fun h => absurd h.2.1 (hother place)⟩

/-- A secret is kept in a new file that only its owner may read. -/
theorem ownerOnly_of_mem (h : k ∈ newAt path s.disk (Site.keepSecret path text s).2.disk) :
    k.path = path ∧ ∃ content, k.file = .file content Site.ownerOnly := by
  obtain ⟨hpath, hfind, hfile⟩ := mem_newAt.1 h
  refine ⟨hpath, ?_⟩
  rcases Site.keepSecret_cases path text s with hsame | ⟨secret, disk, place, -, hmade, hplace, hnew⟩
  · have hnone : s.disk.root.at? k.place = none := at?_of_walk (Disk.walk_of_find hfind).2.2
    rw [hsame, hnone] at hfile
    cases hfile
  · obtain ⟨rfl, -⟩ := Found.mk.inj (Except.ok.inj (hplace.symm.trans hfind))
    rw [hmade, hnew] at hfile
    exact ⟨_, (Option.some.inj hfile).symm⟩

end KeptSecret

/-- The same files are new where the disks are masked alike. -/
theorem KeptSecret.newAt_alike (before : d.mask hidden = e.mask hidden) (after : d'.mask hidden = e'.mask hidden) :
    (newAt path d d').map (fun k => (k.path, k.place)) = (newAt path e e').map fun k => (k.path, k.place) := by
  unfold newAt
  rcases Disk.find_cases before false (Utf8.encode path) with ⟨error, hd, he⟩ | ⟨place, u, v, hd, he⟩ | ⟨place, hd, he⟩
  · rw [hd, he]
  · rw [hd, he]
  · rw [hd, he]
    have hthere : (d'.root.at? place).isSome = (e'.root.at? place).isSome := by
      have hmask := congrArg (fun disk : Disk => (disk.root.at? place).isSome) after
      simpa [Disk.mask, Tree.at?_mask] using hmask
    cases hd' : d'.root.at? place <;> cases he' : e'.root.at? place <;> simp_all

/-! ## One action -/

/-- Actions that differ at most in the secret that they keep. -/
inductive Action.SameBut : Action → Action → Prop
  | refl (action : Action) : SameBut action action
  | keep (path secret secret' : String) : SameBut (.keepSecret path (.ok secret)) (.keepSecret path (.ok secret'))

/-- The same calls so far, and the same files up to what is hidden. -/
structure Site.SameBut (hidden : List Name → Bool) (s t : Site) : Prop where
  calls : s.calls = t.calls
  disk : s.disk.mask hidden = t.disk.mask hidden

/-- A tool answers two queries alike that differ at most in what is hidden, and leaves alike files. -/
def Tool.AnswersAlike (tool : Tool) (hidden : List Name → Bool) (q q' : Query) : Prop :=
  q.past = q'.past → q.call = q'.call → q.disk.mask hidden = q'.disk.mask hidden →
    (tool q.past q.call q.disk).1 = (tool q'.past q'.call q'.disk).1 ∧
      (tool q.past q.call q.disk).2.mask hidden = (tool q'.past q'.call q'.disk).2.mask hidden

/-- What comes of one action, or of many, is alike. -/
structure SameOutcome (hidden : List Name → Bool) {α : Type} (r r' : α × Site) (kept kept' : List KeptSecret)
    (asked asked' : List Query) : Prop where
  answer : r.1 = r'.1
  site : r.2.SameBut hidden r'.2
  kept : kept.map (fun k => (k.path, k.place)) = kept'.map fun k => (k.path, k.place)
  asked : asked.map (·.call) = asked'.map (·.call)

theorem Site.startPlace_mask (d : Disk) (dir : String) (args : List String) :
    startPlace (d.mask hidden) dir args = startPlace d dir args := by
  unfold startPlace
  rw [Disk.find_mask]
  split
  · rfl
  cases d.find true (Utf8.encode dir) with
  | error e => rfl
  | ok found =>
    obtain ⟨place, tree⟩ := found
    cases tree with
    | none => rfl
    | some u => simp [Except.map, Found.mask]

theorem Site.call_alike (same : s.SameBut hidden t) (label dir : String) (args : List String)
    (answers : ∀ q ∈ Query.ofCall dir args s, ∀ q' ∈ Query.ofCall dir args t, tool.AnswersAlike hidden q q') :
    SameOutcome hidden (call tool label dir args s) (call tool label dir args t) [] []
      (Query.ofCall dir args s) (Query.ofCall dir args t) := by
  have hstart : startPlace s.disk dir args = startPlace t.disk dir args := by
    rw [← startPlace_mask s.disk, same.disk, startPlace_mask]
  unfold Query.ofCall at answers ⊢
  unfold call
  rw [hstart] at answers ⊢
  cases hplace : startPlace t.disk dir args with
  | error reason => exact ⟨rfl, same, rfl, rfl⟩
  | ok place =>
    rw [hplace] at answers
    obtain ⟨hreply, hdisk⟩ :=
      answers _ (List.mem_singleton_self _) _ (List.mem_singleton_self _) same.calls rfl same.disk
    change SameOutcome hidden (work tool label dir args place s) (work tool label dir args place t) [] [] _ _
    cases hs : tool s.calls ⟨dir, place, args, toolSettings⟩ s.disk with
    | mk reply disk =>
      cases ht : tool t.calls ⟨dir, place, args, toolSettings⟩ t.disk with
      | mk reply' disk' =>
        simp only [hs, ht] at hreply hdisk
        subst hreply
        simp only [work, hs, ht]
        cases reply with
        | notStarted reason => exact ⟨rfl, ⟨same.calls, hdisk⟩, rfl, rfl⟩
        | ended success stdout stderr => exact ⟨rfl, ⟨congrArg (· ++ [_]) same.calls, hdisk⟩, rfl, rfl⟩

theorem Site.makeDirs_alike (same : s.SameBut hidden t) (dir : String) :
    SameOutcome hidden (makeDirs dir s) (makeDirs dir t) [] [] [] [] := by
  have hmade : ((s.disk.makeDirs dir).1, (s.disk.makeDirs dir).2.mask hidden) =
      ((t.disk.makeDirs dir).1, (t.disk.makeDirs dir).2.mask hidden) := by
    rw [← Disk.makeDirs_mask, ← Disk.makeDirs_mask, same.disk]
  obtain ⟨hanswer, hdisk⟩ := Prod.mk.inj hmade
  unfold makeDirs
  cases hs : s.disk.makeDirs dir with
  | mk answer disk =>
    cases ht : t.disk.makeDirs dir with
    | mk answer' disk' =>
      simp only [hs, ht] at hanswer hdisk
      subst hanswer
      cases answer <;> exact ⟨rfl, ⟨same.calls, hdisk⟩, rfl, rfl⟩

theorem Site.keepSecret_alike (same : s.SameBut hidden t) {text' : Except Failure String}
    (texts : text = text' ∨ ∃ secret secret', text = .ok secret ∧ text' = .ok secret')
    (covers : ∀ k ∈ KeptSecret.newAt path s.disk (keepSecret path text s).2.disk, hidden k.place = true) :
    (keepSecret path text s).1 = (keepSecret path text' t).1 ∧
      (keepSecret path text s).2.SameBut hidden (keepSecret path text' t).2 := by
  have hexists : s.disk.pathExists path = t.disk.pathExists path := by
    rw [← Disk.pathExists_mask s.disk, same.disk, Disk.pathExists_mask]
  by_cases free : s.disk.pathExists path = true
  · rw [keepSecret_there free, keepSecret_there (hexists ▸ free)]
    exact ⟨rfl, same⟩
  have free' : ¬t.disk.pathExists path = true := hexists ▸ free
  cases text with
  | error e =>
    rcases texts with rfl | ⟨secret, secret', htext, -⟩
    · rw [keepSecret_refused free, keepSecret_refused free']
      exact ⟨rfl, same⟩
    · cases htext
  | ok secret =>
    obtain ⟨secret', rfl⟩ : ∃ secret', text' = .ok secret' := by
      rcases texts with rfl | ⟨_, _, -, rfl⟩ <;> exact ⟨_, rfl⟩
    have hcreate : (s.disk.create (Utf8.encode path) (Utf8.encode secret) ownerOnly).map (Disk.mask hidden) =
        (t.disk.create (Utf8.encode path) (Utf8.encode secret') ownerOnly).map (Disk.mask hidden) := by
      refine Disk.create_alike same.disk ownerOnly (.inr fun d' place hmade hfind => ?_)
      obtain ⟨other, hother, hfile⟩ := Disk.create_spec hmade
      obtain ⟨rfl, -⟩ := Found.mk.inj (Except.ok.inj (hfind.symm.trans hother))
      rw [keepSecret_made free hmade] at covers
      exact covers ⟨path, place, _⟩ (KeptSecret.mem_newAt.2 ⟨rfl, hfind, hfile⟩)
    rcases cases_of_map_eq hcreate with ⟨e, hs, ht⟩ | ⟨disk, disk', hs, ht, hdisk⟩
    · rw [keepSecret_failed free hs, keepSecret_failed free' ht]
      exact ⟨rfl, same⟩
    · rw [keepSecret_made free hs, keepSecret_made free' ht]
      exact ⟨rfl, same.calls, hdisk⟩

theorem Site.perform_alike (same : s.SameBut hidden t) (alike : action.SameBut action')
    (covers : ∀ k ∈ action.kept s.disk (perform tool action s).2.disk, hidden k.place = true)
    (answers : ∀ q ∈ action.asked s, ∀ q' ∈ action'.asked t, tool.AnswersAlike hidden q q') :
    SameOutcome hidden (perform tool action s) (perform tool action' t)
      (action.kept s.disk (perform tool action s).2.disk) (action'.kept t.disk (perform tool action' t).2.disk)
      (action.asked s) (action'.asked t) := by
  cases alike with
  | refl =>
    cases action with
    | call label dir args => exact call_alike same label dir args answers
    | makeDirs dir => exact makeDirs_alike same dir
    | keepSecret path text =>
      obtain ⟨hanswer, hsite⟩ := keepSecret_alike same (.inl rfl) covers
      exact ⟨hanswer, hsite, KeptSecret.newAt_alike same.disk hsite.disk, rfl⟩
  | keep path secret secret' =>
    obtain ⟨hanswer, hsite⟩ := keepSecret_alike same (.inr ⟨secret, secret', rfl, rfl⟩) covers
    exact ⟨hanswer, hsite, KeptSecret.newAt_alike same.disk hsite.disk, rfl⟩

/-! ## Whole scripts -/

namespace Script

variable {α β : Type}

/-- Scripts that differ at most in the secrets that they keep, whatever they are answered. -/
inductive SameBut : Script α → Script α → Prop
  | done (a : α) : SameBut (.done a) (.done a)
  | act {action action' : Action} {next next' : Except Failure String → Script α} (alike : action.SameBut action')
      (rest : ∀ answer, SameBut (next answer) (next' answer)) : SameBut (.act action next) (.act action' next')
  | test {dir : String} {next next' : Bool → Script α} (rest : ∀ found, SameBut (next found) (next' found)) :
      SameBut (.test dir next) (.test dir next')

variable {script script' : Script α} {f f' : α → Script β}

theorem SameBut.refl (script : Script α) : script.SameBut script := by
  induction script with
  | done a => exact .done a
  | act action next ih => exact .act (.refl action) ih
  | test dir next ih => exact .test ih

theorem SameBut.bind (first : script.SameBut script') (second : ∀ a, (f a).SameBut (f' a)) :
    (script.bind f).SameBut (script'.bind f') := by
  induction first with
  | done a => exact second a
  | act alike _ ih => exact .act alike ih
  | test _ ih => exact .test ih

/-- What comes of a run tells nothing of the secrets but through the files that they are kept in. -/
theorem SameBut.run (alike : script.SameBut script') (same : s.SameBut hidden t)
    (covers : ∀ k ∈ script.kept tool s, hidden k.place = true)
    (answers : ∀ q ∈ script.asked tool s, ∀ q' ∈ script'.asked tool t, tool.AnswersAlike hidden q q') :
    SameOutcome hidden (script.run tool s) (script'.run tool t) (script.kept tool s) (script'.kept tool t)
      (script.asked tool s) (script'.asked tool t) := by
  induction alike generalizing s t with
  | done a => exact ⟨rfl, same, rfl, rfl⟩
  | @act action action' next next' alike _ ih =>
    have hfirst := Site.perform_alike same alike (fun k hk => covers k (List.mem_append_left _ hk))
      fun q hq q' hq' => answers q (List.mem_append_left _ hq) q' (List.mem_append_left _ hq')
    simp only [kept, asked, run] at covers answers ⊢
    cases hs : Site.perform tool action s with
    | mk answer after =>
      cases ht : Site.perform tool action' t with
      | mk answer' after' =>
        rw [hs, ht] at hfirst
        simp only [hs, ht] at covers answers ⊢
        obtain ⟨rfl, hsite, hkept, hasked⟩ := hfirst
        have hrest := ih answer hsite (fun k hk => covers k (List.mem_append_right _ hk))
          fun q hq q' hq' => answers q (List.mem_append_right _ hq) q' (List.mem_append_right _ hq')
        refine ⟨hrest.answer, hrest.site, ?_, ?_⟩
        · rw [List.map_append, List.map_append, hkept, hrest.kept]
        · rw [List.map_append, List.map_append, hasked, hrest.asked]
  | @test dir next next' _ ih =>
    have hfound : s.disk.isDir dir = t.disk.isDir dir := by
      rw [← Disk.isDir_mask s.disk, same.disk, Disk.isDir_mask]
    simp only [kept, asked, Script.run, ← hfound] at covers answers ⊢
    exact ih (s.disk.isDir dir) same covers answers

/-- Each file that a script keeps a secret in comes from an action that keeps one. -/
theorem Uses.kept {looks : String → Prop} {acts : Action → Prop} (uses : script.Uses looks acts)
    (h : k ∈ script.kept tool s) :
    (∃ text, acts (.keepSecret k.path text)) ∧ ∃ content, k.file = .file content Site.ownerOnly := by
  induction uses generalizing s with
  | done a => cases h
  | @act action next kind _ ih =>
    simp only [Script.kept, List.mem_append] at h
    rcases h with h | h
    · cases action with
      | keepSecret path text =>
        obtain ⟨hpath, hfile⟩ := KeptSecret.ownerOnly_of_mem h
        exact ⟨⟨text, hpath ▸ kind⟩, hfile⟩
      | _ => cases h
    · exact ih _ h
  | test _ _ ih => exact ih _ h

end Script

/-! ## What a script asks -/

namespace Query

variable {dir : String} {args : List String} {q : Query}

theorem mem_ofCall (h : q ∈ ofCall dir args s) :
    ∃ place, Site.startPlace s.disk dir args = .ok place ∧ q = ⟨s.calls, ⟨dir, place, args, toolSettings⟩, s.disk⟩ := by
  unfold ofCall at h
  split at h
  · rename_i place hplace
    exact ⟨place, hplace, List.mem_singleton.1 h⟩
  · cases h

end Query

namespace Script

variable {α β : Type} {looks : String → Prop} {acts : Action → Prop} {script : Script α} {q : Query}

theorem asked_bind (script : Script α) (f : α → Script β) (site : Site) :
    (script.bind f).asked tool site =
      script.asked tool site ++ (f (script.run tool site).1).asked tool (script.run tool site).2 := by
  induction script generalizing site with
  | done a => rfl
  | act action next ih =>
    change _ ++ ((next _).bind f).asked tool _ = (_ ++ _) ++ _
    rw [ih, List.append_assoc]
    rfl
  | test dir next ih => exact ih _ _

theorem asked_call (label dir : String) (args : List String) (site : Site) :
    (Script.call label dir args).asked tool site = Query.ofCall dir args site :=
  List.append_nil _

theorem asked_makeDirs (dir : String) (site : Site) : (Script.makeDirs dir).asked tool site = [] := rfl

theorem Uses.asked (uses : script.Uses looks acts) (h : q ∈ script.asked tool s) :
    ∃ label, acts (.call label q.call.dir q.call.args) := by
  induction uses generalizing s with
  | done a => cases h
  | @act action next kind _ ih =>
    simp only [Script.asked, List.mem_append] at h
    rcases h with h | h
    · cases action with
      | call label dir args =>
        obtain ⟨place, -, rfl⟩ := Query.mem_ofCall h
        exact ⟨label, kind⟩
      | makeDirs dir => cases h
      | keepSecret path text => cases h
    · exact ih _ h
  | test _ _ ih => exact ih _ h

end Script

end CodeSearch
