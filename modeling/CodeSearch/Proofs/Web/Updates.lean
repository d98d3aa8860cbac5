import CodeSearch.Proofs.Runs
import CodeSearch.Proofs.Sync.Attention
import CodeSearch.Proofs.Web.Concealment

/-!
# Requests for updates

What a request names and its caller may use is asked for an update, in the order of the names. The first
repository that takes no requests ends it: those before it have been triggered, and those after it are not.
-/

namespace CodeSearch

/-! ## Triggers -/

namespace Sync.Updates

variable {D : Type} {c : Coordinator D} {u u' : Updates} {name other : String} {names : List String}

/-- A request waits to be attended to: it is remembered, or a worker was called for it. -/
def Triggered (u : Updates) (name : String) : Prop :=
  u.requested.contains name = true ∨ ∃ w : Nat, u.workers[w]? = some ⟨name, .called⟩

/-- Nothing has happened to a repository. -/
structure AlikeFor (name : String) (u u' : Updates) : Prop where
  requested : u'.requested.contains name = u.requested.contains name
  workers : ∀ (w : Nat) phase, u'.workers[w]? = some ⟨name, phase⟩ ↔ u.workers[w]? = some ⟨name, phase⟩

theorem AlikeFor.triggered (alike : u.AlikeFor name u') (h : u.Triggered name) : u'.Triggered name := by
  rcases h with h | ⟨w, h⟩
  · exact .inl (alike.requested.trans h)
  · exact .inr ⟨w, (alike.workers w .called).2 h⟩

theorem AlikeFor.trans {u'' : Updates} (first : u.AlikeFor name u') (second : u'.AlikeFor name u'') :
    u.AlikeFor name u'' where
  requested := second.requested.trans first.requested
  workers w phase := (second.workers w phase).trans (first.workers w phase)

theorem found_of_sleeper {w : Nat} (h : u.sleeper? name = some w) : u.workers[w]? = some ⟨name, .asleep⟩ := by
  obtain ⟨hlt, hasleep, -⟩ := List.findIdx?_eq_some_iff_getElem.1 h
  obtain ⟨hrepo, hphase⟩ : u.workers[w].repo = name ∧ u.workers[w].phase = .asleep := by simpa using hasleep
  rw [List.getElem?_eq_getElem hlt, ← hrepo, ← hphase]

theorem triggered_notify (u : Updates) (name : String) :
    (u.notify name).Triggered name ∧ ∀ other, other ≠ name → u.AlikeFor other (u.notify name) := by
  unfold notify
  cases hsleeper : u.sleeper? name with
  | none =>
    refine ⟨.inl (by simp), fun other ne => ⟨?_, fun _ _ => Iff.rfl⟩⟩
    simp [ne]
  | some w =>
    have hfound := found_of_sleeper hsleeper
    refine ⟨.inr ⟨w, (found_setPhase hfound).2 (by simp)⟩, fun other ne => ⟨rfl, fun j phase => ?_⟩⟩
    rw [found_setPhase hfound]
    by_cases hj : j = w
    · simp [hj, hfound, ne, ne.symm]
    · rw [if_neg hj]

theorem triggered_of_requests (u : Updates) (listening : ∀ name ∈ names, listens c name = true) :
    ∃ u', runMoves (step c) u (names.map .request) = some u' ∧ (∀ name ∈ names, u'.Triggered name) ∧
      ∀ name, name ∉ names → u.AlikeFor name u' := by
  induction names generalizing u with
  | nil => exact ⟨u, rfl, nofun, fun _ _ => ⟨rfl, fun _ _ => Iff.rfl⟩⟩
  | cons first names ih =>
    obtain ⟨hfirst, hlistening⟩ := List.forall_mem_cons.1 listening
    obtain ⟨hcalled, hothers⟩ := triggered_notify u first
    obtain ⟨u', hrun, htriggered, halike⟩ := ih (u.notify first) hlistening
    refine ⟨u', ?_, fun name hname => ?_, fun name hname => ?_⟩
    · rw [List.map_cons, runMoves_cons, step, if_pos hfirst]
      exact hrun
    · by_cases hmem : name ∈ names
      · exact htriggered name hmem
      · obtain rfl := (List.mem_cons.1 hname).resolve_right hmem
        exact (halike name hmem).triggered hcalled
    · obtain ⟨hne, hmem⟩ := List.ne_and_not_mem_of_not_mem_cons hname
      exact (hothers name hne).trans (halike name hmem)

end Sync.Updates

open Sync (Updates)

/-! ## The repositories that are reached -/

theorem mem_before_iff {before after : List String} {name other : String}
    (ascending : (before ++ name :: after).Pairwise (· < ·)) :
    other ∈ before ↔ other ∈ before ++ name :: after ∧ other < name := by
  obtain ⟨-, hafter, hbefore⟩ := List.pairwise_append.1 ascending
  constructor
  · intro hmem
    exact ⟨List.mem_append_left _ hmem, hbefore other hmem name List.mem_cons_self⟩
  · rintro ⟨hmem, hlt⟩
    rcases List.mem_append.1 hmem with hmem | hmem
    · exact hmem
    rcases List.mem_cons.1 hmem with rfl | hmem
    · exact absurd hlt (String.lt_irrefl _)
    · exact absurd (String.lt_trans hlt ((List.pairwise_cons.1 hafter).1 other hmem)) (String.lt_irrefl _)

namespace Api

variable {S : Type} {s : Services S} {st : ApiState} {name : String} {names before rest : List String}

def requestAll (st : ApiState) (names : List String) : ApiState :=
  { st with requested := names.foldl (fun requested name => requested.insert name ()) st.requested }

theorem contains_requestAll (st : ApiState) (names : List String) (name : String) :
    (requestAll st names).requested.contains name = true ↔ st.requested.contains name = true ∨ name ∈ names := by
  induction names generalizing st with
  | nil => simp [requestAll]
  | cons first names ih =>
    have hcons : requestAll st (first :: names) =
        requestAll { st with requested := st.requested.insert first () } names := rfl
    rw [hcons, ih, NameMap.contains_insert]
    grind

/-- A repository that is served and can be synchronized is triggered if it takes requests. -/
theorem requestUpdate_eq (served : s.registry.contains name = true) (known : s.coordinator.contains name = true) :
    requestUpdate s st name =
      if Updates.listens s.coordinator name then .ok { st with requested := st.requested.insert name () }
      else .error (.updatesDisabled name) := by
  obtain ⟨target, htarget⟩ := NameMap.contains_iff.1 known
  have haccepts : s.coordinator.accepts name = .ok target.pushEnabled := by
    rw [Coordinator.accepts, Coordinator.find, htarget]
    rfl
  have hlistens : Updates.listens s.coordinator name = target.pushEnabled := by
    rw [Updates.listens, htarget]
    rfl
  rw [requestUpdate, served, haccepts, hlistens]
  cases target.pushEnabled <;> rfl

/-- A repository is asked for an update: it is selected, and all that are selected up to it take requests. -/
def Reached (s : Services S) (selected : List String) (name : String) : Prop :=
  name ∈ selected ∧ ∀ other ∈ selected, other ≤ name → Updates.listens s.coordinator other = true

/-- What comes of a request for some repositories. -/
structure Updated (s : Services S) (st : ApiState) (selected : List String) (outcome : Response × ApiState) :
    Prop where
  requested : ∀ name, outcome.2.requested.contains name = true ↔
    st.requested.contains name = true ∨ Reached s selected name
  sessions : outcome.2.sessions = st.sessions
  /-- Whatever the workers are at, those repositories are triggered and all others are left alone. -/
  triggers : ∀ u : Updates, ∃ (reached : List String) (u' : Updates), (∀ name, name ∈ reached ↔ Reached s selected name) ∧
    runMoves (Updates.step s.coordinator) u (reached.map .request) = some u' ∧
    (∀ name, Reached s selected name → u'.Triggered name) ∧ ∀ name, ¬Reached s selected name → u.AlikeFor name u'
  ok : outcome.1 = .ofJson (.string "ok") ↔ ∀ name ∈ selected, Updates.listens s.coordinator name = true
  /-- The first repository that takes no requests is named, and nothing behind it is reached. -/
  refused : (∃ name ∈ selected, Updates.listens s.coordinator name = false) →
    ∃ name ∈ selected, Updates.listens s.coordinator name = false ∧
      (∀ other, Reached s selected other ↔ other ∈ selected ∧ other < name) ∧
      outcome.1 = (Failure.updatesDisabled name).response ∧ outcome.1.status = 403

/-- The names up to the first that takes no requests, which decides on the answer. -/
theorem requestUpdates_cases (known : ∀ name ∈ names, s.registry.contains name = true ∧ s.coordinator.contains name = true)
    (st : ApiState) :
    (∀ name ∈ names, Updates.listens s.coordinator name = true) ∧
        requestUpdates s st names = (.ofJson (.string "ok"), requestAll st names) ∨
      ∃ before name after, names = before ++ name :: after ∧
        (∀ name ∈ before, Updates.listens s.coordinator name = true) ∧
        Updates.listens s.coordinator name = false ∧
        requestUpdates s st names = ((Failure.updatesDisabled name).response, requestAll st before) := by
  induction names generalizing st with
  | nil => exact .inl ⟨nofun, rfl⟩
  | cons first names ih =>
    obtain ⟨⟨hserved, hknown⟩, hrest⟩ := List.forall_mem_cons.1 known
    rw [requestUpdates, requestUpdate_eq hserved hknown]
    cases hfirst : Updates.listens s.coordinator first with
    | false => exact .inr ⟨[], first, names, rfl, nofun, hfirst, rfl⟩
    | true =>
      rcases ih hrest { st with requested := st.requested.insert first () } with
        ⟨hall, heq⟩ | ⟨before, name, after, rfl, hbefore, hrefuses, heq⟩
      · exact .inl ⟨List.forall_mem_cons.2 ⟨hfirst, hall⟩, heq⟩
      · exact .inr ⟨first :: before, name, after, rfl, List.forall_mem_cons.2 ⟨hfirst, hbefore⟩, hrefuses, heq⟩

/-- Up to the first that takes no requests all are reached. -/
theorem mem_before_iff_reached {after : List String} (ascending : (before ++ name :: after).Pairwise (· < ·))
    (listening : ∀ name ∈ before, Updates.listens s.coordinator name = true)
    (refuses : Updates.listens s.coordinator name = false) {other : String} :
    other ∈ before ↔ Reached s (before ++ name :: after) other := by
  rw [Reached, mem_before_iff ascending]
  refine and_congr_right fun hmem => ⟨fun hlt m hm hle => ?_, fun hall => ?_⟩
  · exact listening m ((mem_before_iff ascending).2 ⟨hm, Std.lt_of_le_of_lt hle hlt⟩)
  · refine Std.not_le.1 fun hle => ?_
    rw [hall name (List.mem_append_right _ List.mem_cons_self) hle] at refuses
    cases refuses

theorem triggers_of_reached {reached : List String} {selected : List String}
    (hreached : ∀ name, name ∈ reached ↔ Reached s selected name)
    (listening : ∀ name ∈ reached, Updates.listens s.coordinator name = true) (u : Updates) :
    ∃ (reached : List String) (u' : Updates), (∀ name, name ∈ reached ↔ Reached s selected name) ∧
      runMoves (Updates.step s.coordinator) u (reached.map .request) = some u' ∧
      (∀ name, Reached s selected name → u'.Triggered name) ∧ ∀ name, ¬Reached s selected name → u.AlikeFor name u' := by
  obtain ⟨u', hrun, htriggered, halike⟩ := Updates.triggered_of_requests u listening
  exact ⟨reached, u', hreached, hrun, fun name h => htriggered name ((hreached name).2 h),
    fun name h => halike name (mt (hreached name).1 h)⟩

theorem updated_requestUpdates (ascending : names.Pairwise (· < ·))
    (known : ∀ name ∈ names, s.registry.contains name = true ∧ s.coordinator.contains name = true) (st : ApiState) :
    Updated s st names (requestUpdates s st names) := by
  rcases requestUpdates_cases known st with ⟨hall, heq⟩ | ⟨before, name, after, rfl, hbefore, hrefuses, heq⟩
  · have hreached : ∀ name, name ∈ names ↔ Reached s names name :=
      fun name => ⟨fun h => ⟨h, fun other hother _ => hall other hother⟩, (·.1)⟩
    rw [heq]
    refine ⟨fun other => ?_, rfl, triggers_of_reached hreached hall, ⟨fun _ => hall, fun _ => rfl⟩, ?_⟩
    · rw [contains_requestAll, hreached]
    · rintro ⟨name, hname, hrefuses⟩
      rw [hall name hname] at hrefuses
      cases hrefuses
  · have hreached : ∀ other, other ∈ before ↔ Reached s (before ++ name :: after) other :=
      fun other => mem_before_iff_reached ascending hbefore hrefuses
    have hname : name ∈ before ++ name :: after := List.mem_append_right _ List.mem_cons_self
    rw [heq]
    refine ⟨fun other => ?_, rfl, triggers_of_reached hreached hbefore, ⟨fun hok => ?_, fun hall => ?_⟩, fun _ => ?_⟩
    · rw [contains_requestAll, hreached]
    · cases congrArg Response.status hok
    · rw [hall name hname] at hrefuses
      cases hrefuses
    · exact ⟨name, hname, hrefuses, fun other => (hreached other).symm.trans (mem_before_iff ascending), rfl, rfl⟩

/-- Whoever asks, with whatever names. -/
theorem updated_of_known (known : ∀ name, s.registry.contains name = true → s.coordinator.contains name = true) :
    (∀ st caller repos,
      Updated s st (s.registry.resolve caller (.parse repos)) (update s st caller repos)) ∧
    ∀ around st r repos, r.method = "POST" → Route.ofPath? s.config r.target.path = some .update →
      Form.single r.fields "repos" = .ok repos →
        Updated s st (s.registry.resolve (caller st around.now r) (.parse (repos.getD ""))) (handle around s st r) := by
  have hupdated (st : ApiState) (caller : Caller) (repos : String) :
      Updated s st (s.registry.resolve caller (.parse repos)) (update s st caller repos) := by
    refine updated_requestUpdates (s.registry.resolve_ascending caller _) (fun name hname => ?_) st
    obtain ⟨r, hr, -⟩ := Registry.mayUse_of_mem_resolve hname
    have hserved : s.registry.contains name = true := NameMap.contains_iff.2 ⟨r, hr⟩
    exact ⟨hserved, known name hserved⟩
  refine ⟨hupdated, fun around st r repos hpost hpath hrepos => ?_⟩
  have hhandle : handle around s st r = update s st (caller st around.now r) (repos.getD "") := by
    simp [handle, hpost, hpath, Route.takes, Route.isPost, answer, hrepos]
  rw [hhandle]
  exact hupdated _ _ _

def secondPushed : Services Unit :=
  let repos : NameMap RepoConfig :=
    .ofList [("a", .ofUrl "https://x/a"), ("b", { RepoConfig.ofUrl "https://x/b" with enablePushUpdates := some true })]
  let config := { Config.default with repos := repos }
  ⟨config, repos.map fun _ repo => ⟨repo, ()⟩, .ofConfig config, none⟩

theorem known_secondPushed (name : String) (served : secondPushed.registry.contains name = true) :
    secondPushed.coordinator.contains name = true := by
  have hkeys : secondPushed.registry.keys = ["a", "b"] := by decide +kernel
  rw [← NameMap.mem_keys, hkeys, List.mem_cons, List.mem_singleton] at served
  rcases served with rfl | rfl <;> decide +kernel

theorem updated_secondPushed :
    (∀ name, secondPushed.registry.contains name = true → secondPushed.coordinator.contains name = true) ∧
      Updated secondPushed ⟨.empty, ∅⟩ ["b"] (update secondPushed ⟨.empty, ∅⟩ .anonymous "b,c") ∧
      Updated secondPushed ⟨.empty, ∅⟩ ["a", "b"] (handle quiet secondPushed ⟨.empty, ∅⟩ updateBoth) := by
  have hone : secondPushed.registry.resolve .anonymous (.parse "b,c") = ["b"] := by decide +kernel
  have hboth : secondPushed.registry.resolve (caller ⟨.empty, ∅⟩ quiet.now updateBoth) (.parse "b,a") = ["a", "b"] := by
    decide +kernel
  have hupdated := updated_of_known known_secondPushed
  refine ⟨known_secondPushed, hone ▸ hupdated.1 ⟨.empty, ∅⟩ .anonymous "b,c", ?_⟩
  rw [← hboth]
  exact hupdated.2 quiet ⟨.empty, ∅⟩ updateBoth (some "b,a") rfl (by decide +kernel) (by decide +kernel)

/-- A repository that takes requests is not reached behind one that does not. -/
theorem unreached_secondPushed :
    (∀ name, secondPushed.registry.contains name = true → secondPushed.coordinator.contains name = true) ∧
      secondPushed.registry.resolve .anonymous (.parse "a,b") = ["a", "b"] ∧
      Updates.listens secondPushed.coordinator "b" = true ∧
      (update secondPushed ⟨.empty, ∅⟩ .anonymous "a,b").2.requested.contains "b" = false :=
  ⟨known_secondPushed, by decide +kernel, by decide +kernel, by decide +kernel⟩

end Api

end CodeSearch
