import CodeSearch.Proofs.Access
import CodeSearch.Proofs.Runs
import CodeSearch.Proofs.Web.Flows

/-!
# Authorization

URLs are authorized only by a flow that was completed: begun, returned from with the state that went out, and
settled by an exchange and a listing that succeeded, not longer ago than URLs stay authorized. Requests arrive
in any order, from any callers, and are answered while others are underway.
-/

namespace CodeSearch.Traffic

open Api

variable {S : Type} {s : Services S} {start t t' : Traffic} {past moves : List (Move S)} {move : Move S}
  {around : Surroundings S} {r : Request} {b : Comeback} {k : Nat} {id : String} {urls : List String}
  {done now later : Millis}

/-! ## Single moves -/

/-- What each move does to the sessions and to the callers underway. -/
inductive Step (s : Services S) (t : Traffic) : Move S → Traffic → Prop
  | returns {around : Surroundings S} {r : Request} {b : Comeback}
      (returned : comebackOf? s t.api around.now r = some b) :
      Step s t (.request around r) { t with underway := t.underway ++ [some b] }
  | begins {around : Surroundings S} {r : Request} {id : String} {api : ApiState}
      (begun : beginOf? around s t.api r = some id)
      (sessions : api.sessions = t.api.sessions.put around.now id ⟨some providerName, none⟩) :
      Step s t (.request around r) { t with api := api }
  | passes {around : Surroundings S} {r : Request} {api : ApiState}
      (sessions : api.sessions = t.api.sessions) : Step s t (.request around r) { t with api := api }
  | completes {k : Nat} {around : Surroundings S} {b : Comeback} {token : String} {listed : List String}
      {api : ApiState} (underway : t.underway[k]? = some (some b))
      (exchanged : around.exchange b.provider b.code = .ok token)
      (projects : around.projects b.provider token = .ok listed)
      (sessions : api.sessions =
        t.api.sessions.put around.now b.id ⟨b.session.provider, some (.ofList listed around.now)⟩) :
      Step s t (.settle k around) ⟨api, t.underway.set k none⟩
  | fails {k : Nat} {around : Surroundings S} {b : Comeback}
      (underway : t.underway[k]? = some (some b)) :
      Step s t (.settle k around) { t with underway := t.underway.set k none }

theorem step_cases (h : step s t move = some t') : Step s t move t' := by
  cases move with
  | request around r =>
    simp only [step] at h
    split at h <;> cases h
    · exact .returns ‹_›
    · rename_i hnone
      have hsessions := sessions_handle hnone
      split at hsessions
      · exact .begins ‹_› hsessions
      · exact .passes hsessions
  | settle k around =>
    simp only [step] at h
    split at h <;> cases h
    rename_i b hunderway
    rcases settle_cases around t.api b with hsame | ⟨token, listed, hexchange, hprojects, hsessions⟩
    · rw [hsame]
      exact .fails hunderway
    · exact .completes hunderway hexchange hprojects hsessions

/-! ## What has happened -/

def Began (s : Services S) (start : Traffic) (past : List (Move S)) (id : String) : Prop :=
  ∃ before around r after t, past = before ++ .request around r :: after ∧
    runMoves (step s) start before = some t ∧ beginOf? around s t.api r = some id

/-- The caller of that number returned, from a flow that had been begun in its session. -/
def Returned (s : Services S) (start : Traffic) (past : List (Move S)) (k : Nat) (b : Comeback) : Prop :=
  ∃ before around r after t, past = before ++ .request around r :: after ∧
    runMoves (step s) start before = some t ∧ t.underway.length = k ∧
    Returns s t.api around.now r b ∧ Began s start before b.id

/-- A flow was completed at a time: its code was exchanged for a token that lists just these URLs. -/
def Completed (s : Services S) (start : Traffic) (past : List (Move S)) (id : String) (urls : List String)
    (done : Millis) : Prop :=
  ∃ before k around after b token listed, past = before ++ .settle k around :: after ∧
    around.now = done ∧ Returned s start before k b ∧ b.id = id ∧
    around.exchange b.provider b.code = .ok token ∧ around.projects b.provider token = .ok listed ∧
    ∀ url, url ∈ urls ↔ url ∈ listed

theorem Began.append (h : Began s start past id) (more : List (Move S)) :
    Began s start (past ++ more) id := by
  obtain ⟨before, around, r, after, t, rfl, hrun, hbegin⟩ := h
  exact ⟨before, around, r, after ++ more, t, by simp, hrun, hbegin⟩

theorem Returned.append (h : Returned s start past k b) (more : List (Move S)) :
    Returned s start (past ++ more) k b := by
  obtain ⟨before, around, r, after, t, rfl, hrun, hreturn⟩ := h
  exact ⟨before, around, r, after ++ more, t, by simp, hrun, hreturn⟩

theorem Completed.append (h : Completed s start past id urls done) (more : List (Move S)) :
    Completed s start (past ++ more) id urls done := by
  obtain ⟨before, k, around, after, b, token, listed, rfl, hdone⟩ := h
  exact ⟨before, k, around, after ++ more, b, token, listed, by simp, hdone⟩

theorem Returned.began (h : Returned s start past k b) : Began s start past b.id := by
  obtain ⟨before, around, r, after, t, rfl, -, -, -, hbegan⟩ := h
  exact hbegan.append _

/-! ## The invariant -/

/-- What sessions hold, and what callers underway brought with them, comes from flows. -/
structure Sound (s : Services S) (start : Traffic) (past : List (Move S)) (t : Traffic) : Prop where
  began : ∀ id entry, t.api.sessions.stored.get? id = some entry → entry.session.provider ≠ none →
    Began s start past id
  completed : ∀ id entry set, t.api.sessions.stored.get? id = some entry →
    entry.session.authorized = some set →
    ∃ done, set.expiresAt = done + sessionLifetime ∧ Completed s start past id set.urls done
  returned : ∀ k b, t.underway[k]? = some (some b) → Returned s start past k b

theorem sound_start (s : Services S) (lifetime : Millis) :
    Sound s (Traffic.start lifetime) [] (Traffic.start lifetime) where
  began id entry h := by cases h
  completed id entry set h := by cases h
  returned k b h := by simp [Traffic.start] at h

theorem Sound.of_sessions_eq (sound : Sound s start past t) (move : Move S)
    (sessions : t'.api.sessions = t.api.sessions)
    (returned : ∀ k b, t'.underway[k]? = some (some b) → Returned s start (past ++ [move]) k b) :
    Sound s start (past ++ [move]) t' := by
  refine ⟨?_, ?_, returned⟩
  · intro id entry hentry hprovider
    rw [sessions] at hentry
    exact (sound.began id entry hentry hprovider).append _
  · intro id entry set hentry hset
    rw [sessions] at hentry
    obtain ⟨done, hexpires, hdone⟩ := sound.completed id entry set hentry hset
    exact ⟨done, hexpires, hdone.append _⟩

theorem Sound.of_sessions_put (sound : Sound s start past t) (move : Move S) {session : Session}
    (sessions : t'.api.sessions = t.api.sessions.put now id session)
    (began : session.provider ≠ none → Began s start (past ++ [move]) id)
    (completed : ∀ set, session.authorized = some set →
      ∃ done, set.expiresAt = done + sessionLifetime ∧ Completed s start (past ++ [move]) id set.urls done)
    (returned : ∀ k b, t'.underway[k]? = some (some b) → Returned s start (past ++ [move]) k b) :
    Sound s start (past ++ [move]) t' := by
  refine ⟨?_, ?_, returned⟩
  · intro other entry hentry hprovider
    rw [sessions] at hentry
    rcases SessionStore.stored_put hentry with ⟨rfl, rfl⟩ | hold
    · exact began hprovider
    · exact (sound.began other entry hold hprovider).append _
  · intro other entry set hentry hset
    rw [sessions] at hentry
    rcases SessionStore.stored_put hentry with ⟨rfl, rfl⟩ | hold
    · exact completed set hset
    · obtain ⟨done, hexpires, hdone⟩ := sound.completed other entry set hold hset
      exact ⟨done, hexpires, hdone.append _⟩

theorem Sound.began_of_returns (sound : Sound s start past t) (h : Returns s t.api now r b) :
    Began s start past b.id := by
  obtain ⟨entry, hentry, -, hsession⟩ := SessionStore.get?_eq_some_iff.1 h.stored
  refine sound.began b.id entry hentry ?_
  rw [hsession, h.begun]
  nofun

theorem underway_of_set {underway : List (Option Comeback)} {other : Nat}
    (h : (underway.set k none)[other]? = some (some b)) : underway[other]? = some (some b) := by
  rw [List.getElem?_set] at h
  split at h
  · split at h <;> cases h
  · exact h

theorem Sound.step (run : runMoves (step s) start past = some t) (sound : Sound s start past t)
    (h : step s t move = some t') : Sound s start (past ++ [move]) t' := by
  cases step_cases h with
  | @returns around r b returned =>
    refine sound.of_sessions_eq _ rfl fun k other hk => ?_
    rw [List.getElem?_append] at hk
    split at hk
    · exact (sound.returned _ _ hk).append _
    · rename_i hlength
      -- the caller who returns now gets the next number
      have hreturns := returns_of_comebackOf? returned
      rw [List.getElem?_singleton] at hk
      split at hk <;> cases hk
      exact ⟨past, around, r, [], t, rfl, run, by omega, hreturns, sound.began_of_returns hreturns⟩
  | @begins around r id api begun sessions =>
    refine sound.of_sessions_put _ sessions (fun _ => ?_) nofun fun k b hk => (sound.returned _ _ hk).append _
    exact ⟨past, around, r, [], t, rfl, run, begun⟩
  | passes sessions => exact sound.of_sessions_eq _ sessions fun k b hk => (sound.returned _ _ hk).append _
  | @completes k around b token listed api underway exchanged projects sessions =>
    have hreturned := sound.returned k b underway
    refine sound.of_sessions_put _ sessions (fun _ => hreturned.began.append _) ?_ ?_
    · rintro set ⟨⟩
      exact ⟨around.now, rfl, past, k, around, [], b, token, listed, rfl, rfl, hreturned, rfl, exchanged,
        projects, fun url => AuthorizedUrls.mem_ofList⟩
    · exact fun other b' hother => (sound.returned _ _ (underway_of_set hother)).append _
  | fails underway =>
    exact sound.of_sessions_eq _ rfl fun other b' hother => (sound.returned _ _ (underway_of_set hother)).append _

theorem sound_of_run {lifetime : Millis}
    (run : runMoves (Traffic.step s) (Traffic.start lifetime) moves = some t) :
    Sound s (Traffic.start lifetime) moves t :=
  runMoves_induction (motive := Sound s (Traffic.start lifetime)) (sound_start s lifetime)
    (fun _ _ _ _ hrun hsound h => hsound.step hrun h) run

/-! ## Requests that are answered at once -/

theorem runMoves_request (h : comebackOf? s t.api around.now r = none) :
    runMoves (step s) t [.request around r] = some { t with api := (handle around s t.api r).2 } := by
  simp [step, h]

/-- A caller who comes back and is settled at once is answered as by a service that does one thing at a
time. -/
theorem runMoves_settle (h : comebackOf? s t.api around.now r = some b) :
    runMoves (step s) t [.request around r, .settle t.underway.length around] =
      some ⟨(handle around s t.api r).2, t.underway ++ [none]⟩ := by
  rw [handle_of_comebackOf? h]
  simp [step, h]

/-- The state of a service that has answered requests one after another. -/
def answerAll (s : Services S) (st : ApiState) (requests : List (Surroundings S × Request)) : ApiState :=
  requests.foldl (fun st asked => (handle asked.1 s st asked.2).2) st

def Move.asked? : Move S → Option (Surroundings S × Request)
  | .request around r => some (around, r)
  | .settle _ _ => none

theorem exists_moves_of_handle (s : Services S) (t : Traffic) (around : Surroundings S) (r : Request) :
    ∃ moves settled, moves.filterMap Move.asked? = [(around, r)] ∧ (∀ move ∈ moves, move.now = around.now) ∧
      runMoves (step s) t moves = some ⟨(handle around s t.api r).2, t.underway ++ settled⟩ := by
  cases hcomeback : comebackOf? s t.api around.now r with
  | none =>
    exact ⟨[.request around r], [], rfl, by simp [Move.now], by rw [runMoves_request hcomeback, List.append_nil]⟩
  | some b =>
    exact ⟨[.request around r, .settle t.underway.length around], [none], rfl, by simp [Move.now],
      runMoves_settle hcomeback⟩

/-- A service that does one thing at a time makes one of the runs. -/
theorem exists_moves_of_answerAll (s : Services S) (t : Traffic)
    (requests : List (Surroundings S × Request)) :
    ∃ moves settled, moves.filterMap Move.asked? = requests ∧
      (∀ move ∈ moves, ∃ asked ∈ requests, move.now = asked.1.now) ∧
      runMoves (step s) t moves = some ⟨answerAll s t.api requests, t.underway ++ settled⟩ := by
  induction requests generalizing t with
  | nil => exact ⟨[], [], rfl, by simp, by simp [answerAll]⟩
  | cons asked requests ih =>
    obtain ⟨first, one, hasked, hnow, hfirst⟩ := exists_moves_of_handle s t asked.1 asked.2
    obtain ⟨rest, more, hrequests, hlater, hrest⟩ :=
      ih ⟨(handle asked.1 s t.api asked.2).2, t.underway ++ one⟩
    refine ⟨first ++ rest, one ++ more, by simp [hasked, hrequests], ?_, ?_⟩
    · intro move hmove
      rcases List.mem_append.1 hmove with h | h
      · exact ⟨asked, by simp, hnow move h⟩
      · obtain ⟨other, hother, heq⟩ := hlater move h
        exact ⟨other, by simp [hother], heq⟩
    · rw [runMoves_trans hfirst hrest, List.append_assoc]
      rfl

/-! ## Where authorized URLs come from -/

/-- A flow that was completed not too long ago. -/
def Authorizes (s : Services S) (lifetime : Millis) (past : List (Move S)) (now : Millis) (id : String)
    (urls : List String) : Prop :=
  ∃ done, Completed s (Traffic.start lifetime) past id urls done ∧ done ≤ now ∧
    now < done + 5 * 24 * 60 * 60 * 1000

theorem Completed.done_le (h : Completed s start past id urls done) (clock : ∀ move ∈ past, move.now ≤ now) :
    done ≤ now := by
  obtain ⟨before, k, around, after, b, token, listed, rfl, rfl, -⟩ := h
  exact clock (.settle k around) (by simp)

theorem authorizes_of_active {lifetime : Millis}
    (run : runMoves (step s) (Traffic.start lifetime) moves = some t)
    (clock : ∀ move ∈ moves, move.now ≤ now) (active : t.api.sessions.activeUrls now id = some urls) :
    Authorizes s lifetime moves now id urls := by
  obtain ⟨entry, set, hentry, -, hset, hactive, rfl⟩ := SessionStore.activeUrls_eq_some_iff.1 active
  obtain ⟨done, hexpires, hdone⟩ := (sound_of_run run).completed id entry set hentry hset
  rw [hexpires] at hactive
  exact ⟨done, hdone, hdone.done_le clock, hactive⟩

/-- Also where requests are answered one after another, a flow among them was completed. -/
theorem authorizes_of_answerAll {lifetime : Millis} {requests : List (Surroundings S × Request)}
    (clock : ∀ asked ∈ requests, asked.1.now ≤ now)
    (active : (answerAll s (Traffic.start lifetime).api requests).sessions.activeUrls now id = some urls) :
    ∃ moves, moves.filterMap Move.asked? = requests ∧ Authorizes s lifetime moves now id urls := by
  obtain ⟨moves, settled, hasked, hnow, run⟩ :=
    exists_moves_of_answerAll s (Traffic.start lifetime) requests
  refine ⟨moves, hasked, authorizes_of_active run ?_ active⟩
  intro move hmove
  obtain ⟨asked, hmem, heq⟩ := hnow move hmove
  exact heq ▸ clock asked hmem

theorem active_of_mem_authorizedUrls {st : ApiState} {url : String} (h : url ∈ authorizedUrls st now r) :
    ∃ id urls, r.cookies.get? sessionCookie = some id ∧ st.sessions.activeUrls now id = some urls ∧
      url ∈ urls := by
  unfold authorizedUrls at h
  split at h
  · rename_i session hsession
    obtain ⟨id, hid, hstored⟩ := Option.bind_eq_some_iff.1 hsession
    cases hactive : session.active now with
    | none => simp [hactive] at h
    | some set =>
      simp only [hactive, Option.map_some, Option.getD_some] at h
      exact ⟨id, set.urls, hid, by simp [SessionStore.activeUrls, hstored, hactive], h⟩
  · cases h

/-- A repository with a marker and without keys is resolved only for callers whose session authorizes its
URL. -/
theorem active_of_mem_resolve {st : ApiState} {selection : RepoSelection} {name : String}
    {repo : Repository S} (resolved : name ∈ s.registry.resolve (caller st now r) selection)
    (found : s.registry.get? name = some repo) (keys : repo.config.accessKeys = none)
    (marked : repo.config.oauthAuthorization ≠ none) :
    ∃ id urls, r.cookies.get? sessionCookie = some id ∧ st.sessions.activeUrls now id = some urls ∧
      repo.config.url ∈ urls := by
  obtain ⟨other, hother, hmay⟩ := Registry.mayUse_of_mem_resolve resolved
  cases found.symm.trans hother
  refine active_of_mem_authorizedUrls ?_
  obtain ⟨marker, hmarker⟩ := Option.ne_none_iff_exists'.1 marked
  simpa [Caller.mayUse, keys, hmarker, caller] using hmay

/-! ## What a move leaves -/

/-- No request changes what is authorized, be it that a flow begins, as long as the session that it begins
in is new. -/
theorem activeUrls_request (h : step s t (.request around r) = some t')
    (new : t.api.sessions.activeUrls around.now around.freshSession = none) (forward : around.now ≤ later)
    (id : String) : t'.api.sessions.activeUrls later id = t.api.sessions.activeUrls later id := by
  cases step_cases h with
  | returns returned => rfl
  | begins begun sessions =>
    obtain ⟨-, provider, hbegin⟩ := beginFor_of_beginOf? begun
    rw [sessions]
    exact SessionStore.activeUrls_put_none _ (activeUrls_of_beginFor hbegin new) forward
  | passes sessions => rw [sessions]

/-- Settling changes what is authorized only for its own session, and only if it succeeds. -/
theorem activeUrls_settle (h : step s t (.settle k around) = some t') (forward : around.now ≤ later)
    (id : String) :
    t'.api.sessions.activeUrls later id = t.api.sessions.activeUrls later id ∨
      ∃ b token listed, t.underway[k]? = some (some b) ∧ b.id = id ∧
        around.exchange b.provider b.code = .ok token ∧ around.projects b.provider token = .ok listed := by
  cases step_cases h with
  | fails underway => exact .inl rfl
  | @completes _ _ b token listed api underway exchanged projects sessions =>
    by_cases hid : b.id = id
    · exact .inr ⟨b, token, listed, underway, hid, exchanged, projects⟩
    · refine .inl ?_
      rw [sessions]
      exact SessionStore.activeUrls_put_of_ne _ _ (Ne.symm hid) forward

/-- URLs are authorized by completed flows only, and a repository that asks for them is resolved only for
callers who completed one. A request never changes what is authorized; a flow does when it is completed. -/
theorem authorization_of_run {lifetime : Millis}
    (run : runMoves (step s) (Traffic.start lifetime) moves = some t)
    (clock : (moves.map (·.now) ++ [now]).Pairwise (· ≤ ·)) :
    (∀ id urls, t.api.sessions.activeUrls now id = some urls → Authorizes s lifetime moves now id urls) ∧
    (∀ r selection name repo, name ∈ s.registry.resolve (caller t.api now r) selection →
      s.registry.get? name = some repo → repo.config.accessKeys = none →
      repo.config.oauthAuthorization ≠ none →
      ∃ id urls, r.cookies.get? sessionCookie = some id ∧ Authorizes s lifetime moves now id urls ∧
        repo.config.url ∈ urls) ∧
    (∀ around r t', step s t (.request around r) = some t' →
      t.api.sessions.activeUrls around.now around.freshSession = none →
      ∀ id later, around.now ≤ later →
        t'.api.sessions.activeUrls later id = t.api.sessions.activeUrls later id) ∧
    ∀ k around t', step s t (.settle k around) = some t' → ∀ id later, around.now ≤ later →
      t'.api.sessions.activeUrls later id = t.api.sessions.activeUrls later id ∨
        ∃ b token listed, t.underway[k]? = some (some b) ∧ b.id = id ∧
          around.exchange b.provider b.code = .ok token ∧ around.projects b.provider token = .ok listed := by
  have hclock : ∀ move ∈ moves, move.now ≤ now := fun move hmove =>
    (List.pairwise_append.1 clock).2.2 move.now (List.mem_map_of_mem hmove) now List.mem_cons_self
  refine ⟨fun id urls => authorizes_of_active run hclock, ?_, ?_, ?_⟩
  · intro r selection name repo resolved found keys marked
    obtain ⟨id, urls, hcookie, hactive, hurl⟩ := active_of_mem_resolve resolved found keys marked
    exact ⟨id, urls, hcookie, authorizes_of_active run hclock hactive, hurl⟩
  · exact fun around r t' h new id later forward => activeUrls_request h new forward id
  · exact fun k around t' h id later forward => activeUrls_settle h forward id

def oneMarked : Services Unit where
  config := .default
  registry := .ofList
    [("p", ⟨{ RepoConfig.ofUrl "https://example.org/p" with oauthAuthorization := some true }, ()⟩)]
  coordinator := .ofTargets [] 1
  provider := some ⟨⟨"client", "secret", "https://example.org/token", "https://example.org/auth",
    "https://example.org"⟩, "https://example.org/api/v1/oauth/redirect", "https://example.org"⟩

def listsOne (now : Millis) : Surroundings Unit where
  now := now
  freshSession := "id"
  freshState := "state"
  elapsed := 0
  search _ _ _ := .lost
  excluded _ := .ok []
  order _ := 0
  exchange _ code := .ok code
  projects _ _ := .ok ["https://example.org/p"]

def getWith (path query cookies : String) : Request :=
  ⟨"GET", ⟨Utf8.encode path, Utf8.encode query⟩, [("cookie", Utf8.encode cookies)], []⟩

/-- A flow, during which another request is answered. -/
def oneFlow : List (Move Unit) :=
  [.request (listsOne 0) (getWith "/api/v1/oauth/gitlab" "" ""),
    .request (listsOne 1)
      (getWith "/api/v1/oauth/redirect" "code=c&state=s" "fathom_session=id; oauthstate=s"),
    .request (listsOne 2) (getWith "/api/v1/repos" "" "fathom_session=id"), .settle 0 (listsOne 3)]

theorem authorization_of_oneFlow :
    ∃ t, runMoves (step oneMarked) (Traffic.start sessionLifetime) oneFlow = some t ∧
      t.api.sessions.activeUrls 4 "id" = some ["https://example.org/p"] ∧
      Authorizes oneMarked sessionLifetime oneFlow 4 "id" ["https://example.org/p"] := by
  have hactive : ((runMoves (step oneMarked) (Traffic.start sessionLifetime) oneFlow).bind fun t =>
      t.api.sessions.activeUrls 4 "id") = some ["https://example.org/p"] := by decide +kernel
  obtain ⟨t, run, active⟩ := Option.bind_eq_some_iff.1 hactive
  have clock : (oneFlow.map Move.now ++ [4]).Pairwise (· ≤ ·) := by decide +kernel
  exact ⟨t, run, active, (authorization_of_run run clock).1 "id" _ active⟩

end CodeSearch.Traffic
