import CodeSearch.Proofs.Auth.Sessions
import CodeSearch.Web.Traffic

/-!
# Single moves of a flow

What each request does to the sessions. Only two kinds of requests write one: those that send a caller to the
provider, and those that come back from there.
-/

namespace CodeSearch

theorem Auth.state_of_verifyState {cookie returned : Option String}
    (h : verifyState cookie returned = .ok ()) :
    ∃ state, state ≠ "" ∧ cookie = some state ∧ returned = some state := by
  unfold verifyState at h
  split at h
  · rename_i expected actual
    split at h
    · rename_i hsame
      rw [Bool.and_eq_true, beq_iff_eq] at hsame
      obtain ⟨hnonempty, rfl⟩ := hsame
      refine ⟨expected, ?_, rfl, rfl⟩
      rintro rfl
      cases hnonempty
    · cases h
  · cases h

theorem Session.eq_of_provider {stored : Option Session} {name : String}
    (h : (stored.getD .empty).provider = some name) : stored = some (stored.getD .empty) := by
  cases stored with
  | none => cases h
  | some session => rfl

namespace Api

variable {S : Type} {around : Surroundings S} {s : Services S} {st : ApiState} {now : Millis} {r : Request}
  {b : Comeback} {id : String}

theorem handle_state (around : Surroundings S) (s : Services S) (st : ApiState) (r : Request) :
    (handle around s st r).2 =
      match routed? s r with
      | some route => (answer around s st r route).2
      | none => st := by
  unfold handle routed?
  split
  · rfl
  · cases Route.ofPath? s.config r.target.path with
    | none => rfl
    | some route => cases htakes : route.takes r.method <;> simp [htakes, Option.filter]

theorem sessions_requestUpdate {st' : ApiState} {name : String} (h : requestUpdate s st name = .ok st') :
    st'.sessions = st.sessions := by
  unfold requestUpdate at h
  split at h
  · cases h
  · split at h <;> cases h
    rfl

theorem sessions_requestUpdates (s : Services S) (st : ApiState) (names : List String) :
    (requestUpdates s st names).2.sessions = st.sessions := by
  induction names generalizing st with
  | nil => rfl
  | cons name names ih =>
    unfold requestUpdates
    cases h : requestUpdate s st name with
    | error e => rfl
    | ok st' => exact (ih st').trans (sessions_requestUpdate h)

theorem sessions_webhook (s : Services S) (st : ApiState) (body : Bytes) :
    (webhook s st body).2.sessions = st.sessions := by
  unfold webhook
  split
  · rfl
  · split
    · rfl
    · exact sessions_requestUpdates s st _

/-! ## Begin -/

theorem get?_of_storedSession? {session : Session} (h : storedSession? st now r = some (id, session)) :
    r.cookies.get? sessionCookie = some id ∧ st.sessions.get? now id = some session := by
  simp only [storedSession?, Option.bind_eq_bind, Option.bind_eq_some_iff] at h
  obtain ⟨id', hid, session', hsession, hpair⟩ := h
  cases hpair
  exact ⟨hid, hsession⟩

/-- A flow begins in a session that authorizes nothing. -/
theorem activeUrls_of_beginFor {provider : Provider} (h : beginFor around s st r = .ok (provider, id))
    (new : st.sessions.activeUrls around.now around.freshSession = none) :
    st.sessions.activeUrls around.now id = none := by
  unfold beginFor at h
  split at h
  · cases h
  · simp only at h
    split at h <;> cases h
    rename_i hidle _
    cases hstored : storedSession? st around.now r with
    | none => exact new
    | some found =>
      obtain ⟨-, hsession⟩ := get?_of_storedSession? hstored
      cases hactive : found.2.active around.now with
      | none => simp [SessionStore.activeUrls, hsession, hactive]
      | some set => simp [hstored, hactive] at hidle

theorem beginFor_of_beginOf? (h : beginOf? around s st r = some id) :
    routed? s r = some .oauthBegin ∧ ∃ provider, beginFor around s st r = .ok (provider, id) := by
  unfold beginOf? at h
  split at h
  · split at h <;> cases h
    exact ⟨‹_›, _, ‹_›⟩
  · cases h

theorem sessions_oauthBegin {provider : Provider} (h : beginFor around s st r = .ok (provider, id)) :
    (oauthBegin around s st r).2.sessions = st.sessions.put around.now id ⟨some providerName, none⟩ := by
  unfold oauthBegin
  rw [h]
  cases hurl : provider.authorizationUrl around.freshState <;> simp [hurl]

theorem oauthBegin_of_error {e : Failure} (h : beginFor around s st r = .error e) :
    (oauthBegin around s st r).2 = st := by
  unfold oauthBegin
  rw [h]

/-! ## Comeback -/

/-- A request comes back from the provider with all that its checks ask for. -/
structure Returns (s : Services S) (st : ApiState) (now : Millis) (r : Request) (b : Comeback) : Prop where
  routed : routed? s r = some .oauthRedirect
  provider : s.provider = some b.provider
  session : r.cookies.get? sessionCookie = some b.id
  state : ∃ state, state ≠ "" ∧ r.cookies.get? stateCookie = some state ∧
    Form.single r.fields "state" = .ok (some state)
  code : ∃ code, Form.single r.fields "code" = .ok code ∧ b.code = code.getD ""
  stored : st.sessions.get? now b.id = some b.session
  begun : b.session.provider = some providerName

theorem returns_of_comebackOf? (h : comebackOf? s st now r = some b) : Returns s st now r b := by
  unfold comebackOf? at h
  split at h <;> try contradiction
  rename_i hrouted
  split at h <;> try contradiction
  rename_i code state hcode hstate
  split at h <;> cases h
  rename_i hcomeback
  unfold comeback at hcomeback
  split at hcomeback <;> try contradiction
  rename_i provider hprovider
  split at hcomeback <;> try contradiction
  rename_i hverified
  split at hcomeback <;> try contradiction
  rename_i id hid
  simp only at hcomeback
  split at hcomeback <;> cases hcomeback
  rename_i hbegun
  obtain ⟨token, hnonempty, hcookie, rfl⟩ := Auth.state_of_verifyState hverified
  exact ⟨hrouted, hprovider, hid, ⟨token, hnonempty, hcookie, hstate⟩, ⟨code, hcode, rfl⟩,
    Session.eq_of_provider hbegun, hbegun⟩

theorem oauthRedirect_of_comebackOf? {code state : Option String}
    (hcode : Form.single r.fields "code" = .ok code) (hstate : Form.single r.fields "state" = .ok state)
    (hrouted : routed? s r = some .oauthRedirect) :
    (oauthRedirect around s st r code state).2 =
      match comebackOf? s st around.now r with
      | some b => (settle around st b).2
      | none => st := by
  unfold oauthRedirect comebackOf?
  simp only [hrouted, hcode, hstate]
  cases comeback s st around.now r code state <;> rfl

/-! ## Requests -/

/-- A request that does not come back from the provider writes a session only if it begins a flow. -/
theorem sessions_handle (h : comebackOf? s st around.now r = none) :
    (handle around s st r).2.sessions =
      match beginOf? around s st r with
      | some id => st.sessions.put around.now id ⟨some providerName, none⟩
      | none => st.sessions := by
  rw [handle_state, beginOf?]
  cases hrouted : routed? s r with
  | none => rfl
  | some route =>
    cases route with
    | health | repos => rfl
    | search | excludes =>
      simp only [answer]
      split <;> rfl
    | update =>
      simp only [answer]
      split
      · exact sessions_requestUpdates s st _
      · rfl
    | webhook => exact sessions_webhook s st r.body
    | oauthBegin =>
      simp only [answer]
      cases hbegin : beginFor around s st r with
      | error e => rw [oauthBegin_of_error hbegin]
      | ok begun => exact sessions_oauthBegin hbegin
    | oauthRedirect =>
      simp only [answer]
      split
      · rename_i code state hcode hstate
        rw [oauthRedirect_of_comebackOf? hcode hstate hrouted, h]
      · rfl

/-- A request that comes back from the provider is settled when it is answered at once. -/
theorem handle_of_comebackOf? (h : comebackOf? s st around.now r = some b) :
    (handle around s st r).2 = (settle around st b).2 := by
  have hreturns := returns_of_comebackOf? h
  obtain ⟨state, -, -, hstate⟩ := hreturns.state
  obtain ⟨code, hcode, -⟩ := hreturns.code
  rw [handle_state, hreturns.routed]
  simp only [answer, hcode, hstate]
  rw [oauthRedirect_of_comebackOf? hcode hstate hreturns.routed, h]

/-! ## Settling -/

/-- Only a code that is exchanged for a token that lists projects writes a session. -/
theorem settle_cases (around : Surroundings S) (st : ApiState) (b : Comeback) :
    (settle around st b).2 = st ∨
      ∃ token urls, around.exchange b.provider b.code = .ok token ∧
        around.projects b.provider token = .ok urls ∧
        (settle around st b).2.sessions =
          st.sessions.put around.now b.id ⟨b.session.provider, some (.ofList urls around.now)⟩ := by
  unfold settle
  cases hexchange : around.exchange b.provider b.code with
  | error e => exact .inl rfl
  | ok token =>
    simp only
    cases hprojects : around.projects b.provider token with
    | error e => exact .inl rfl
    | ok urls => exact .inr ⟨token, urls, rfl, hprojects, rfl⟩

end Api

end CodeSearch
