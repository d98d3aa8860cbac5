import CodeSearch.Proofs.Web.Concealment
import CodeSearch.Proofs.Web.Flows

/-!
# Flows that fail

What a failed request of a flow leaves behind. A caller who comes back and is not let in leaves everything as
it was, and so does one who is refused at the beginning. But a session is written before the address of the
provider is read: where that cannot be read, every caller who begins is told of a failure and has a flow under
way nevertheless.
-/

namespace CodeSearch

def Response.Fails (response : Response) : Prop := 400 ≤ response.status

theorem Failure.fails_response (e : Failure) : e.response.Fails := by
  change 400 ≤ e.status
  unfold status
  split
  · decide
  · split
    · decide
    · split <;> decide

theorem Response.not_fails_redirect (location : String) (cookies : List SetCookie) :
    ¬(redirect location cookies).Fails := by
  change ¬400 ≤ 307
  decide

theorem Provider.authorizationUrl_eq_error_iff {p : Provider} {state : String} {e : Failure} :
    p.authorizationUrl state = .error e ↔
      ∃ cause, Url.parse p.config.authUrl = .error cause ∧ e = .url cause.message := by
  unfold authorizationUrl
  cases Url.parse p.config.authUrl <;> simp [eq_comm]

namespace Api

variable {S : Type} {around : Surroundings S} {s : Services S} {st : ApiState} {r : Request} {route : Route}
  {b : Comeback} {code state : Option String}

/-- A routed request fails if its answer does, though the answer may go without its body. -/
theorem fails_handle_iff (h : routed? s r = some route) :
    (handle around s st r).1.Fails ↔ (answer around s st r route).1.Fails := by
  unfold routed? at h
  split at h
  · cases h
  · rename_i hmethod
    obtain ⟨hroute, htakes⟩ := Option.filter_eq_some_iff.1 h
    rw [handle, if_neg hmethod, hroute]
    simp only [htakes, if_true]
    split <;> rfl

theorem state_of_routed (h : routed? s r = some route) :
    (handle around s st r).2 = (answer around s st r route).2 := by
  rw [handle_state, h]

/-! ## Coming back -/

/-- A session is written when the token has been exchanged and the projects are listed, and then nothing fails
any more. -/
theorem settle_of_fails (h : (settle around st b).1.Fails) : (settle around st b).2 = st := by
  unfold settle at h ⊢
  cases hexchange : around.exchange b.provider b.code with
  | error e => rfl
  | ok token =>
    cases hprojects : around.projects b.provider token with
    | error e => simp only [hprojects]
    | ok urls =>
      simp only [hexchange, hprojects, finishComeback] at h
      exact absurd h (Response.not_fails_redirect _ _)

theorem oauthRedirect_of_fails (h : (oauthRedirect around s st r code state).1.Fails) :
    (oauthRedirect around s st r code state).2 = st := by
  unfold oauthRedirect at h ⊢
  split
  · rfl
  · rename_i b hcomeback
    rw [hcomeback] at h
    exact settle_of_fails h

/-! ## Beginning -/

/-- The ways in which a request to begin a flow is answered. -/
inductive Begin (around : Surroundings S) (s : Services S) (st : ApiState) (r : Request) :
    Response × ApiState → Prop where
  | refused {e : Failure} (refused : beginFor around s st r = .error e) : Begin around s st r (e.response, st)
  | unreadable {provider : Provider} {id : String} {cause : UrlError}
      (begins : beginFor around s st r = .ok (provider, id))
      (unreadable : Url.parse provider.config.authUrl = .error cause) :
      Begin around s st r ((Failure.url cause.message).response,
        { st with sessions := st.sessions.put around.now id ⟨some providerName, none⟩ })
  | sent {provider : Provider} {id location : String} {cookies : List SetCookie} {url : Url}
      (begins : beginFor around s st r = .ok (provider, id))
      (readable : Url.parse provider.config.authUrl = .ok url) :
      Begin around s st r (.redirect location cookies,
        { st with sessions := st.sessions.put around.now id ⟨some providerName, none⟩ })

theorem begin_oauthBegin (around : Surroundings S) (s : Services S) (st : ApiState) (r : Request) :
    Begin around s st r (oauthBegin around s st r) := by
  unfold oauthBegin
  cases hbegin : beginFor around s st r with
  | error e => exact .refused hbegin
  | ok begun =>
    obtain ⟨provider, id⟩ := begun
    cases hparse : Url.parse provider.config.authUrl with
    | error cause =>
      have hurl : provider.authorizationUrl around.freshState = .error (.url cause.message) :=
        Provider.authorizationUrl_eq_error_iff.2 ⟨cause, hparse, rfl⟩
      simp only [hurl]
      exact .unreadable hbegin hparse
    | ok url =>
      simp only [Provider.authorizationUrl, hparse]
      exact .sent hbegin hparse

/-- What is left of the sessions when a request of a flow fails. -/
structure AfterFailure (around : Surroundings S) (s : Services S) (st : ApiState) (r : Request) : Prop where
  returned : routed? s r = some .oauthRedirect → (handle around s st r).1.Fails →
    (handle around s st r).2 = st
  /-- Whatever was answered while the code was exchanged. -/
  settled : ∀ b, (settle around st b).1.Fails → (settle around st b).2 = st
  /-- The one failure that leaves a trace: a flow begins, and the address of the provider cannot be read. -/
  begun : routed? s r = some .oauthBegin → (handle around s st r).1.Fails →
    (handle around s st r).2 = st ∨ ∃ provider id cause,
      beginFor around s st r = .ok (provider, id) ∧ Url.parse provider.config.authUrl = .error cause
  /-- Then every beginning fails, and in the session that it is for, and in no other, a flow is under way that
  authorizes nothing. -/
  misled : routed? s r = some .oauthBegin → ∀ provider id cause,
    beginFor around s st r = .ok (provider, id) → Url.parse provider.config.authUrl = .error cause →
      (handle around s st r).1.Fails ∧ (handle around s st r).2.requested = st.requested ∧
      ∀ later, around.now ≤ later →
        (∀ other, other ≠ id →
          (handle around s st r).2.sessions.get? later other = st.sessions.get? later other) ∧
        ∀ session, (handle around s st r).2.sessions.get? later id = some session →
          session = ⟨some providerName, none⟩

theorem afterFailure (around : Surroundings S) (s : Services S) (st : ApiState) (r : Request) :
    AfterFailure around s st r := by
  refine ⟨fun hrouted hfails => ?_, fun b => settle_of_fails, fun hrouted hfails => ?_,
    fun hrouted provider id cause begins unreadable => ?_⟩
  · rw [state_of_routed hrouted, answer]
    rw [fails_handle_iff hrouted, answer] at hfails
    split
    · rename_i code state hcode hstate
      rw [hcode, hstate] at hfails
      exact oauthRedirect_of_fails hfails
    · rfl
  · rw [state_of_routed hrouted, answer]
    rw [fails_handle_iff hrouted, answer] at hfails
    have hbegin := begin_oauthBegin around s st r
    generalize oauthBegin around s st r = answered at hfails hbegin ⊢
    cases hbegin with
    | refused _ => exact .inl rfl
    | unreadable begins unreadable => exact .inr ⟨_, _, _, begins, unreadable⟩
    | sent _ _ => exact absurd hfails (Response.not_fails_redirect _ _)
  · rw [fails_handle_iff hrouted, state_of_routed hrouted, answer]
    have hbegin := begin_oauthBegin around s st r
    generalize oauthBegin around s st r = answered at hbegin ⊢
    cases hbegin with
    | refused refused => cases begins.symm.trans refused
    | sent begins' readable =>
      cases begins.symm.trans begins'
      cases unreadable.symm.trans readable
    | unreadable begins' unreadable' =>
      cases begins.symm.trans begins'
      refine ⟨Failure.fails_response _, rfl, fun later forward => ⟨fun other hother => ?_, fun session hsession => ?_⟩⟩
      · exact SessionStore.get?_put_of_ne _ _ hother forward
      · exact SessionStore.get?_put_self hsession

/-- A provider is accepted by the address of its tokens; the address that callers are sent to is not looked at. -/
def relativeAuth : Provider :=
  ⟨⟨"client", "secret", "http://gl.test/oauth/token", "/oauth/authorize", "https://search.example.com"⟩,
    "https://search.example.com/api/v1/oauth/redirect", "http://gl.test"⟩

def sentNowhere : Services Unit := ⟨.default, ∅, .ofTargets [] 1, some relativeAuth⟩

def idle : ApiState := ⟨SessionStore.empty.put 0 "sid" .empty, ∅⟩

def beginIn : Request :=
  ⟨"GET", ⟨Utf8.encode "/api/v1/oauth/gitlab", []⟩, [("cookie", Utf8.encode "fathom_session=sid")], []⟩

/-- A caller is told of a failure, and a flow is under way. -/
theorem written_sentNowhere :
    Provider.ofConfig relativeAuth.config = .ok relativeAuth ∧ routed? sentNowhere beginIn = some .oauthBegin ∧
      (handle quiet sentNowhere idle beginIn).1 =
        .error 500 "URL parsing error: relative URL without a base" ∧
      idle.sessions.get? quiet.now "sid" = some ⟨none, none⟩ ∧
      (handle quiet sentNowhere idle beginIn).2.sessions.get? quiet.now "sid" = some ⟨some "gitlab", none⟩ := by
  refine ⟨?_, by decide +kernel, ?_, by decide +kernel, by decide +kernel⟩
  · rfl
  · rfl

end Api

end CodeSearch
