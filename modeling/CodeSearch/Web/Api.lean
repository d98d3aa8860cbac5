import CodeSearch.Auth.Session
import CodeSearch.Auth.State
import CodeSearch.Program
import CodeSearch.Search.FanOut
import CodeSearch.Services
import CodeSearch.Web.Message
import CodeSearch.Web.Params

/-!
# The service

What each request is answered. Callers learn nothing of repositories that they may not use: such a
repository is answered as if it did not exist.
-/

namespace CodeSearch

/-- What changes while requests are answered. -/
structure ApiState where
  sessions : SessionStore
  /-- The repositories for which an update was accepted. -/
  requested : NameMap Unit

/-- What surrounds one request. `S` is what a repository is searched with. -/
structure Surroundings (S : Type) where
  now : Millis
  /-- A session id that is new and cannot be guessed. -/
  freshSession : String
  /-- A state token that is new and cannot be guessed. -/
  freshState : String
  /-- How long a search takes. -/
  elapsed : Nat
  /-- How the task ends that searches a repository. -/
  search : S → String → SearchOptions → TaskEnd
  excluded : S → Except Failure (List ExcludedFile)
  /-- Tasks end in order of these numbers, and of names where they are equal. -/
  order : String → Nat
  /-- The token that a code is exchanged for. -/
  exchange : Provider → (code : String) → Except Failure String
  /-- The URLs that a token stands for. -/
  projects : Provider → (token : String) → Except Failure (List String)

namespace Api

variable {S : Type}

def accessKeyHeader : String := "fathom-access-key"

def sessionCookie : String := "fathom_session"

def stateCookie : String := "oauthstate"

def stateLifetime : Nat := 600

def authorizedUrls (st : ApiState) (now : Millis) (r : Request) : List String :=
  match (r.cookies.get? sessionCookie).bind (st.sessions.get? now) with
  | some session => ((session.active now).map (·.urls)).getD []
  | none => []

def caller (st : ApiState) (now : Millis) (r : Request) : Caller where
  accessKey := (r.plainHeader? accessKeyHeader).getD ""
  authorizedUrls := authorizedUrls st now r

def health : Response :=
  .ofJson (.ofFields [("status", .string "ok"), ("version", .string Program.version)])

/-- What callers may see of the repositories that they may use. -/
def repos (s : Services S) (c : Caller) : Response :=
  .ofJson (.ofFields ((s.registry.resolve c .all).filterMap fun name =>
    (s.registry.get? name).map fun r => (name, r.config.publicView)))

def matchJson (m : LineMatch) : Json :=
  .ofFields [("Line", .string m.line), ("LineNumber", .nat m.lineNumber), ("Before", .strings m.before),
    ("After", .strings m.after)]

def fileJson (f : FileMatch) : Json :=
  .ofFields [("Filename", .string f.filename), ("Matches", .array (f.matched.map matchJson))]

def responseJson (elapsed : Nat) (r : SearchResponse) : Json :=
  .ofFields [("Matches", .array (r.matched.map fileJson)), ("FilesWithMatch", .nat r.filesWithMatch),
    ("FilesOpened", .nat r.filesOpened), ("DurationMs", .nat elapsed), ("Revision", .string r.revision)]

def aggregateJson (elapsed : Nat) (stats : Bool) (a : Aggregate) : Json :=
  .ofFields (("Results", .ofNameMap (a.results.map fun _ r => responseJson elapsed r)) ::
    if stats then
      [("Stats", .ofFields [("FilesOpened", .nat a.filesOpened), ("DurationMs", .nat elapsed)])]
    else [])

/-- The tasks that search the named repositories, in the order in which they end. -/
def arrivals (around : Surroundings S) (s : Services S) (names : List String) (query : String)
    (options : SearchOptions) : List (String × TaskEnd) :=
  (names.mergeSort fun a b => around.order a ≤ around.order b).filterMap fun name =>
    (s.registry.get? name).map fun r => (name, around.search r.searcher query options)

/-- A search that fails is answered with its failure in place of results. -/
def search (around : Surroundings S) (s : Services S) (c : Caller) (p : Params.SearchParams) : Response :=
  let names := s.registry.known (s.registry.resolve c p.selection)
  match searchAll names (arrivals around s names p.q p.options) with
  | .ok a => .ofJson (aggregateJson around.elapsed p.wantsStats a)
  | .error e => .error 200 e.message

def excludedJson (f : ExcludedFile) : Json :=
  .ofFields [("Filename", .string f.filename), ("Reason", .string f.reason)]

def excludes (around : Surroundings S) (s : Services S) (c : Caller) (name : String) : Response :=
  if (s.registry.resolve c (.names [name])).isEmpty then (Failure.repositoryNotFound name).response
  else
    match s.registry.get? name with
    | none => (Failure.repositoryNotFound name).response
    | some r =>
      match around.excluded r.searcher with
      | .ok files => .ofJson (.array (files.map excludedJson))
      | .error e => e.response

def requestUpdate (s : Services S) (st : ApiState) (name : String) : Except Failure ApiState :=
  if !s.registry.contains name then .error (.repositoryNotFound name)
  else
    match s.coordinator.accepts name with
    | .error e => .error e
    | .ok false => .error (.updatesDisabled name)
    | .ok true => .ok { st with requested := st.requested.insert name () }

/-- Requests updates one after another. The first one that is refused ends it; those before it stand. -/
def requestUpdates (s : Services S) (st : ApiState) : List String → Response × ApiState
  | [] => (.ofJson (.string "ok"), st)
  | name :: names =>
    match requestUpdate s st name with
    | .ok st => requestUpdates s st names
    | .error e => (e.response, st)

def update (s : Services S) (st : ApiState) (c : Caller) (repos : String) : Response × ApiState :=
  requestUpdates s st (s.registry.resolve c (.parse repos))

def decodeFullName : Decoder String := fun d node => do
  match ← Decoder.fields ["full_name"] d node with
  | [fullName] => Decoder.absentAs "" Decoder.string d fullName
  | _ => none

/-- The repository that a push notification names; an empty text if it names none. -/
def decodeWebhook : Decoder String := fun d node => do
  match ← Decoder.fields ["repository"] d node with
  | [repository] => Decoder.absentAs "" decodeFullName d repository
  | _ => none

def bodyLimit : Nat := 2 * 1024 * 1024

def webhook (s : Services S) (st : ApiState) (body : Bytes) : Response × ApiState :=
  if bodyLimit < body.length then (.empty 413, st)
  else
    match (Json.node? body).bind (decodeWebhook Decoding.json) with
    | none => ((Failure.malformedWebhook "not a push notification").response, st)
    | some name => requestUpdates s st [name]

def storedSession? (st : ApiState) (now : Millis) (r : Request) : Option (String × Session) := do
  let id ← r.cookies.get? sessionCookie
  let session ← st.sessions.get? now id
  return (id, session)

/-- The provider that a caller is sent to and the session to remember it in. A caller who is authorized has
to go nowhere. -/
def beginFor (around : Surroundings S) (s : Services S) (st : ApiState) (r : Request) :
    Except Failure (Provider × String) :=
  match s.provider with
  | none => .error .oauthNotConfigured
  | some provider =>
    let stored := storedSession? st around.now r
    if (stored.bind fun found => found.2.active around.now).isSome then .error .alreadyAuthorized
    else .ok (provider, (stored.map (·.1)).getD around.freshSession)

/-- Sends a caller to the provider. The session remembers the provider, and a cookie the state that has to
come back. -/
def oauthBegin (around : Surroundings S) (s : Services S) (st : ApiState) (r : Request) :
    Response × ApiState :=
  match beginFor around s st r with
  | .error e => (e.response, st)
  | .ok (provider, id) =>
    let st := { st with sessions := st.sessions.put around.now id ⟨some providerName, none⟩ }
    match provider.authorizationUrl around.freshState with
    | .error e => (e.response, st)
    | .ok url =>
      (.redirect url [⟨stateCookie, around.freshState, true, stateLifetime⟩,
        ⟨sessionCookie, id, true, (sessionLifetime / 1000).toNat⟩], st)

/-- What is left to do when a caller has come back: to exchange the code for the session. -/
structure Comeback where
  provider : Provider
  id : String
  session : Session
  code : String

def comeback (s : Services S) (st : ApiState) (now : Millis) (r : Request)
    (code state : Option String) : Except Failure Comeback :=
  match s.provider with
  | none => .error .oauthNotConfigured
  | some provider =>
    match Auth.verifyState (r.cookies.get? stateCookie) state with
    | .error e => .error e
    | .ok () =>
      match r.cookies.get? sessionCookie with
      | none => .error (.authorization "No session")
      | some id =>
        let session := (st.sessions.get? now id).getD .empty
        if session.provider = some providerName then .ok ⟨provider, id, session, code.getD ""⟩
        else .error (.authorization "Redirect action for oauth provider not implemented")

def finishComeback (st : ApiState) (now : Millis) (b : Comeback) (urls : List String) :
    Response × ApiState :=
  let session : Session := ⟨b.session.provider, some (.ofList urls now)⟩
  (.redirect b.provider.config.redirectHost [⟨stateCookie, "", false, 0⟩],
    { st with sessions := st.sessions.put now b.id session })

/-- Exchanges the code of a caller who has come back and lists the projects. A failure leaves the session as
it is. -/
def settle (around : Surroundings S) (st : ApiState) (b : Comeback) : Response × ApiState :=
  match around.exchange b.provider b.code with
  | .error e => (e.response, st)
  | .ok token =>
    match around.projects b.provider token with
    | .error e => (e.response, st)
    | .ok urls => finishComeback st around.now b urls

def oauthRedirect (around : Surroundings S) (s : Services S) (st : ApiState) (r : Request)
    (code state : Option String) : Response × ApiState :=
  match comeback s st around.now r code state with
  | .error e => (e.response, st)
  | .ok b => settle around st b

inductive Route where
  | health | repos | search | excludes | update | webhook | oauthBegin | oauthRedirect
  deriving DecidableEq, Repr

namespace Route

def paths (config : Config) : List (String × Route) :=
  [(config.healthCheckUri, .health), (apiPath ++ "/repos", .repos), (apiPath ++ "/search", .search),
    (apiPath ++ "/excludes", .excludes), (apiPath ++ "/update", .update),
    (apiPath ++ "/github-webhook", .webhook), (apiPath ++ "/oauth/" ++ providerName, .oauthBegin),
    (redirectPath, .oauthRedirect)]

def ofPath? (config : Config) (path : Bytes) : Option Route :=
  ((paths config).find? fun p => Utf8.encode p.1 == path).map (·.2)

def isPost : Route → Bool
  | .update | .webhook => true
  | _ => false

/-- Whether a route takes a method; what can be got can be asked for without its body as well. -/
def takes (route : Route) (method : String) : Bool :=
  if route.isPost then method == "POST" else method == "GET" || method == "HEAD"

end Route

/-- The answer of a route. A repeated parameter makes a bad request. -/
def answer (around : Surroundings S) (s : Services S) (st : ApiState) (r : Request) :
    Route → Response × ApiState
  | .health => (health, st)
  | .repos => (repos s (caller st around.now r), st)
  | .search =>
    match Params.SearchParams.ofQuery r.target.query with
    | .ok p => (search around s (caller st around.now r) p, st)
    | .error _ => (.empty 400, st)
  | .excludes =>
    match Form.single r.fields "repo" with
    | .ok name => (excludes around s (caller st around.now r) (name.getD ""), st)
    | .error _ => (.empty 400, st)
  | .update =>
    match Form.single r.fields "repos" with
    | .ok names => update s st (caller st around.now r) (names.getD "")
    | .error _ => (.empty 400, st)
  | .webhook => webhook s st r.body
  | .oauthBegin => oauthBegin around s st r
  | .oauthRedirect =>
    match Form.single r.fields "code", Form.single r.fields "state" with
    | .ok code, .ok state => oauthRedirect around s st r code state
    | _, _ => (.empty 400, st)

/-- Answers a request. Questions about what is allowed are answered for any path. -/
def handle (around : Surroundings S) (s : Services S) (st : ApiState) (r : Request) :
    Response × ApiState :=
  if r.method == "OPTIONS" then (.empty 200, st)
  else
    match Route.ofPath? s.config r.target.path with
    | none => (.empty 404, st)
    | some route =>
      if route.takes r.method then
        let (response, st) := answer around s st r route
        (if r.method == "HEAD" then response.withoutBody else response, st)
      else (.empty 405, st)

end Api

end CodeSearch
