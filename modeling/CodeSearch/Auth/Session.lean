import CodeSearch.Store.NameMap

/-!
# Sessions

What is remembered of a caller between requests: the provider of a flow under way, and the URLs that a
finished flow authorized. A session lives for a fixed time from its first write on. Later writes change what
is remembered and never how long; one that has run out is as good as absent.
-/

namespace CodeSearch

/-- A point in time or a span of it, in milliseconds. -/
abbrev Millis := Int

/-- How long a session lasts, and how long the URLs in it stay authorized. -/
def sessionLifetime : Millis := 5 * 24 * 60 * 60 * 1000

structure AuthorizedUrls where
  urls : List String
  expiresAt : Millis
  deriving DecidableEq, Repr

namespace AuthorizedUrls

/-- The URLs in order and without repetition. -/
def ofList (urls : List String) (now : Millis) : AuthorizedUrls where
  urls := (NameMap.ofList (urls.map fun url => (url, ()))).keys
  expiresAt := now + sessionLifetime

def contains (set : AuthorizedUrls) (url : String) : Bool := set.urls.contains url

def isExpired (set : AuthorizedUrls) (now : Millis) : Bool := set.expiresAt ≤ now

end AuthorizedUrls

structure Session where
  /-- The provider of the flow under way. -/
  provider : Option String
  authorized : Option AuthorizedUrls
  deriving DecidableEq, Repr

namespace Session

def empty : Session := ⟨none, none⟩

def active (session : Session) (now : Millis) : Option AuthorizedUrls :=
  session.authorized.filter fun set => !set.isExpired now

end Session

structure StoredSession where
  expiresAt : Millis
  session : Session
  deriving DecidableEq, Repr

structure SessionStore where
  lifetime : Millis
  stored : NameMap StoredSession

namespace SessionStore

def ofLifetime (lifetime : Millis) : SessionStore := ⟨lifetime, ∅⟩

def empty : SessionStore := ofLifetime sessionLifetime

def get? (store : SessionStore) (now : Millis) (id : String) : Option Session :=
  ((store.stored.get? id).filter fun s => now < s.expiresAt).map (·.session)

def sweep (store : SessionStore) (now : Millis) : SessionStore :=
  { store with stored := store.stored.filter fun _ s => now < s.expiresAt }

/-- Writes a session. One that is there keeps its end; a new one gets the lifetime. -/
def put (store : SessionStore) (now : Millis) (id : String) (session : Session) : SessionStore :=
  let swept := store.sweep now
  let expiresAt := ((swept.stored.get? id).map (·.expiresAt)).getD (now + store.lifetime)
  { swept with stored := swept.stored.insert id ⟨expiresAt, session⟩ }

def size (store : SessionStore) : Nat := store.stored.size

end SessionStore

end CodeSearch
