import CodeSearch.Proofs.Auth.Sessions
import Mathlib.Data.List.Induction

/-!
# Births of sessions

The store against a record of all that was ever asked of it, from which nothing is swept. The session of an
id is born with a write that finds none there, or one that has run out; from then on it lasts for the
lifetime of the store, whatever is written to it.
-/

namespace CodeSearch.SessionStore

inductive Request where
  | get (id : String)
  | put (id : String) (session : Session)

structure Asked where
  time : Millis
  request : Request

/-- What a request is answered, and the store after it. -/
def serve (store : SessionStore) (asked : Asked) : Option Session × SessionStore :=
  match asked.request with
  | .get id => (store.get? asked.time id, store)
  | .put id session => (none, store.put asked.time id session)

def serveAll (store : SessionStore) : List Asked → List (Option Session) × SessionStore
  | [] => ([], store)
  | asked :: rest =>
    let (answer, store) := store.serve asked
    let (answers, store) := store.serveAll rest
    (answer :: answers, store)

def after (lifetime : Millis) (past : List Asked) : SessionStore := ((ofLifetime lifetime).serveAll past).2

/-- No request comes at an earlier time than one before it. -/
def InOrder (requests : List Asked) : Prop := requests.Pairwise fun a b => a.time ≤ b.time

instance (requests : List Asked) : Decidable (InOrder requests) :=
  inferInstanceAs (Decidable (requests.Pairwise _))

/-! ## The record -/

/-- What is on record of an id: when its session was born, and what was written to it last. -/
structure Life where
  born : Millis
  latest : Session

/-- A write goes on with a life that has not run out. Without one it begins a new life. -/
def Life.write (lifetime now : Millis) (session : Session) : Option Life → Life
  | none => ⟨now, session⟩
  | some life => if now < life.born + lifetime then ⟨life.born, session⟩ else ⟨now, session⟩

def Life.next (lifetime : Millis) (id : String) (life : Option Life) (asked : Asked) : Option Life :=
  match asked.request with
  | .get _ => life
  | .put other session => if other = id then some (write lifetime asked.time session life) else life

/-- The life of an id that the last write to it belongs to. -/
def life? (lifetime : Millis) (id : String) (past : List Asked) : Option Life :=
  past.foldl (Life.next lifetime id) none

/-- An id has a life that has not run out. -/
def Lives (lifetime : Millis) (past : List Asked) (now : Millis) (id : String) : Prop :=
  ∃ life, life? lifetime id past = some life ∧ now < life.born + lifetime

/-- What is read under an id: what was written to it last, unless its life has run out. -/
def read? (lifetime : Millis) (past : List Asked) (now : Millis) (id : String) : Option Session :=
  match life? lifetime id past with
  | none => none
  | some life => if now < life.born + lifetime then some life.latest else none

def answer (lifetime : Millis) (past : List Asked) (asked : Asked) : Option Session :=
  match asked.request with
  | .get id => read? lifetime past asked.time id
  | .put .. => none

variable {lifetime now later : Millis} {id other : String} {session : Session} {past rest requests : List Asked}
  {store : SessionStore} {asked : Asked} {life : Life}

theorem Life.next_put_self (life : Option Life) :
    next lifetime id life ⟨now, .put id session⟩ = some (write lifetime now session life) := if_pos rfl

theorem Life.next_put_of_ne (life : Option Life) (h : other ≠ id) :
    next lifetime other life ⟨now, .put id session⟩ = life := if_neg (Ne.symm h)

theorem life?_concat : life? lifetime id (past ++ [asked]) = Life.next lifetime id (life? lifetime id past) asked := by
  rw [life?, List.foldl_append]
  rfl

theorem serveAll_append (store : SessionStore) (past rest : List Asked) :
    store.serveAll (past ++ rest) =
      ((store.serveAll past).1 ++ ((store.serveAll past).2.serveAll rest).1,
        ((store.serveAll past).2.serveAll rest).2) := by
  induction past generalizing store with
  | nil => rfl
  | cons asked past ih => simp [serveAll, ih]

theorem length_serveAll (store : SessionStore) (past : List Asked) :
    (store.serveAll past).1.length = past.length := by
  induction past generalizing store with
  | nil => rfl
  | cons asked past ih => simp [serveAll, ih]

theorem after_concat : after lifetime (past ++ [asked]) = ((after lifetime past).serve asked).2 := by
  rw [after, serveAll_append]
  rfl

def Life.entry (lifetime : Millis) (life : Life) : StoredSession := ⟨life.born + lifetime, life.latest⟩

/-- To the times that are still to come a store shows the record: what has been swept is not missed. -/
structure Shows (lifetime : Millis) (past : List Asked) (store : SessionStore) : Prop where
  span : store.lifetime = lifetime
  live : ∀ id now, (∀ asked ∈ past, asked.time ≤ now) →
    (store.stored.get? id).filter (fun entry => now < entry.expiresAt) =
      ((life? lifetime id past).map (Life.entry lifetime)).filter fun entry => now < entry.expiresAt

theorem shows_ofLifetime (lifetime : Millis) : Shows lifetime [] (ofLifetime lifetime) where
  span := rfl
  live _ _ _ := rfl

/-- The entry that a write leaves is that of the life it belongs to. -/
theorem Shows.get?_put_self (shows : Shows lifetime past store) (latest : ∀ asked ∈ past, asked.time ≤ now) :
    (store.put now id session).stored.get? id =
      some ((Life.write lifetime now session (life? lifetime id past)).entry lifetime) := by
  have hlive := shows.live id now latest
  have hget : (store.sweep now).stored.get? id = (store.stored.get? id).filter fun entry => now < entry.expiresAt :=
    NameMap.get?_filter ..
  rw [put, NameMap.get?_insert_self, hget, hlive, shows.span]
  cases life? lifetime id past with
  | none => rfl
  | some life =>
    by_cases hlasts : now < life.born + lifetime <;> simp [Life.write, Life.entry, Option.filter, hlasts]

theorem Shows.serve (shows : Shows lifetime past store) (latest : ∀ earlier ∈ past, earlier.time ≤ asked.time) :
    Shows lifetime (past ++ [asked]) (store.serve asked).2 := by
  obtain ⟨now, request⟩ := asked
  cases request with
  | get id =>
    refine ⟨shows.span, fun other later hlater => ?_⟩
    rw [life?_concat]
    exact shows.live other later fun earlier hmem => hlater earlier (List.mem_append_left _ hmem)
  | put id session =>
    refine ⟨shows.span, fun other later hlater => ?_⟩
    have hnow : now ≤ later := hlater ⟨now, .put id session⟩ (by simp)
    change ((store.put now id session).stored.get? other).filter _ = _
    rw [life?_concat]
    by_cases hother : other = id
    · subst hother
      rw [shows.get?_put_self latest, Life.next_put_self]
      rfl
    · rw [stored_put_of_ne store now session hother, shows.live other now latest, Life.next_put_of_ne _ hother,
        Option.filter_filter]
      congr 1
      funext entry
      have : later < entry.expiresAt → now < entry.expiresAt := fun h => Int.lt_of_le_of_lt hnow h
      by_cases hentry : later < entry.expiresAt <;> simp [hentry, this]

theorem shows_after (order : InOrder past) : Shows lifetime past (after lifetime past) := by
  induction past using List.reverseRecOn with
  | nil => exact shows_ofLifetime lifetime
  | append_singleton past asked ih =>
    obtain ⟨hpast, -, hlast⟩ := List.pairwise_append.1 order
    rw [after_concat]
    exact (ih hpast).serve fun earlier hmem => hlast earlier hmem asked (by simp)

theorem Shows.get? (shows : Shows lifetime past store) (latest : ∀ asked ∈ past, asked.time ≤ now) :
    store.get? now id = read? lifetime past now id := by
  rw [SessionStore.get?, shows.live id now latest, read?]
  cases life? lifetime id past with
  | none => rfl
  | some life => by_cases hlasts : now < life.born + lifetime <;> simp [Life.entry, Option.filter, hlasts]

theorem isSome_read?_iff : (read? lifetime past now id).isSome = true ↔ Lives lifetime past now id := by
  unfold read? Lives
  cases life? lifetime id past with
  | none => simp
  | some life => by_cases hlasts : now < life.born + lifetime <;> simp [hlasts]

/-- A write to a life that has not run out leaves its birth as it is. -/
theorem lives_put_iff (lives : Lives lifetime past now id) :
    Lives lifetime (past ++ [⟨now, .put id session⟩]) later id ↔ Lives lifetime past later id := by
  obtain ⟨life, hlife, hlasts⟩ := lives
  simp [Lives, life?_concat, Life.next, hlife, Life.write, hlasts]

/-! ## Every run -/

/-- How requests to an empty store compare with their record. -/
structure KeepsLives (lifetime : Millis) (requests : List Asked) : Prop where
  answered : ((ofLifetime lifetime).serveAll requests).1.length = requests.length
  answers : ∀ past asked rest, requests = past ++ asked :: rest →
    ((ofLifetime lifetime).serveAll requests).1[past.length]? = some (answer lifetime past asked)
  /-- After a write all that is stored is what has not run out and what was written. -/
  stored : ∀ past now id session rest, requests = past ++ ⟨now, .put id session⟩ :: rest →
    ∀ other, (after lifetime (past ++ [⟨now, .put id session⟩])).stored.contains other = true ↔
      other = id ∨ Lives lifetime past now other
  /-- A write to a session that has not run out changes nothing of how long it can be read. -/
  lasting : ∀ past now id session rest, requests = past ++ ⟨now, .put id session⟩ :: rest →
    Lives lifetime past now id → ∀ later, now ≤ later →
      ((after lifetime (past ++ [⟨now, .put id session⟩])).get? later id).isSome =
        ((after lifetime past).get? later id).isSome
  /-- A write to one id changes nothing of what is read under another. -/
  apart : ∀ past now id session rest, requests = past ++ ⟨now, .put id session⟩ :: rest →
    ∀ other, other ≠ id → ∀ later, now ≤ later →
      (after lifetime (past ++ [⟨now, .put id session⟩])).get? later other = (after lifetime past).get? later other

theorem InOrder.split (order : InOrder requests) (h : requests = past ++ asked :: rest) :
    InOrder past ∧ InOrder (past ++ [asked]) ∧ ∀ earlier ∈ past, earlier.time ≤ asked.time := by
  have hsplit : requests = (past ++ [asked]) ++ rest := by rw [h, List.append_assoc, List.singleton_append]
  have hfirst : InOrder (past ++ [asked]) := (List.pairwise_append.1 (hsplit ▸ order)).1
  obtain ⟨hpast, -, hlast⟩ := List.pairwise_append.1 hfirst
  exact ⟨hpast, hfirst, fun earlier hmem => hlast earlier hmem asked (by simp)⟩

/-- Writes that go on with a session, one that comes at the moment when it has run out, and one to another
id in between. -/
def twoLives : List Asked :=
  [⟨0, .put "a" .empty⟩, ⟨5, .put "b" .empty⟩, ⟨9, .put "a" ⟨some "gitlab", none⟩⟩, ⟨9, .get "a"⟩, ⟨10, .get "a"⟩,
    ⟨10, .put "a" .empty⟩, ⟨15, .get "b"⟩, ⟨19, .get "a"⟩, ⟨20, .get "a"⟩]

end CodeSearch.SessionStore
