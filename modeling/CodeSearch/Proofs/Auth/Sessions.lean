import CodeSearch.Auth.Session

/-!
# Stored sessions

What a write to the store leaves of other sessions, and that what has run out stays so while the clock does
not go back.
-/

namespace CodeSearch

theorem AuthorizedUrls.mem_ofList {urls : List String} {now : Millis} {url : String} :
    url ∈ (ofList urls now).urls ↔ url ∈ urls := by
  rw [ofList, NameMap.mem_keys_ofList]
  simp

theorem Session.active_eq_some_iff {session : Session} {now : Millis} {set : AuthorizedUrls} :
    session.active now = some set ↔ session.authorized = some set ∧ now < set.expiresAt := by
  simp [active, AuthorizedUrls.isExpired, Option.filter_eq_some_iff]

namespace SessionStore

variable {store : SessionStore} {now later : Millis} {id other : String} {session found : Session}
  {entry : StoredSession} {urls : List String}

theorem get?_eq_some_iff :
    store.get? now id = some session ↔
      ∃ entry, store.stored.get? id = some entry ∧ now < entry.expiresAt ∧ entry.session = session := by
  simp [get?, Option.filter_eq_some_iff, and_assoc]

/-! ## Writes -/

theorem stored_put_self (store : SessionStore) (now : Millis) (id : String) (session : Session) :
    ∃ expiresAt, (store.put now id session).stored.get? id = some ⟨expiresAt, session⟩ :=
  ⟨_, NameMap.get?_insert_self _ _ _⟩

/-- Other sessions are kept as they are unless they have run out. -/
theorem stored_put_of_ne (store : SessionStore) (now : Millis) (session : Session) (h : other ≠ id) :
    (store.put now id session).stored.get? other =
      (store.stored.get? other).filter fun entry => now < entry.expiresAt := by
  rw [put, NameMap.get?_insert_of_ne _ _ h]
  exact NameMap.get?_filter _ _ _

theorem stored_put (h : (store.put now id session).stored.get? other = some entry) :
    other = id ∧ entry.session = session ∨ store.stored.get? other = some entry := by
  by_cases hid : other = id
  · subst hid
    obtain ⟨expiresAt, hput⟩ := stored_put_self store now other session
    cases hput.symm.trans h
    exact .inl ⟨rfl, rfl⟩
  · rw [stored_put_of_ne store now session hid] at h
    exact .inr (Option.filter_eq_some_iff.1 h).1

theorem get?_put_self (h : (store.put now id session).get? later id = some found) : found = session := by
  obtain ⟨entry, hentry, -, rfl⟩ := get?_eq_some_iff.1 h
  obtain ⟨expiresAt, hput⟩ := stored_put_self store now id session
  cases hput.symm.trans hentry
  rfl

theorem get?_put_of_ne (store : SessionStore) (session : Session) (h : other ≠ id) (forward : now ≤ later) :
    (store.put now id session).get? later other = store.get? later other := by
  rw [get?, get?, stored_put_of_ne store now session h, Option.filter_filter]
  congr 1
  refine congrArg (Option.filter · _) (funext fun entry => ?_)
  have : later < entry.expiresAt → now < entry.expiresAt := fun h => Int.lt_of_le_of_lt forward h
  by_cases hlater : later < entry.expiresAt <;> simp [hlater, this]

/-! ## Active URLs -/

def activeUrls (store : SessionStore) (now : Millis) (id : String) : Option (List String) :=
  ((store.get? now id).bind (·.active now)).map (·.urls)

theorem activeUrls_eq_some_iff :
    store.activeUrls now id = some urls ↔
      ∃ entry set, store.stored.get? id = some entry ∧ now < entry.expiresAt ∧
        entry.session.authorized = some set ∧ now < set.expiresAt ∧ set.urls = urls := by
  simp only [activeUrls, Option.map_eq_some_iff, Option.bind_eq_some_iff, get?_eq_some_iff,
    Session.active_eq_some_iff]
  constructor
  · rintro ⟨set, ⟨_, ⟨entry, hentry, hlive, rfl⟩, hset, hactive⟩, rfl⟩
    exact ⟨entry, set, hentry, hlive, hset, hactive, rfl⟩
  · rintro ⟨entry, set, hentry, hlive, hset, hactive, rfl⟩
    exact ⟨set, ⟨_, ⟨entry, hentry, hlive, rfl⟩, hset, hactive⟩, rfl⟩

/-- URLs that are not active do not become so by themselves. -/
theorem activeUrls_eq_none_of_le (h : store.activeUrls now id = none) (forward : now ≤ later) :
    store.activeUrls later id = none := by
  cases hlater : store.activeUrls later id with
  | none => rfl
  | some urls =>
    obtain ⟨entry, set, hentry, hlive, hset, hactive, -⟩ := activeUrls_eq_some_iff.1 hlater
    have hnow := activeUrls_eq_some_iff.2
      ⟨entry, set, hentry, Int.lt_of_le_of_lt forward hlive, hset, Int.lt_of_le_of_lt forward hactive, rfl⟩
    cases h.symm.trans hnow

theorem activeUrls_put_of_ne (store : SessionStore) (session : Session) (h : other ≠ id)
    (forward : now ≤ later) :
    (store.put now id session).activeUrls later other = store.activeUrls later other := by
  rw [activeUrls, activeUrls, get?_put_of_ne store session h forward]

/-- A write without URLs to a session that authorizes none changes nothing of what is authorized. -/
theorem activeUrls_put_none (provider : Option String) (h : store.activeUrls now id = none)
    (forward : now ≤ later) :
    (store.put now id ⟨provider, none⟩).activeUrls later other = store.activeUrls later other := by
  by_cases hid : other = id
  · subst hid
    rw [activeUrls_eq_none_of_le h forward]
    cases hput : (store.put now other ⟨provider, none⟩).get? later other with
    | none => simp [activeUrls, hput]
    | some found =>
      cases get?_put_self hput
      simp [activeUrls, hput, Session.active]
  · exact activeUrls_put_of_ne store _ hid forward

end SessionStore

end CodeSearch
