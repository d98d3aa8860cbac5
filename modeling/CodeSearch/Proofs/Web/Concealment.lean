import CodeSearch.Proofs.Access
import CodeSearch.Web.Api
import Mathlib.Data.List.Basic

/-!
# Concealment

A repository that a caller may not use is answered as if it were not served: responses, and updates that are
requested, are those of services without it.
-/

namespace CodeSearch

variable {S : Type}

/-- The services without the repositories that a caller may not use. -/
def Services.visibleTo (s : Services S) (c : Caller) : Services S :=
  { s with registry := s.registry.visible c }

@[simp] theorem Services.visibleTo_config (s : Services S) (c : Caller) :
    (s.visibleTo c).config = s.config := rfl

namespace Api

variable {s s' : Services S} {c : Caller} {names : List String}

theorem get?_visibleTo {selection : RepoSelection} {name : String}
    (h : name ∈ s.registry.resolve c selection) :
    (s.visibleTo c).registry.get? name = s.registry.get? name :=
  Registry.get?_visible_of_mem_resolve h

theorem resolve_visibleTo (s : Services S) (c : Caller) (selection : RepoSelection) :
    (s.visibleTo c).registry.resolve c selection = s.registry.resolve c selection :=
  Registry.resolve_visible s.registry c selection

theorem repos_visibleTo (s : Services S) (c : Caller) : repos (s.visibleTo c) c = repos s c := by
  have hfields : (s.registry.resolve c .all).filterMap (fun name =>
      ((s.visibleTo c).registry.get? name).map fun r => (name, r.config.publicView)) =
      (s.registry.resolve c .all).filterMap fun name =>
        (s.registry.get? name).map fun r => (name, r.config.publicView) :=
    List.filterMap_congr fun name hname => by rw [get?_visibleTo hname]
  rw [repos, resolve_visibleTo, hfields, repos]

/-! ## Searches -/

/-- Which tasks run depends on what the registry has for the names, and on nothing else. -/
theorem arrivals_congr (around : Surroundings S) (query : String) (options : SearchOptions)
    (h : ∀ name ∈ names, s'.registry.get? name = s.registry.get? name) :
    arrivals around s' names query options = arrivals around s names query options := by
  refine List.filterMap_congr fun name hname => ?_
  rw [h name (List.mem_mergeSort.1 hname)]

theorem search_visibleTo (around : Surroundings S) (s : Services S) (c : Caller)
    (p : Params.SearchParams) : search around (s.visibleTo c) c p = search around s c p := by
  have hsame : ∀ name ∈ s.registry.resolve c p.selection,
      (s.visibleTo c).registry.get? name = s.registry.get? name := fun _ => get?_visibleTo
  simp only [search, resolve_visibleTo, Registry.known_congr hsame]
  rw [arrivals_congr around p.q p.options fun name hname => hsame name (Registry.mem_known.1 hname).1]

/-! ## Files that are excluded -/

theorem excludes_visibleTo (around : Surroundings S) (s : Services S) (c : Caller) (name : String) :
    excludes around (s.visibleTo c) c name = excludes around s c name := by
  unfold excludes
  rw [resolve_visibleTo]
  cases hnames : s.registry.resolve c (.names [name]) with
  | nil => rfl
  | cons other rest =>
    have hother : other ∈ s.registry.resolve c (.names [name]) := by simp [hnames]
    obtain rfl : other = name := by simpa using (Registry.mem_resolve_names.1 hother).1
    rw [get?_visibleTo hother]

/-! ## Updates -/

/-- Requests depend on which of the names are served, and on what the coordinator says. -/
theorem requestUpdates_congr (st : ApiState) (coordinator : s'.coordinator = s.coordinator)
    (h : ∀ name ∈ names, s'.registry.get? name = s.registry.get? name) :
    requestUpdates s' st names = requestUpdates s st names := by
  induction names generalizing st with
  | nil => rfl
  | cons name names ih =>
    have hfirst : requestUpdate s' st name = requestUpdate s st name := by
      unfold requestUpdate
      rw [coordinator, NameMap.contains, NameMap.contains, h name List.mem_cons_self]
    rw [requestUpdates, requestUpdates, hfirst]
    cases requestUpdate s st name with
    | error e => rfl
    | ok st => exact ih st fun other hother => h other (List.mem_cons_of_mem name hother)

theorem update_visibleTo (s : Services S) (st : ApiState) (c : Caller) (repos : String) :
    update (s.visibleTo c) st c repos = update s st c repos := by
  rw [update, resolve_visibleTo]
  exact requestUpdates_congr st rfl fun _ => get?_visibleTo

/-! ## Requests -/

theorem answer_visibleTo (around : Surroundings S) (s : Services S) (st : ApiState) (r : Request)
    {route : Route} (h : route ≠ .webhook) :
    answer around (s.visibleTo (caller st around.now r)) st r route = answer around s st r route := by
  cases route with
  | health | oauthBegin | oauthRedirect => rfl
  | repos => simp only [answer, repos_visibleTo]
  | search => simp only [answer, search_visibleTo]
  | excludes => simp only [answer, excludes_visibleTo]
  | update => simp only [answer, update_visibleTo]
  | webhook => exact absurd rfl h

/-- Every request but a push notification is answered, and leaves the sessions and the requested updates, as
if the repositories that the caller may not use were not served. -/
theorem handle_visibleTo (around : Surroundings S) (s : Services S) (st : ApiState) (r : Request)
    (h : Route.ofPath? s.config r.target.path ≠ some .webhook) :
    handle around (s.visibleTo (caller st around.now r)) st r = handle around s st r := by
  unfold handle
  rw [Services.visibleTo_config]
  cases hroute : Route.ofPath? s.config r.target.path with
  | none => rfl
  | some route =>
    have hroute : route ≠ .webhook := fun heq => h (heq ▸ hroute)
    simp only [answer_visibleTo around s st r hroute]

def oneKeyed : Services Unit where
  config := .default
  registry := .ofList [("a", ⟨.ofUrl "https://example.org/a", ()⟩),
    ("b", ⟨{ RepoConfig.ofUrl "https://example.org/b" with accessKeys := some ["key"] }, ()⟩)]
  coordinator := .ofTargets [] 1
  provider := none

def quiet : Surroundings Unit where
  now := 0
  freshSession := "id"
  freshState := "state"
  elapsed := 0
  search _ _ _ := .lost
  excluded _ := .ok []
  order _ := 0
  exchange _ code := .ok code
  projects _ _ := .ok []

def updateBoth : Request :=
  ⟨"POST", ⟨Utf8.encode "/api/v1/update", Utf8.encode "repos=b,a"⟩, [], []⟩

/-- A caller without a key cannot tell that there is a repository that asks for one. -/
theorem handle_visibleTo_keyed :
    oneKeyed.registry.contains "b" = true ∧
      (oneKeyed.visibleTo (caller ⟨.empty, ∅⟩ quiet.now updateBoth)).registry.contains "b" = false ∧
      handle quiet (oneKeyed.visibleTo (caller ⟨.empty, ∅⟩ quiet.now updateBoth)) ⟨.empty, ∅⟩ updateBoth =
        handle quiet oneKeyed ⟨.empty, ∅⟩ updateBoth :=
  ⟨by decide +kernel, by decide +kernel,
    handle_visibleTo quiet oneKeyed ⟨.empty, ∅⟩ updateBoth (by decide +kernel)⟩

end Api

end CodeSearch
