import Mathlib.Data.List.Forall2
import CodeSearch.Proofs.Discovery.Pages

/-!
# What a listing comes to

Where the links to next pages make up a finite chain, a listing is what its pages hold in their order, or an
error from the first page that fails. The count of the projects is checked after the last page only: it has
no part in how far a listing goes.
-/

namespace CodeSearch

namespace SourceConfig

variable {remote : Remote} {source : SourceConfig} {page next here last : String}
  {passed linked linked' before after : List String}
  {projects found : List Project} {lists : List (List Project)} {fuel : Nat}

/-! ## Links between pages -/

/-- Where the answer to the request for a page says that the next one is. -/
def nextOf? (remote : Remote) (source : SourceConfig) (page : String) : Option String :=
  match (source.pageRequest? page).map remote with
  | some (.answered _ link _) => nextPage? link
  | _ => none

/-- The pages from one on, each with a link to the next and the last with none. -/
inductive Chain (remote : Remote) (source : SourceConfig) : String → List String → Prop
  | last {page : String} (h : source.nextOf? remote page = none) : Chain remote source page [page]
  | more {page next : String} {linked : List String} (h : source.nextOf? remote page = some next)
      (rest : Chain remote source next linked) : Chain remote source page (page :: linked)

namespace Chain

theorem unique (c : Chain remote source page linked) (d : Chain remote source page linked') : linked = linked' := by
  induction c generalizing linked' with
  | last h =>
    cases d with
    | last => rfl
    | more h' => simp [h] at h'
  | more h _ ih =>
    cases d with
    | last h' => simp [h] at h'
    | more h' rest =>
      obtain rfl := Option.some.inj (h.symm.trans h')
      rw [ih rest]

/-- Pages with the same request have the same number of pages after them. -/
theorem length_eq (c : Chain remote source page linked) (d : Chain remote source next linked')
    (same : source.pageRequest? page = source.pageRequest? next) : linked.length = linked'.length := by
  have hnext : source.nextOf? remote page = source.nextOf? remote next := by unfold nextOf?; rw [same]
  cases c with
  | last h =>
    cases d with
    | last => rfl
    | more h' => simp [hnext.symm.trans h] at h'
  | more h rest =>
    cases d with
    | last h' => simp [hnext.symm.trans h] at h'
    | more h' rest' =>
      obtain rfl := Option.some.inj (h.symm.trans (hnext.trans h'))
      simp [rest.unique rest']

theorem of_cons (c : Chain remote source page (here :: linked)) (goesOn : linked ≠ []) :
    here = page ∧ ∃ next, source.nextOf? remote page = some next ∧ Chain remote source next linked := by
  cases c with
  | last => exact absurd rfl goesOn
  | more h rest => exact ⟨rfl, _, h, rest⟩

theorem of_mem (c : Chain remote source page linked) (h : here ∈ linked) :
    ∃ linked', Chain remote source here linked' ∧ linked'.length ≤ linked.length := by
  induction c with
  | last hlast =>
    obtain rfl := List.mem_singleton.1 h
    exact ⟨_, .last hlast, Nat.le_refl _⟩
  | more hnext rest ih =>
    rcases List.mem_cons.1 h with rfl | h
    · exact ⟨_, .more hnext rest, Nat.le_refl _⟩
    · obtain ⟨linked', hmore, hle⟩ := ih h
      exact ⟨linked', hmore, Nat.le_succ_of_le hle⟩

/-- No two pages of a chain come to the same request: the answer to it would lead round. -/
theorem nodup (c : Chain remote source page linked) : (source.requestsOf linked).Nodup := by
  induction c with
  | @last page =>
    unfold requestsOf
    cases h : source.pageRequest? page <;> simp [h]
  | @more page next linked hnext rest ih =>
    cases hrequest : source.pageRequest? page with
    | none =>
      rw [requestsOf, List.filterMap_cons_none hrequest]
      exact ih
    | some request =>
      rw [requestsOf, List.filterMap_cons_some hrequest, List.nodup_cons]
      refine ⟨fun hagain => ?_, ih⟩
      obtain ⟨page', hmem, hpage'⟩ := List.mem_filterMap.1 hagain
      obtain ⟨linked', hmore, hle⟩ := rest.of_mem hmem
      have hlength := (Chain.more hnext rest).length_eq hmore (hrequest.trans hpage'.symm)
      rw [List.length_cons] at hlength
      omega

end Chain

/-! ## Pages that answer -/

def Answers (remote : Remote) (source : SourceConfig) (page : String) (projects : List Project) : Prop :=
  ∃ request link body, source.pageRequest? page = some request ∧ remote request = .answered 200 link body ∧
    (Json.node? body).bind (Decoder.list Project.decode Decoding.json) = some projects

theorem fetch_of_answers (h : Answers remote source page projects) :
    source.fetch remote page = .ok (projects, source.nextOf? remote page) := by
  obtain ⟨request, link, body, hrequest, hreply, hbody⟩ := h
  simp [fetch, nextOf?, hrequest, hreply, readPage, hbody]

theorem answers_of_fetch {named : Option String} (h : source.fetch remote page = .ok (projects, named)) :
    Answers remote source page projects := by
  unfold fetch at h
  cases hrequest : source.pageRequest? page with
  | none => simp [hrequest] at h
  | some request =>
    simp only [hrequest] at h
    cases hreply : remote request with
    | unreachable reason => simp [hreply, readPage] at h
    | answered status link body =>
      simp only [hreply, readPage] at h
      split at h
      · cases h
      · next hstatus =>
        obtain rfl : status = 200 := Decidable.not_not.1 hstatus
        split at h
        · next hbody =>
          cases h
          exact ⟨request, link, body, hrequest, hreply, hbody⟩
        · cases h

/-- The request for a page: its address as a URL, with the key of the source. -/
def IsRequest (source : SourceConfig) (page : String) (request : OutRequest) : Prop :=
  ∃ url, Url.parse page = .ok url ∧ request = ⟨"GET", url.href, some ("Bearer " ++ source.key), ""⟩

theorem isRequest_of_pageRequest? {request : OutRequest} (h : source.pageRequest? page = some request) :
    source.IsRequest page request := by
  unfold pageRequest? at h
  cases hurl : Url.parse page with
  | error e => simp [hurl] at h
  | ok url =>
    simp only [hurl] at h
    split at h
    · cases h
      exact ⟨url, hurl, rfl⟩
    · cases h

theorem forall₂_requestsOf (h : List.Forall₂ (Answers remote source) linked lists) :
    List.Forall₂ source.IsRequest linked (source.requestsOf linked) := by
  induction h with
  | nil => exact .nil
  | cons hpage _ ih =>
    obtain ⟨request, _, _, hrequest, _⟩ := hpage
    rw [requestsOf, List.filterMap_cons_some hrequest]
    exact .cons (isRequest_of_pageRequest? hrequest) ih

/-- The pages of a chain before one of them are passed, if they answer. -/
theorem Chain.trail (c : Chain remote source page (before ++ here :: after))
    (answers : List.Forall₂ (Answers remote source) before lists) :
    Trail remote source page before lists.flatten here := by
  induction answers generalizing page with
  | nil =>
    cases c with
    | last => exact .here here
    | more => exact .here here
  | cons hpage _ ih =>
    obtain ⟨rfl, next, hnext, rest⟩ := c.of_cons (by simp)
    refine .step ?_ (ih rest)
    rw [fetch_of_answers hpage, hnext]

/-! ## Listings -/

theorem listing_requests :
    (source.listing fuel remote).requests = (pages remote source fuel source.firstPage []).requests := rfl

theorem listing_result : (source.listing fuel remote).result =
    (pages remote source fuel source.firstPage []).result.map fun r => r.bind source.checkCount := rfl

/-- The limit has its say in the check of the count only. -/
theorem pages_limit (remote : Remote) (source : SourceConfig) (m fuel : Nat) (page : String) (found : List Project) :
    pages remote { source with maximumProjects := m } fuel page found = pages remote source fuel page found := by
  induction fuel generalizing page found with
  | zero => rfl
  | succ fuel ih =>
    rw [pages_succ, pages_succ]
    have hfetch : { source with maximumProjects := m }.fetch remote page = source.fetch remote page := rfl
    rw [hfetch]
    cases source.fetch remote page with
    | error e => rfl
    | ok got =>
      rcases got with ⟨projects, _ | next⟩
      · rfl
      · simp only [ih]
        rfl

theorem checkCount_within (h : source.maximumProjects = 0 ∨ projects.length ≤ source.maximumProjects) :
    source.checkCount projects = .ok projects := by
  rw [checkCount, if_neg (by omega)]

def tooMany (source : SourceConfig) (count : Nat) : Failure :=
  .discovery ("Trying to clone " ++ toString count ++ " projects which is larger than the maximum defined " ++
    toString source.maximumProjects)

theorem checkCount_beyond (limited : source.maximumProjects ≠ 0) (h : source.maximumProjects < projects.length) :
    source.checkCount projects = .error (source.tooMany projects.length) := by
  rw [checkCount, if_pos ⟨limited, h⟩]
  rfl

theorem projectUrls_of_result {r : Except Failure (List Project)} (h : (source.listing fuel remote).result = some r) :
    source.projectUrls fuel remote = some (r.map fun projects => projects.map (·.url)) := by
  rw [projectUrls, h]
  rfl

theorem fetch_of_unanswered (h : ∀ projects, ¬ Answers remote source page projects) :
    ∃ e, source.fetch remote page = .error e := by
  cases hfetch : source.fetch remote page with
  | error e => exact ⟨e, rfl⟩
  | ok got => exact absurd (answers_of_fetch hfetch) (h got.1)

theorem Chain.pages_eq (c : Chain remote source page linked)
    (answers : List.Forall₂ (Answers remote source) linked lists) (enough : linked.length ≤ fuel) :
    pages remote source fuel page found = ⟨source.requestsOf linked, some (.ok (found ++ lists.flatten))⟩ := by
  induction c generalizing fuel found lists with
  | last hlast =>
    obtain ⟨rest, rfl⟩ := Nat.exists_eq_add_of_le' enough
    cases answers with
    | cons hpage hnone =>
      cases hnone
      rw [List.length_singleton, pages_succ, fetch_of_answers hpage, hlast]
      simp [Listing.after]
  | more hnext _ ih =>
    obtain ⟨rest, rfl⟩ := Nat.exists_eq_add_of_le' enough
    cases answers with
    | cons hpage hrest =>
      rw [List.length_cons, ← Nat.add_assoc, pages_succ, fetch_of_answers hpage, hnext]
      simp only [ih hrest (Nat.le_add_left ..), Listing.after, List.append_assoc, List.flatten_cons]
      rw [← requestsOf_cons]

/-- What a listing comes to along the chain of links from the first page. -/
structure ListsChain (remote : Remote) (source : SourceConfig) (linked : List String) (fuel : Nat) : Prop where
  /-- No two pages of the chain come to the same request. -/
  once : (source.requestsOf linked).Nodup
  /-- Where all pages answer, each is asked for with the key of the source. -/
  asked : ∀ lists, List.Forall₂ (Answers remote source) linked lists →
    List.Forall₂ source.IsRequest linked (source.listing fuel remote).requests ∧
      (source.listing fuel remote).requests = source.requestsOf linked
  /-- What they hold is listed in their order, unless it is more than the source may have. -/
  within : ∀ lists, List.Forall₂ (Answers remote source) linked lists →
    source.maximumProjects = 0 ∨ lists.flatten.length ≤ source.maximumProjects →
      (source.listing fuel remote).result = some (.ok lists.flatten) ∧
        source.projectUrls fuel remote = some (.ok (lists.flatten.map (·.url)))
  beyond : ∀ lists, List.Forall₂ (Answers remote source) linked lists →
    source.maximumProjects ≠ 0 → source.maximumProjects < lists.flatten.length →
      (source.listing fuel remote).result = some (.error (source.tooMany lists.flatten.length)) ∧
        source.projectUrls fuel remote = some (.error (source.tooMany lists.flatten.length))
  /-- The first page that does not answer ends the listing with an error, and is the last that is asked for. -/
  failed : ∀ before page after lists, linked = before ++ page :: after →
    List.Forall₂ (Answers remote source) before lists → (∀ projects, ¬ Answers remote source page projects) →
      ∃ e, (source.listing fuel remote).result = some (.error e) ∧ source.projectUrls fuel remote = some (.error e) ∧
        (source.listing fuel remote).requests = source.requestsOf (before ++ [page]) ∧
        (source.listing fuel remote).requests.Disjoint (source.requestsOf after)

theorem listsChain_of_chain (chain : Chain remote source source.firstPage linked) (enough : linked.length ≤ fuel) :
    ListsChain remote source linked fuel where
  once := chain.nodup
  asked lists answers := by
    rw [listing_requests, chain.pages_eq answers enough]
    exact ⟨forall₂_requestsOf answers, rfl⟩
  within lists answers few := by
    have hresult : (source.listing fuel remote).result = some (.ok lists.flatten) := by
      rw [listing_result, chain.pages_eq answers enough]
      exact congrArg some (checkCount_within few)
    exact ⟨hresult, projectUrls_of_result hresult⟩
  beyond lists answers limited many := by
    have hresult : (source.listing fuel remote).result = some (.error (source.tooMany lists.flatten.length)) := by
      rw [listing_result, chain.pages_eq answers enough]
      exact congrArg some (checkCount_beyond limited many)
    exact ⟨hresult, projectUrls_of_result hresult⟩
  failed before page after lists heq answers unanswered := by
    subst heq
    obtain ⟨e, hfetch⟩ := fetch_of_unanswered unanswered
    have htrail := chain.trail answers
    have hshort : before.length < fuel := by
      simp only [List.length_append, List.length_cons] at enough
      omega
    have hpages := htrail.pages_failed [] hfetch hshort
    have hresult : (source.listing fuel remote).result = some (.error e) := by
      rw [listing_result, hpages]
      rfl
    have hrequests : (source.listing fuel remote).requests = source.requestsOf (before ++ [page]) := by
      rw [listing_requests, hpages]
    have honce := chain.nodup
    rw [List.append_cons, requestsOf_append, ← hrequests] at honce
    exact ⟨e, hresult, projectUrls_of_result hresult, hrequests, List.disjoint_of_nodup_append honce⟩

def twoAtMost : SourceConfig := ⟨"tok", "https://x", true, false, 2, none⟩

/-- One project on each of two pages. -/
def twoPages : Remote := fun request =>
  if request.url = "https://x/api/v4/projects?simple=True&membership=True" then
    .answered 200 (some (Utf8.encode "<https://x/2>; rel=\"next\""))
      (Utf8.encode "[\x7b\"name_with_namespace\":\"g / a\",\"http_url_to_repo\":\"https://x/a\"\x7d]")
  else
    .answered 200 none
      (Utf8.encode "[\x7b\"name_with_namespace\":\"g / b\",\"http_url_to_repo\":\"https://x/b\"\x7d]")

theorem listsChain_twoPages : Chain twoPages twoAtMost twoAtMost.firstPage [twoAtMost.firstPage, "https://x/2"] ∧
    [twoAtMost.firstPage, "https://x/2"].length ≤ 2 ∧
    List.Forall₂ (Answers twoPages twoAtMost) [twoAtMost.firstPage, "https://x/2"]
      [[⟨"g / a", "https://x/a"⟩], [⟨"g / b", "https://x/b"⟩]] ∧
    ListsChain twoPages twoAtMost [twoAtMost.firstPage, "https://x/2"] 2 := by
  have chain : Chain twoPages twoAtMost twoAtMost.firstPage [twoAtMost.firstPage, "https://x/2"] :=
    .more (by decide +kernel) (.last (by decide +kernel))
  have first : Answers twoPages twoAtMost twoAtMost.firstPage [⟨"g / a", "https://x/a"⟩] :=
    ⟨⟨"GET", twoAtMost.firstPage, some "Bearer tok", ""⟩, _, _, by decide +kernel, rfl, by decide +kernel⟩
  have second : Answers twoPages twoAtMost "https://x/2" [⟨"g / b", "https://x/b"⟩] :=
    ⟨⟨"GET", "https://x/2", some "Bearer tok", ""⟩, _, _, by decide +kernel, rfl, by decide +kernel⟩
  exact ⟨chain, Nat.le_refl 2, .cons first (.cons second .nil), listsChain_of_chain chain (Nat.le_refl 2)⟩

/-! ## The limit of a source -/

/-- The limit counts when a listing is at its end: how far it goes is up to the pages. -/
structure CountsLast (remote : Remote) (source : SourceConfig) : Prop where
  /-- With any other limit the same requests are made, and there is an end where there is one. -/
  unread : ∀ limit fuel,
    (({ source with maximumProjects := limit } : SourceConfig).listing fuel remote).requests =
        (source.listing fuel remote).requests ∧
      (({ source with maximumProjects := limit } : SourceConfig).listing fuel remote).result.isSome =
        (source.listing fuel remote).result.isSome
  /-- A listing without an end makes as many requests as it may. -/
  unended : ∀ fuel, (source.listing fuel remote).result = none → (source.listing fuel remote).requests.length = fuel
  /-- Pages that come back to one of them have no end. -/
  circular : ∀ passed found here more projects, Trail remote source source.firstPage passed found here →
    Trail remote source here more projects here → more ≠ [] → ∀ fuel, (source.listing fuel remote).result = none
  ended : ∀ passed found last, Trail remote source source.firstPage passed found last → Stops remote source last →
    ∀ fuel, passed.length < fuel →
      (source.listing fuel remote).result.isSome ∧
        (source.listing fuel remote).requests = source.requestsOf (passed ++ [last])
  ended_iff : (∃ fuel, (source.listing fuel remote).result.isSome) ↔
    ∃ passed found last, Trail remote source source.firstPage passed found last ∧ Stops remote source last
  /-- What a limit bounds are the requests for a listing that succeeds, if no page is empty. -/
  accepted : source.maximumProjects ≠ 0 →
    (∀ page projects next, source.fetch remote page = .ok (projects, next) → projects ≠ []) →
    ∀ fuel projects, (source.listing fuel remote).result = some (.ok projects) →
      (source.listing fuel remote).requests.length ≤ source.maximumProjects

theorem listing_isSome : (source.listing fuel remote).result.isSome =
    (pages remote source fuel source.firstPage []).result.isSome := by
  simp [listing_result]

theorem listing_eq_none : (source.listing fuel remote).result = none ↔
    (pages remote source fuel source.firstPage []).result = none := by
  simp [listing_result]

theorem listing_circular {more : List String} (t : Trail remote source source.firstPage passed found here)
    (round : Trail remote source here more projects here) (moves : more ≠ []) (fuel : Nat) :
    (source.listing fuel remote).result = none := by
  obtain ⟨passed, found, hlong, hagain⟩ := t.exists_longer round moves fuel
  exact listing_eq_none.2 (hagain.unended hlong)

theorem listing_unended (h : (source.listing fuel remote).result = none) :
    (source.listing fuel remote).requests.length = fuel := by
  rw [listing_requests]
  exact requests_of_unended (listing_eq_none.1 h)

theorem length_le_of_checkCount (limited : source.maximumProjects ≠ 0) (h : source.checkCount projects = .ok found) :
    found = projects ∧ projects.length ≤ source.maximumProjects := by
  by_cases hmany : source.maximumProjects < projects.length
  · rw [checkCount_beyond limited hmany] at h
    cases h
  · rw [checkCount_within (.inr (Nat.le_of_not_lt hmany))] at h
    cases h
    exact ⟨rfl, Nat.le_of_not_lt hmany⟩

/-- A listing that succeeds has passed no more pages than it has found projects, if no page is empty. -/
theorem requests_le_of_accepted (limited : source.maximumProjects ≠ 0)
    (filled : ∀ page projects next, source.fetch remote page = .ok (projects, next) → projects ≠ [])
    (h : (source.listing fuel remote).result = some (.ok projects)) :
    (source.listing fuel remote).requests.length ≤ source.maximumProjects := by
  obtain ⟨passed, found, last, htrail, hend⟩ := exists_trail remote source fuel source.firstPage
  rw [listing_result] at h
  rcases hend with hlength | ⟨hlength, hstops⟩
  · rw [htrail.unended (Nat.le_of_eq hlength.symm)] at h
    cases h
  · cases hstops with
    | failed hfetch =>
      rw [htrail.pages_failed [] hfetch hlength] at h
      cases h
    | @last projects' hfetch =>
      rw [listing_requests, htrail.pages_last [] hfetch hlength]
      rw [htrail.pages_last [] hfetch hlength] at h
      obtain ⟨-, hfew⟩ := length_le_of_checkCount limited (Option.some.inj h)
      obtain ⟨request, hrequest⟩ := requestsOf_of_fetch hfetch
      have hpassed := htrail.length_le filled
      have hlast := List.length_pos_iff.2 (filled _ _ _ hfetch)
      have hasked := htrail.requests_length
      rw [requestsOf_append, hrequest]
      simp only [List.nil_append, List.length_append, List.length_singleton] at hfew ⊢
      omega

theorem countsLast (remote : Remote) (source : SourceConfig) : CountsLast remote source where
  unread limit fuel := by
    have hpages := pages_limit remote source limit fuel source.firstPage []
    rw [listing_requests, listing_requests, listing_isSome, listing_isSome]
    exact ⟨congrArg Listing.requests hpages, congrArg (·.result.isSome) hpages⟩
  unended _ := listing_unended
  circular _ _ _ _ _ := listing_circular
  ended passed found last t stops fuel enough := by
    have hpages := t.pages_stops [] stops enough
    rw [listing_isSome]
    exact ⟨hpages.2, hpages.1⟩
  ended_iff := by
    constructor
    · rintro ⟨fuel, hsome⟩
      obtain ⟨passed, found, last, htrail, hlength | ⟨-, hstops⟩⟩ :=
        exists_trail remote source fuel source.firstPage
      · rw [listing_isSome, htrail.unended (Nat.le_of_eq hlength.symm)] at hsome
        cases hsome
      · exact ⟨passed, found, last, htrail, hstops⟩
    · rintro ⟨passed, found, last, htrail, hstops⟩
      refine ⟨passed.length + 1, ?_⟩
      rw [listing_isSome]
      exact (htrail.pages_stops [] hstops (Nat.lt_succ_self _)).2
  accepted limited filled _ _ := requests_le_of_accepted limited filled

def oneAtMost : SourceConfig := ⟨"tok", "https://x", true, false, 1, none⟩

/-- One project on a page that names itself as the next. -/
def roundAbout : Remote := fun _ =>
  .answered 200 (some (Utf8.encode "<https://x/api/v4/projects?simple=True&membership=True>; rel=\"next\""))
    (Utf8.encode "[\x7b\"name_with_namespace\":\"g / a\",\"http_url_to_repo\":\"https://x/a\"\x7d]")

theorem endless_roundAbout : oneAtMost.maximumProjects = 1 ∧
    (∀ page projects next, oneAtMost.fetch roundAbout page = .ok (projects, next) → projects ≠ []) ∧
    ∀ fuel, (oneAtMost.listing fuel roundAbout).result = none ∧
      (oneAtMost.listing fuel roundAbout).requests.length = fuel := by
  have answer : Answers roundAbout oneAtMost oneAtMost.firstPage [⟨"g / a", "https://x/a"⟩] :=
    ⟨⟨"GET", oneAtMost.firstPage, some "Bearer tok", ""⟩, _, _, by decide +kernel, rfl, by decide +kernel⟩
  have back : oneAtMost.nextOf? roundAbout oneAtMost.firstPage = some oneAtMost.firstPage := by decide +kernel
  have filled : ∀ page projects next, oneAtMost.fetch roundAbout page = .ok (projects, next) → projects ≠ [] := by
    intro page projects next h
    obtain ⟨request, link, body, -, hreply, hbody⟩ := answers_of_fetch h
    cases hreply
    rintro rfl
    exact absurd hbody (by decide +kernel)
  refine ⟨rfl, filled, fun fuel => ?_⟩
  have round := Trail.step ((fetch_of_answers answer).trans (by rw [back])) (.here oneAtMost.firstPage)
  have hnone := listing_circular (.here _) round (List.cons_ne_nil _ _) fuel
  exact ⟨hnone, listing_unended hnone⟩

end SourceConfig

end CodeSearch
