import Mathlib.Data.List.Nodup
import CodeSearch.Discovery.Source

/-!
# From page to page

A listing goes on as far as each page answers and names another one. The pages passed on the way make up a
trail, and what the listing asks for and finds is told by its trail, however many pages it may follow.
-/

namespace CodeSearch

namespace Listing

variable {requests more : List OutRequest} {l : Listing}

@[simp] theorem after_requests : (l.after requests).requests = requests ++ l.requests := rfl

theorem after_append : l.after (requests ++ more) = (l.after more).after requests := by
  simp [after, List.append_assoc]

end Listing

namespace SourceConfig

variable {remote : Remote} {source : SourceConfig} {page next here last : String} {passed more : List String}
  {projects found before : List Project} {fuel : Nat}

def fetch (remote : Remote) (source : SourceConfig) (page : String) : Except Failure (List Project × Option String) :=
  match source.pageRequest? page with
  | none => .error (.http "builder error")
  | some request => readPage page (remote request)

def requestsOf (source : SourceConfig) (pages : List String) : List OutRequest :=
  pages.filterMap source.pageRequest?

theorem requestsOf_cons : source.requestsOf (page :: passed) = source.requestsOf [page] ++ source.requestsOf passed :=
  List.filterMap_append (l := [page])

theorem requestsOf_append : source.requestsOf (passed ++ more) = source.requestsOf passed ++ source.requestsOf more :=
  List.filterMap_append

theorem requestsOf_of_fetch {got : List Project × Option String} (h : source.fetch remote page = .ok got) :
    ∃ request, source.requestsOf [page] = [request] := by
  unfold fetch at h
  cases hrequest : source.pageRequest? page with
  | none => simp [hrequest] at h
  | some request => exact ⟨request, by simp [requestsOf, hrequest]⟩

/-- One turn of the walk: the page is asked for, and what is read from it says how to go on. -/
theorem pages_succ (remote : Remote) (source : SourceConfig) (fuel : Nat) (page : String) (before : List Project) :
    pages remote source (fuel + 1) page before = Listing.after (source.requestsOf [page])
      (match source.fetch remote page with
      | .error e => ⟨[], some (.error e)⟩
      | .ok (projects, none) => ⟨[], some (.ok (before ++ projects))⟩
      | .ok (projects, some next) => pages remote source fuel next (before ++ projects)) := by
  rw [pages]
  cases hrequest : source.pageRequest? page with
  | none => simp [fetch, requestsOf, hrequest, Listing.after]
  | some request =>
    have hrequests : source.requestsOf [page] = [request] := by simp [requestsOf, hrequest]
    have hfetch : source.fetch remote page = readPage page (remote request) := by simp [fetch, hrequest]
    cases hread : readPage page (remote request) with
    | error e => simp [hrequests, hfetch, hread]
    | ok got => rcases got with ⟨projects, _ | next⟩ <;> simp [hrequests, hfetch, hread]

/-! ## Trails -/

/-- Pages that are read and each name the next one, with the projects on them, up to a page named last. -/
inductive Trail (remote : Remote) (source : SourceConfig) : String → List String → List Project → String → Prop
  | here (page : String) : Trail remote source page [] [] page
  | step {page next last : String} {projects found : List Project} {passed : List String}
      (named : source.fetch remote page = .ok (projects, some next))
      (rest : Trail remote source next passed found last) :
      Trail remote source page (page :: passed) (projects ++ found) last

/-- The walk comes to an end at a page. -/
inductive Stops (remote : Remote) (source : SourceConfig) (page : String) : Prop
  | failed {e : Failure} (h : source.fetch remote page = .error e)
  | last {projects : List Project} (h : source.fetch remote page = .ok (projects, none))

namespace Trail

theorem trans (t : Trail remote source page passed found here) (u : Trail remote source here more projects last) :
    Trail remote source page (passed ++ more) (found ++ projects) last := by
  induction t with
  | here => exact u
  | step named _ ih =>
    rw [List.cons_append, List.append_assoc]
    exact .step named (ih u)

theorem requests_length (t : Trail remote source page passed found last) :
    (source.requestsOf passed).length = passed.length := by
  induction t with
  | here => rfl
  | step named _ ih =>
    obtain ⟨request, hrequest⟩ := requestsOf_of_fetch named
    rw [requestsOf_cons, hrequest]
    simp [ih]

/-- What is passed is asked for and found, and the walk goes on from the page named last. -/
theorem pages_add (t : Trail remote source page passed found last) (fuel : Nat) (before : List Project) :
    pages remote source (passed.length + fuel) page before =
      (pages remote source fuel last (before ++ found)).after (source.requestsOf passed) := by
  induction t generalizing before with
  | here => simp [requestsOf, Listing.after]
  | step named _ ih =>
    rw [List.length_cons, Nat.add_right_comm, pages_succ, named]
    simp only [ih, List.append_assoc]
    rw [← Listing.after_append, ← requestsOf_cons]

/-- A walk that may follow no more pages than are passed has no result. -/
theorem unended (t : Trail remote source page passed found last) (short : fuel ≤ passed.length) :
    (pages remote source fuel page before).result = none := by
  induction t generalizing fuel before with
  | here =>
    obtain rfl := Nat.le_zero.1 short
    rfl
  | step named _ ih =>
    cases fuel with
    | zero => rfl
    | succ fuel =>
      rw [pages_succ, named]
      exact ih (Nat.le_of_succ_le_succ short)

/-- If every page holds a project, as many are found as pages are passed. -/
theorem length_le (t : Trail remote source page passed found last)
    (filled : ∀ page projects next, source.fetch remote page = .ok (projects, next) → projects ≠ []) :
    passed.length ≤ found.length := by
  induction t with
  | here => exact Nat.le_refl 0
  | step named _ ih =>
    have hone := List.length_pos_iff.2 (filled _ _ _ named)
    simp only [List.length_cons, List.length_append]
    omega

/-- A trail that comes back to its last page goes round as often as one likes. -/
theorem exists_longer (t : Trail remote source page passed found here)
    (round : Trail remote source here more projects here) (moves : more ≠ []) (n : Nat) :
    ∃ passed found, n ≤ passed.length ∧ Trail remote source page passed found here := by
  induction n with
  | zero => exact ⟨passed, found, Nat.zero_le _, t⟩
  | succ n ih =>
    obtain ⟨passed, found, hlong, hagain⟩ := ih
    refine ⟨passed ++ more, found ++ projects, ?_, hagain.trans round⟩
    have hmore := List.length_pos_iff.2 moves
    rw [List.length_append]
    omega

end Trail

/-! ## How a walk goes -/

/-- A walk has a trail of as many pages as it may follow, or a shorter one to a page where it stops. -/
theorem exists_trail (remote : Remote) (source : SourceConfig) (fuel : Nat) (page : String) :
    ∃ passed found last, Trail remote source page passed found last ∧
      (passed.length = fuel ∨ passed.length < fuel ∧ Stops remote source last) := by
  induction fuel generalizing page with
  | zero => exact ⟨[], [], page, .here page, .inl rfl⟩
  | succ fuel ih =>
    cases hfetch : source.fetch remote page with
    | error e => exact ⟨[], [], page, .here page, .inr ⟨Nat.succ_pos fuel, .failed hfetch⟩⟩
    | ok got =>
      obtain ⟨projects, named⟩ := got
      cases named with
      | none => exact ⟨[], [], page, .here page, .inr ⟨Nat.succ_pos fuel, .last hfetch⟩⟩
      | some next =>
        obtain ⟨passed, found, last, htrail, hend⟩ := ih next
        refine ⟨page :: passed, projects ++ found, last, .step hfetch htrail, hend.imp ?_ ?_⟩
        · exact fun hlength => congrArg Nat.succ hlength
        · exact fun ⟨hlength, hstops⟩ => ⟨Nat.succ_lt_succ hlength, hstops⟩

/-- A walk that may follow more pages than are passed gets to the page named last. -/
theorem Trail.pages_of_lt (t : Trail remote source page passed found last) (before : List Project)
    (enough : passed.length < fuel) :
    ∃ rest, pages remote source fuel page before =
      (pages remote source (rest + 1) last (before ++ found)).after (source.requestsOf passed) := by
  obtain ⟨rest, rfl⟩ := Nat.exists_eq_add_of_lt enough
  exact ⟨rest, t.pages_add (rest + 1) before⟩

theorem Trail.pages_failed {e : Failure} (t : Trail remote source page passed found last) (before : List Project)
    (failed : source.fetch remote last = .error e) (enough : passed.length < fuel) :
    pages remote source fuel page before = ⟨source.requestsOf (passed ++ [last]), some (.error e)⟩ := by
  obtain ⟨rest, hpages⟩ := t.pages_of_lt before enough
  rw [hpages, pages_succ, failed, requestsOf_append]
  simp [Listing.after]

theorem Trail.pages_last (t : Trail remote source page passed found last) (before : List Project)
    (ends : source.fetch remote last = .ok (projects, none)) (enough : passed.length < fuel) :
    pages remote source fuel page before =
      ⟨source.requestsOf (passed ++ [last]), some (.ok (before ++ (found ++ projects)))⟩ := by
  obtain ⟨rest, hpages⟩ := t.pages_of_lt before enough
  rw [hpages, pages_succ, ends, requestsOf_append]
  simp [Listing.after]

/-- Where a walk stops it has a result, after requests for all pages of its trail. -/
theorem Trail.pages_stops (t : Trail remote source page passed found last) (before : List Project)
    (stops : Stops remote source last) (enough : passed.length < fuel) :
    (pages remote source fuel page before).requests = source.requestsOf (passed ++ [last]) ∧
      (pages remote source fuel page before).result.isSome := by
  cases stops with
  | failed h => simp [t.pages_failed before h enough]
  | last h => simp [t.pages_last before h enough]

/-- A walk without a result has asked for as many pages as it may follow. -/
theorem requests_of_unended (h : (pages remote source fuel page before).result = none) :
    (pages remote source fuel page before).requests.length = fuel := by
  obtain ⟨passed, found, last, htrail, hend⟩ := exists_trail remote source fuel page
  rcases hend with hlength | ⟨hlength, hstops⟩
  · have hpages := htrail.pages_add 0 before
    rw [Nat.add_zero, hlength] at hpages
    simp only [hpages, Listing.after_requests, pages, List.append_nil]
    exact htrail.requests_length.trans hlength
  · have hsome := (htrail.pages_stops before hstops hlength).2
    simp [h] at hsome

end SourceConfig

end CodeSearch
