import CodeSearch.Config.Basic
import CodeSearch.Discovery.Link
import CodeSearch.Remote
import CodeSearch.Url.Basic

/-!
# Listing projects

A source lists its projects page by page; each page names the next one. The listing is all or nothing: a
page that fails ends it, and so do more projects than the source may have. Nothing but the source itself
bounds the number of pages, so the walk takes the number of pages to follow as an argument and has no
result when it runs out.
-/

namespace CodeSearch

/-- How a listing went: what was asked for in order, and its result if it came to an end. -/
structure Listing where
  requests : List OutRequest
  result : Option (Except Failure (List Project))

namespace Listing

def after (requests : List OutRequest) (l : Listing) : Listing :=
  { l with requests := requests ++ l.requests }

end Listing

def Project.decode : Decoder Project := fun d node => do
  match ← Decoder.fields ["name_with_namespace", "http_url_to_repo"] d node with
  | [name, url] =>
    let name ← Decoder.present Decoder.string d name
    let url ← Decoder.present Decoder.string d url
    return ⟨name, url⟩
  | _ => none

namespace SourceConfig

def firstPage (source : SourceConfig) : String :=
  Text.trimTrailing '/' source.url ++ "/api/v4/projects?simple=True" ++
    if source.ownershipRequired then "&ownership=True"
    else if source.membershipRequired then "&membership=True" else ""

def isHeaderByte (b : UInt8) : Bool := (0x20 ≤ b && b != 0x7F) || b == 0x09

def pageRequest? (source : SourceConfig) (page : String) : Option OutRequest :=
  let authorization := "Bearer " ++ source.key
  match Url.parse page with
  | .error _ => none
  | .ok url =>
    if (url.scheme == "http" || url.scheme == "https") &&
        (Utf8.encode authorization).all isHeaderByte then
      some ⟨"GET", url.href, some authorization, ""⟩
    else none

/-- The next page according to the header of a page; a header that is not plain text names none. -/
def nextPage? (link : Option Bytes) : Option String :=
  match link with
  | none => none
  | some bytes =>
    if bytes.all fun b => (0x20 ≤ b && b < 0x7F) || b == 0x09 then
      Link.next? (Utf8.decodeLossy bytes)
    else none

def readPage (page : String) : OutReply → Except Failure (List Project × Option String)
  | .unreachable reason => .error (.http reason)
  | .answered status link body =>
    if status ≠ 200 then
      .error (.discovery ("HTTP request failed for " ++ page ++ " with status code " ++ toString status))
    else
      match (Json.node? body).bind (Decoder.list Project.decode Decoding.json) with
      | some projects => .ok (projects, nextPage? link)
      | none => .error (.http "error decoding response body")

/-- Lists from a page on; `found` holds the projects of the pages before. -/
def pages (remote : Remote) (source : SourceConfig) : Nat → String → List Project → Listing
  | 0, _, _ => ⟨[], none⟩
  | fuel + 1, page, found =>
    match source.pageRequest? page with
    | none => ⟨[], some (.error (.http "builder error"))⟩
    | some request =>
      Listing.after [request] <|
        match readPage page (remote request) with
        | .error e => ⟨[], some (.error e)⟩
        | .ok (projects, none) => ⟨[], some (.ok (found ++ projects))⟩
        | .ok (projects, some next) => pages remote source fuel next (found ++ projects)

def checkCount (source : SourceConfig) (projects : List Project) : Except Failure (List Project) :=
  if source.maximumProjects ≠ 0 ∧ source.maximumProjects < projects.length then
    .error (.discovery ("Trying to clone " ++ toString projects.length ++
      " projects which is larger than the maximum defined " ++ toString source.maximumProjects))
  else .ok projects

/-- Lists all projects of a source, following at most `fuel` pages. -/
def listing (fuel : Nat) (remote : Remote) (source : SourceConfig) : Listing :=
  let l := pages remote source fuel source.firstPage []
  { l with result := l.result.map fun r => r.bind source.checkCount }

def projectUrls (fuel : Nat) (remote : Remote) (source : SourceConfig) :
    Option (Except Failure (List String)) :=
  (source.listing fuel remote).result.map fun r => r.map fun projects => projects.map (·.url)

end SourceConfig

end CodeSearch
