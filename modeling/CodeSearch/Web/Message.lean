import CodeSearch.Error
import CodeSearch.Json.Basic
import CodeSearch.Url.Form
import CodeSearch.Web.Cookie
import CodeSearch.Web.Uri

/-!
# Requests and responses
-/

namespace CodeSearch

structure Request where
  method : String
  target : Target
  /-- Headers with their names in lower case. -/
  headers : List (String × Bytes)
  body : Bytes

namespace Request

def cookies (r : Request) : Cookies :=
  .ofHeaders ((r.headers.filter (·.1 == "cookie")).map (·.2))

/-- The text of a header; one that is not plain counts as absent. -/
def plainHeader? (r : Request) (name : String) : Option String :=
  ((r.headers.lookup name).filter Cookies.isPlain).map Utf8.decodeLossy

def fields (r : Request) : List (String × String) := Form.decode r.target.query

end Request

structure Response where
  status : Nat
  location : Option String
  cookies : List SetCookie
  /-- The body, if it is JSON. -/
  json : Option Json

namespace Response

def empty (status : Nat) : Response := ⟨status, none, [], none⟩

def ofJson (v : Json) : Response := ⟨200, none, [], some v⟩

def error (status : Nat) (message : String) : Response :=
  ⟨status, none, [], some (.ofFields [("Error", .string message)])⟩

def redirect (location : String) (cookies : List SetCookie) : Response :=
  ⟨307, some location, cookies, none⟩

def withoutBody (r : Response) : Response := { r with json := none }

end Response

def Failure.status (e : Failure) : Nat :=
  if e.isNotFound then 404 else if e.isForbidden then 403 else if e.isBadRequest then 400 else 500

def Failure.response (e : Failure) : Response := .error e.status e.message

end CodeSearch
