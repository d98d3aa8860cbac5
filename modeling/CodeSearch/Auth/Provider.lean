import CodeSearch.Config.Finalize
import CodeSearch.Discovery.Source

/-!
# The authorization flow

A caller is sent to a provider with a state token and comes back with a code. The code is exchanged for a
token, and the token lists the projects that the caller may see.
-/

namespace CodeSearch

def redirectPath : String := apiPath ++ "/oauth/redirect"

/-- The name of the provider, kept in a session while a flow is under way. -/
def providerName : String := "gitlab"

structure Provider where
  config : OAuthConfig
  redirectUri : String
  /-- Where projects are listed: the origin of the tokens. -/
  apiHost : String

namespace Provider

def ofConfig (config : OAuthConfig) : Except Failure Provider :=
  match Url.parse config.tokenUrl with
  | .error e => .error (.url e.message)
  | .ok url =>
    .ok ⟨config, Text.trimTrailing '/' config.redirectHost ++ redirectPath, url.origin⟩

/-- Where a caller is sent to, with the state that has to come back. -/
def authorizationUrl (p : Provider) (state : String) : Except Failure String :=
  match Url.parse p.config.authUrl with
  | .error e => .error (.url e.message)
  | .ok url =>
    .ok (url.addFields [("response_type", "code"), ("client_id", p.config.clientId),
      ("redirect_uri", p.redirectUri), ("scope", "read_api"), ("state", state)]).href

def tokenForm (p : Provider) (code : String) : String :=
  Form.encode [("grant_type", "authorization_code"), ("code", code),
    ("redirect_uri", p.redirectUri), ("client_id", p.config.clientId),
    ("client_secret", p.config.clientSecret)]

/-- The request that exchanges a code, unless no request can be made to the provider. -/
def tokenRequest? (p : Provider) (code : String) : Option OutRequest :=
  match Url.parse p.config.tokenUrl with
  | .error _ => none
  | .ok url =>
    if url.scheme == "http" || url.scheme == "https" then
      some ⟨"POST", url.href, none, p.tokenForm code⟩
    else none

def decodeToken : Decoder String := fun d node => do
  match ← Decoder.fields ["access_token"] d node with
  | [token] => Decoder.present Decoder.string d token
  | _ => none

def readToken : OutReply → Except Failure String
  | .unreachable reason => .error (.authorization ("Token request failed: " ++ reason))
  | .answered status _ body =>
    if status < 200 ∨ 300 ≤ status then
      .error (.authorization ("Token endpoint returned " ++ toString status))
    else
      match (Json.node? body).bind (decodeToken Decoding.json) with
      | some token => .ok token
      | none => .error (.authorization "Invalid token response: error decoding response body")

def exchange (remote : Remote) (p : Provider) (code : String) : Except Failure String :=
  match p.tokenRequest? code with
  | none => .error (.authorization "Token request failed: builder error")
  | some request => readToken (remote request)

/-- The URLs of all projects that the owner of a token is a member of. -/
def authorizedUrls (fuel : Nat) (remote : Remote) (p : Provider) (token : String) :
    Option (Except Failure (List String)) :=
  ((SourceConfig.ofToken p.apiHost token).projectUrls fuel remote).map fun r =>
    r.mapError fun e => .authorization ("Failed to retrieve projects: " ++ e.message)

end Provider

end CodeSearch
