/-!
# Failures

Everything that an operation may fail with, by cause, with the text that reports it and its class: not
found, forbidden, a bad request, or a failure of the service itself.
-/

namespace CodeSearch

inductive Failure where
  | repositoryNotFound (name : String)
  | updatesDisabled (name : String)
  | malformedWebhook (detail : String)
  | invalidQuery (detail : String)
  | searchFailed (detail : String)
  | vcsCommand (action dir output : String)
  | unknownVcs (kind : String)
  | discovery (detail : String)
  | authorization (detail : String)
  | oauthNotConfigured
  | alreadyAuthorized
  | config (detail : String)
  | io (detail : String)
  | json (detail : String)
  | toml (detail : String)
  | http (detail : String)
  | url (detail : String)
  deriving DecidableEq, Repr

namespace Failure

def message : Failure → String
  | .repositoryNotFound name => "No such repository: " ++ name
  | .updatesDisabled name => "Push updates are not enabled for repository " ++ name
  | .malformedWebhook detail => "Malformed webhook payload: " ++ detail
  | .invalidQuery detail => "Invalid query: " ++ detail
  | .searchFailed detail => "Search failed: " ++ detail
  | .vcsCommand action dir output => action ++ " failed in " ++ dir ++ ": " ++ output
  | .unknownVcs kind => "Unknown VCS driver: " ++ kind
  | .discovery detail => "Project discovery failed: " ++ detail
  | .authorization detail => "Authorization failed: " ++ detail
  | .oauthNotConfigured => "No OAuth provider configured"
  | .alreadyAuthorized => "Already authorized"
  | .config detail => "Configuration error: " ++ detail
  | .io detail => "IO error: " ++ detail
  | .json detail => "Serialization error: " ++ detail
  | .toml detail => "TOML parsing error: " ++ detail
  | .http detail => "HTTP client error: " ++ detail
  | .url detail => "URL parsing error: " ++ detail

def isNotFound : Failure → Bool
  | .repositoryNotFound _ => true
  | _ => false

def isForbidden : Failure → Bool
  | .updatesDisabled _ => true
  | _ => false

def isBadRequest : Failure → Bool
  | .malformedWebhook _ | .invalidQuery _ | .oauthNotConfigured | .alreadyAuthorized => true
  | _ => false

end Failure

end CodeSearch
