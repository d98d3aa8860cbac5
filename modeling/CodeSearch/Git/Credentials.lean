import CodeSearch.Error
import CodeSearch.Files.Path
import CodeSearch.Text.Blank
import CodeSearch.Url.Basic

/-!
# Credentials

The line from which git reads a user name and a password: the scheme and host of the remote with both in
front of the host, percent-encoded, and nothing after it. It is kept in a file beside the working copy.
-/

namespace CodeSearch.Git

/-- The file with the credentials of a working copy, in the directory above. -/
def credentialPath (parent dirName : String) : String :=
  Path.join parent ("." ++ dirName ++ "-credentials")

def withUser (url : Url) (username password : String) : Url :=
  { url with
    username := Percent.encode Url.inUserSet username
    password := some (Percent.encode Url.inUserSet password)
    path := if Url.isSpecial url.scheme then "/" else ""
    query := none
    fragment := none }

/-- The line for a remote; a remote without a host takes no user. -/
def credentialLine (remote username password : String) : Except Failure String :=
  match Url.parse remote with
  | .error e => .error (.url e.message)
  | .ok url =>
    if url.takesUser then
      .ok (Text.trimTrailing '/' (withUser url username password).href ++ "\n")
    else .error (.config ("Cannot embed credentials in " ++ remote))

end CodeSearch.Git
