import CodeSearch.Error

/-!
# State tokens

A token that goes out with a redirect and has to come back with the answer.
-/

namespace CodeSearch.Auth

/-- The token that came back has to be the one in the cookie, and not empty. -/
def verifyState (cookie returned : Option String) : Except Failure Unit :=
  match cookie, returned with
  | some expected, some actual =>
    if !expected.isEmpty && expected == actual then .ok ()
    else .error (.authorization "Failed to verify state")
  | _, _ => .error (.authorization "Failed to verify state")

def base64Digit (n : Nat) : Char :=
  if n < 26 then Char.ofNat (65 + n)
  else if n < 52 then Char.ofNat (71 + n)
  else if n < 62 then Char.ofNat (n - 4)
  else if n = 62 then '-' else '_'

/-- URL-safe base64 of bytes, with or without padding. -/
def base64 (padded : Bool) : List UInt8 → List Char
  | a :: b :: c :: rest =>
    let n := a.toNat * 65536 + b.toNat * 256 + c.toNat
    base64Digit (n / 262144) :: base64Digit (n / 4096 % 64) :: base64Digit (n / 64 % 64) ::
      base64Digit (n % 64) :: base64 padded rest
  | [a, b] =>
    let n := a.toNat * 256 + b.toNat
    [base64Digit (n / 1024), base64Digit (n / 16 % 64), base64Digit (n * 4 % 64)] ++
      if padded then ['='] else []
  | [a] =>
    [base64Digit (a.toNat / 4), base64Digit (a.toNat * 16 % 64)] ++ if padded then ['=', '='] else []
  | [] => []

/-- A state token from sixteen random bytes. -/
def stateToken (random : List UInt8) : String := String.ofList (base64 true (random.take 16))

/-- A session id from thirty-two random bytes. -/
def sessionId (random : List UInt8) : String := String.ofList (base64 false (random.take 32))

end CodeSearch.Auth
