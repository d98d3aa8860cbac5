import CodeSearch.Web.Api

/-!
# Requests at once

Requests one after another, but for a caller who has come back from the provider: the code is exchanged while
other requests are answered, and the session is written when that is done.
-/

namespace CodeSearch

namespace Api

variable {S : Type}

def routed? (s : Services S) (r : Request) : Option Route :=
  if r.method == "OPTIONS" then none
  else (Route.ofPath? s.config r.target.path).filter (·.takes r.method)

/-- The session in which a request begins a flow. -/
def beginOf? (around : Surroundings S) (s : Services S) (st : ApiState) (r : Request) : Option String :=
  match routed? s r with
  | some .oauthBegin =>
    match beginFor around s st r with
    | .ok (_, id) => some id
    | .error _ => none
  | _ => none

/-- What a request leaves to do that comes back from the provider and passes its checks. -/
def comebackOf? (s : Services S) (st : ApiState) (now : Millis) (r : Request) : Option Comeback :=
  match routed? s r with
  | some .oauthRedirect =>
    match Form.single r.fields "code", Form.single r.fields "state" with
    | .ok code, .ok state =>
      match comeback s st now r code state with
      | .ok b => some b
      | .error _ => none
    | _, _ => none
  | _ => none

end Api

structure Traffic where
  api : ApiState
  /-- The callers who came back, in the order of their arrival; nothing for those that are settled. -/
  underway : List (Option Api.Comeback)

namespace Traffic

variable {S : Type}

inductive Move (S : Type) where
  | request (around : Surroundings S) (r : Request)
  /-- The code of a caller who came back is exchanged, or cannot be. -/
  | settle (comeback : Nat) (around : Surroundings S)

def Move.now : Move S → Millis
  | .request around _ => around.now
  | .settle _ around => around.now

def start (lifetime : Millis) : Traffic := ⟨⟨.ofLifetime lifetime, ∅⟩, []⟩

def step (s : Services S) (t : Traffic) : Move S → Option Traffic
  | .request around r =>
    match Api.comebackOf? s t.api around.now r with
    | some b => some { t with underway := t.underway ++ [some b] }
    | none => some { t with api := (Api.handle around s t.api r).2 }
  | .settle k around =>
    match t.underway[k]? with
    | some (some b) => some ⟨(Api.settle around t.api b).2, t.underway.set k none⟩
    | _ => none

end Traffic

end CodeSearch
