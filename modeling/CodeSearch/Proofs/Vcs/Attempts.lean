import CodeSearch.Proofs.Vcs.Scripts

/-!
# Calls that a script tries

All calls of a script in their order, also those that cannot be started, each with what becomes of it. What
a script is answered is read off there.
-/

namespace CodeSearch

namespace ToolReply

/-- The output of a call that succeeds. -/
def output? : ToolReply → Option String
  | .ended true stdout _ => some (Utf8.decodeLossy stdout)
  | _ => none

/-- What a call answers: its output if it succeeds, and else a failure that says where it was to run. -/
def answer (label dir : String) : ToolReply → Except Failure String
  | .notStarted reason => .error (.vcsCommand label dir reason)
  | .ended true stdout _ => .ok (Utf8.decodeLossy stdout)
  | .ended false stdout stderr => .error (.vcsCommand label dir (Site.report stdout stderr))

variable {reply : ToolReply} {label dir output : String}

theorem answer_eq_ok_iff : reply.answer label dir = .ok output ↔ reply.output? = some output := by
  cases reply with
  | notStarted reason => simp [answer, output?]
  | ended success stdout stderr => cases success <;> simp [answer, output?]

end ToolReply

structure Attempt where
  dir : String
  args : List String
  reply : ToolReply

namespace Site

def reply (tool : Tool) (dir : String) (args : List String) (s : Site) : ToolReply :=
  match startPlace s.disk dir args with
  | .error reason => .notStarted reason
  | .ok place => (tool s.calls ⟨dir, place, args, toolSettings⟩ s.disk).1

theorem call_answer (tool : Tool) (label dir : String) (args : List String) (s : Site) :
    (call tool label dir args s).1 = (reply tool dir args s).answer label dir := by
  unfold call reply
  cases startPlace s.disk dir args with
  | error reason => rfl
  | ok place =>
    simp only [work]
    cases tool s.calls ⟨dir, place, args, toolSettings⟩ s.disk with
    | mk reply disk =>
      cases reply with
      | notStarted reason => rfl
      | ended success stdout stderr => cases success <;> rfl

end Site

namespace Script

variable {α β : Type} {tool : Tool}

def attempts (tool : Tool) : Script α → Site → List Attempt
  | .done _, _ => []
  | .act action next, s =>
    let (answer, after) := Site.perform tool action s
    (match action with
      | .call _ dir args => [⟨dir, args, s.reply tool dir args⟩]
      | _ => []) ++ (next answer).attempts tool after
  | .test dir next, s => (next (s.disk.isDir dir)).attempts tool s

theorem attempts_bind (script : Script α) (f : α → Script β) (site : Site) :
    (script.bind f).attempts tool site =
      script.attempts tool site ++ (f (script.run tool site).1).attempts tool (script.run tool site).2 := by
  induction script generalizing site with
  | done a => rfl
  | act action next ih =>
    change _ ++ ((next _).bind f).attempts tool _ = (_ ++ _) ++ _
    rw [ih, List.append_assoc]
    rfl
  | test dir next ih => exact ih _ _

theorem attempts_call (label dir : String) (args : List String) (site : Site) :
    (Script.call label dir args).attempts tool site = [⟨dir, args, site.reply tool dir args⟩] := rfl

theorem run_call (label dir : String) (args : List String) (site : Site) :
    (Script.call label dir args).run tool site = Site.call tool label dir args site := rfl

theorem attempts_makeDirs (dir : String) (site : Site) : (Script.makeDirs dir).attempts tool site = [] := rfl

theorem run_keepSecret (path : String) (text : Except Failure String) (site : Site) :
    (Script.keepSecret path text).run tool site = site.keepSecret path text := rfl

theorem run_makeDirs (dir : String) (site : Site) : (Script.makeDirs dir).run tool site = site.makeDirs dir := rfl

end Script

/-! ## Calls that are started -/

namespace Site

variable {tool : Tool} {label dir : String} {args : List String} {place : List Files.Name} {s : Site} {call : ToolCall}

theorem mem_calls_work (h : call ∈ (work tool label dir args place s).2.calls) :
    call ∈ s.calls ∨ call.dir = dir ∧ call.args = args := by
  unfold work at h
  dsimp only at h
  split at h
  · exact .inl h
  · rcases List.mem_append.1 h with h | h
    · exact .inl h
    · rw [List.mem_singleton.1 h]
      exact .inr ⟨rfl, rfl⟩

/-- An action starts no call but the one that it is. -/
theorem mem_calls_perform {action : Action} (h : call ∈ (perform tool action s).2.calls) :
    call ∈ s.calls ∨ ∃ label, action = .call label call.dir call.args := by
  cases action with
  | call label dir args =>
    change call ∈ (Site.call tool label dir args s).2.calls at h
    unfold Site.call at h
    split at h
    · exact .inl h
    · rcases mem_calls_work h with h | ⟨rfl, rfl⟩
      · exact .inl h
      · exact .inr ⟨label, rfl⟩
  | makeDirs dir =>
    change call ∈ (makeDirs dir s).2.calls at h
    unfold makeDirs at h
    split at h <;> exact .inl h
  | keepSecret path text =>
    change call ∈ (keepSecret path text s).2.calls at h
    unfold keepSecret at h
    split at h
    · exact .inl h
    split at h
    · exact .inl h
    split at h <;> exact .inl h

end Site

/-- The calls that were started between two sites are among some actions. -/
def Site.StartsOnly (acts : Action → Prop) (s t : Site) : Prop :=
  ∀ call ∈ t.calls, call ∈ s.calls ∨ ∃ label, acts (.call label call.dir call.args)

variable {acts : Action → Prop} {looks : String → Prop} {s t u : Site} {tool : Tool} {α : Type}

theorem Site.StartsOnly.refl (s : Site) : s.StartsOnly acts s := fun _ => .inl

theorem Site.StartsOnly.trans (first : s.StartsOnly acts t) (second : t.StartsOnly acts u) : s.StartsOnly acts u := by
  intro call h
  rcases second call h with h | h
  · exact first call h
  · exact .inr h

theorem Site.startsOnly_perform {action : Action} (kind : acts action) :
    s.StartsOnly acts (perform tool action s).2 := by
  intro call h
  rcases mem_calls_perform h with h | ⟨label, rfl⟩
  · exact .inl h
  · exact .inr ⟨label, kind⟩

/-- What holds of all actions of a script holds of the calls of its runs. -/
theorem Script.Uses.startsOnly {script : Script α} (uses : script.Uses looks acts) (site : Site) :
    site.StartsOnly acts (script.run tool site).2 := by
  induction uses generalizing site with
  | done a => exact .refl site
  | act kind _ ih => exact (Site.startsOnly_perform kind).trans (ih _ _)
  | test _ _ ih => exact ih _ site

theorem Script.Uses.imp {script : Script α} {looks' : String → Prop} {acts' : Action → Prop}
    (uses : script.Uses looks acts) (sees : ∀ dir, looks dir → looks' dir)
    (implies : ∀ action, acts action → acts' action) : script.Uses looks' acts' := by
  induction uses with
  | done a => exact .done a
  | act kind _ ih => exact .act (implies _ kind) ih
  | test kind _ ih => exact .test (sees _ kind) ih

theorem Script.Uses.mono {script : Script α} {acts' : Action → Prop} (uses : script.Uses looks acts)
    (implies : ∀ action, acts action → acts' action) : script.Uses looks acts' :=
  uses.imp (fun _ => id) implies

end CodeSearch
