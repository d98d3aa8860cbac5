import Mathlib.Order.Lattice.Nat
import CodeSearch.Git.Driver

/-!
# What scripts do

Scripts in sequence, the kinds of actions that a script makes, and a bound on their number. The scripts of
the git driver call the tool in two directories, make one directory and keep one secret.
-/

namespace CodeSearch

namespace Script

variable {α β : Type} {tool : Tool} {site : Site}

theorem run_bind (script : Script α) (f : α → Script β) (site : Site) :
    (script.bind f).run tool site = (f (script.run tool site).1).run tool (script.run tool site).2 := by
  induction script generalizing site with
  | done a => rfl
  | act action next ih => exact ih _ _
  | test dir next ih => exact ih _ _

/-- All that a script looks at and all that it does is of some kinds. -/
inductive Uses (looks : String → Prop) (acts : Action → Prop) : Script α → Prop
  | done (a : α) : Uses looks acts (.done a)
  | act {action : Action} {next : Except Failure String → Script α} (kind : acts action)
      (rest : ∀ answer, Uses looks acts (next answer)) : Uses looks acts (.act action next)
  | test {dir : String} {next : Bool → Script α} (kind : looks dir)
      (rest : ∀ found, Uses looks acts (next found)) : Uses looks acts (.test dir next)

inductive Within : Nat → Script α → Prop
  | done {n : Nat} (a : α) : Within n (.done a)
  | act {n : Nat} {action : Action} {next : Except Failure String → Script α}
      (rest : ∀ answer, Within n (next answer)) : Within (n + 1) (.act action next)
  | test {n : Nat} {dir : String} {next : Bool → Script α} (rest : ∀ found, Within n (next found)) :
      Within (n + 1) (.test dir next)

variable {looks : String → Prop} {acts : Action → Prop} {script : Script α} {f : α → Script β} {m n : Nat}

theorem Uses.bind (first : script.Uses looks acts) (second : ∀ a, (f a).Uses looks acts) :
    (script.bind f).Uses looks acts := by
  induction first with
  | done a => exact second a
  | act kind _ ih => exact .act kind ih
  | test kind _ ih => exact .test kind ih

theorem Within.mono (within : script.Within m) (le : m ≤ n) : script.Within n := by
  induction within generalizing n with
  | done a => exact .done a
  | act _ ih =>
    obtain ⟨n, rfl⟩ := Nat.exists_eq_add_of_lt (Nat.lt_of_succ_le le)
    exact .act fun answer => ih answer (by omega)
  | test _ ih =>
    obtain ⟨n, rfl⟩ := Nat.exists_eq_add_of_lt (Nat.lt_of_succ_le le)
    exact .test fun found => ih found (by omega)

theorem Within.bind (first : script.Within m) (second : ∀ a, (f a).Within n) :
    (script.bind f).Within (m + n) := by
  induction first with
  | done a => exact (second a).mono (Nat.le_add_left ..)
  | act _ ih => exact Nat.succ_add _ n ▸ .act ih
  | test _ ih => exact Nat.succ_add _ n ▸ .test ih

noncomputable def height (script : Script α) : Nat := sInf {n | script.Within n}

theorem Within.height_le (within : script.Within n) : script.height ≤ n := Nat.sInf_le within

theorem Within.within_height (within : script.Within n) : script.Within script.height :=
  Nat.sInf_mem (s := {n | script.Within n}) ⟨n, within⟩

theorem Within.height_act {action : Action} {next : Except Failure String → Script α}
    (within : (Script.act action next).Within n) (answer : Except Failure String) :
    (next answer).height < (Script.act action next).height := by
  generalize hheight : (Script.act action next).height = height
  cases hheight ▸ within.within_height with
  | act rest => exact Nat.lt_succ_of_le (rest answer).height_le

theorem Within.height_test {dir : String} {next : Bool → Script α} (within : (Script.test dir next).Within n)
    (found : Bool) : (next found).height < (Script.test dir next).height := by
  generalize hheight : (Script.test dir next).height = height
  cases hheight ▸ within.within_height with
  | test rest => exact Nat.lt_succ_of_le (rest found).height_le

end Script

/-! ## The git driver -/

namespace Git

open Script

variable {looks : String → Prop} {acts : Action → Prop} {settings : Settings} {dir url : String}

/-- The file with the credentials of a working copy, if that is in a directory. -/
def credentialFile (dir : String) : Except Failure String :=
  (splitDir dir).map fun (parent, name) => credentialPath parent name

/-- In a working copy git runs for everything but to clone. -/
def RunsIn (dir : String) (acts : Action → Prop) : Prop :=
  ∀ label args, args.head? ≠ some "clone" → acts (.call label dir args)

theorem uses_call (runs : RunsIn dir acts) (label : String) (args : List String)
    (other : args.head? ≠ some "clone") : (Script.call label dir args).Uses looks acts :=
  .act (runs label args other) fun _ => .done _

theorem uses_targetRef (runs : RunsIn dir acts) : (targetRef settings remoteHead dir).Uses looks acts := by
  unfold targetRef
  split
  · exact .done _
  split
  · refine .bind (.bind (uses_call runs _ _ (by simp)) fun answer => ?_) fun _ => .done _
    cases answer <;> exact .done _
  · exact .done _

theorem uses_follow (runs : RunsIn dir acts) (ref : String) : (follow ref dir).Uses looks acts :=
  .bind (uses_call runs _ _ (by simp [fetchArgs])) fun _ => .bind (uses_call runs _ _ (by simp)) fun _ =>
    .bind (uses_call runs _ _ (by simp)) fun _ => .done _

theorem uses_pull (runs : RunsIn dir acts) : (pull settings remoteHead dir).Uses looks acts :=
  .bind (uses_targetRef runs) fun ref => uses_follow runs ref

theorem uses_clone {parent name : String} (split : splitDir dir = .ok (parent, name)) (runs : RunsIn dir acts)
    (make : acts (.makeDirs parent)) (keep : ∀ text, acts (.keepSecret (credentialPath parent name) text))
    (cloning : ∀ label more, acts (.call label parent (["clone", "--depth", "1", url, name] ++ more))) :
    (clone settings remoteHead dir url).Uses looks acts := by
  unfold clone
  rw [split]
  refine .bind (.act make fun _ => .done _) fun made => ?_
  cases made with
  | error e => exact .done _
  | ok path =>
    refine .bind ?_ fun more => .bind (.act (cloning _ more) fun _ => .done _) fun cloned => ?_
    · unfold credentialArgs
      split
      · refine .bind (.act (keep _) fun _ => .done _) fun kept => ?_
        cases kept <;> exact .done _
      · exact .done _
    · cases cloned with
      | error e => exact .done _
      | ok output => exact uses_pull runs

theorem within_call (label : String) (args : List String) : (Script.call label dir args).Within 1 :=
  .act fun _ => .done _

theorem within_pull : (pull settings remoteHead dir).Within 4 := by
  refine .bind (m := 1) (n := 3) ?_ fun ref => ?_
  · unfold targetRef
    split
    · exact .done _
    split
    · refine .bind (n := 0) (.bind (n := 0) (within_call _ _) fun answer => ?_) fun _ => .done _
      cases answer <;> exact .done _
    · exact .done _
  · exact .act fun _ => .act fun _ => .act fun _ => .done _

theorem within_clone : (clone settings remoteHead dir url).Within 7 := by
  unfold clone
  cases splitDir dir with
  | error e => exact .done _
  | ok parts =>
    obtain ⟨parent, name⟩ := parts
    refine .bind (m := 1) (n := 6) (.act fun _ => .done _) fun made => ?_
    cases made with
    | error e => exact .done _
    | ok path =>
      refine .bind (m := 1) (n := 5) ?_ fun more => .bind (m := 1) (n := 4) (within_call _ _) fun cloned => ?_
      · unfold credentialArgs
        split
        · refine .bind (n := 0) (.act fun _ => .done _) fun kept => ?_
          cases kept <;> exact .done _
        · exact .done _
      · cases cloned with
        | error e => exact .done _
        | ok output => exact within_pull

end Git

end CodeSearch
