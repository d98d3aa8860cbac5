import CodeSearch.Search.FanOut

/-!
# What a caller can see

A selection resolves to the names of repositories that are served and that the caller may use, so it resolves
in the same way when all others are taken out of the registry.
-/

namespace CodeSearch.Registry

variable {S : Type} {registry registry' : Registry S} {caller : Caller} {names : List String} {name : String}

/-- The part of a registry that a caller may use. -/
def visible (registry : Registry S) (caller : Caller) : Registry S :=
  registry.filter fun _ r => caller.mayUse r.config

theorem get?_visible (registry : Registry S) (caller : Caller) (name : String) :
    (registry.visible caller).get? name = (registry.get? name).filter fun r => caller.mayUse r.config :=
  NameMap.get?_filter _ registry name

theorem mem_resolve_all :
    name ∈ registry.resolve caller .all ↔ ∃ r, registry.get? name = some r ∧ caller.mayUse r.config = true := by
  rw [resolve, NameMap.mem_keys, NameMap.contains_iff, NameMap.get?_filter]
  simp only [Option.filter_eq_some_iff]

theorem mem_resolve_names :
    name ∈ registry.resolve caller (.names names) ↔
      name ∈ names ∧ ∃ r, registry.get? name = some r ∧ caller.mayUse r.config = true := by
  rw [resolve, NameMap.mem_keys_ofList, List.map_map, List.mem_map]
  simp [Option.any_eq_true]

theorem resolve_ascending (registry : Registry S) (caller : Caller) (selection : RepoSelection) :
    (registry.resolve caller selection).Pairwise (· < ·) := by
  cases selection <;> exact NameMap.keys_ascending _

theorem mayUse_of_mem_resolve {selection : RepoSelection} (h : name ∈ registry.resolve caller selection) :
    ∃ r, registry.get? name = some r ∧ caller.mayUse r.config = true := by
  cases selection with
  | all => exact mem_resolve_all.1 h
  | names names => exact (mem_resolve_names.1 h).2

/-- A name that a selection resolves to is found as before when all else is taken out. -/
theorem get?_visible_of_mem_resolve {selection : RepoSelection}
    (h : name ∈ registry.resolve caller selection) :
    (registry.visible caller).get? name = registry.get? name := by
  obtain ⟨r, hr, hmay⟩ := mayUse_of_mem_resolve h
  rw [get?_visible, hr]
  simp [hmay]

theorem visible_visible (registry : Registry S) (caller : Caller) :
    (registry.visible caller).visible caller = registry.visible caller := by
  refine NameMap.ext_get? fun name => ?_
  rw [get?_visible, get?_visible, Option.filter_filter]
  simp

/-- A selection resolves to the same when all that the caller may not use is taken out. -/
theorem resolve_visible (registry : Registry S) (caller : Caller) (selection : RepoSelection) :
    (registry.visible caller).resolve caller selection = registry.resolve caller selection := by
  cases selection with
  | all => exact congrArg NameMap.keys (visible_visible registry caller)
  | names names =>
    have hsame : ∀ name, ((registry.visible caller).get? name).any (fun r => caller.mayUse r.config) =
        (registry.get? name).any fun r => caller.mayUse r.config := by
      intro name
      rw [get?_visible]
      cases registry.get? name with
      | none => rfl
      | some r => cases hmay : caller.mayUse r.config <;> simp [hmay]
    simp only [resolve, hsame]

/-! ## The repositories that are searched -/

theorem contains_asked :
    (NameMap.ofList (names.map fun name => (name, ()))).contains name = true ↔ name ∈ names := by
  rw [← NameMap.mem_keys, NameMap.mem_keys_ofList]
  simp

theorem mem_known : name ∈ registry.known names ↔ name ∈ names ∧ registry.contains name = true := by
  rw [known, NameMap.mem_keys, NameMap.contains_filter, Bool.and_eq_true, contains_asked]

theorem known_nodup (registry : Registry S) (names : List String) : (registry.known names).Nodup :=
  NameMap.keys_nodup _

/-- Which names are searched depends on what the registry has for them, and on nothing else. -/
theorem known_congr (h : ∀ name ∈ names, registry'.get? name = registry.get? name) :
    registry'.known names = registry.known names := by
  refine congrArg NameMap.keys (NameMap.ext_get? fun name => ?_)
  rw [NameMap.get?_filter, NameMap.get?_filter]
  cases hasked : (NameMap.ofList (names.map fun name => (name, ()))).get? name with
  | none => rfl
  | some u =>
    have hname : name ∈ names := contains_asked.1 (NameMap.contains_iff.2 ⟨u, hasked⟩)
    have hserved : registry'.contains name = registry.contains name := by
      rw [NameMap.contains, NameMap.contains, h name hname]
    simp only [hserved]

end CodeSearch.Registry
