import CodeSearch.Proofs.Access
import CodeSearch.Proofs.Text.Ends
import Mathlib.Data.List.Sort

/-!
# What selections resolve to

A list of names resolves to those of all repositories that the caller may use whose names are in it. So it is
a set that is asked for, whatever its order, and a list written as a text with commas stands for itself.
-/

namespace CodeSearch

/-! ## Selections as texts -/

namespace RepoSelection

variable {names : List String}

/-- Names that a text with commas can list. -/
structure Listable (names : List String) : Prop where
  some_name : names ≠ []
  nonempty : ∀ name ∈ names, name ≠ ""
  no_comma : ∀ name ∈ names, ',' ∉ name.toList
  /-- Their text begins and ends with no blank. -/
  head : ∀ c ∈ (",".intercalate names).toList.head?, Text.isBlank c = false
  last : ∀ c ∈ (",".intercalate names).toList.getLast?, Text.isBlank c = false
  /-- Their text is not the one that stands for all. -/
  no_star : ",".intercalate names ≠ "*"

theorem parse_intercalate (listable : Listable names) : parse (",".intercalate names) = .names names := by
  have hbody : (",".intercalate names).toList = [','].intercalate (names.map String.toList) :=
    String.toList_intercalate
  have hsplit : ((",".intercalate names).toList).splitOnP (· == ',') = names.map String.toList := by
    rw [hbody]
    exact List.splitOn_intercalate ',' (by simpa using listable.no_comma) (by simpa using listable.some_name)
  have hstar : (",".intercalate names).toList ≠ ['*'] := fun h => listable.no_star (String.toList_inj.1 h)
  have hkept : (names.map String.toList).filter (!·.isEmpty) = names.map String.toList := by
    rw [List.filter_eq_self]
    intro cs hcs
    obtain ⟨name, hname, rfl⟩ := List.mem_map.1 hcs
    simpa using listable.nonempty name hname
  rw [parse, Text.trimChars_of_ends listable.head listable.last]
  simp only [if_neg hstar, hsplit, hkept, List.map_map]
  simp

/-- Names may hold blanks, and a star among others is a name. -/
example : parse "b c,a,*" = .names ["b c", "a", "*"] := by decide +kernel

end RepoSelection

namespace Registry

variable {S : Type} {registry : Registry S} {caller : Caller} {name : String}

/-! ## Names and all -/

theorem resolve_names (registry : Registry S) (caller : Caller) (names : List String) :
    registry.resolve caller (.names names) = (registry.resolve caller .all).filter (· ∈ names) := by
  refine (resolve_ascending registry caller _).eq_of_mem_iff ((resolve_ascending registry caller .all).filter _) ?_
  intro name
  rw [mem_resolve_names, List.mem_filter, mem_resolve_all, decide_eq_true_iff, and_comm]

theorem resolve_congr {names names' : List String}
    (h : ∀ name, registry.contains name = true → (name ∈ names ↔ name ∈ names')) :
    registry.resolve caller (.names names) = registry.resolve caller (.names names') := by
  rw [resolve_names, resolve_names]
  refine List.filter_congr fun name hname => ?_
  obtain ⟨r, hr, -⟩ := mayUse_of_mem_resolve hname
  rw [decide_eq_decide]
  exact h name (NameMap.contains_iff.2 ⟨r, hr⟩)

theorem resolve_every {names : List String} (h : ∀ name, registry.contains name = true → name ∈ names) :
    registry.resolve caller (.names names) = registry.resolve caller .all := by
  rw [resolve_names, List.filter_eq_self]
  intro name hname
  obtain ⟨r, hr, -⟩ := mayUse_of_mem_resolve hname
  exact decide_eq_true (h name (NameMap.contains_iff.2 ⟨r, hr⟩))

/-! ## Who may use what -/

theorem mem_resolve_all_of_get? {r : Repository S} (h : registry.get? name = some r) :
    name ∈ registry.resolve caller .all ↔ caller.mayUse r.config = true := by
  rw [mem_resolve_all, h]
  simp

/-- What selections resolve to for a caller. -/
structure Resolution (registry : Registry S) (caller : Caller) : Prop where
  names : ∀ names,
    registry.resolve caller (.names names) = (registry.resolve caller .all).filter (· ∈ names)
  /-- Only those names count that are served, and neither their order nor how often they stand. -/
  alike : ∀ names names', (∀ name, registry.contains name = true → (name ∈ names ↔ name ∈ names')) →
    registry.resolve caller (.names names) = registry.resolve caller (.names names')
  every : ∀ names, (∀ name, registry.contains name = true → name ∈ names) →
    registry.resolve caller (.names names) = registry.resolve caller .all
  unknown : ∀ name ∈ registry.resolve caller .all, registry.contains name = true
  keyed : ∀ name r keys, registry.get? name = some r → r.config.accessKeys = some keys →
    (name ∈ registry.resolve caller .all ↔ caller.accessKey ∈ keys)
  marked : ∀ name r marker, registry.get? name = some r → r.config.accessKeys = none →
    r.config.oauthAuthorization = some marker →
      (name ∈ registry.resolve caller .all ↔ r.config.url ∈ caller.authorizedUrls)
  opened : ∀ name r, registry.get? name = some r → r.config.accessKeys = none →
    r.config.oauthAuthorization = none → name ∈ registry.resolve caller .all
  text : ∀ names, RepoSelection.Listable names →
    registry.resolve caller (.parse (",".intercalate names)) = registry.resolve caller (.names names)

theorem resolution (registry : Registry S) (caller : Caller) : Resolution registry caller where
  names := resolve_names registry caller
  alike _ _ := resolve_congr
  every _ := resolve_every
  unknown name hname := by
    obtain ⟨r, hr, -⟩ := mayUse_of_mem_resolve hname
    exact NameMap.contains_iff.2 ⟨r, hr⟩
  keyed name r keys found hkeys := by
    rw [mem_resolve_all_of_get? found, Caller.mayUse, hkeys]
    exact List.contains_iff_mem
  marked name r marker found hkeys hmarker := by
    rw [mem_resolve_all_of_get? found, Caller.mayUse, hkeys, hmarker]
    exact List.contains_iff_mem
  opened name r found hkeys hmarker := by
    rw [mem_resolve_all_of_get? found, Caller.mayUse, hkeys, hmarker]
  text names listable := by rw [RepoSelection.parse_intercalate listable]

end Registry

end CodeSearch
