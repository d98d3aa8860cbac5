import CodeSearch.Proofs.Config.Completion
import CodeSearch.Proofs.Json.Records
import CodeSearch.Proofs.Sync.Targets

/-!
# Effective settings

What the driver of a repository is built from: of all settings only the four that it asks for, each as the
repository sets it, or else as it is shared by the kind of the repository. They reach the driver as a text,
so that they are written and read once more.
-/

namespace CodeSearch

namespace Json

def text? : Json → Option String
  | .string s => some s
  | _ => none

def flag? : Json → Option Bool
  | .bool b => some b
  | _ => none

theorem string_reread (d : Decoding) (v : Json) : Decoder.string d (reread v) = v.text? := by
  cases v <;> rfl

theorem bool_reread (d : Decoding) (v : Json) : Decoder.bool d (reread v) = v.flag? := by
  cases v <;> rfl

/-- What is taken from a value that may be absent: the default if it is, and nothing if it is of another
type. -/
def takeOr {α : Type} (default : α) (take : Json → Option α) : Option Json → Option α
  | none => some default
  | some v => take v

end Json

namespace Git.Settings

def ofValues (value : String → Option Json) : Option Settings := do
  let detectRef ← Json.takeOr false Json.flag? (value "detect-ref")
  let ref ← Json.takeOr "" Json.text? (value "ref")
  let username ← Json.takeOr "" Json.text? (value "username")
  let password ← Json.takeOr "" Json.text? (value "password")
  return ⟨detectRef, ref, username, password⟩

theorem ofValues_eq_some_iff {value : String → Option Json} {s : Settings} :
    ofValues value = some s ↔
      Json.takeOr false Json.flag? (value "detect-ref") = some s.detectRef ∧
        Json.takeOr "" Json.text? (value "ref") = some s.ref ∧
        Json.takeOr "" Json.text? (value "username") = some s.username ∧
        Json.takeOr "" Json.text? (value "password") = some s.password := by
  obtain ⟨detectRef, ref, username, password⟩ := s
  cases detectRef <;> simp [ofValues, Option.bind_eq_some_iff]

theorem ofValues_eq_none_iff {value : String → Option Json} :
    ofValues value = none ↔
      Json.takeOr false Json.flag? (value "detect-ref") = none ∨ Json.takeOr "" Json.text? (value "ref") = none ∨
        Json.takeOr "" Json.text? (value "username") = none ∨
        Json.takeOr "" Json.text? (value "password") = none := by
  unfold ofValues
  cases Json.takeOr false Json.flag? (value "detect-ref") <;> cases Json.takeOr "" Json.text? (value "ref") <;>
    cases Json.takeOr "" Json.text? (value "username") <;> cases Json.takeOr "" Json.text? (value "password") <;>
      simp

theorem absentAs_reread {α : Type} (default : α) {decode : Decoder α} {take : Json → Option α} {d inside : Decoding}
    (enters : Decoder.enter d = some inside) (takes : ∀ v, decode inside (Json.reread v) = take v)
    (value : Option Json) :
    Decoder.absentAs default decode d (value.map Json.reread) = Json.takeOr default take value := by
  cases value with
  | none => rfl
  | some v => simp [Decoder.absentAs, Json.takeOr, enters, takes]

/-- Settings that are written as a text are read from it by their names. -/
theorem ofBytes_toBytes (settings : VcsSettings) :
    (ofBytes settings.toBytes).toOption = ofValues settings.get? := by
  have henter : Decoder.enter Decoding.json = some ⟨126, false⟩ := rfl
  have hnode : Json.node? settings.toBytes = some (.object (Json.reread.rereadFields settings.entries)) :=
    Json.node?_compact (Json.ofNameMap settings)
  have hdecode : decode Decoding.json (.object (Json.reread.rereadFields settings.entries)) =
      ofValues settings.get? := by
    rw [decode, Json.fields_rereadFields _ henter]
    simp only [List.map_cons, List.map_nil, Option.bind_eq_bind, Option.bind_some,
      absentAs_reread _ henter (Json.string_reread _), absentAs_reread _ henter (Json.bool_reread _)]
    rfl
  rw [ofBytes, hnode, ofNode, Option.bind_some, hdecode]
  cases ofValues settings.get? <;> rfl

theorem ofVcs_toOption (settings : Option VcsSettings) :
    (ofVcs settings).toOption = ofValues fun key => settings.bind (·.get? key) := by
  cases settings with
  | none => rfl
  | some settings => exact ofBytes_toBytes settings

end Git.Settings

namespace VcsDriver

theorem ofKind_toOption (kind : String) (settings : Option VcsSettings) :
    (ofKind kind settings).toOption =
      if kind ∈ kindNames then (Git.Settings.ofVcs settings).toOption.map (Git.driver · Git.remoteHead) else none := by
  unfold ofKind kinds
  by_cases hkind : kind = "git"
  · rw [hkind, List.lookup_cons_self, if_pos (by decide)]
    change ((Git.Settings.ofVcs settings).map _).toOption = _
    cases Git.Settings.ofVcs settings <;> rfl
  · have hother : (kind == "git") = false := by simpa using hkind
    rw [List.lookup_cons, List.lookup_nil, hother, if_neg (by simpa [kindNames, kinds] using hkind)]
    rfl

end VcsDriver

namespace RepoConfig

def kind (r : RepoConfig) : String := if r.vcs.isEmpty then defaultVcs else r.vcs

/-- The value that counts for a repository: the one it sets itself, null included, or else the one shared by its
kind. -/
def effective (shared : NameMap VcsSettings) (r : RepoConfig) (key : String) : Option Json :=
  match r.vcsConfig.bind (·.get? key) with
  | some value => some value
  | none => (shared.get? r.kind).bind (·.get? key)

theorem kind_completed (shared : NameMap VcsSettings) (r : RepoConfig) : (r.completed shared).vcs = r.kind :=
  vcs_completed shared r

theorem get?_completed (shared : NameMap VcsSettings) (r : RepoConfig) (key : String) :
    (r.completed shared).vcsConfig.bind (·.get? key) = r.effective shared key := by
  have hkind : r.withDefaults.vcs = r.kind := rfl
  unfold completed effective
  rw [hkind]
  cases shared.get? r.kind with
  | none =>
    change r.vcsConfig.bind _ = _
    cases r.vcsConfig.bind (·.get? key) <;> rfl
  | some settings =>
    change (VcsSettings.merge r.vcsConfig settings).get? key = _
    rw [VcsSettings.merge, NameMap.get?_union]
    cases r.vcsConfig with
    | none => rfl
    | some own => cases hown : own.get? key <;> simp [hown]

end RepoConfig

namespace Coordinator

variable {original config : Config} {name : String} {own : RepoConfig}

theorem driver_ofConfig (finalized : original.finalize = (config, .ok ()))
    (h : original.repos.get? name = some own) :
    ((ofConfig config).targets.get? name).map (·.driver) =
      if own.kind ∈ VcsDriver.kindNames then
        (Git.Settings.ofValues (own.effective original.vcsConfig)).map (Git.driver · Git.remoteHead)
      else none := by
  have hrepo : config.repos.get? name = some (own.completed original.vcsConfig) := by
    rw [← (Prod.mk.inj finalized).1, Config.get?_complete, h]
    rfl
  have hdriver := VcsDriver.ofKind_toOption (own.completed original.vcsConfig).vcs
    (own.completed original.vcsConfig).vcsConfig
  rw [Git.Settings.ofVcs_toOption, RepoConfig.kind_completed] at hdriver
  simp only [RepoConfig.get?_completed] at hdriver
  rw [← hdriver, ofConfig, NameMap.get?_filterMap, hrepo, Option.bind_some, target?, RepoConfig.kind_completed]
  cases VcsDriver.ofKind own.kind (own.completed original.vcsConfig).vcsConfig <;> rfl

/-- What the settings of a repository make of its driver, where `own` is the repository as it is configured. -/
structure SeesEffective (original config : Config) (name : String) (own : RepoConfig) : Prop where
  driver : ∀ target, (ofConfig config).find name = .ok target → ∃ settings : Git.Settings,
    target.driver = Git.driver settings Git.remoteHead ∧
      Json.takeOr false Json.flag? (own.effective original.vcsConfig "detect-ref") = some settings.detectRef ∧
      Json.takeOr "" Json.text? (own.effective original.vcsConfig "ref") = some settings.ref ∧
      Json.takeOr "" Json.text? (own.effective original.vcsConfig "username") = some settings.username ∧
      Json.takeOr "" Json.text? (own.effective original.vcsConfig "password") = some settings.password
  missing : (ofConfig config).contains name = false ↔ own.kind ∉ VcsDriver.kindNames ∨
    Json.takeOr false Json.flag? (own.effective original.vcsConfig "detect-ref") = none ∨
      Json.takeOr "" Json.text? (own.effective original.vcsConfig "ref") = none ∨
      Json.takeOr "" Json.text? (own.effective original.vcsConfig "username") = none ∨
      Json.takeOr "" Json.text? (own.effective original.vcsConfig "password") = none
  /-- Other settings have no influence: repositories of one kind, in whatever configurations, have the same
  driver when these four values are the same. -/
  unrelated : ∀ (original' config' : Config) (name' : String) (own' : RepoConfig),
    original'.finalize = (config', .ok ()) → original'.repos.get? name' = some own' → own'.kind = own.kind →
    (∀ key ∈ ["detect-ref", "ref", "username", "password"],
      own'.effective original'.vcsConfig key = own.effective original.vcsConfig key) →
        ((ofConfig config').targets.get? name').map (·.driver) = ((ofConfig config).targets.get? name).map (·.driver)

theorem seesEffective_of_finalize (finalized : original.finalize = (config, .ok ()))
    (h : original.repos.get? name = some own) : SeesEffective original config name own := by
  have hdriver := driver_ofConfig finalized h
  refine ⟨fun target htarget => ?_, ?_, ?_⟩
  · rw [find_eq_ok_iff.1 htarget, Option.map_some] at hdriver
    by_cases hkind : own.kind ∈ VcsDriver.kindNames
    · rw [if_pos hkind] at hdriver
      obtain ⟨settings, hsettings, hmade⟩ := Option.map_eq_some_iff.1 hdriver.symm
      exact ⟨settings, hmade.symm, Git.Settings.ofValues_eq_some_iff.1 hsettings⟩
    · rw [if_neg hkind] at hdriver
      cases hdriver
  · rw [← Git.Settings.ofValues_eq_none_iff]
    have hcontains : (ofConfig config).contains name =
        (((ofConfig config).targets.get? name).map (·.driver)).isSome := by
      rw [Option.isSome_map]
      rfl
    rw [hcontains, hdriver]
    by_cases hkind : own.kind ∈ VcsDriver.kindNames <;> simp [hkind]
  · intro original' config' name' own' finalized' h' hkind hvalues
    have hsame : Git.Settings.ofValues (own'.effective original'.vcsConfig) =
        Git.Settings.ofValues (own.effective original.vcsConfig) := by
      unfold Git.Settings.ofValues
      rw [hvalues "detect-ref" (by decide), hvalues "ref" (by decide), hvalues "username" (by decide),
        hvalues "password" (by decide)]
    rw [hdriver, driver_ofConfig finalized' h', hkind, hsame]

/-- A repository that sets a ref and something that no driver asks for. -/
def ownRef : RepoConfig :=
  { RepoConfig.empty with
    url := "https://x/a"
    vcsConfig := some (.ofList [("ref", .string "dev"), ("depth", .array [.number (.int 1), .null])]) }

/-- Beside it a repository that sets no user, by null. Both share a ref and a user. -/
def sharedUser : Config :=
  { Config.default with
    vcsConfig := .ofList [("git", .ofList [("ref", .string "main"), ("username", .string "u")])]
    repos := .ofList [
      ("b", { RepoConfig.ofUrl "https://x/b" with vcsConfig := some (.ofList [("username", .null)]) }),
      ("a", ownRef)] }

theorem seesEffective_sharedUser : sharedUser.finalize = (sharedUser.complete, .ok ()) ∧
    sharedUser.repos.get? "a" = some ownRef ∧ SeesEffective sharedUser sharedUser.complete "a" ownRef := by
  have finalized : sharedUser.finalize = (sharedUser.complete, .ok ()) :=
    Prod.ext rfl (show sharedUser.complete.validate = .ok () by decide +kernel)
  have hown : sharedUser.repos.get? "a" = some ownRef := NameMap.get?_insert_self _ _ _
  exact ⟨finalized, hown, seesEffective_of_finalize finalized hown⟩

end Coordinator

end CodeSearch
