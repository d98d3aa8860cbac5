import CodeSearch.Proofs.Services

/-!
# The size limit of the searchers

The limit in bytes is what the configuration asks for, and no file is left out that is within it. It has to be a
number of 64 bits: from 2^44 megabytes on, building the services ends in a panic as soon as there is a repository
to serve.
-/

namespace CodeSearch

open Files

/-! ## What a limit leaves out -/

namespace WorkingCopy

variable {w w' : WorkingCopy} {f : Walked}

theorem skipReason_eq_tooLarge_iff : w.skipReason f = some .tooLarge ↔
    w.skipReason f ≠ some .dotFile ∧ w.maxFileSize < f.content.length := by
  unfold skipReason
  split
  · simp
  · split <;> simp [*]

/-- What is not left out under a limit is not left out under a higher one. -/
theorem exclusion_eq_none_mono (dots : w'.excludeDotFiles = w.excludeDotFiles) (higher : w.maxFileSize ≤ w'.maxFileSize)
    (included : w.exclusion f = none) : w'.exclusion f = none := by
  rw [exclusion_eq_none_iff] at included ⊢
  obtain ⟨hskip, htext⟩ := included
  refine ⟨?_, htext⟩
  unfold skipReason at hskip ⊢
  rw [dots]
  split at hskip
  · cases hskip
  · rename_i hdot
    rw [if_neg hdot]
    split at hskip
    · cases hskip
    · rename_i hsmall
      exact if_neg (by omega)

end WorkingCopy

namespace Services

open Sync Config

variable {config original found : Config} {tool : Tool} {site : Site} {services : Services WorkingCopy}
  {list : String → SourceConfig → Except Failure (List Project)} {ends : String → Except Failure String → Prop}
  {name : String} {served : Repository WorkingCopy} {limit added : Nat}

/-! ## The limit in bytes -/

theorem sizeLimit_eq (config : Config) : sizeLimit config = config.maxFileSizeMb * Nat.pow 2 20 := by
  rw [sizeLimit, Nat.mul_assoc]

theorem limitFits_iff : LimitFits config ↔ config.maxFileSizeMb < Nat.pow 2 44 := by
  simp only [LimitFits, sizeLimit_eq, Nat.pow_eq]
  omega

theorem maxFileSizeMb_of_discoverBy (finalized : original.finalize = (config, .ok ()))
    (discovered : config.discoverBy list = .ok (found, added)) : found.maxFileSizeMb = config.maxFileSizeMb := by
  obtain ⟨repos, -, rfl, -⟩ := discoverBy_spec finalized discovered
  rfl

/-! ## The searchers that are served -/

/-- A repository is served with the limit of the configuration that the services were built from. -/
theorem Boots.maxFileSize (finalized : original.finalize = (config, .ok ()))
    (boots : Boots config tool site list services ends) (there : services.registry.get? name = some served) :
    served.searcher.maxFileSize = config.maxFileSizeMb * Nat.pow 2 20 := by
  have parts := boots.parts
  obtain ⟨added, hdiscover⟩ := parts.discovered
  obtain ⟨repo, driver, revision, -, -, rfl⟩ := parts.get?_registry_iff.1 there
  rw [← maxFileSizeMb_of_discoverBy finalized hdiscover, ← sizeLimit_eq]
  rfl

/-- With another limit a repository is served alike but for the limit and the revision. -/
theorem Boots.searcher_of_limit (finalized : original.finalize = (config, .ok ()))
    (boots : Boots config tool site list services ends) {tool' : Tool} {site' : Site} {services' : Services WorkingCopy}
    {ends' : String → Except Failure String → Prop}
    (boots' : Boots { config with maxFileSizeMb := limit } tool' site' list services' ends')
    {served' : Repository WorkingCopy} (there : services.registry.get? name = some served)
    (there' : services'.registry.get? name = some served') :
    served'.searcher = { served.searcher with
      maxFileSize := limit * Nat.pow 2 20
      revision := served'.searcher.revision } := by
  have finalized' : Config.finalize { original with maxFileSizeMb := limit } =
      ({ config with maxFileSizeMb := limit }, .ok ()) := by
    obtain ⟨hcomplete, hvalid⟩ := Prod.mk.inj finalized
    subst hcomplete
    exact Prod.ext rfl hvalid
  have hlimit := boots'.maxFileSize finalized' there'
  have parts := boots.parts
  have parts' := boots'.parts
  obtain ⟨added, hdiscover⟩ := parts.discovered
  obtain ⟨added', hdiscover'⟩ := parts'.discovered
  obtain ⟨repos, hadd, hcompletes, -⟩ := discoverBy_spec finalized hdiscover
  obtain ⟨repos', hadd', hcompletes', -⟩ := discoverBy_spec finalized' hdiscover'
  -- the sources are listed in the same way, so the repositories are the same
  obtain ⟨rfl, rfl⟩ := Prod.mk.inj (Except.ok.inj (hadd.symm.trans hadd'))
  obtain ⟨repo, driver, revision, drives, -, rfl⟩ := parts.get?_registry_iff.1 there
  obtain ⟨repo', driver', revision', drives', -, rfl⟩ := parts'.get?_registry_iff.1 there'
  have hrepos : services'.config.repos = services.config.repos := by
    rw [hcompletes, hcompletes']
    rfl
  obtain rfl : repo = repo' := Option.some.inj (drives.there.symm.trans (hrepos ▸ drives'.there))
  obtain rfl : driver = driver' := Except.ok.inj (drives.built.symm.trans drives'.built)
  have hdir : services'.config.workingDir name = services.config.workingDir name := by
    rw [hcompletes, hcompletes']
    rfl
  rw [← hlimit, servedAt, servedAt, hdir]

/-! ## The limit that cannot be computed -/

/-- Services cannot be built from what was synchronized exactly if the limit is too high and there is something to
serve. -/
theorem assemble_panics_iff (finalized : original.finalize = (config, .ok ()))
    (discovered : config.discoverBy list = .ok (found, added)) {results : NameMap (Except Failure String)}
    (collects : Collects (Coordinator.ofConfig found).names ends results) :
    assemble found (.ofConfig found) results = .error .panicked ↔
      Nat.pow 2 44 ≤ config.maxFileSizeMb ∧ ∃ name revision, ends name (.ok revision) := by
  have hserves : (Services.served found (.ofConfig found) results).keys ≠ [] ↔
      ∃ name revision, ends name (.ok revision) := by
    constructor
    · intro hne
      obtain ⟨name, hname⟩ := List.exists_mem_of_ne_nil _ hne
      obtain ⟨served, hserved⟩ := NameMap.contains_iff.1 (NameMap.mem_keys.1 hname)
      obtain ⟨repo, driver, revision, -, hresult, -⟩ := get?_served_iff.1 hserved
      exact ⟨name, revision, (collects.get?_iff ..).1 hresult⟩
    · rintro ⟨name, revision, hends⟩
      obtain ⟨repo, driver, drives⟩ := Coordinator.mem_names_ofConfig.1 (collects.exists_iff.1 ⟨_, hends⟩)
      have hserved := get?_served_iff.2 ⟨repo, driver, revision, drives, (collects.get?_iff ..).2 hends, rfl⟩
      exact List.ne_nil_of_mem (NameMap.mem_keys.2 (NameMap.contains_iff.2 ⟨_, hserved⟩))
  rw [assemble_eq_panicked_iff, hserves, limitFits_iff, maxFileSizeMb_of_discoverBy finalized discovered, Nat.not_lt,
    and_comm]

/-- How the size limit of a configuration takes effect. -/
structure LimitsSize (config : Config) (tool : Tool) (site : Site)
    (list : String → SourceConfig → Except Failure (List Project)) : Prop where
  /-- In what is served a file that its name does not leave out is too large if it is over the limit asked for. -/
  tooLarge_iff : ∀ {services ends}, Boots config tool site list services ends →
    ∀ {name served}, services.registry.get? name = some served → ∀ f : Walked,
      served.searcher.skipReason f = some .tooLarge ↔
        served.searcher.skipReason f ≠ some .dotFile ∧ config.maxFileSizeMb * Nat.pow 2 20 < f.content.length
  /-- Where a repository is served with a higher limit as well, that leaves out no file that was searched. -/
  raised : ∀ {services ends}, Boots config tool site list services ends → ∀ {limit}, config.maxFileSizeMb ≤ limit →
    ∀ {tool site services' ends'}, Boots { config with maxFileSizeMb := limit } tool site list services' ends' →
      ∀ {name served served'}, services.registry.get? name = some served →
        services'.registry.get? name = some served' → served'.searcher.rules = served.searcher.rules ∧
          ∀ f, served.searcher.exclusion f = none → served'.searcher.exclusion f = none
  /-- But from 2^44 megabytes on nothing is served: what was synchronized one after another ends in a panic. -/
  panics_inTurn : ∀ {sources}, list = (fun _ => sources) → ∀ {found added}, config.discoverBy list = .ok (found, added) →
    (site.disk.makeDirs found.dbpath).1 = .ok () → (Coordinator.ofConfig found).Fits →
      ((bootstrap tool sources config site).1 = .error .panicked ↔
        Nat.pow 2 44 ≤ config.maxFileSizeMb ∧ ∃ name revision, (Coordinator.ofConfig found).EndsInTurn tool
          (site.makeDirs found.dbpath).2 (Coordinator.ofConfig found).names name (.ok revision))
  /-- And so does what was synchronized at once. -/
  panics_atOnce : ∀ {found added}, config.discoverBy list = .ok (found, added) → ∀ {moves b},
    runMoves (Batch.step (.ofConfig found) tool)
      (Batch.start (.ofConfig found) (Coordinator.ofConfig found).names (site.makeDirs found.dbpath).2) moves =
        some b → b.Over →
      (assemble found (.ofConfig found) b.results = .error .panicked ↔
        Nat.pow 2 44 ≤ config.maxFileSizeMb ∧ ∃ name revision, b.Ends name (.ok revision))

theorem limitsSize_of_finalize (tool : Tool) (site : Site)
    (list : String → SourceConfig → Except Failure (List Project))
    (finalized : original.finalize = (config, .ok ())) : LimitsSize config tool site list := by
  constructor
  case tooLarge_iff =>
    intro services ends boots name served there f
    rw [WorkingCopy.skipReason_eq_tooLarge_iff, boots.maxFileSize finalized there]
  case raised =>
    intro services ends boots limit higher tool' site' services' ends' boots' name served served' there there'
    have hsearcher := boots.searcher_of_limit finalized boots' there there'
    refine ⟨by rw [hsearcher]; rfl, fun f included => WorkingCopy.exclusion_eq_none_mono ?_ ?_ included⟩
    · rw [hsearcher]
    · rw [hsearcher, boots.maxFileSize finalized there]
      exact Nat.mul_le_mul_right _ higher
  case panics_inTurn =>
    rintro sources rfl found added discovered made fits
    rw [bootstrap_eq tool discovered made]
    dsimp only
    rw [if_pos fits]
    exact assemble_panics_iff finalized discovered (Coordinator.collects_run_syncMany (NameMap.keys_nodup _))
  case panics_atOnce =>
    intro found added discovered moves b run finished
    exact assemble_panics_iff finalized discovered
      (Batch.collects_of_over (NameMap.keys_nodup _) (fun _ => NameMap.mem_keys.1) run finished)

/-! ## Limits in use -/

theorem limitsSize_of_someRepositories :
    someRepositories.finalize = (someRepositories.complete, .ok ()) ∧
    (bootstrap someRemotes oneProject someRepositories.complete emptySite).1.toOption.map
      (fun s => (s.registry.get? "a").map (·.searcher.maxFileSize)) = some (some (5 * 1048576)) ∧
    LimitsSize someRepositories.complete someRemotes emptySite (fun _ => oneProject) := by
  have finalized : someRepositories.finalize = (someRepositories.complete, .ok ()) :=
    Prod.ext rfl (show someRepositories.complete.validate = .ok () by decide +kernel)
  exact ⟨finalized, by decide +kernel, limitsSize_of_finalize someRemotes emptySite _ finalized⟩

theorem eq_panicked_iff {α : Type} {result : Except Halt α} :
    result = .error .panicked ↔ (match result with | .error .panicked => true | _ => false) = true := by
  rcases result with (_ | _) | _ <;> simp

/-- A limit of 2^44 megabytes, for which 64 bits are one too few. -/
def hugeLimit : Config := { someRepositories with maxFileSizeMb := Nat.pow 2 44 }

/-- A file of a single byte is searched under a lower limit. Raised to this one, which the checks let pass, it ends
the program. -/
theorem hugeLimit_panics : hugeLimit.finalize = (hugeLimit.complete, .ok ()) ∧
    someRepositories.complete.maxFileSizeMb ≤ hugeLimit.complete.maxFileSizeMb ∧
    (bootstrap someRemotes oneProject someRepositories.complete emptySite).1.toOption.map
      (fun s => (s.registry.get? "a").map (·.searcher.exclusion ⟨["x"], [0x6e]⟩)) = some (some none) ∧
    (bootstrap someRemotes oneProject hugeLimit.complete emptySite).1 = .error .panicked := by
  have finalized : hugeLimit.finalize = (hugeLimit.complete, .ok ()) :=
    Prod.ext rfl (show hugeLimit.complete.validate = .ok () by decide +kernel)
  exact ⟨finalized, by decide +kernel, by decide +kernel, eq_panicked_iff.2 (by decide +kernel)⟩

end Services

end CodeSearch
