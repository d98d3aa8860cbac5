import CodeSearch.Proofs.Files.Nodes
import CodeSearch.Proofs.Text.Utf8
import CodeSearch.Search.Walk

/-!
# What a walk finds

A walk comes to exactly the regular files that stand below its root with a path of well-formed names, apart
from what its rules leave out. It comes to each of them once, in the order of the paths name by name, however
the directories enumerate their entries.
-/

namespace CodeSearch

open Files

variable {rules : WalkRules} {top : Bool} {w : Walked} {t s : Tree} {path : List Name}

def Walked.key (w : Walked) : List Name := w.names.map Utf8.encode

/-- The names on the way to a place, read as text. -/
def Spelled (path : List Name) (names : List String) : Prop :=
  List.Forall₂ (fun name text => Utf8.decode? name = some text) path names

/-- Whether a walk goes on to the file at the end of some names. -/
structure WalkRules.Allows (rules : WalkRules) (top : Bool) (names : List String) : Prop where
  not_special : top = true → ∀ name ∈ names.head?, name ∉ rules.special
  no_dot_directory : rules.excludeDotFiles = true → ∀ name ∈ names.dropLast, beginsWithDot name = false

def slashJoined (path : List Name) : String := String.intercalate "/" (path.map Utf8.decodeLossy)

/-! ## One directory -/

def filesOf (rules : WalkRules) (text : String) : Tree → List Walked
  | .file content _ => [⟨[text], content⟩]
  | .dir entries => (walkTree rules false (.dir entries)).map (·.under text)
  | .link _ => []

theorem walkEntries_cons {name : Name} {rest : List (Name × Tree)} :
    walkTree.walkEntries rules top ((name, t) :: rest) =
      match Utf8.decode? name with
      | none => walkTree.walkEntries rules top rest
      | some text =>
        if rules.enters top text t.isDir then
          (name, filesOf rules text t) :: walkTree.walkEntries rules top rest
        else walkTree.walkEntries rules top rest := by
  rw [walkTree.walkEntries]
  cases t <;> rfl

theorem mem_walkEntries {entries : List (Name × Tree)} {found : Name × List Walked} :
    found ∈ walkTree.walkEntries rules top entries ↔
      ∃ e ∈ entries, ∃ text, Utf8.decode? e.1 = some text ∧ rules.enters top text e.2.isDir = true ∧
        found = (e.1, filesOf rules text e.2) := by
  induction entries with
  | nil => simp [walkTree.walkEntries]
  | cons head rest ih =>
    obtain ⟨name, t⟩ := head
    rw [walkEntries_cons]
    cases hdecode : Utf8.decode? name with
    | none => simp [hdecode, ih]
    | some text =>
      cases henters : rules.enters top text t.isDir <;> simp [hdecode, henters, ih]

theorem mem_walkTree_dir {entries : List (Name × Tree)} :
    w ∈ walkTree rules top (.dir entries) ↔
      ∃ e ∈ entries, ∃ text, Utf8.decode? e.1 = some text ∧ rules.enters top text e.2.isDir = true ∧
        w ∈ filesOf rules text e.2 := by
  rw [walkTree]
  simp only [List.mem_flatMap, List.mem_mergeSort, mem_walkEntries]
  constructor
  · rintro ⟨_, ⟨e, he, text, hdecode, henters, rfl⟩, hw⟩
    exact ⟨e, he, text, hdecode, henters, hw⟩
  · rintro ⟨e, he, text, hdecode, henters, hw⟩
    exact ⟨_, ⟨e, he, text, hdecode, henters, rfl⟩, hw⟩

/-! ## The way to a file -/

theorem enters_iff {text : String} {isDir : Bool} :
    rules.enters top text isDir = true ↔
      (top = true → text ∉ rules.special) ∧
        (rules.excludeDotFiles = true → isDir = true → beginsWithDot text = false) := by
  unfold WalkRules.enters
  cases top <;> cases rules.excludeDotFiles <;> cases isDir <;> cases beginsWithDot text <;> simp

theorem allows_singleton {text : String} :
    rules.Allows top [text] ↔ rules.enters top text false = true := by
  rw [enters_iff]
  constructor
  · rintro ⟨hspecial, -⟩
    exact ⟨fun h => hspecial h text rfl, nofun⟩
  · rintro ⟨hspecial, -⟩
    refine ⟨fun h name hname => ?_, by simp⟩
    cases hname
    exact hspecial h

theorem allows_cons {text : String} {names : List String} (more : names ≠ []) :
    rules.Allows top (text :: names) ↔ rules.enters top text true = true ∧ rules.Allows false names := by
  rw [enters_iff]
  constructor
  · rintro ⟨hspecial, hdots⟩
    rw [List.dropLast_cons_of_ne_nil more] at hdots
    exact ⟨⟨fun h => hspecial h text rfl, fun h _ => hdots h text List.mem_cons_self⟩, nofun,
      fun h name hname => hdots h name (List.mem_cons_of_mem _ hname)⟩
  · rintro ⟨⟨hspecial, hdot⟩, -, hdots⟩
    refine ⟨fun h name hname => ?_, fun h name hname => ?_⟩
    · cases hname
      exact hspecial h
    · rw [List.dropLast_cons_of_ne_nil more] at hname
      rcases List.mem_cons.1 hname with rfl | hname
      · exact hdot h rfl
      · exact hdots h name hname

theorem mem_filesOf {text text' : String} {names : List String} {content : Bytes} :
    ⟨text :: names, content⟩ ∈ filesOf rules text' t ↔
      text = text' ∧
        (names = [] ∧ (∃ mode, t = .file content mode) ∨
          t.isDir = true ∧ ⟨names, content⟩ ∈ walkTree rules false t) := by
  cases t with
  | file other mode => simp [filesOf, Tree.isDir, eq_comm, and_assoc]
  | link target => simp [filesOf, Tree.isDir]
  | dir entries =>
    simp only [filesOf, List.mem_map, Walked.under, Walked.mk.injEq, List.cons.injEq, Tree.isDir,
      reduceCtorEq, exists_false, and_false, false_or, true_and]
    constructor
    · rintro ⟨below, hbelow, ⟨rfl, rfl⟩, rfl⟩
      exact ⟨rfl, hbelow⟩
    · rintro ⟨rfl, hbelow⟩
      exact ⟨_, hbelow, ⟨rfl, rfl⟩, rfl⟩

theorem names_ne_nil (h : w ∈ walkTree rules top t) : w.names ≠ [] := by
  cases t with
  | dir entries =>
    obtain ⟨e, -, text, -, -, hw⟩ := mem_walkTree_dir.1 h
    cases hentry : e.2 with
    | file content mode =>
      rw [hentry, filesOf, List.mem_singleton] at hw
      simp [hw]
    | link target => simp [hentry, filesOf] at hw
    | dir entries =>
      rw [hentry, filesOf, List.mem_map] at hw
      obtain ⟨below, -, rfl⟩ := hw
      simp [Walked.under]
  | _ => simp [walkTree] at h

/-- A walk comes to the regular files with well-formed names that its rules allow. By induction on the names:
the first of them is that of an entry, and the others lead on from there. -/
theorem mem_walkTree (proper : t.Proper) (isDir : t.isDir = true) :
    w ∈ walkTree rules top t ↔
      ∃ path mode, t.at? path = some (.file w.content mode) ∧ Spelled path w.names ∧
        rules.Allows top w.names := by
  obtain ⟨names, content⟩ := w
  induction names generalizing t top with
  | nil =>
    constructor
    · intro h
      exact absurd rfl (names_ne_nil h)
    · rintro ⟨path, mode, hpath, hspelled, -⟩
      cases hspelled
      cases hpath
      cases isDir
  | cons text names ih =>
    obtain ⟨entries, rfl⟩ := Tree.isDir_iff.1 isDir
    rw [mem_walkTree_dir]
    constructor
    · rintro ⟨⟨name, s⟩, he, text', hdecode, henters, hw⟩
      have hchild := proper.child?_eq_some_iff.2 he
      obtain ⟨rfl, ⟨rfl, mode, rfl⟩ | ⟨hdir, hbelow⟩⟩ := mem_filesOf.1 hw
      · refine ⟨[name], mode, ?_, .cons hdecode .nil, allows_singleton.2 henters⟩
        rw [Tree.at?_cons, hchild]
        rfl
      · obtain ⟨path, mode, hpath, hspelled, hallows⟩ := (ih (proper.child hchild) hdir).1 hbelow
        refine ⟨name :: path, mode, ?_, .cons hdecode hspelled,
          (allows_cons (names_ne_nil hbelow)).2 ⟨hdir ▸ henters, hallows⟩⟩
        rw [Tree.at?_cons, hchild]
        exact hpath
    · rintro ⟨path, mode, hpath, hspelled, hallows⟩
      cases hspelled with
      | @cons name _ path _ hdecode hspelled =>
      rw [Tree.at?_cons, Option.bind_eq_some_iff] at hpath
      obtain ⟨s, hchild, hpath⟩ := hpath
      refine ⟨(name, s), proper.child?_eq_some_iff.1 hchild, text, hdecode, ?_⟩
      cases names with
      | nil =>
        cases hspelled
        cases hpath
        exact ⟨allows_singleton.1 hallows, mem_filesOf.2 ⟨rfl, .inl ⟨rfl, mode, rfl⟩⟩⟩
      | cons next names =>
        have hbelow : path ≠ [] := by
          rintro rfl
          cases hspelled
        have hdir : s.isDir = true := by
          refine Tree.isDir_of_at?_append Tree.at?_nil ?_ hbelow
          rw [List.nil_append, hpath]
          rfl
        obtain ⟨henters, hallows⟩ := (allows_cons (List.cons_ne_nil _ _)).1 hallows
        exact ⟨hdir ▸ henters, mem_filesOf.2 ⟨rfl, .inr ⟨hdir,
          (ih (proper.child hchild) hdir).2 ⟨path, mode, hpath, hspelled, hallows⟩⟩⟩⟩

/-! ## The order of the files -/

theorem nameLe_iff {a b : Name} : nameLe a b = true ↔ a ≤ b := by
  simp [nameLe]

theorem Walked.key_under {text : String} : (w.under text).key = Utf8.encode text :: w.key := rfl

theorem key_of_mem_filesOf {text : String} (h : w ∈ filesOf rules text t) :
    ∃ rest, w.key = Utf8.encode text :: rest := by
  cases t with
  | file content mode =>
    rw [filesOf, List.mem_singleton] at h
    exact ⟨[], by rw [h]; rfl⟩
  | link target => cases h
  | dir entries =>
    obtain ⟨below, -, rfl⟩ := List.mem_map.1 h
    exact ⟨_, Walked.key_under⟩

theorem names_walkEntries (entries : List (Name × Tree)) :
    ((walkTree.walkEntries rules top entries).map (·.1)).Sublist (entries.map (·.1)) := by
  induction entries with
  | nil => exact .slnil
  | cons head rest ih =>
    obtain ⟨name, t⟩ := head
    rw [walkEntries_cons]
    cases Utf8.decode? name with
    | none => exact ih.cons _
    | some text =>
      cases henters : rules.enters top text t.isDir
      · simpa [henters] using ih.cons name
      · simpa [henters] using ih.cons_cons name

/-- Sorted by name the entries of a directory ascend strictly. -/
theorem ascending_mergeSort {found : List (Name × List Walked)} (distinct : (found.map (·.1)).Nodup) :
    (found.mergeSort fun a b => nameLe a.1 b.1).Pairwise fun a b => a.1 < b.1 := by
  let le (a b : Name × List Walked) : Bool := nameLe a.1 b.1
  have htrans : ∀ a b c, le a b = true → le b c = true → le a c = true :=
    fun a b c hab hbc => nameLe_iff.2 (List.le_trans (nameLe_iff.1 hab) (nameLe_iff.1 hbc))
  have htotal : ∀ a b, (le a b || le b a) = true := by
    intro a b
    simpa [le, nameLe_iff] using List.le_total a.1 b.1
  have hsorted := List.pairwise_mergeSort htrans htotal found
  have hperm : (found.mergeSort fun a b => nameLe a.1 b.1).Perm found := List.mergeSort_perm found _
  have hdistinct := List.pairwise_map.1 ((hperm.map (·.1)).nodup_iff.2 distinct)
  refine hsorted.imp₂ ?_ hdistinct
  intro a b hle hne
  exact Std.lt_of_le_of_ne (nameLe_iff.1 hle) hne

/-- The files come in the strict order of their paths, name by name. By induction on the tree: below one
entry the first name is the same, and the entries are sorted by their names. -/
theorem walkTree_ascending (proper : t.Proper) :
    (walkTree rules top t).Pairwise fun a b => a.key < b.key := by
  induction t using Tree.induction generalizing top with
  | file content mode => simp [walkTree]
  | link target => simp [walkTree]
  | dir entries ih =>
    have hdistinct : ((walkTree.walkEntries rules top entries).map (·.1)).Nodup :=
      proper.distinct.sublist (names_walkEntries entries)
    rw [walkTree, List.pairwise_flatMap]
    constructor
    · intro found hfound
      rw [List.mem_mergeSort, mem_walkEntries] at hfound
      obtain ⟨e, he, text, -, -, rfl⟩ := hfound
      have hbelow : (walkTree rules false e.2).Pairwise fun a b => a.key < b.key :=
        ih e he (proper.child (proper.child?_eq_some_iff.2 he))
      cases hentry : e.2 with
      | file content mode => exact List.pairwise_singleton _ _
      | link target => exact .nil
      | dir entries =>
        rw [hentry] at hbelow
        refine List.pairwise_map.2 (hbelow.imp ?_)
        intro a b hlt
        exact List.cons_lt_cons_iff.2 (.inr ⟨rfl, hlt⟩)
    · refine (ascending_mergeSort hdistinct).imp_of_mem ?_
      intro a b ha hb hlt x hx y hy
      rw [List.mem_mergeSort, mem_walkEntries] at ha hb
      obtain ⟨e, -, text, hdecode, -, rfl⟩ := ha
      obtain ⟨e', -, text', hdecode', -, rfl⟩ := hb
      obtain ⟨rest, hkey⟩ := key_of_mem_filesOf hx
      obtain ⟨rest', hkey'⟩ := key_of_mem_filesOf hy
      rw [hkey, hkey', Utf8.encode_of_decode? hdecode, Utf8.encode_of_decode? hdecode']
      exact List.cons_lt_cons_iff.2 (.inl hlt)

theorem nodup_of_ascending {files : List Walked} (h : files.Pairwise fun a b => a.key < b.key) :
    files.Nodup := by
  refine h.imp ?_
  rintro a b hlt rfl
  exact List.lt_irrefl _ hlt

/-- A walk is decided by the files that its rules allow. -/
theorem walkTree_congr (proper : t.Proper) (proper' : s.Proper) (isDir : t.isDir = true) (isDir' : s.isDir = true)
    (same : ∀ path names, Spelled path names → rules.Allows top names → t.node? path = s.node? path) :
    walkTree rules top t = walkTree rules top s := by
  have hmem : ∀ w, w ∈ walkTree rules top t ↔ w ∈ walkTree rules top s := by
    intro w
    rw [mem_walkTree proper isDir, mem_walkTree proper' isDir']
    simp only [← Tree.node?_eq_some_file_iff]
    refine exists_congr fun path => exists_congr fun mode => and_congr_left fun h => ?_
    rw [same path w.names h.1 h.2]
  have hperm := (List.perm_ext_iff_of_nodup (nodup_of_ascending (walkTree_ascending proper))
    (nodup_of_ascending (walkTree_ascending proper'))).2 hmem
  refine hperm.eq_of_pairwise ?_ (walkTree_ascending proper) (walkTree_ascending proper')
  intro a b _ _ hab hba
  exact absurd (List.lt_trans hab hba) (List.lt_irrefl _)

/-- Walks over trees with the same nodes come to the same files in the same order. -/
theorem walkTree_eq_of_same (proper : t.Proper) (proper' : s.Proper) (isDir : t.isDir = true)
    (isDir' : s.isDir = true) (same : t.Same s) : walkTree rules top t = walkTree rules top s :=
  walkTree_congr proper proper' isDir isDir' fun path _ _ _ => same path

/-! ## Names of files -/

variable {names : List String}

theorem Spelled.key (spelled : Spelled path w.names) : w.key = path := by
  unfold Walked.key
  generalize w.names = names at spelled
  induction spelled with
  | nil => rfl
  | cons hdecode _ ih => rw [List.map_cons, ih, Utf8.encode_of_decode? hdecode]

theorem Spelled.texts (spelled : Spelled path names) : path.map Utf8.decodeLossy = names := by
  induction spelled with
  | nil => rfl
  | cons hdecode _ ih => rw [List.map_cons, ih, Utf8.decodeLossy_of_decode? hdecode]

theorem Spelled.path_eq (spelled : Spelled path w.names) : w.path = slashJoined path := by
  rw [Walked.path, slashJoined, spelled.texts]

theorem spelled_iff : Spelled path names ↔
    (∀ name ∈ path, (Utf8.decode? name).isSome = true) ∧ names = path.map Utf8.decodeLossy := by
  constructor
  · intro spelled
    refine ⟨?_, spelled.texts.symm⟩
    induction spelled with
    | nil => simp
    | cons hdecode _ ih =>
      intro name hname
      rcases List.mem_cons.1 hname with rfl | hname
      · rw [hdecode]
        rfl
      · exact ih name hname
  · rintro ⟨htext, rfl⟩
    induction path with
    | nil => exact .nil
    | cons name path ih =>
      obtain ⟨text, hdecode⟩ := Option.isSome_iff_exists.1 (htext name List.mem_cons_self)
      rw [List.map_cons, Utf8.decodeLossy_of_decode? hdecode]
      exact .cons hdecode (ih fun other h => htext other (List.mem_cons_of_mem _ h))

theorem slash_notMem_decodeLossy {name : Name} (h : slash ∉ name) :
    '/' ∉ (Utf8.decodeLossy name).toList := by
  rw [Utf8.decodeLossy, String.toList_ofList]
  intro hslash
  exact h (Utf8.mem_of_mem_lossyChars hslash (by decide))

/-- Paths that are joined to one text have the same texts, name by name. -/
theorem texts_eq_of_slashJoined_eq {path path' : List Name} (ne : path ≠ []) (ne' : path' ≠ [])
    (plain : ∀ name ∈ path, slash ∉ name) (plain' : ∀ name ∈ path', slash ∉ name)
    (h : slashJoined path = slashJoined path') :
    path.map Utf8.decodeLossy = path'.map Utf8.decodeLossy := by
  have hsplit : ∀ {p : List Name}, p ≠ [] → (∀ name ∈ p, slash ∉ name) →
      (slashJoined p).toList.splitOn '/' = (p.map Utf8.decodeLossy).map String.toList := by
    intro p hne hplain
    rw [slashJoined, String.toList_intercalate]
    refine List.splitOn_intercalate '/' ?_ (by simpa using hne)
    intro text htext
    rw [List.map_map, List.mem_map] at htext
    obtain ⟨name, hname, rfl⟩ := htext
    exact slash_notMem_decodeLossy (hplain name hname)
  have htexts := hsplit ne plain
  rw [h, hsplit ne' plain'] at htexts
  exact ((List.map_injective_iff.2 fun _ _ => String.toList_inj.1) htexts).symm

theorem eq_of_texts_eq {path path' : List Name} (text : ∀ name ∈ path, (Utf8.decode? name).isSome = true)
    (text' : ∀ name ∈ path', (Utf8.decode? name).isSome = true)
    (h : path.map Utf8.decodeLossy = path'.map Utf8.decodeLossy) : path = path' := by
  have hspelled : Spelled path (path.map Utf8.decodeLossy) := spelled_iff.2 ⟨text, rfl⟩
  have hspelled' : Spelled path' (path.map Utf8.decodeLossy) := spelled_iff.2 ⟨text', h⟩
  rw [← Spelled.key (w := ⟨path.map Utf8.decodeLossy, []⟩) hspelled,
    ← Spelled.key (w := ⟨path.map Utf8.decodeLossy, []⟩) hspelled']

theorem exists_spelled (proper : t.Proper) (isDir : t.isDir = true) (h : w ∈ walkTree rules top t) :
    ∃ mode, t.at? w.key = some (.file w.content mode) ∧ Spelled w.key w.names ∧ rules.Allows top w.names := by
  obtain ⟨path, mode, hpath, hspelled, hallows⟩ := (mem_walkTree proper isDir).1 h
  rw [hspelled.key]
  exact ⟨mode, hpath, hspelled, hallows⟩

theorem key_ne_nil (h : w ∈ walkTree rules top t) : w.key ≠ [] := by
  rw [Walked.key, ne_eq, List.map_eq_nil_iff]
  exact names_ne_nil h

/-- A walk comes to no two files with the same path as text. -/
theorem eq_of_path_eq {other : Walked} (proper : t.Proper) (isDir : t.isDir = true)
    (h : w ∈ walkTree rules top t) (h' : other ∈ walkTree rules top t) (same : w.path = other.path) :
    w = other := by
  obtain ⟨mode, hfile, hspelled, -⟩ := exists_spelled proper isDir h
  obtain ⟨mode', hfile', hspelled', -⟩ := exists_spelled proper isDir h'
  rw [hspelled.path_eq, hspelled'.path_eq] at same
  have htexts := texts_eq_of_slashJoined_eq (key_ne_nil h) (key_ne_nil h') (proper.slash_notMem hfile)
    (proper.slash_notMem hfile') same
  have hnames : w.names = other.names := by rw [← hspelled.texts, htexts, hspelled'.texts]
  have hkey := eq_of_texts_eq (spelled_iff.1 hspelled).1 (spelled_iff.1 hspelled').1 htexts
  rw [hkey, hfile', Option.some_inj, Tree.file.injEq] at hfile
  cases w
  cases other
  cases hnames
  cases hfile.1
  rfl

theorem nodup_map_path {files : List Walked} (proper : t.Proper) (isDir : t.isDir = true)
    (walked : files.Sublist (walkTree rules top t)) : (files.map (·.path)).Nodup := by
  refine List.Nodup.map_on ?_ ((nodup_of_ascending (walkTree_ascending proper)).sublist walked)
  exact fun a ha b hb => eq_of_path_eq proper isDir (walked.mem ha) (walked.mem hb)

end CodeSearch
