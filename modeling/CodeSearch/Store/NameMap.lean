/-!
# Maps from names

Entries in strictly increasing order of their names, so that two maps with the same look-ups are equal.
`get?` is the view; each operation has its lemma through it.
-/

namespace CodeSearch

def Ascending {α : Type} (entries : List (String × α)) : Prop :=
  entries.Pairwise fun a b => a.1 < b.1

structure NameMap (α : Type) where
  entries : List (String × α)
  ascending : Ascending entries

namespace NameMap

variable {α β : Type}

def lookup (name : String) : List (String × α) → Option α
  | [] => none
  | (key, value) :: rest => if key = name then some value else lookup name rest

/-- Puts an entry in its place, over an older one of the same name. -/
def place (name : String) (value : α) : List (String × α) → List (String × α)
  | [] => [(name, value)]
  | (key, old) :: rest =>
    if name < key then (name, value) :: (key, old) :: rest
    else if name = key then (name, value) :: rest
    else (key, old) :: place name value rest

theorem mem_place {name : String} {value : α} {entries : List (String × α)} {e : String × α}
    (h : e ∈ place name value entries) : e = (name, value) ∨ e ∈ entries := by
  induction entries with
  | nil => simpa [place] using h
  | cons head rest ih =>
    obtain ⟨key, old⟩ := head
    unfold place at h
    split at h
    · simpa using h
    · split at h
      · rcases List.mem_cons.1 h with h | h
        · exact .inl h
        · exact .inr (List.mem_cons_of_mem _ h)
      · rcases List.mem_cons.1 h with h | h
        · exact .inr (h ▸ List.mem_cons_self)
        · exact (ih h).imp id (List.mem_cons_of_mem _)

theorem lt_of_not {a b : String} (h : ¬ a < b) (hne : a ≠ b) : b < a :=
  Std.lt_of_le_of_ne (Std.not_lt.1 h) (Ne.symm hne)

theorem ascending_place (name : String) (value : α) {entries : List (String × α)}
    (h : Ascending entries) : Ascending (place name value entries) := by
  induction entries with
  | nil => simp [place, Ascending]
  | cons head rest ih =>
    obtain ⟨key, old⟩ := head
    obtain ⟨hhead, hrest⟩ := List.pairwise_cons.1 h
    unfold place
    split
    · rename_i hlt
      refine List.pairwise_cons.2 ⟨fun e he => ?_, h⟩
      rcases List.mem_cons.1 he with rfl | he
      · exact hlt
      · exact String.lt_trans hlt (hhead e he)
    · split
      · rename_i heq
        subst heq
        exact List.pairwise_cons.2 ⟨hhead, hrest⟩
      · rename_i hlt hne
        refine List.pairwise_cons.2 ⟨fun e he => ?_, ih hrest⟩
        rcases mem_place he with rfl | he
        · exact lt_of_not hlt hne
        · exact hhead e he

theorem lookup_place_self (name : String) (value : α) (entries : List (String × α)) :
    lookup name (place name value entries) = some value := by
  induction entries with
  | nil => simp [place, lookup]
  | cons head rest ih =>
    obtain ⟨key, old⟩ := head
    unfold place
    split
    · simp [lookup]
    · split
      · simp [lookup]
      · rename_i hne
        simp [lookup, Ne.symm hne, ih]

theorem lookup_place_of_ne {name other : String} (value : α) (entries : List (String × α))
    (h : other ≠ name) : lookup other (place name value entries) = lookup other entries := by
  induction entries with
  | nil => simp [place, lookup, Ne.symm h]
  | cons head rest ih =>
    obtain ⟨key, old⟩ := head
    unfold place
    split
    · simp [lookup, Ne.symm h]
    · split
      · rename_i heq
        subst heq
        simp [lookup, Ne.symm h]
      · simp [lookup, ih]

theorem lookup_eq_none_of_lt {name : String} {entries : List (String × α)}
    (h : ∀ e ∈ entries, name < e.1) : lookup name entries = none := by
  induction entries with
  | nil => rfl
  | cons head rest ih =>
    have hne : head.1 ≠ name := fun heq =>
      String.lt_irrefl name (by simpa [heq] using h head List.mem_cons_self)
    simp [lookup, hne, ih fun e he => h e (List.mem_cons_of_mem _ he)]

theorem lookup_eq_some_iff {name : String} {value : α} {entries : List (String × α)}
    (h : Ascending entries) : lookup name entries = some value ↔ (name, value) ∈ entries := by
  induction entries with
  | nil => simp [lookup]
  | cons head rest ih =>
    obtain ⟨key, old⟩ := head
    obtain ⟨hhead, hrest⟩ := List.pairwise_cons.1 h
    unfold lookup
    split
    · rename_i heq
      subst heq
      constructor
      · intro hv
        simp_all
      · intro hm
        rcases List.mem_cons.1 hm with hm | hm
        · simp_all
        · exact absurd (hhead _ hm) (String.lt_irrefl _)
    · rename_i hne
      rw [ih hrest]
      constructor
      · exact List.mem_cons_of_mem _
      · intro hm
        rcases List.mem_cons.1 hm with hm | hm
        · simp_all
        · exact hm

instance : EmptyCollection (NameMap α) := ⟨⟨[], List.Pairwise.nil⟩⟩

instance : Inhabited (NameMap α) := ⟨∅⟩

instance [BEq α] : BEq (NameMap α) := ⟨fun a b => a.entries == b.entries⟩

instance [DecidableEq α] : DecidableEq (NameMap α) := fun a b =>
  decidable_of_iff (a.entries = b.entries) (by cases a; cases b; simp)

instance [Repr α] : Repr (NameMap α) := ⟨fun m n => reprPrec m.entries n⟩

def get? (m : NameMap α) (name : String) : Option α := lookup name m.entries

def contains (m : NameMap α) (name : String) : Bool := (m.get? name).isSome

def insert (m : NameMap α) (name : String) (value : α) : NameMap α :=
  ⟨place name value m.entries, ascending_place name value m.ascending⟩

/-- Inserts entries one after another: of a repeated name the last stays. -/
def ofList (entries : List (String × α)) : NameMap α :=
  entries.foldl (fun m e => m.insert e.1 e.2) ∅

def toList (m : NameMap α) : List (String × α) := m.entries

def keys (m : NameMap α) : List String := m.entries.map (·.1)

def values (m : NameMap α) : List α := m.entries.map (·.2)

def size (m : NameMap α) : Nat := m.entries.length

def isEmpty (m : NameMap α) : Bool := m.entries.isEmpty

def map (f : String → α → β) (m : NameMap α) : NameMap β :=
  ⟨m.entries.map fun e => (e.1, f e.1 e.2), by
    have h := m.ascending
    unfold Ascending at *
    exact List.pairwise_map.2 h⟩

def filter (p : String → α → Bool) (m : NameMap α) : NameMap α :=
  ⟨m.entries.filter fun e => p e.1 e.2, m.ascending.filter _⟩

def filterMap (f : String → α → Option β) (m : NameMap α) : NameMap β :=
  ⟨m.entries.filterMap fun e => (f e.1 e.2).map (e.1, ·), by
    refine List.pairwise_filterMap.2 (m.ascending.imp ?_)
    intro a b h c hc d hd
    obtain ⟨x, _, rfl⟩ := Option.map_eq_some_iff.1 hc
    obtain ⟨y, _, rfl⟩ := Option.map_eq_some_iff.1 hd
    exact h⟩

def erase (m : NameMap α) (name : String) : NameMap α := m.filter fun key _ => key != name

/-- The entries of `m`, and those of `other` whose names `m` has not. -/
def union (m other : NameMap α) : NameMap α :=
  other.entries.foldl (fun acc e => if acc.contains e.1 then acc else acc.insert e.1 e.2) m

theorem get?_insert_self (m : NameMap α) (name : String) (value : α) :
    (m.insert name value).get? name = some value := lookup_place_self name value m.entries

theorem get?_insert_of_ne (m : NameMap α) {name other : String} (value : α) (h : other ≠ name) :
    (m.insert name value).get? other = m.get? other := lookup_place_of_ne value m.entries h

theorem get?_empty (name : String) : (∅ : NameMap α).get? name = none := rfl

theorem get?_eq_some_iff {m : NameMap α} {name : String} {value : α} :
    m.get? name = some value ↔ (name, value) ∈ m.toList := lookup_eq_some_iff m.ascending

theorem get?_insert (m : NameMap α) (name other : String) (value : α) :
    (m.insert name value).get? other = if other = name then some value else m.get? other := by
  split
  · rename_i heq
    rw [heq, get?_insert_self]
  · rename_i hne
    exact get?_insert_of_ne m value hne

theorem get?_filter (p : String → α → Bool) (m : NameMap α) (name : String) :
    (m.filter p).get? name = (m.get? name).filter (p name) := by
  apply Option.ext
  intro value
  simp [get?_eq_some_iff, Option.filter_eq_some_iff, filter, toList]

theorem get?_map (f : String → α → β) (m : NameMap α) (name : String) :
    (m.map f).get? name = (m.get? name).map (f name) := by
  apply Option.ext
  intro value
  simp only [Option.map_eq_some_iff, get?_eq_some_iff, map, toList, List.mem_map, Prod.mk.injEq]
  constructor
  · rintro ⟨⟨key, old⟩, hmem, rfl, rfl⟩
    exact ⟨old, hmem, rfl⟩
  · rintro ⟨old, hmem, rfl⟩
    exact ⟨(name, old), hmem, rfl, rfl⟩

theorem get?_filterMap (f : String → α → Option β) (m : NameMap α) (name : String) :
    (m.filterMap f).get? name = (m.get? name).bind (f name) := by
  apply Option.ext
  intro value
  simp only [Option.bind_eq_some_iff, get?_eq_some_iff, filterMap, toList, List.mem_filterMap,
    Option.map_eq_some_iff, Prod.mk.injEq]
  constructor
  · rintro ⟨⟨key, old⟩, hmem, _, hnew, rfl, rfl⟩
    exact ⟨old, hmem, hnew⟩
  · rintro ⟨old, hmem, hnew⟩
    exact ⟨(name, old), hmem, value, hnew, rfl, rfl⟩

theorem get?_erase (m : NameMap α) (name other : String) :
    (m.erase name).get? other = if other = name then none else m.get? other := by
  rw [erase, get?_filter]
  split
  · rename_i heq
    cases h : m.get? other <;> simp [heq]
  · rename_i hne
    cases h : m.get? other <;> simp [hne]

theorem contains_iff {m : NameMap α} {name : String} :
    m.contains name = true ↔ ∃ value, m.get? name = some value := Option.isSome_iff_exists

theorem contains_filter (p : String → Unit → Bool) (m : NameMap Unit) (name : String) :
    (m.filter p).contains name = (m.contains name && p name ()) := by
  unfold contains
  rw [get?_filter]
  cases h : m.get? name <;> cases hp : p name () <;> simp [hp]

@[simp] theorem contains_insert (m : NameMap α) (name other : String) (value : α) :
    (m.insert name value).contains other = (other == name || m.contains other) := by
  unfold contains
  rw [get?_insert]
  by_cases h : other = name <;> simp [h]

@[simp] theorem contains_erase (m : NameMap α) (name other : String) :
    (m.erase name).contains other = (other != name && m.contains other) := by
  unfold contains
  rw [get?_erase]
  by_cases h : other = name <;> simp [h]

theorem mem_keys {m : NameMap α} {name : String} : name ∈ m.keys ↔ m.contains name = true := by
  simp [contains_iff, get?_eq_some_iff, keys, toList]

theorem keys_ascending (m : NameMap α) : m.keys.Pairwise (· < ·) :=
  List.pairwise_map.2 m.ascending

theorem keys_nodup (m : NameMap α) : m.keys.Nodup := by
  refine m.keys_ascending.imp ?_
  intro a b hlt heq
  exact String.lt_irrefl b (heq ▸ hlt)

theorem entries_nodup (m : NameMap α) : m.entries.Nodup := by
  refine m.ascending.imp ?_
  intro a b hlt heq
  exact String.lt_irrefl b.1 (heq ▸ hlt)

theorem ext_get? {m n : NameMap α} (h : ∀ name, m.get? name = n.get? name) : m = n := by
  have hmem : ∀ e : String × α, e ∈ m.entries ↔ e ∈ n.entries := fun e => by
    have := h e.1
    rw [← lookup_eq_some_iff m.ascending, ← lookup_eq_some_iff n.ascending]
    exact iff_of_eq (congrArg (· = some e.2) this)
  have hperm : m.entries.Perm n.entries :=
    (List.perm_ext_iff_of_nodup m.entries_nodup n.entries_nodup).2 hmem
  have heq : m.entries = n.entries :=
    hperm.eq_of_pairwise (fun a b _ _ hab hba => absurd (String.lt_trans hab hba) (String.lt_irrefl _))
      m.ascending n.ascending
  cases m
  cases n
  cases heq
  rfl

theorem contains_foldl_insert (entries : List (String × α)) (m : NameMap α) (name : String) :
    (entries.foldl (fun m e => m.insert e.1 e.2) m).contains name = true ↔
      name ∈ entries.map (·.1) ∨ m.contains name = true := by
  induction entries generalizing m with
  | nil => simp
  | cons head rest ih =>
    rw [List.foldl_cons, ih]
    simp only [contains_insert, Bool.or_eq_true, beq_iff_eq, List.map_cons, List.mem_cons]
    grind

theorem foldl_insert_absent (entries : List (String × α)) (m : NameMap α) (name : String) :
    (entries.foldl (fun acc e => if acc.contains e.1 then acc else acc.insert e.1 e.2) m).get? name =
      (m.get? name).or (lookup name entries) := by
  induction entries generalizing m with
  | nil => simp [lookup]
  | cons head rest ih =>
    obtain ⟨key, value⟩ := head
    rw [List.foldl_cons, ih, lookup]
    by_cases hkey : m.contains key = true
    · rw [if_pos hkey]
      split
      · rename_i heq
        obtain ⟨old, hold⟩ := contains_iff.1 hkey
        rw [← heq, hold]
        rfl
      · rfl
    · rw [if_neg hkey, get?_insert]
      split
      · rename_i heq
        rw [if_pos heq.symm, heq, Option.not_isSome_iff_eq_none.1 hkey]
        rfl
      · rename_i hne
        rw [if_neg (Ne.symm hne)]

theorem get?_union (m other : NameMap α) (name : String) :
    (m.union other).get? name = (m.get? name).or (other.get? name) :=
  foldl_insert_absent other.entries m name

theorem size_insert {m : NameMap α} {name : String} (fresh : m.contains name = false) (value : α) :
    (m.insert name value).size = m.size + 1 := by
  have hplace : ∀ entries : List (String × α), lookup name entries = none →
      (place name value entries).length = entries.length + 1 := by
    intro entries hnone
    induction entries with
    | nil => rfl
    | cons head rest ih =>
      obtain ⟨key, old⟩ := head
      unfold lookup at hnone
      unfold place
      split at hnone
      · cases hnone
      · rename_i hne
        split
        · rfl
        · simp [Ne.symm hne, ih hnone]
  exact hplace m.entries (Option.not_isSome_iff_eq_none.1 (by simpa [contains, get?] using fresh))

@[simp] theorem size_map (f : String → α → β) (m : NameMap α) : (m.map f).size = m.size := by
  simp [size, map]

theorem mem_keys_ofList {entries : List (String × α)} {name : String} :
    name ∈ (ofList entries).keys ↔ name ∈ entries.map (·.1) := by
  rw [mem_keys, ofList, contains_foldl_insert]
  simp [contains, get?_empty]

/-- Entries in their order make the map that has them. -/
theorem get?_foldl_insert {entries : List (String × α)} (ascending : Ascending entries) (m : NameMap α)
    (name : String) :
    (entries.foldl (fun m e => m.insert e.1 e.2) m).get? name = (lookup name entries).or (m.get? name) := by
  induction entries generalizing m with
  | nil => rfl
  | cons head rest ih =>
    obtain ⟨key, value⟩ := head
    obtain ⟨hhead, hrest⟩ := List.pairwise_cons.1 ascending
    rw [List.foldl_cons, ih hrest, get?_insert, lookup]
    by_cases heq : key = name
    · have hnone : lookup name rest = none := lookup_eq_none_of_lt fun e he => heq ▸ hhead e he
      rw [if_pos heq, if_pos heq.symm, hnone]
      rfl
    · rw [if_neg heq, if_neg (Ne.symm heq)]

theorem ofList_entries (m : NameMap α) : ofList m.entries = m := by
  refine ext_get? fun name => ?_
  rw [ofList, get?_foldl_insert m.ascending, get?_empty, Option.or_none]
  rfl

theorem mem_of_mem_ofList {entries : List (String × α)} {e : String × α} (h : e ∈ (ofList entries).entries) :
    e ∈ entries := by
  have hfold : ∀ m : NameMap α, e ∈ (entries.foldl (fun m e => m.insert e.1 e.2) m).entries →
      e ∈ entries ∨ e ∈ m.entries := by
    clear h
    induction entries with
    | nil => exact fun m => .inr
    | cons head rest ih =>
      intro m hmem
      rcases ih _ hmem with hmem | hmem
      · exact .inl (List.mem_cons_of_mem _ hmem)
      · rcases mem_place hmem with rfl | hmem
        · exact .inl List.mem_cons_self
        · exact .inr hmem
  exact (hfold ∅ h).resolve_right (List.not_mem_nil)

end NameMap

end CodeSearch
