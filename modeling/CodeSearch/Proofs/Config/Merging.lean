import CodeSearch.Proofs.Config.Completion
import CodeSearch.Proofs.Json.Keeping

/-!
# Merging settings as texts

Settings are merged as texts in the same way as they are as maps: what the merged text holds is the settings of
the repository, and those shared where it sets nothing. For settings whose numbers are integers nothing is lost
on the way, so that merging once more changes nothing.
-/

namespace CodeSearch

namespace Json

theorem ofNameMap_inj {m n : NameMap Json} : ofNameMap m = ofNameMap n ↔ m = n := by
  cases m
  cases n
  simp [ofNameMap]

theorem kept_ofNameMap_iff {depth : Nat} {m : NameMap Json} :
    Kept (depth + 1) (ofNameMap m) ↔ ∀ key value, m.get? key = some value → Kept depth value := by
  constructor
  · rintro (_ | _ | _ | _ | _ | ⟨-, each⟩) key value h
    exact each (key, value) (NameMap.get?_eq_some_iff.1 h)
  · intro each
    exact .object m.ascending fun field hfield => each field.1 field.2 (NameMap.get?_eq_some_iff.2 hfield)

end Json

namespace Decoder

variable {d : Decoding} {node : Node} {m : NameMap Json}

theorem all?_eq_keepFields (depth : Nat) (fields : List (Option String × Node)) :
    all? (fun f : Option String × Node => do
      let key ← f.1
      let value ← f.2.keep depth
      return (key, value)) fields = Node.keep.keepFields depth fields := by
  induction fields with
  | nil => rfl
  | cons field fields ih =>
    obtain ⟨key, value⟩ := field
    rw [all?, ih, Node.keep.keepFields]
    cases key with
    | none => rfl
    | some key => cases value.keep depth <;> simp

theorem object_eq_some_iff : object d node = some m ↔ node.keep d.depth = some (Json.ofNameMap m) := by
  obtain ⟨depth, extraItems⟩ := d
  cases node with
  | object fields =>
    cases depth with
    | zero => simp [object, nameMap, enter, Node.keep]
    | succ depth =>
      simp only [object, nameMap, enter, Option.bind_some, all?_eq_keepFields, Node.keep]
      cases Node.keep.keepFields depth fields with
      | none => simp
      | some entries =>
        rw [Option.map_some, Option.map_some, Option.some_inj, Option.some_inj, ← Json.ofNameMap_inj]
        rfl
  | array items => cases depth <;> simp [object, nameMap, Node.keep, Json.ofNameMap]
  | _ => simp [object, nameMap, Node.keep, Json.ofNameMap]

end Decoder

namespace VcsSettings

open Json

variable {bs repo shared : Bytes} {m given : VcsSettings} {own : Option VcsSettings}

theorem ofBytes_eq_ok_iff : ofBytes bs = .ok m ↔ parse? bs = some (ofNameMap m) := by
  rw [ofBytes, parse?]
  cases node? bs with
  | none => simp
  | some node =>
    have hobject : Decoder.object Decoding.json node = some m ↔ node.keep maxDepth = some (ofNameMap m) :=
      Decoder.object_eq_some_iff
    rw [Option.bind_some, Option.bind_some, ← hobject]
    cases Decoder.object Decoding.json node <;> simp

theorem ofBytes_toBytes (kept : Kept maxDepth (ofNameMap m)) : ofBytes m.toBytes = .ok m :=
  ofBytes_eq_ok_iff.2 kept.parse?_compact

/-- All numbers of a text, if it is one in JSON, are integers that 64 bits hold. -/
def WholeNumbers (bs : Bytes) : Prop := (node? bs).all Node.isWhole = true

instance : Decidable (WholeNumbers bs) := inferInstanceAs (Decidable (_ = true))

theorem kept_of_ofBytes (whole : WholeNumbers bs) (h : ofBytes bs = .ok m) : Kept maxDepth (ofNameMap m) := by
  rw [ofBytes_eq_ok_iff, parse?, Option.bind_eq_some_iff] at h
  obtain ⟨node, hnode, hkeep⟩ := h
  rw [WholeNumbers, hnode] at whole
  exact kept_of_keep whole hkeep

theorem get?_merge (own : Option VcsSettings) (given : VcsSettings) (key : String) :
    (merge own given).get? key = (own.bind (·.get? key)).or (given.get? key) := by
  rw [merge, NameMap.get?_union]
  cases own <;> rfl

theorem contains_merge (own : Option VcsSettings) (given : VcsSettings) (key : String) :
    (merge own given).contains key = (own.any (·.contains key) || given.contains key) := by
  rw [NameMap.contains, get?_merge, Option.isSome_or]
  cases own <;> rfl

theorem kept_merge (hown : ∀ settings, own = some settings → Kept maxDepth (ofNameMap settings))
    (hgiven : Kept maxDepth (ofNameMap given)) : Kept maxDepth (ofNameMap (merge own given)) := by
  refine kept_ofNameMap_iff.2 fun key value h => ?_
  rw [get?_merge, Option.or_eq_some_iff, Option.bind_eq_some_iff] at h
  rcases h with ⟨settings, hsettings, hvalue⟩ | ⟨-, hvalue⟩
  · exact kept_ofNameMap_iff.1 (hown settings hsettings) key value hvalue
  · exact kept_ofNameMap_iff.1 hgiven key value hvalue

/-- The shared text is read first, and the one of the repository unless it is empty. -/
theorem mergeBytes_eq (repo shared : Bytes) :
    mergeBytes repo shared =
      match ofBytes shared with
      | .error e => .error e
      | .ok given =>
        if repo = [] then .ok (merge none given).toBytes
        else
          match ofBytes repo with
          | .error e => .error e
          | .ok settings => .ok (merge (some settings) given).toBytes := by
  unfold mergeBytes
  cases ofBytes shared with
  | error e => rfl
  | ok given =>
    cases repo with
    | nil => rfl
    | cons b bs =>
      simp only [if_neg (List.cons_ne_nil b bs)]
      cases ofBytes (b :: bs) <;> rfl

theorem mergeBytes_eq_error_iff :
    (∃ e, mergeBytes repo shared = .error e) ↔
      (∃ e, ofBytes shared = .error e) ∨ repo ≠ [] ∧ ∃ e, ofBytes repo = .error e := by
  rw [mergeBytes_eq]
  cases ofBytes shared with
  | error e => simp
  | ok given =>
    by_cases hempty : repo = []
    · simp [hempty]
    · cases hrepo : ofBytes repo <;> simp [hempty]

/-- The settings that the text of a repository holds. An empty text holds none. -/
inductive Holds (repo : Bytes) : Option VcsSettings → Prop where
  | absent (empty : repo = []) : Holds repo none
  | given {settings : VcsSettings} (nonempty : repo ≠ []) (reads : ofBytes repo = .ok settings) :
    Holds repo (some settings)

theorem mergeBytes_eq_ok_iff :
    mergeBytes repo shared = .ok bs ↔
      ∃ own given, Holds repo own ∧ ofBytes shared = .ok given ∧ bs = (merge own given).toBytes := by
  rw [mergeBytes_eq]
  constructor
  · intro h
    cases hshared : ofBytes shared with
    | error e => simp [hshared] at h
    | ok given =>
      simp only [hshared] at h
      split at h
      · rename_i hempty
        cases h
        exact ⟨none, given, .absent hempty, rfl, rfl⟩
      · rename_i hnonempty
        split at h <;> cases h
        rename_i settings hrepo
        exact ⟨some settings, given, .given hnonempty hrepo, rfl, rfl⟩
  · rintro ⟨own, given, hown, hshared, rfl⟩
    cases hown with
    | absent hempty => simp [hshared, hempty]
    | given hnonempty hrepo => simp [hshared, hnonempty, hrepo]

theorem toBytes_ne_nil (m : VcsSettings) : m.toBytes ≠ [] := by
  intro h
  have hread := node?_compact (ofNameMap m)
  rw [show Utf8.encode (ofNameMap m).compact = [] from h] at hread
  cases hread

/-- What merging two texts comes to. -/
structure MergesBytes (repo shared : Bytes) : Prop where
  fails : (∃ e, mergeBytes repo shared = .error e) ↔
    (∃ e, ofBytes shared = .error e) ∨ repo ≠ [] ∧ ∃ e, ofBytes repo = .error e
  /-- The merged text holds the names of both, each with the value that the repository sets, null included, or
  else with the one shared. -/
  merges : ∀ bs, mergeBytes repo shared = .ok bs → ∃ own given merged,
    Holds repo own ∧ ofBytes shared = .ok given ∧ ofBytes bs = .ok merged ∧ merged = merge own given ∧
      (∀ key, merged.contains key = (own.any (·.contains key) || given.contains key)) ∧
      (∀ key, merged.get? key = (own.bind (·.get? key)).or (given.get? key)) ∧
      mergeBytes bs shared = .ok bs

theorem mergesBytes (hrepo : WholeNumbers repo) (hshared : WholeNumbers shared) : MergesBytes repo shared := by
  refine ⟨mergeBytes_eq_error_iff, fun bs h => ?_⟩
  obtain ⟨own, given, hown, hgiven, rfl⟩ := mergeBytes_eq_ok_iff.1 h
  have hkept : Kept maxDepth (ofNameMap (merge own given)) := by
    refine kept_merge (fun settings hsettings => ?_) (kept_of_ofBytes hshared hgiven)
    cases hown with
    | absent _ => cases hsettings
    | given _ reads =>
      cases hsettings
      exact kept_of_ofBytes hrepo reads
  have hmerged : ofBytes (merge own given).toBytes = .ok (merge own given) := ofBytes_toBytes hkept
  have hagain : mergeBytes (merge own given).toBytes shared = .ok (merge own given).toBytes := by
    refine mergeBytes_eq_ok_iff.2 ⟨_, given, .given (toBytes_ne_nil _) hmerged, hgiven, ?_⟩
    rw [merge_merge]
  exact ⟨own, given, merge own given, hown, hgiven, hmerged, rfl, contains_merge own given, get?_merge own given,
    hagain⟩

/-- A text that sets one name by null and another one by an object whose name has to be escaped. -/
def nested : Bytes := Utf8.encode "\x7b\"a\\nb\": \x7b\"\\u00e9\": [-1, -0, true]\x7d, \"depth\": null\x7d"

def greatest : Bytes := Utf8.encode "\x7b\"depth\": 5, \"size\": 18446744073709551615\x7d"

theorem mergesBytes_nested : WholeNumbers nested ∧ WholeNumbers greatest ∧
    mergeBytes nested greatest = .ok (Utf8.encode
      "\x7b\"a\\nb\":\x7b\"é\":[-1,-0.0,true]\x7d,\"depth\":null,\"size\":18446744073709551615\x7d") ∧
    MergesBytes nested greatest := by
  have hnested : WholeNumbers nested := by decide +kernel
  have hgreatest : WholeNumbers greatest := by decide +kernel
  exact ⟨hnested, hgreatest, by decide +kernel, mergesBytes hnested hgreatest⟩

end VcsSettings

end CodeSearch
