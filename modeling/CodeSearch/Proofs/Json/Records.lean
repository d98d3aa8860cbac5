import CodeSearch.Json.Decode
import CodeSearch.Proofs.Json.RoundTrip

/-!
# Records read back from maps

A map of values that is written and read back as a record gives each field the value of its name, and no
other value of the map has a part in it.
-/

namespace CodeSearch

namespace Json

variable {entries : List (String × Json)} {name : String}

theorem filter_rereadFields_of_none (h : NameMap.lookup name entries = none) :
    (reread.rereadFields entries).filter (·.1 == some name) = [] := by
  induction entries with
  | nil => rfl
  | cons head rest ih =>
    obtain ⟨key, value⟩ := head
    unfold NameMap.lookup at h
    split at h
    · cases h
    · rename_i hne
      rw [reread.rereadFields, List.filter_cons_of_neg (by simpa using hne), ih h]

/-- A name stands once in what is read of a map, with the value that it has in the map. -/
theorem filter_rereadFields (ascending : Ascending entries) (name : String) :
    (reread.rereadFields entries).filter (·.1 == some name) =
      (NameMap.lookup name entries).toList.map fun value => (some name, reread value) := by
  induction entries with
  | nil => rfl
  | cons head rest ih =>
    obtain ⟨key, value⟩ := head
    obtain ⟨hhead, hrest⟩ := List.pairwise_cons.1 ascending
    unfold NameMap.lookup
    split
    · rename_i heq
      have hnone : NameMap.lookup name rest = none := NameMap.lookup_eq_none_of_lt fun e he => heq ▸ hhead e he
      rw [reread.rereadFields, List.filter_cons_of_pos (by simpa using heq), filter_rereadFields_of_none hnone, heq]
      rfl
    · rename_i hne
      rw [reread.rereadFields, List.filter_cons_of_neg (by simpa using hne), ih hrest]

theorem isNone_of_mem_rereadFields {field : Option String × Node} (h : field ∈ reread.rereadFields entries) :
    field.1.isNone = false := by
  rw [rereadFields_eq_map] at h
  obtain ⟨entry, -, rfl⟩ := List.mem_map.1 h
  rfl

/-- A record that is read from a map of values has the fields that the map has. -/
theorem fields_rereadFields (names : List String) {d inside : Decoding} (enters : Decoder.enter d = some inside)
    (m : NameMap Json) :
    Decoder.fields names d (.object (reread.rereadFields m.entries)) =
      some (names.map fun name => (m.get? name).map reread) := by
  have hnames : (reread.rereadFields m.entries).any (·.1.isNone) = false := by
    rw [List.any_eq_false]
    intro field hfield
    rw [isNone_of_mem_rereadFields hfield]
    decide
  rw [Decoder.fields, enters, Option.bind_some, hnames, if_neg Bool.false_ne_true]
  induction names with
  | nil => rfl
  | cons name names ih =>
    rw [Decoder.all?, filter_rereadFields m.ascending, ih, List.map_cons, NameMap.get?]
    cases NameMap.lookup name m.entries <;> rfl

end Json

end CodeSearch
