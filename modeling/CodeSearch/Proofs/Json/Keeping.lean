import CodeSearch.Proofs.Json.RoundTrip

/-!
# Kept values read again

A document that is kept holds objects in order of their names, and it is nested no deeper than a reader
allows. So what is written of it is kept again as the same value, if each of its numbers is read as it is
written: integers are, as far as 64 bits hold them. Other numbers may lose digits.
-/

namespace CodeSearch

/-- An integer that 64 bits hold, signed or unsigned. What has a point or an exponent is held as a float and is none;
minus zero is one, though it is held as a float as well. -/
def Number.isWhole : Number → Bool
  | .int n => -((Nat.pow 2 63 : Nat) : Int) ≤ n && n ≤ (Json.maxWord : Int)
  | .float d => d.negative && d.bits == 0

namespace Json

open Text

/-! ## Integers -/

theorem le_foldl_digits (digits : List Nat) (n : Nat) : n ≤ digits.foldl (fun n d => n * 10 + d) n := by
  induction digits generalizing n with
  | nil => exact Nat.le_refl n
  | cons d digits ih =>
    have hstep := ih (n * 10 + d)
    rw [List.foldl_cons]
    omega

/-- All digits are taken of a number that 64 bits hold. -/
theorem takeWhole_of_le {digits : List Nat} (fits : digits.foldl (fun n d => n * 10 + d) 0 ≤ maxWord) :
    takeWhole digits = (digits.foldl (fun n d => n * 10 + d) 0, 0) := by
  have hfrom : ∀ n, digits.foldl (fun n d => n * 10 + d) n ≤ maxWord →
      digits.foldl (fun taken d =>
        if taken.2 = 0 && taken.1 * 10 + d ≤ maxWord then (taken.1 * 10 + d, 0)
        else (taken.1, taken.2 + 1)) (n, 0) = (digits.foldl (fun n d => n * 10 + d) n, 0) := by
    clear fits
    induction digits with
    | nil => exact fun n _ => rfl
    | cons d digits ih =>
      intro n fits
      have hd : n * 10 + d ≤ maxWord := Nat.le_trans (le_foldl_digits digits (n * 10 + d)) fits
      rw [List.foldl_cons, List.foldl_cons]
      simpa [hd] using ih (n * 10 + d) fits
  exact hfrom 0 fits

theorem exactOrFloat_natAbs {n : Int} (low : -((Nat.pow 2 63 : Nat) : Int) ≤ n) :
    exactOrFloat (decide (n < 0)) n.natAbs = .int n := by
  unfold exactOrFloat
  by_cases hneg : n < 0
  · have hnonzero : ¬n.natAbs = 0 := by omega
    have hlow : ¬Nat.pow 2 63 < n.natAbs := by omega
    have habs : -(n.natAbs : Int) = n := by omega
    rw [decide_eq_true hneg, decide_eq_false hnonzero, decide_eq_false hlow, habs]
    rfl
  · have habs : (n.natAbs : Int) = n := by omega
    simp [hneg, habs]

theorem reread_of_isWhole {n : Number} (whole : n.isWhole = true) : Number.reread n = some n := by
  cases n with
  | float d =>
    obtain ⟨negative, bits⟩ := d
    obtain ⟨rfl, rfl⟩ : negative = true ∧ bits = 0 := by simpa [Number.isWhole] using whole
    decide +kernel
  | int n =>
    obtain ⟨low, high⟩ : -((Nat.pow 2 63 : Nat) : Int) ≤ n ∧ n ≤ (maxWord : Int) := by
      simpa [Number.isWhole] using whole
    have hread := Written.numeral?_chars (Written.proper_ofInt n) (show EndsNumber [] by simp [EndsNumber])
    rw [List.append_nil, Written.chars_ofInt] at hread
    have hdigits : ((Nat.toDigits 10 n.natAbs).map digitValue).foldl (fun n d => n * 10 + d) 0 = n.natAbs := by
      rw [List.foldl_map]
      exact natOfDigits_toDigits n.natAbs
    have htaken : takeWhole ((Nat.toDigits 10 n.natAbs).map digitValue) = (n.natAbs, 0) := by
      have hword : Nat.pow 2 63 ≤ maxWord := by decide
      rw [takeWhole_of_le (by rw [hdigits]; omega), hdigits]
    rw [Number.reread, hread, Option.bind_some, Numeral.value]
    simp [Written.numeral, Written.ofInt, htaken, exactOrFloat_natAbs low]

end Json

/-! ## Parts of what is kept -/

namespace Node

variable {depth : Nat} {items : List Node} {values : List Json} {fields : List (Option String × Node)}
  {entries : List (String × Json)}

theorem keepAll_eq_some_iff :
    keep.keepAll depth items = some values ↔
      List.Forall₂ (fun (item : Node) value => item.keep depth = some value) items values := by
  induction items generalizing values with
  | nil => cases values <;> simp [keep.keepAll]
  | cons item items ih =>
    cases values <;> simp [keep.keepAll, Option.bind_eq_some_iff, ih]

theorem keepFields_eq_some_iff :
    keep.keepFields depth fields = some entries ↔
      List.Forall₂ (fun (field : Option String × Node) entry =>
        field.1 = some entry.1 ∧ field.2.keep depth = some entry.2) fields entries := by
  induction fields generalizing entries with
  | nil => cases entries <;> simp [keep.keepFields]
  | cons field fields ih =>
    cases entries with
    | nil => simp [keep.keepFields, Option.bind_eq_some_iff]
    | cons entry entries =>
      obtain ⟨key, value⟩ := entry
      simp only [keep.keepFields, Option.bind_eq_bind, Option.bind_eq_some_iff, ih, List.forall₂_cons]
      constructor
      · rintro ⟨_, hkey, _, hvalue, _, hrest, heq⟩
        cases heq
        exact ⟨⟨hkey, hvalue⟩, hrest⟩
      · rintro ⟨⟨hkey, hvalue⟩, hrest⟩
        exact ⟨key, hkey, value, hvalue, entries, hrest, rfl⟩

def isWhole : Node → Bool
  | .number n => n.any Number.isWhole
  | .nonFinite => false
  | .array items => areWhole items
  | .object fields => haveWhole fields
  | _ => true
where
  areWhole : List Node → Bool
  | [] => true
  | item :: items => isWhole item && areWhole items
  haveWhole : List (Option String × Node) → Bool
  | [] => true
  | (_, value) :: fields => isWhole value && haveWhole fields

theorem areWhole_iff : isWhole.areWhole items = true ↔ ∀ item ∈ items, item.isWhole = true := by
  induction items with
  | nil => simp [isWhole.areWhole]
  | cons item items ih => simp [isWhole.areWhole, ih]

theorem haveWhole_iff : isWhole.haveWhole fields = true ↔ ∀ field ∈ fields, field.2.isWhole = true := by
  induction fields with
  | nil => simp [isWhole.haveWhole]
  | cons field fields ih =>
    obtain ⟨key, value⟩ := field
    simp [isWhole.haveWhole, ih]

/-- What holds of an array when it holds of its items, of an object when it holds of its values, and of
everything else, holds of every document. -/
theorem induction {motive : Node → Prop} (null : motive .null) (bool : ∀ b, motive (.bool b))
    (number : ∀ n, motive (.number n)) (nonFinite : motive .nonFinite) (text : ∀ s, motive (.text s))
    (array : ∀ items, (∀ item ∈ items, motive item) → motive (.array items))
    (object : ∀ fields, (∀ field ∈ fields, motive field.2) → motive (.object fields)) : ∀ node, motive node
  | .null => null
  | .bool b => bool b
  | .number n => number n
  | .nonFinite => nonFinite
  | .text s => text s
  | .array items => array items fun item _hitem => induction null bool number nonFinite text array object item
  | .object fields =>
    object fields fun field _hfield => induction null bool number nonFinite text array object field.2
termination_by node => sizeOf node
decreasing_by
  · have hlt := List.sizeOf_lt_of_mem _hitem
    simp only [Node.array.sizeOf_spec]
    omega
  · have hlt := Json.sizeOf_field_lt _hfield
    simp only [Node.object.sizeOf_spec]
    omega

end Node

namespace Json

variable {depth : Nat} {v : Json} {node : Node}

/-- A value that was kept: nested at most `depth` deep, with objects in order of their names, and with numbers
that are read as they are written. -/
inductive Kept : Nat → Json → Prop where
  | null {depth : Nat} : Kept depth .null
  | bool {depth : Nat} (b : Bool) : Kept depth (.bool b)
  | number {depth : Nat} {n : Number} (stable : Number.reread n = some n) : Kept depth (.number n)
  | string {depth : Nat} (s : String) : Kept depth (.string s)
  | array {depth : Nat} {items : List Json} (each : ∀ item ∈ items, Kept depth item) :
    Kept (depth + 1) (.array items)
  | object {depth : Nat} {fields : List (String × Json)} (ascending : Ascending fields)
      (each : ∀ field ∈ fields, Kept depth field.2) : Kept (depth + 1) (.object fields)

theorem ofFields_of_ascending {fields : List (String × Json)} (ascending : Ascending fields) :
    ofFields fields = .object fields :=
  congrArg (fun m : NameMap Json => Json.object m.entries) (NameMap.ofList_entries ⟨fields, ascending⟩)

theorem Kept.keep_reread (kept : Kept depth v) : (reread v).keep depth = some v := by
  induction kept with
  | null => rfl
  | bool b => rfl
  | number stable => rw [reread, Node.keep, stable, Option.map_some]
  | string s => rfl
  | @array depth items _ ih =>
    have hitems : Node.keep.keepAll depth (items.map reread) = some items := by
      rw [Node.keepAll_eq_some_iff, List.forall₂_map_left_iff, List.forall₂_same]
      exact ih
    rw [reread, rereadItems_eq_map, Node.keep, hitems, Option.map_some]
  | @object depth fields ascending _ ih =>
    have hfields : Node.keep.keepFields depth (fields.map fun field => (some field.1, reread field.2)) =
        some fields := by
      rw [Node.keepFields_eq_some_iff, List.forall₂_map_left_iff, List.forall₂_same]
      exact fun field hfield => ⟨rfl, ih field hfield⟩
    rw [reread, rereadFields_eq_map, Node.keep, hfields, Option.map_some, ofFields_of_ascending ascending]

theorem forall_of_forall₂ {α β : Type} {R : α → β → Prop} {P : β → Prop} {as : List α} {bs : List β}
    (related : List.Forall₂ R as bs) (each : ∀ a ∈ as, ∀ b, R a b → P b) : ∀ b ∈ bs, P b := by
  induction related with
  | nil => exact nofun
  | cons head _ ih =>
    rw [List.forall_mem_cons] at each ⊢
    exact ⟨each.1 _ head, ih each.2⟩

theorem kept_of_keep (whole : node.isWhole = true) (h : node.keep depth = some v) : Kept depth v := by
  induction node using Node.induction generalizing depth v with
  | null =>
    cases h
    exact .null
  | bool b =>
    cases h
    exact .bool b
  | number n =>
    obtain ⟨n, rfl, rfl⟩ := Option.map_eq_some_iff.1 h
    exact .number (reread_of_isWhole whole)
  | nonFinite => cases whole
  | text s =>
    obtain ⟨s, rfl, rfl⟩ := Option.map_eq_some_iff.1 h
    exact .string s
  | array items ih =>
    cases depth with
    | zero => cases h
    | succ depth =>
      obtain ⟨values, hvalues, rfl⟩ := Option.map_eq_some_iff.1 h
      refine .array (forall_of_forall₂ (Node.keepAll_eq_some_iff.1 hvalues) fun item hitem value hvalue => ?_)
      exact ih item hitem (Node.areWhole_iff.1 whole item hitem) hvalue
  | object fields ih =>
    cases depth with
    | zero => cases h
    | succ depth =>
      obtain ⟨entries, hentries, rfl⟩ := Option.map_eq_some_iff.1 h
      have heach := forall_of_forall₂ (P := fun entry : String × Json => Kept depth entry.2)
        (Node.keepFields_eq_some_iff.1 hentries)
        fun field hfield entry hentry => ih field hfield (Node.haveWhole_iff.1 whole field hfield) hentry.2
      refine .object (NameMap.ofList entries).ascending fun entry hentry => ?_
      exact heach entry (NameMap.mem_of_mem_ofList hentry)

/-- What is written of a value that was kept is the same document. -/
theorem Kept.parse?_compact (kept : Kept maxDepth v) : parse? (Utf8.encode v.compact) = some v := by
  rw [parse?, node?_compact, Option.bind_some, kept.keep_reread]

end Json

end CodeSearch
