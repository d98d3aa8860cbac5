import CodeSearch.Proofs.Json.Numbers
import CodeSearch.Proofs.Json.Strings

/-!
# Reading back what was written

The compact text of a value is a document, and reading it gives the value: the same names and texts, in the
same order, and each number as it is read by itself. The induction is on the value; the stack and the bytes
behind it are arbitrary, so that an item or a field can be read inside the container it stands in.
-/

namespace CodeSearch.Json

open Text

variable {fuel : Nat} {node : Node} {items : List Node} {fields : List (Option String × Node)}
  {key next : Option String} {stack : List Open} {b : UInt8} {bs rest : Bytes}

/-! ## What the reader does next -/

theorem skipSpace_cons (solid : isSpace b = false) : skipSpace (b :: rest) = b :: rest := by
  simp [skipSpace, solid]

theorem read?_nextItem :
    read? (fuel + 1) (.after node) (.array items :: stack) (0x2C :: rest) =
      read? fuel .value (.array (node :: items) :: stack) rest := rfl

theorem read?_lastItem :
    read? (fuel + 1) (.after node) (.array items :: stack) (0x5D :: rest) =
      read? fuel (.after (.array (node :: items).reverse)) stack rest := rfl

theorem read?_nextField (h : key? bs = some (next, rest)) :
    read? (fuel + 1) (.after node) (.object fields key :: stack) (0x2C :: bs) =
      read? fuel .value (.object ((key, node) :: fields) next :: stack) rest := by
  rw [read?.eq_def]
  simp [skipSpace_cons, h, show isSpace 0x2C = false from rfl]

theorem read?_lastField :
    read? (fuel + 1) (.after node) (.object fields key :: stack) (0x7D :: rest) =
      read? fuel (.after (.object ((key, node) :: fields).reverse)) stack rest := rfl

theorem read?_noItems :
    read? (fuel + 1) .value stack (0x5B :: 0x5D :: rest) = read? fuel (.after (.array [])) stack rest := by
  cases stack <;> rfl

theorem read?_noFields :
    read? (fuel + 1) .value stack (0x7B :: 0x7D :: rest) = read? fuel (.after (.object [])) stack rest := by
  cases stack <;> rfl

theorem read?_items (solid : isSpace b = false) (some_item : b ≠ 0x5D) :
    read? (fuel + 1) .value stack (0x5B :: b :: rest) = read? fuel .value (.array [] :: stack) (b :: rest) := by
  have hsome : skipSpace (b :: rest) = b :: rest := skipSpace_cons solid
  rw [read?.eq_def]
  cases stack <;> simp [skipSpace_cons, hsome, some_item, show isSpace 0x5B = false from rfl]

theorem read?_fields (solid : isSpace b = false) (some_field : b ≠ 0x7D) (h : key? (b :: bs) = some (key, rest)) :
    read? (fuel + 1) .value stack (0x7B :: b :: bs) = read? fuel .value (.object [] key :: stack) rest := by
  have hsome : skipSpace (b :: bs) = b :: bs := skipSpace_cons solid
  rw [read?.eq_def]
  cases stack <;> simp [skipSpace_cons, hsome, some_field, h, show isSpace 0x7B = false from rfl]

theorem read?_scalar (solid : isSpace b = false) (no_items : b ≠ 0x5B) (no_fields : b ≠ 0x7B)
    (h : scalar? (b :: bs) = some (node, rest)) :
    read? (fuel + 1) .value stack (b :: bs) = read? fuel (.after node) stack rest := by
  rw [read?.eq_def]
  cases stack <;> simp [skipSpace_cons solid, no_items, no_fields, h]

/-! ## What is read of a value -/

/-- What is read of a number that is written. -/
def Number.reread (n : Number) : Option Number :=
  (numeral? (Utf8.encodeChars (numberText n))).bind fun r => r.1.value

theorem numeral?_numberText (n : Number) :
    ∃ m : Numeral, (∀ rest, EndsNumber rest → numeral? (Utf8.encodeChars (numberText n) ++ rest) = some (m, rest)) ∧
      m.value = Number.reread n := by
  obtain ⟨w, proper, hchars⟩ := Written.exists_chars n
  have hread : ∀ rest, EndsNumber rest →
      numeral? (Utf8.encodeChars (numberText n) ++ rest) = some (w.numeral, rest) :=
    fun rest ends => hchars ▸ Written.numeral?_chars proper ends
  refine ⟨w.numeral, hread, ?_⟩
  have halone := hread [] (by simp [EndsNumber])
  rw [List.append_nil] at halone
  rw [Number.reread, halone]
  rfl

/-- What is read of a value that is written: all of it, with its numbers as they are read. -/
def reread : Json → Node
  | .null => .null
  | .bool b => .bool b
  | .number n => .number (Number.reread n)
  | .string s => .text (some s)
  | .array items => .array (rereadItems items)
  | .object fields => .object (rereadFields fields)
where
  rereadItems : List Json → List Node
  | [] => []
  | item :: items => reread item :: rereadItems items
  rereadFields : List (String × Json) → List (Option String × Node)
  | [] => []
  | (key, value) :: fields => (some key, reread value) :: rereadFields fields

theorem rereadItems_eq_map (items : List Json) : reread.rereadItems items = items.map reread := by
  induction items with
  | nil => rfl
  | cons item items ih => rw [reread.rereadItems, ih, List.map_cons]

theorem rereadFields_eq_map (fields : List (String × Json)) :
    reread.rereadFields fields = fields.map fun field => (some field.1, reread field.2) := by
  induction fields with
  | nil => rfl
  | cons field fields ih => rw [reread.rereadFields, ih, List.map_cons]

/-- How often a reader goes on until it has read a value that is written. -/
def steps : Json → Nat
  | .array items => 1 + itemSteps items
  | .object fields => 1 + fieldSteps fields
  | _ => 1
where
  itemSteps : List Json → Nat
  | [] => 0
  | item :: items => steps item + (1 + itemSteps items)
  fieldSteps : List (String × Json) → Nat
  | [] => 0
  | (_, value) :: fields => steps value + (1 + fieldSteps fields)

theorem sizeOf_field_lt {α β : Type} [SizeOf α] [SizeOf β] {field : α × β} {fields : List (α × β)}
    (h : field ∈ fields) : sizeOf field.2 < sizeOf fields := by
  have hlt := List.sizeOf_lt_of_mem h
  obtain ⟨key, value⟩ := field
  simp only [Prod.mk.sizeOf_spec] at hlt ⊢
  omega

/-- What holds of an array when it holds of its items, of an object when it holds of its values, and of
everything else, holds of every value. -/
theorem induction {motive : Json → Prop} (null : motive .null) (bool : ∀ b, motive (.bool b))
    (number : ∀ n, motive (.number n)) (string : ∀ s, motive (.string s))
    (array : ∀ items, (∀ item ∈ items, motive item) → motive (.array items))
    (object : ∀ fields, (∀ field ∈ fields, motive field.2) → motive (.object fields)) : ∀ v, motive v
  | .null => null
  | .bool b => bool b
  | .number n => number n
  | .string s => string s
  | .array items => array items fun item _hitem => induction null bool number string array object item
  | .object fields => object fields fun field _hfield => induction null bool number string array object field.2
termination_by v => sizeOf v
decreasing_by
  · have hlt := List.sizeOf_lt_of_mem _hitem
    simp only [Json.array.sizeOf_spec]
    omega
  · have hlt := sizeOf_field_lt _hfield
    simp only [Json.object.sizeOf_spec]
    omega

/-! ## A value in bytes -/

def bytes (v : Json) : Bytes := Utf8.encodeChars (compactChars v)

theorem key?_quote (s : String) (rest : Bytes) :
    ∃ bs, quoteBytes s = 0x22 :: bs ∧ key? (0x22 :: (bs ++ 0x3A :: rest)) = some (some s, rest) := by
  obtain ⟨bs, hquote, hread⟩ := string?_quote s (0x3A :: rest)
  refine ⟨bs, hquote, ?_⟩
  rw [key?, skipSpace_cons (by decide)]
  simp only [hread]
  rfl

structure IsFirst (b : UInt8) : Prop where
  solid : isSpace b = false
  not_end : b ≠ 0x5D

def BeginsNumber (b : UInt8) : Prop := b = 0x2D ∨ isDigitByte b = true

theorem BeginsNumber.bounds {b : UInt8} (h : BeginsNumber b) : 0x2D ≤ b.toNat ∧ b.toNat ≤ 0x39 := by
  rcases h with rfl | h
  · decide
  · simp only [isDigitByte, Bool.and_eq_true, decide_eq_true_eq, UInt8.le_iff_toNat_le, UInt8.reduceToNat] at h
    omega

theorem BeginsNumber.ne {b c : UInt8} (h : BeginsNumber b) (outside : ¬(0x2D ≤ c.toNat ∧ c.toNat ≤ 0x39)) :
    b ≠ c := by
  rintro rfl
  exact outside h.bounds

theorem BeginsNumber.isFirst {b : UInt8} (h : BeginsNumber b) : IsFirst b := by
  refine ⟨?_, h.ne (by decide)⟩
  simp [isSpace, h.ne (c := 0x20) (by decide), h.ne (c := 0x0A) (by decide), h.ne (c := 0x0D) (by decide),
    h.ne (c := 0x09) (by decide)]

theorem exists_numberText_cons (n : Number) :
    ∃ b bs, Utf8.encodeChars (numberText n) = b :: bs ∧ BeginsNumber b := by
  obtain ⟨w, proper, hchars⟩ := Written.exists_chars n
  obtain ⟨c, cs, hwhole⟩ := List.exists_cons_of_ne_nil proper.some_whole
  have hdigit := proper.whole c (hwhole ▸ List.mem_cons_self)
  have hascii : c.toNat < 0x80 := Nat.lt_of_le_of_lt (isDigit_iff.1 hdigit).2 (by decide)
  rw [← hchars, Written.chars, Utf8.encodeChars_append, Utf8.encodeChars_append, hwhole, Utf8.encodeChars_cons,
    Utf8.encodeChar_ascii hascii, Written.signChars]
  cases w.negative with
  | true => exact ⟨0x2D, _, rfl, .inl rfl⟩
  | false => exact ⟨_, _, rfl, .inr (isDigitByte_of_isDigit hdigit)⟩

theorem scalar?_number {n : Number} {rest : Bytes} (ends : EndsNumber rest) :
    scalar? (bytes (.number n) ++ rest) = some (.number (Number.reread n), rest) := by
  obtain ⟨m, hread, hvalue⟩ := numeral?_numberText n
  obtain ⟨b, bs, hb, hfirst⟩ := exists_numberText_cons n
  have hnumeral := hread rest ends
  change scalar? (Utf8.encodeChars (numberText n) ++ rest) = _
  rw [hb, List.cons_append] at hnumeral ⊢
  simp [scalar?, hfirst.ne (c := 0x22) (by decide), hfirst.ne (c := 0x6E) (by decide),
    hfirst.ne (c := 0x74) (by decide), hfirst.ne (c := 0x66) (by decide), hnumeral, hvalue]

theorem scalar?_string (s : String) (rest : Bytes) :
    scalar? (bytes (.string s) ++ rest) = some (.text (some s), rest) := by
  obtain ⟨bs, hquote, hread⟩ := string?_quote s rest
  change scalar? (quoteBytes s ++ rest) = _
  rw [hquote, List.cons_append]
  simp [scalar?, hread]

theorem exists_bytes_cons (v : Json) : ∃ b bs, bytes v = b :: bs ∧ IsFirst b := by
  cases v with
  | null => exact ⟨_, _, rfl, by decide, by decide⟩
  | bool b => cases b <;> exact ⟨_, _, rfl, by decide, by decide⟩
  | number n =>
    obtain ⟨b, bs, hb, hfirst⟩ := exists_numberText_cons n
    exact ⟨b, bs, hb, hfirst.isFirst⟩
  | string s =>
    obtain ⟨bs, hquote, -⟩ := string?_quote s []
    exact ⟨_, bs, hquote, by decide, by decide⟩
  | array items => exact ⟨0x5B, _, rfl, by decide, by decide⟩
  | object fields => exact ⟨0x7B, _, rfl, by decide, by decide⟩

/-! ## Reading what is written -/

def IsRead (v : Json) : Prop :=
  ∀ (fuel : Nat) (stack : List Open) (rest : Bytes), EndsNumber rest →
    read? (steps v + fuel) .value stack (bytes v ++ rest) = read? fuel (.after (reread v)) stack rest

theorem endsNumber_cons {b : UInt8} {rest : Bytes}
    (h : isDigitByte b = false ∧ b ≠ 0x2E ∧ b ≠ 0x65 ∧ b ≠ 0x45) : EndsNumber (b :: rest) := by
  intro c hc
  obtain rfl : b = c := Option.some.inj hc
  exact h

def itemBytes (items : List Json) : Bytes :=
  Utf8.encodeChars (joined [','] (compactChars.itemTexts items)) ++ [0x5D]

def fieldBytes (fields : List (String × Json)) : Bytes :=
  Utf8.encodeChars (joined [','] (compactChars.fieldTexts fields)) ++ [0x7D]

theorem itemBytes_single (item : Json) : itemBytes [item] = bytes item ++ [0x5D] := rfl

theorem itemBytes_cons (item next : Json) (items : List Json) :
    itemBytes (item :: next :: items) = bytes item ++ 0x2C :: itemBytes (next :: items) := by
  simp only [itemBytes, compactChars.itemTexts, joined, Utf8.encodeChars_append, List.append_assoc]
  rfl

theorem fieldBytes_single (key : String) (value : Json) :
    fieldBytes [(key, value)] = quoteBytes key ++ 0x3A :: (bytes value ++ [0x7D]) := by
  simp only [fieldBytes, compactChars.fieldTexts, joined, Utf8.encodeChars_append, List.append_assoc]
  rfl

theorem fieldBytes_cons (key : String) (value : Json) (next : String × Json) (fields : List (String × Json)) :
    fieldBytes ((key, value) :: next :: fields) =
      quoteBytes key ++ 0x3A :: (bytes value ++ 0x2C :: fieldBytes (next :: fields)) := by
  simp only [fieldBytes, compactChars.fieldTexts, joined, Utf8.encodeChars_append, List.append_assoc]
  rfl

theorem bytes_array (items : List Json) : bytes (.array items) = 0x5B :: itemBytes items := by
  simp only [bytes, compactChars, List.cons_append, Utf8.encodeChars_cons, Utf8.encodeChars_append]
  rfl

theorem bytes_object (fields : List (String × Json)) : bytes (.object fields) = 0x7B :: fieldBytes fields := by
  simp only [bytes, compactChars, List.cons_append, Utf8.encodeChars_cons, Utf8.encodeChars_append]
  rfl

/-- The items of an array are read one after another. -/
theorem read?_itemBytes {items : List Json} (some_item : items ≠ []) (reads : ∀ item ∈ items, IsRead item)
    (fuel : Nat) (done : List Node) (stack : List Open) (rest : Bytes) :
    read? (steps.itemSteps items + fuel) .value (.array done :: stack) (itemBytes items ++ rest) =
      read? fuel (.after (.array (done.reverse ++ reread.rereadItems items))) stack rest := by
  induction items generalizing done with
  | nil => exact absurd rfl some_item
  | cons item items ih =>
    have hitem := reads item List.mem_cons_self
    have hsteps : steps.itemSteps (item :: items) + fuel = steps item + (steps.itemSteps items + fuel + 1) := by
      rw [steps.itemSteps]
      omega
    rw [hsteps]
    cases items with
    | nil =>
      rw [itemBytes_single, List.append_assoc, List.singleton_append, hitem _ _ _ (endsNumber_cons (by decide))]
      change read? (0 + fuel + 1) _ _ (0x5D :: rest) = _
      rw [read?_lastItem, Nat.zero_add, List.reverse_cons]
      rfl
    | cons next items =>
      rw [itemBytes_cons, List.append_assoc, List.cons_append, hitem _ _ _ (endsNumber_cons (by decide)),
        read?_nextItem, ih (by simp) (fun other h => reads other (List.mem_cons_of_mem _ h)), List.reverse_cons,
        List.append_assoc]
      rfl

/-- The fields of an object are read one after another, from the value of the first one on. -/
theorem read?_fieldBytes {key : String} {value : Json} {fields : List (String × Json)}
    (reads : ∀ field ∈ (key, value) :: fields, IsRead field.2) (fuel : Nat) (done : List (Option String × Node))
    (stack : List Open) (rest : Bytes) :
    ∃ bs, fieldBytes ((key, value) :: fields) = quoteBytes key ++ 0x3A :: bs ∧
      read? (steps.fieldSteps ((key, value) :: fields) + fuel) .value (.object done (some key) :: stack) (bs ++ rest) =
        read? fuel (.after (.object (done.reverse ++ reread.rereadFields ((key, value) :: fields)))) stack rest := by
  induction fields generalizing done key value with
  | nil =>
    refine ⟨_, fieldBytes_single key value, ?_⟩
    have hvalue := reads (key, value) List.mem_cons_self
    have hsteps : steps.fieldSteps [(key, value)] + fuel = steps value + (fuel + 1) := by
      simp only [steps.fieldSteps]
      omega
    rw [hsteps, List.append_assoc, List.singleton_append, hvalue _ _ _ (endsNumber_cons (by decide)),
      read?_lastField, List.reverse_cons]
    rfl
  | cons field fields ih =>
    obtain ⟨next, other⟩ := field
    refine ⟨_, fieldBytes_cons key value (next, other) fields, ?_⟩
    have hvalue := reads (key, value) List.mem_cons_self
    obtain ⟨bs, hbs, hread⟩ := ih (fun field h => reads field (List.mem_cons_of_mem _ h))
      ((some key, reread value) :: done)
    obtain ⟨quoted, hquote, hkey⟩ := key?_quote next (bs ++ rest)
    have hsteps : steps.fieldSteps ((key, value) :: (next, other) :: fields) + fuel =
        steps value + (steps.fieldSteps ((next, other) :: fields) + fuel + 1) := by
      rw [steps.fieldSteps]
      omega
    have hnext : fieldBytes ((next, other) :: fields) ++ rest = 0x22 :: (quoted ++ 0x3A :: (bs ++ rest)) := by
      rw [hbs, hquote]
      simp
    rw [hsteps, List.append_assoc, List.cons_append, hvalue _ _ _ (endsNumber_cons (by decide)), hnext,
      read?_nextField hkey, hread, List.reverse_cons, List.append_assoc]
    rfl

namespace IsRead

theorem of_scalar {v : Json} (one : steps v = 1)
    (first : ∃ b bs, bytes v = b :: bs ∧ isSpace b = false ∧ b ≠ 0x5B ∧ b ≠ 0x7B)
    (reads : ∀ rest, EndsNumber rest → scalar? (bytes v ++ rest) = some (reread v, rest)) : IsRead v := by
  intro fuel stack rest ends
  obtain ⟨b, bs, hb, solid, no_items, no_fields⟩ := first
  have hscalar := reads rest ends
  rw [hb, List.cons_append] at hscalar ⊢
  rw [one, Nat.add_comm]
  exact read?_scalar solid no_items no_fields hscalar

theorem array {items : List Json} (reads : ∀ item ∈ items, IsRead item) : IsRead (.array items) := by
  intro fuel stack rest _
  rw [bytes_array, steps, Nat.add_assoc, Nat.add_comm, List.cons_append]
  cases items with
  | nil =>
    change read? (0 + fuel + 1) .value stack (0x5B :: 0x5D :: rest) = _
    rw [read?_noItems, Nat.zero_add]
    rfl
  | cons item items =>
    have hread := read?_itemBytes (List.cons_ne_nil item items) reads fuel [] stack rest
    obtain ⟨b, bs, hb, hfirst⟩ := exists_bytes_cons item
    obtain ⟨more, hmore⟩ : ∃ more, itemBytes (item :: items) ++ rest = b :: more := by
      cases items with
      | nil => exact ⟨_, by rw [itemBytes_single, hb]; rfl⟩
      | cons next items => exact ⟨_, by rw [itemBytes_cons, hb]; rfl⟩
    rw [hmore] at hread ⊢
    rw [read?_items hfirst.solid hfirst.not_end]
    exact hread

theorem object {fields : List (String × Json)} (reads : ∀ field ∈ fields, IsRead field.2) :
    IsRead (.object fields) := by
  intro fuel stack rest _
  rw [bytes_object, steps, Nat.add_assoc, Nat.add_comm, List.cons_append]
  cases fields with
  | nil =>
    change read? (0 + fuel + 1) .value stack (0x7B :: 0x7D :: rest) = _
    rw [read?_noFields, Nat.zero_add]
    rfl
  | cons field fields =>
    obtain ⟨key, value⟩ := field
    obtain ⟨bs, hbs, hread⟩ := read?_fieldBytes reads fuel [] stack rest
    obtain ⟨quoted, hquote, hkey⟩ := key?_quote key (bs ++ rest)
    have hbytes : fieldBytes ((key, value) :: fields) ++ rest = 0x22 :: (quoted ++ 0x3A :: (bs ++ rest)) := by
      rw [hbs, hquote]
      simp
    rw [hbytes, read?_fields (by decide) (by decide) hkey]
    exact hread

end IsRead

theorem isRead (v : Json) : IsRead v := by
  induction v using induction with
  | null => exact .of_scalar rfl ⟨_, _, rfl, by decide, by decide, by decide⟩ fun _ _ => rfl
  | bool b => cases b <;> exact .of_scalar rfl ⟨_, _, rfl, by decide, by decide, by decide⟩ fun _ _ => rfl
  | number n =>
    obtain ⟨b, bs, hb, hfirst⟩ := exists_numberText_cons n
    exact .of_scalar rfl ⟨b, bs, hb, hfirst.isFirst.solid, hfirst.ne (by decide), hfirst.ne (by decide)⟩
      fun _ ends => scalar?_number ends
  | string s =>
    obtain ⟨bs, hquote, -⟩ := string?_quote s []
    exact .of_scalar rfl ⟨_, bs, hquote, by decide, by decide, by decide⟩ fun rest _ => scalar?_string s rest
  | array items reads => exact .array reads
  | object fields reads => exact .object reads

/-! ## Steps and bytes -/

theorem itemSteps_le {items : List Json} (each : ∀ item ∈ items, steps item ≤ (bytes item).length) :
    steps.itemSteps items ≤ (itemBytes items).length := by
  induction items with
  | nil => exact Nat.zero_le _
  | cons item items ih =>
    have hitem := each item List.mem_cons_self
    have hitems := ih fun other h => each other (List.mem_cons_of_mem _ h)
    cases items with
    | nil =>
      rw [itemBytes_single, List.length_append, steps.itemSteps, steps.itemSteps]
      simpa using hitem
    | cons next items =>
      rw [itemBytes_cons, List.length_append, List.length_cons, steps.itemSteps]
      omega

theorem fieldSteps_le {fields : List (String × Json)}
    (each : ∀ field ∈ fields, steps field.2 ≤ (bytes field.2).length) :
    steps.fieldSteps fields ≤ (fieldBytes fields).length := by
  induction fields with
  | nil => exact Nat.zero_le _
  | cons field fields ih =>
    obtain ⟨key, value⟩ := field
    have hvalue := each _ List.mem_cons_self
    have hfields := ih fun other h => each other (List.mem_cons_of_mem _ h)
    cases fields with
    | nil =>
      rw [fieldBytes_single, steps.fieldSteps, steps.fieldSteps]
      simp at hvalue ⊢
      omega
    | cons next fields =>
      rw [fieldBytes_cons, steps.fieldSteps]
      simp at hvalue ⊢
      omega

/-- Each step takes at least one byte. -/
theorem steps_le (v : Json) : steps v ≤ (bytes v).length := by
  have hone : ∀ v : Json, 1 ≤ (bytes v).length := fun v => by
    obtain ⟨b, bs, hb, -⟩ := exists_bytes_cons v
    simp [hb]
  induction v using induction with
  | array items each =>
    rw [bytes_array, steps, List.length_cons]
    have hitems := itemSteps_le each
    omega
  | object fields each =>
    rw [bytes_object, steps, List.length_cons]
    have hfields := fieldSteps_le each
    omega
  | null => exact hone _
  | bool b => exact hone _
  | number n => exact hone _
  | string s => exact hone _

/-- The text of a value is read as the value, with its numbers as they are read. -/
theorem node?_compact (v : Json) : node? (Utf8.encode v.compact) = some (reread v) := by
  have hbytes : Utf8.encode v.compact = bytes v := by
    rw [Utf8.encode, compact, String.toList_ofList]
    rfl
  have hread := isRead v ((bytes v).length + 1 - steps v) [] [] (by simp [EndsNumber])
  have hfuel : steps v + ((bytes v).length + 1 - steps v) = (bytes v).length + 1 := by
    have hle := steps_le v
    omega
  rw [hfuel, List.append_nil] at hread
  rw [hbytes, node?, hread, read?]
  rfl

end CodeSearch.Json
