import CodeSearch.Proofs.Text.Encoding
import CodeSearch.Url.Percent

/-!
# Percent-encoding and reading back

A set of bytes to encode need not hold the percent sign. What is written with such a set is then read back as
the text would be read itself: escapes that stand in the text are taken for its own, and a text comes back as
it was exactly when there are none in it.
-/

namespace CodeSearch.Percent

variable {inSet : UInt8 → Bool} {bs rest : Bytes} {a b : UInt8} {cs : List Char}

/-! ## Decoding, byte by byte -/

def DigitsFirst (bs : Bytes) : Prop :=
  ∃ a b rest, bs = a :: b :: rest ∧ (digit? a).isSome = true ∧ (digit? b).isSome = true

theorem decode_cons_of_ne (other : b ≠ 0x25) : decode (b :: rest) = b :: decode rest := by
  rw [decode]
  rintro _ _ _ rfl
  exact absurd rfl other

theorem decode_escape {x y : Nat} (ha : digit? a = some x) (hb : digit? b = some y) :
    decode (0x25 :: a :: b :: rest) = (x * 16 + y).toUInt8 :: decode rest := by
  rw [decode, ha, hb]

theorem decode_percent (h : ¬DigitsFirst rest) : decode (0x25 :: rest) = 0x25 :: decode rest := by
  match rest with
  | [] => rfl
  | [_] => rfl
  | a :: b :: rest =>
    rw [decode]
    cases ha : digit? a with
    | none => rfl
    | some x =>
      cases hb : digit? b with
      | none => rfl
      | some y => exact absurd ⟨a, b, rest, rfl, by rw [ha]; rfl, by rw [hb]; rfl⟩ h

/-- Bytes as they are decoded: an escape, a percent sign by itself, or any other byte comes first. -/
theorem decode_induction {motive : Bytes → Prop} (nil : motive [])
    (escape : ∀ a b x y rest, digit? a = some x → digit? b = some y → motive rest → motive (0x25 :: a :: b :: rest))
    (percent : ∀ rest, ¬DigitsFirst rest → motive rest → motive (0x25 :: rest))
    (other : ∀ b rest, b ≠ 0x25 → motive rest → motive (b :: rest)) (bs : Bytes) : motive bs := by
  induction bs using decode.induct with
  | case1 a b rest x y hb ha ih => exact escape a b x y rest ha hb ih
  | case2 a b rest hdigits ih =>
    refine percent _ ?_ ih
    rintro ⟨a', b', rest', h, ha, hb⟩
    simp only [List.cons.injEq] at h
    obtain ⟨rfl, rfl, rfl⟩ := h
    obtain ⟨x, hx⟩ := Option.isSome_iff_exists.1 ha
    obtain ⟨y, hy⟩ := Option.isSome_iff_exists.1 hb
    exact hdigits x y hx hy
  | case3 b rest hshort ih =>
    by_cases hb : b = 0x25
    · refine hb ▸ percent rest ?_ ih
      rintro ⟨a, c, more, h, -, -⟩
      exact hshort a c more hb h
    · exact other b rest hb ih
  | case4 => exact nil

theorem digit?_upperDigit : ∀ n < 16, digit? (upperDigit n) = some n := by decide

theorem decode_encodeByte (b : UInt8) (rest : Bytes) : decode (encodeByte b ++ rest) = b :: decode rest := by
  have hb : b.toNat < 256 := b.toNat_lt
  change decode (0x25 :: upperDigit (b.toNat / 16) :: upperDigit (b.toNat % 16) :: rest) = _
  rw [decode_escape (digit?_upperDigit _ (by omega)) (digit?_upperDigit _ (by omega)), Nat.div_add_mod']
  simp

/-! ## Encoding before decoding -/

/-- A set of bytes that holds neither the percent sign nor a digit. -/
structure Spares (inSet : UInt8 → Bool) : Prop where
  percent : inSet 0x25 = false
  digits : ∀ b, (digit? b).isSome = true → inSet b = false

theorem encodeBytes_cons (inSet : UInt8 → Bool) (b : UInt8) (bs : Bytes) :
    encodeBytes inSet (b :: bs) = (if 0x80 ≤ b || inSet b then encodeByte b else [b]) ++ encodeBytes inSet bs := rfl

theorem encodeBytes_cons_of_spared (low : b < 0x80) (spared : inSet b = false) :
    encodeBytes inSet (b :: bs) = b :: encodeBytes inSet bs := by
  rw [encodeBytes_cons, if_neg (by simpa [spared] using low)]
  rfl

theorem low_of_digit (digit : (digit? b).isSome = true) : b < 0x80 := by
  unfold digit? at digit
  split at digit
  · assumption
  · cases digit

theorem Spares.cons_of_digit (spares : Spares inSet) (digit : (digit? b).isSome = true) :
    encodeBytes inSet (b :: bs) = b :: encodeBytes inSet bs :=
  encodeBytes_cons_of_spared (low_of_digit digit) (spares.digits b digit)

theorem eq_cons_of_digit (digit : (digit? a).isSome = true) (h : encodeBytes inSet bs = a :: rest) :
    ∃ more, bs = a :: more ∧ encodeBytes inSet more = rest := by
  cases bs with
  | nil => cases h
  | cons b bs =>
    rw [encodeBytes_cons] at h
    split at h
    · obtain ⟨rfl, -⟩ := List.cons.inj h
      cases digit
    · obtain ⟨rfl, rfl⟩ := List.cons.inj h
      exact ⟨bs, rfl, rfl⟩

theorem Spares.digitsFirst_iff (spares : Spares inSet) : DigitsFirst (encodeBytes inSet bs) ↔ DigitsFirst bs := by
  constructor
  · rintro ⟨a, b, rest, h, ha, hb⟩
    obtain ⟨more, rfl, hmore⟩ := eq_cons_of_digit ha h
    obtain ⟨last, rfl, -⟩ := eq_cons_of_digit hb hmore
    exact ⟨a, b, last, rfl, ha, hb⟩
  · rintro ⟨a, b, rest, rfl, ha, hb⟩
    exact ⟨a, b, encodeBytes inSet rest, by rw [spares.cons_of_digit ha, spares.cons_of_digit hb], ha, hb⟩

/-- Encoding makes no difference to what is read. -/
theorem Spares.decode_encodeBytes (spares : Spares inSet) (bs : Bytes) :
    decode (encodeBytes inSet bs) = decode bs := by
  have hpercent (bs : Bytes) : encodeBytes inSet (0x25 :: bs) = 0x25 :: encodeBytes inSet bs :=
    encodeBytes_cons_of_spared (by decide) spares.percent
  induction bs using decode_induction with
  | nil => rfl
  | escape a b x y rest ha hb ih =>
    have ha' : (digit? a).isSome = true := by rw [ha]; rfl
    have hb' : (digit? b).isSome = true := by rw [hb]; rfl
    rw [hpercent, spares.cons_of_digit ha', spares.cons_of_digit hb', decode_escape ha hb, decode_escape ha hb, ih]
  | percent rest hfirst ih =>
    rw [hpercent, decode_percent hfirst, decode_percent (mt spares.digitsFirst_iff.1 hfirst), ih]
  | other b rest hb ih =>
    rw [decode_cons_of_ne hb, encodeBytes_cons]
    split
    · rw [decode_encodeByte, ih]
    · rw [List.singleton_append, decode_cons_of_ne hb, ih]

/-! ## Encoded texts -/

/-- What is written stood there before, or it belongs to an escape. -/
theorem mem_encodeBytes (h : b ∈ encodeBytes inSet bs) :
    b = 0x25 ∨ (digit? b).isSome = true ∨ b ∈ bs ∧ b < 0x80 ∧ inSet b = false := by
  obtain ⟨x, hx, hb⟩ := List.mem_flatMap.1 h
  split at hb
  · have hlt : x.toNat < 256 := x.toNat_lt
    simp only [encodeByte, List.mem_cons, List.not_mem_nil, or_false] at hb
    rcases hb with rfl | rfl | rfl
    · exact .inl rfl
    · exact .inr (.inl (by rw [digit?_upperDigit _ (by omega)]; rfl))
    · exact .inr (.inl (by rw [digit?_upperDigit _ (by omega)]; rfl))
  · rename_i hplain
    rw [List.mem_singleton.1 hb]
    exact .inr (.inr ⟨hx, by simpa using hplain⟩)

theorem Spares.spared_of_mem (spares : Spares inSet) (h : b ∈ encodeBytes inSet bs) : b < 0x80 ∧ inSet b = false := by
  rcases mem_encodeBytes h with rfl | digit | ⟨-, spared⟩
  · exact ⟨by decide, spares.percent⟩
  · exact ⟨low_of_digit digit, spares.digits b digit⟩
  · exact spared

theorem toNat_char (low : b < 0x80) : (Char.ofNat b.toNat).toNat = b.toNat :=
  Utf8.toNat_ofNat_of_isValidChar (.inl (Nat.lt_trans (UInt8.lt_iff_toNat_lt.1 low) (by decide)))

theorem encode_asciiText (low : ∀ b ∈ bs, b < 0x80) : Utf8.encode (asciiText bs) = bs := by
  have hchars : Utf8.encodeChars (bs.map fun b => Char.ofNat b.toNat) = bs := by
    induction bs with
    | nil => rfl
    | cons b bs ih =>
      have hb : b.toNat < 0x80 := UInt8.lt_iff_toNat_lt.1 (low b (by simp))
      rw [List.map_cons, Utf8.encodeChars_cons, Utf8.encode_one hb, UInt8.ofNat_toNat,
        ih fun c hc => low c (List.mem_cons_of_mem b hc)]
      rfl
  rw [Utf8.encode, asciiText, String.toList_ofList, hchars]

theorem Spares.mem_encode (spares : Spares inSet) {s : String} {c : Char} (h : c ∈ (encode inSet s).toList) :
    c.toNat < 0x80 ∧ inSet (UInt8.ofNat c.toNat) = false := by
  rw [encode, asciiText, String.toList_ofList] at h
  obtain ⟨b, hb, rfl⟩ := List.mem_map.1 h
  obtain ⟨low, spared⟩ := spares.spared_of_mem hb
  rw [toNat_char low, UInt8.ofNat_toNat]
  exact ⟨UInt8.lt_iff_toNat_lt.1 low, spared⟩

theorem Spares.decode_encode (spares : Spares inSet) (s : String) :
    decode (Utf8.encode (encode inSet s)) = decode (Utf8.encode s) := by
  rw [encode, encode_asciiText fun b hb => (spares.spared_of_mem hb).1, spares.decode_encodeBytes]

/-! ## Texts without escapes -/

/-- Somewhere in a text a percent sign stands before two hexadecimal digits. -/
inductive Escaped : List Char → Prop
  | here {a b : Char} {rest : List Char} (first : Text.isHexDigit a = true) (second : Text.isHexDigit b = true) :
      Escaped ('%' :: a :: b :: rest)
  | later {c : Char} {cs : List Char} (h : Escaped cs) : Escaped (c :: cs)

theorem encodeChars_eq_cons (low : b < 0x80) (h : Utf8.encodeChars cs = b :: rest) :
    ∃ c more, cs = c :: more ∧ c = Char.ofNat b.toNat ∧ Utf8.encodeChars more = rest := by
  cases cs with
  | nil => cases h
  | cons c cs =>
    obtain ⟨x, xs, hx⟩ := List.exists_cons_of_ne_nil (String.utf8EncodeChar_ne_nil (c := c))
    rw [Utf8.encodeChars_cons, hx, List.cons_append] at h
    obtain ⟨rfl, hrest⟩ := List.cons.inj h
    have hnat : c.toNat = x.toNat := Utf8.toNat_eq_of_mem_encode (by simp [hx]) low
    have hxs : xs = [] := by
      rw [Utf8.encodeChar_ascii (hnat ▸ low)] at hx
      exact (List.cons.inj hx).2.symm
    refine ⟨c, cs, rfl, by rw [← hnat, Char.ofNat_toNat], ?_⟩
    rwa [hxs] at hrest

theorem digit?_ascii {c : Char} (ascii : c.toNat < 0x80) : digit? (UInt8.ofNat c.toNat) = Text.hexValue? c := by
  have hnat : (UInt8.ofNat c.toNat).toNat = c.toNat := by
    rw [UInt8.toNat_ofNat']
    exact Nat.mod_eq_of_lt (by omega)
  rw [digit?, if_pos (UInt8.lt_iff_toNat_lt.2 (by rw [hnat]; exact ascii)), hnat, Char.ofNat_toNat]

theorem ascii_of_isHexDigit {c : Char} (digit : Text.isHexDigit c = true) : c.toNat < 0x80 := by
  by_contra high
  have hle : ∀ d : Char, d.toNat < 0x80 → ¬c ≤ d := fun d hd h => by
    have : c.toNat ≤ d.toNat := h
    omega
  have hnone : Text.hexValue? c = none := by
    simp [Text.hexValue?, Text.isDigit, hle '9' (by decide), hle 'f' (by decide), hle 'F' (by decide)]
  rw [Text.isHexDigit, hnone] at digit
  cases digit

theorem encodeChars_cons_of_ascii {c : Char} (ascii : c.toNat < 0x80) :
    Utf8.encodeChars (c :: cs) = UInt8.ofNat c.toNat :: Utf8.encodeChars cs := by
  rw [Utf8.encodeChars_cons, Utf8.encodeChar_ascii ascii]
  rfl

/-- Digits at the front of the bytes are digits at the front of the text. -/
theorem digitsFirst_encodeChars : DigitsFirst (Utf8.encodeChars cs) ↔
    ∃ a b rest, cs = a :: b :: rest ∧ Text.isHexDigit a = true ∧ Text.isHexDigit b = true := by
  constructor
  · rintro ⟨x, y, bytes, h, hx, hy⟩
    obtain ⟨a, more, rfl, rfl, hmore⟩ := encodeChars_eq_cons (low_of_digit hx) h
    obtain ⟨b, rest, rfl, rfl, -⟩ := encodeChars_eq_cons (low_of_digit hy) hmore
    rw [digit?, if_pos (low_of_digit hx)] at hx
    rw [digit?, if_pos (low_of_digit hy)] at hy
    exact ⟨_, _, rest, rfl, hx, hy⟩
  · rintro ⟨a, b, rest, rfl, ha, hb⟩
    have ha' := ascii_of_isHexDigit ha
    have hb' := ascii_of_isHexDigit hb
    refine ⟨_, _, Utf8.encodeChars rest, by rw [encodeChars_cons_of_ascii ha', encodeChars_cons_of_ascii hb'], ?_, ?_⟩
    · rw [digit?_ascii ha']
      exact ha
    · rw [digit?_ascii hb']
      exact hb

theorem decode_append_of_notMem {front : Bytes} (free : 0x25 ∉ front) :
    decode (front ++ rest) = front ++ decode rest := by
  induction front with
  | nil => rfl
  | cons b front ih =>
    obtain ⟨hb, hfront⟩ := not_or.1 (mt List.mem_cons.2 free)
    rw [List.cons_append, decode_cons_of_ne (Ne.symm hb), ih hfront, List.cons_append]

theorem length_decode_le (bs : Bytes) : (decode bs).length ≤ bs.length := by
  induction bs using decode_induction with
  | nil => exact Nat.le_refl _
  | escape a b x y rest ha hb ih =>
    rw [decode_escape ha hb]
    simp only [List.length_cons]
    omega
  | percent rest hfirst ih =>
    rw [decode_percent hfirst]
    exact Nat.succ_le_succ ih
  | other b rest hb ih =>
    rw [decode_cons_of_ne hb]
    exact Nat.succ_le_succ ih

/-- An escape is read as fewer bytes. -/
theorem decode_ne_of_digitsFirst (first : DigitsFirst rest) : decode (0x25 :: rest) ≠ 0x25 :: rest := by
  obtain ⟨a, b, more, rfl, ha, hb⟩ := first
  obtain ⟨x, hx⟩ := Option.isSome_iff_exists.1 ha
  obtain ⟨y, hy⟩ := Option.isSome_iff_exists.1 hb
  intro h
  have hlength := congrArg List.length h
  have hle := length_decode_le more
  rw [decode_escape hx hy] at hlength
  simp only [List.length_cons] at hlength
  omega

/-- A text is read as it is exactly when no escape stands in it. -/
theorem decode_encodeChars_eq_iff : decode (Utf8.encodeChars cs) = Utf8.encodeChars cs ↔ ¬Escaped cs := by
  induction cs with
  | nil => exact ⟨fun _ => nofun, fun _ => rfl⟩
  | cons c cs ih =>
    by_cases hc : c = '%'
    · subst hc
      have hbytes : Utf8.encodeChars ('%' :: cs) = 0x25 :: Utf8.encodeChars cs :=
        encodeChars_cons_of_ascii (by decide)
      rw [hbytes]
      by_cases hfirst : DigitsFirst (Utf8.encodeChars cs)
      · obtain ⟨a, b, rest, rfl, ha, hb⟩ := digitsFirst_encodeChars.1 hfirst
        exact ⟨fun h => absurd h (decode_ne_of_digitsFirst hfirst), fun h => absurd (.here ha hb) h⟩
      · rw [decode_percent hfirst, List.cons_inj_right, ih, not_iff_not]
        refine ⟨.later, fun h => ?_⟩
        cases h with
        | here ha hb => exact absurd (digitsFirst_encodeChars.2 ⟨_, _, _, rfl, ha, hb⟩) hfirst
        | later h => exact h
    · have hfree : (0x25 : UInt8) ∉ String.utf8EncodeChar c := fun h =>
        hc ((Utf8.mem_encodeChar_iff (a := '%') (by decide)).1 h)
      rw [Utf8.encodeChars_cons, decode_append_of_notMem hfree, List.append_cancel_left_eq, ih, not_iff_not]
      refine ⟨.later, fun h => ?_⟩
      cases h with
      | here _ _ => exact absurd rfl hc
      | later h => exact h

end CodeSearch.Percent
