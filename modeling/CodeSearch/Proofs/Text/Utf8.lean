import Mathlib.Data.List.Forall2
import CodeSearch.Text.Utf8

/-!
# Reading UTF-8 back

Every unit of a byte string stands for a stretch of it, and a unit with a character for the bytes that
encode this character. So a byte string that decodes to a text is the encoding of the text, and even in the
lossy reading an ASCII character is there only where its byte is.
-/

namespace CodeSearch.Utf8

/-! ## A character under way -/

/-- The last `due` bytes of a character with number `n`. -/
def lastBytes (n : Nat) : Nat → Bytes
  | 0 => []
  | due + 1 => UInt8.ofNat (0x80 + n / Nat.pow 64 due % 64) :: lastBytes n due

/-- The bytes `bs` begin a character: they are followed by the bytes still due in the encoding of each
number that has the bits read so far and whose next byte keeps the bounds. -/
def Begins (bs : Bytes) : Pending → Prop
  | .fresh => bs = []
  | .within bits due low high =>
    0 < due ∧ 0x80 ≤ low.toNat ∧ high.toNat ≤ 0xBF ∧
      ∀ n, n / Nat.pow 64 due = bits → low.toNat ≤ 0x80 + n / Nat.pow 64 (due - 1) % 64 →
        0x80 + n / Nat.pow 64 (due - 1) % 64 ≤ high.toNat →
        n.isValidChar ∧ String.utf8EncodeChar (Char.ofNat n) = bs ++ lastBytes n due

theorem toNat_ofNat_of_isValidChar {n : Nat} (h : n.isValidChar) : (Char.ofNat n).val.toNat = n := by
  rw [Char.ofNat, dif_pos h]
  rfl

theorem encode_one {n : Nat} (h : n < 0x80) : String.utf8EncodeChar (Char.ofNat n) = [UInt8.ofNat n] := by
  have hvalid : n.isValidChar := .inl (by omega)
  unfold String.utf8EncodeChar
  rw [toNat_ofNat_of_isValidChar hvalid, if_pos (by omega)]

theorem encode_two {n : Nat} (low : 0x80 ≤ n) (high : n < 0x800) :
    String.utf8EncodeChar (Char.ofNat n) = UInt8.ofNat (0xC0 + n / 64) :: lastBytes n 1 := by
  have hvalid : n.isValidChar := .inl (by omega)
  unfold String.utf8EncodeChar
  rw [toNat_ofNat_of_isValidChar hvalid, if_neg (by omega), if_pos (by omega)]
  have hlead : n / 64 % 0x20 + 0xC0 = 0xC0 + n / 64 := by omega
  simp [lastBytes, hlead, Nat.add_comm]

theorem encode_three {n : Nat} (valid : n.isValidChar) (low : 0x800 ≤ n) (high : n < 0x10000) :
    String.utf8EncodeChar (Char.ofNat n) = UInt8.ofNat (0xE0 + n / 4096) :: lastBytes n 2 := by
  unfold String.utf8EncodeChar
  rw [toNat_ofNat_of_isValidChar valid, if_neg (by omega), if_neg (by omega), if_pos (by omega)]
  have hlead : n / 4096 % 0x10 + 0xE0 = 0xE0 + n / 4096 := by omega
  simp [lastBytes, hlead, Nat.add_comm]

theorem encode_four {n : Nat} (valid : n.isValidChar) (low : 0x10000 ≤ n) :
    String.utf8EncodeChar (Char.ofNat n) = UInt8.ofNat (0xF0 + n / 262144) :: lastBytes n 3 := by
  unfold String.utf8EncodeChar
  rw [toNat_ofNat_of_isValidChar valid, if_neg (by omega), if_neg (by omega), if_neg (by omega)]
  have hhigh : n < 0x110000 := by
    rcases valid with h | h <;> omega
  have hlead : n / 262144 % 0x08 + 0xF0 = 0xF0 + n / 262144 := by omega
  simp [lastBytes, hlead, Nat.add_comm]

theorem ofNat_eq_of_eq {b : UInt8} {n : Nat} (h : n = b.toNat) : UInt8.ofNat n = b := by
  rw [h, UInt8.ofNat_toNat]

theorem begins_two {b : UInt8} (low : 0xC2 ≤ b.toNat) (high : b.toNat < 0xE0) :
    Begins [b] (.within (b.toNat - 0xC0) 1 0x80 0xBF) := by
  refine ⟨by omega, by decide, by decide, fun n hbits _ _ => ?_⟩
  have hbits : n / 64 = b.toNat - 0xC0 := hbits
  refine ⟨.inl (by omega), ?_⟩
  rw [encode_two (by omega) (by omega), ofNat_eq_of_eq (show 0xC0 + n / 64 = b.toNat by omega)]
  rfl

theorem begins_three {b low high : UInt8} (first : 0xE0 ≤ b.toNat) (last : b.toNat < 0xF0)
    (hlow : 0x80 ≤ low.toNat) (hhigh : high.toNat ≤ 0xBF) (overlong : b.toNat = 0xE0 → 0xA0 ≤ low.toNat)
    (surrogate : b.toNat = 0xED → high.toNat ≤ 0x9F) :
    Begins [b] (.within (b.toNat - 0xE0) 2 low high) := by
  refine ⟨by omega, hlow, hhigh, fun n hbits hnext hnext' => ?_⟩
  have hbits : n / 4096 = b.toNat - 0xE0 := hbits
  have hnext : low.toNat ≤ 0x80 + n / 64 % 64 := hnext
  have hnext' : 0x80 + n / 64 % 64 ≤ high.toNat := hnext'
  have hvalid : n.isValidChar := by
    unfold Nat.isValidChar
    omega
  refine ⟨hvalid, ?_⟩
  rw [encode_three hvalid (by omega) (by omega), ofNat_eq_of_eq (show 0xE0 + n / 4096 = b.toNat by omega)]
  rfl

theorem begins_four {b low high : UInt8} (first : 0xF0 ≤ b.toNat) (last : b.toNat < 0xF5)
    (hlow : 0x80 ≤ low.toNat) (hhigh : high.toNat ≤ 0xBF) (overlong : b.toNat = 0xF0 → 0x90 ≤ low.toNat)
    (tooLarge : b.toNat = 0xF4 → high.toNat ≤ 0x8F) :
    Begins [b] (.within (b.toNat - 0xF0) 3 low high) := by
  refine ⟨by omega, hlow, hhigh, fun n hbits hnext hnext' => ?_⟩
  have hbits : n / 262144 = b.toNat - 0xF0 := hbits
  have hnext : low.toNat ≤ 0x80 + n / 4096 % 64 := hnext
  have hnext' : 0x80 + n / 4096 % 64 ≤ high.toNat := hnext'
  have hvalid : n.isValidChar := by
    unfold Nat.isValidChar
    omega
  refine ⟨hvalid, ?_⟩
  rw [encode_four hvalid (by omega), ofNat_eq_of_eq (show 0xF0 + n / 262144 = b.toNat by omega)]
  rfl

/-! ## The units and the bytes they stand for -/

/-- A unit with a character stands for the bytes that encode it. -/
def StandsFor (unit : Option Char) (part : Bytes) : Prop :=
  ∀ c, unit = some c → part = String.utf8EncodeChar c

/-- What a decoder has read: a part for each unit, then the beginning of a character. -/
def Covers (bs : Bytes) (d : Decoder) : Prop :=
  ∃ parts under, bs = parts.flatten ++ under ∧ List.Forall₂ StandsFor d.units.reverse parts ∧
    Begins under d.pending

theorem standsFor_none (part : Bytes) : StandsFor none part := by
  intro c h
  cases h

theorem standsFor_encode (c : Char) : StandsFor (some c) (String.utf8EncodeChar c) := by
  intro d h
  cases h
  rfl

theorem forall₂_concat {unit : Option Char} {units : List (Option Char)} {part : Bytes} {parts : List Bytes}
    (before : List.Forall₂ StandsFor units.reverse parts) (last : StandsFor unit part) :
    List.Forall₂ StandsFor (unit :: units).reverse (parts ++ [part]) := by
  rw [List.reverse_cons]
  exact List.rel_append before (.cons last .nil)

/-- A unit that ends here takes what was begun. -/
theorem covers_fresh {units : List (Option Char)} {unit : Option Char} {parts : List Bytes} {part : Bytes}
    (before : List.Forall₂ StandsFor units.reverse parts) (last : StandsFor unit part) :
    Covers (parts.flatten ++ part) ⟨.fresh, unit :: units⟩ :=
  ⟨parts ++ [part], [], by simp, forall₂_concat before last, rfl⟩

theorem covers_lead {units : List (Option Char)} {parts : List Bytes} (b : UInt8)
    (before : List.Forall₂ StandsFor units.reverse parts) :
    Covers (parts.flatten ++ [b]) (Decoder.lead units b) := by
  have hbegins : ∀ {pending}, Begins [b] pending → Covers (parts.flatten ++ [b]) ⟨pending, units⟩ :=
    fun h => ⟨parts, [b], rfl, before, h⟩
  unfold Decoder.lead
  simp only [UInt8.lt_iff_toNat_lt, ← UInt8.toNat_inj, UInt8.reduceToNat]
  split
  · rename_i hascii
    refine covers_fresh before ?_
    rw [← UInt8.ofNat_toNat (x := b), ← encode_one hascii, UInt8.ofNat_toNat]
    exact standsFor_encode _
  split
  · exact covers_fresh before (standsFor_none _)
  split
  · exact hbegins (begins_two (by omega) (by omega))
  split
  · rename_i heq
    -- the second byte keeps out shorter encodings
    have hbegun : Begins [b] (.within (b.toNat - 0xE0) 2 0xA0 0xBF) :=
      begins_three (by omega) (by omega) (by decide) (by decide) (fun _ => by decide) (by omega)
    rw [heq] at hbegun
    exact hbegins hbegun
  split
  · rename_i heq
    -- the second byte keeps out surrogates
    have hbegun : Begins [b] (.within (b.toNat - 0xE0) 2 0x80 0x9F) :=
      begins_three (by omega) (by omega) (by decide) (by decide) (by omega) (fun _ => by decide)
    rw [heq] at hbegun
    exact hbegins hbegun
  split
  · exact hbegins (begins_three (by omega) (by omega) (by decide) (by decide) (by omega) (by omega))
  split
  · rename_i heq
    -- the second byte keeps out shorter encodings
    have hbegun : Begins [b] (.within (b.toNat - 0xF0) 3 0x90 0xBF) :=
      begins_four (by omega) (by omega) (by decide) (by decide) (fun _ => by decide) (by omega)
    rw [heq] at hbegun
    exact hbegins hbegun
  split
  · exact hbegins (begins_four (by omega) (by omega) (by decide) (by decide) (by omega) (by omega))
  split
  · rename_i heq
    -- the second byte keeps out what is above U+10FFFF
    have hbegun : Begins [b] (.within (b.toNat - 0xF0) 3 0x80 0x8F) :=
      begins_four (by omega) (by omega) (by decide) (by decide) (by omega) (fun _ => by decide)
    rw [heq] at hbegun
    exact hbegins hbegun
  · exact covers_fresh before (standsFor_none _)

theorem ofNat_add_sub {b : UInt8} (h : 0x80 ≤ b.toNat) : UInt8.ofNat (0x80 + (b.toNat - 0x80)) = b :=
  ofNat_eq_of_eq (by omega)

theorem covers_within {units : List (Option Char)} {parts : List Bytes} {under : Bytes} {bits due : Nat}
    {low high b : UInt8} (before : List.Forall₂ StandsFor units.reverse parts)
    (begun : Begins under (.within bits due low high)) (hlow : low ≤ b) (hhigh : b ≤ high) :
    Covers (parts.flatten ++ (under ++ [b]))
      (if due ≤ 1 then ⟨.fresh, some (Char.ofNat (bits * 64 + (b.toNat - 0x80))) :: units⟩
        else ⟨.within (bits * 64 + (b.toNat - 0x80)) (due - 1) 0x80 0xBF, units⟩) := by
  obtain ⟨hdue, hlowBound, hhighBound, hencode⟩ := begun
  rw [UInt8.le_iff_toNat_le] at hlow hhigh
  have hbyte := ofNat_add_sub (b := b) (by omega)
  split
  · -- the last byte of the character
    obtain rfl : due = 1 := by omega
    have hbits : (bits * 64 + (b.toNat - 0x80)) / Nat.pow 64 1 = bits := by
      change (bits * 64 + (b.toNat - 0x80)) / 64 = bits
      omega
    have hnext : (bits * 64 + (b.toNat - 0x80)) / Nat.pow 64 (1 - 1) % 64 = b.toNat - 0x80 := by
      change (bits * 64 + (b.toNat - 0x80)) / 1 % 64 = b.toNat - 0x80
      omega
    obtain ⟨-, hread⟩ := hencode _ hbits (by rw [hnext]; omega) (by rw [hnext]; omega)
    have hlast : lastBytes (bits * 64 + (b.toNat - 0x80)) 1 = [b] := by
      simp only [lastBytes, hnext, hbyte]
    rw [← hlast, ← hread]
    exact covers_fresh before (standsFor_encode _)
  · -- at least one more byte is due
    obtain ⟨more, rfl⟩ : ∃ more, due = more + 2 := ⟨due - 2, by omega⟩
    refine ⟨parts, under ++ [b], rfl, before, by omega, by decide, by decide, fun n hn _ _ => ?_⟩
    have hn : n / Nat.pow 64 (more + 1) = bits * 64 + (b.toNat - 0x80) := hn
    have hbits : n / Nat.pow 64 (more + 2) = bits := by
      change n / 64 ^ (more + 1 + 1) = bits
      rw [Nat.pow_succ, ← Nat.div_div_eq_div_mul]
      change n / Nat.pow 64 (more + 1) / 64 = bits
      omega
    have hnext : n / Nat.pow 64 (more + 2 - 1) % 64 = b.toNat - 0x80 := by
      change n / Nat.pow 64 (more + 1) % 64 = b.toNat - 0x80
      omega
    obtain ⟨hvalid, hread⟩ := hencode n hbits (by rw [hnext]; omega) (by rw [hnext]; omega)
    have hlast : lastBytes n (more + 2) = b :: lastBytes n (more + 1) := by
      change UInt8.ofNat (0x80 + n / Nat.pow 64 (more + 2 - 1) % 64) :: lastBytes n (more + 1) = _
      rw [hnext, hbyte]
    refine ⟨hvalid, ?_⟩
    rw [hread, hlast, List.append_assoc]
    rfl

theorem Covers.step {bs : Bytes} {d : Decoder} (covers : Covers bs d) (b : UInt8) :
    Covers (bs ++ [b]) (d.step b) := by
  obtain ⟨parts, under, rfl, before, begun⟩ := covers
  obtain ⟨pending, units⟩ := d
  rw [List.append_assoc]
  cases pending with
  | fresh =>
    cases begun
    exact covers_lead b before
  | within bits due low high =>
    simp only [Decoder.step]
    split
    · rename_i hbounds
      exact covers_within before begun hbounds.1 hbounds.2
    · -- what was begun is given up, and the byte begins anew
      have := covers_lead b (forall₂_concat before (standsFor_none under))
      simpa using this

theorem covers_foldl {bs read : Bytes} {d : Decoder} (covers : Covers read d) :
    Covers (read ++ bs) (bs.foldl Decoder.step d) := by
  induction bs generalizing read d with
  | nil => simpa using covers
  | cons b bs ih =>
    have hcovers := ih (covers.step b)
    simpa using hcovers

theorem exists_parts (bs : Bytes) :
    ∃ parts : List Bytes, parts.flatten = bs ∧ List.Forall₂ StandsFor (units bs) parts := by
  have hstart : Covers [] ⟨.fresh, []⟩ := ⟨[], [], rfl, .nil, rfl⟩
  have hcovers : Covers ([] ++ bs) (bs.foldl Decoder.step ⟨.fresh, []⟩) := covers_foldl hstart
  obtain ⟨parts, under, hbs, before, begun⟩ := hcovers
  rw [List.nil_append] at hbs
  unfold units Decoder.finish
  split
  · rename_i hpending
    rw [hpending] at begun
    cases begun
    exact ⟨parts, by simp [hbs], before⟩
  · exact ⟨parts ++ [under], by simp [hbs], forall₂_concat before (standsFor_none under)⟩

/-! ## Texts and their bytes -/

theorem flatten_of_forall₂ {us : List (Option Char)} {parts : List Bytes}
    (stands : List.Forall₂ StandsFor us parts) (whole : us.all Option.isSome = true) :
    parts.flatten = encodeChars (us.filterMap id) := by
  induction stands with
  | nil => rfl
  | @cons unit part us parts hunit _ ih =>
    simp only [List.all_cons, Bool.and_eq_true] at whole
    obtain ⟨c, rfl⟩ := Option.isSome_iff_exists.1 whole.1
    rw [List.flatten_cons, hunit c rfl, ih whole.2]
    rfl

theorem whole_of_chars? {bs : Bytes} {cs : List Char} (h : chars? bs = some cs) :
    (units bs).all Option.isSome = true ∧ (units bs).filterMap id = cs := by
  simp only [chars?] at h
  split at h
  · rename_i whole
    exact ⟨whole, Option.some.inj h⟩
  · cases h

theorem encodeChars_of_chars? {bs : Bytes} {cs : List Char} (h : chars? bs = some cs) :
    encodeChars cs = bs := by
  obtain ⟨whole, rfl⟩ := whole_of_chars? h
  obtain ⟨parts, hparts, stands⟩ := exists_parts bs
  rw [← flatten_of_forall₂ stands whole, hparts]

theorem encode_of_decode? {bs : Bytes} {s : String} (h : decode? bs = some s) : encode s = bs := by
  obtain ⟨cs, hcs, rfl⟩ := Option.map_eq_some_iff.1 h
  rw [encode, String.toList_ofList]
  exact encodeChars_of_chars? hcs

theorem decodeLossy_of_decode? {bs : Bytes} {s : String} (h : decode? bs = some s) :
    decodeLossy bs = s := by
  obtain ⟨cs, hcs, rfl⟩ := Option.map_eq_some_iff.1 h
  obtain ⟨whole, rfl⟩ := whole_of_chars? hcs
  have hsame : ∀ us : List (Option Char), us.all Option.isSome = true →
      us.map (·.getD replacement) = us.filterMap id := by
    intro us whole
    induction us with
    | nil => rfl
    | cons u us ih =>
      simp only [List.all_cons, Bool.and_eq_true] at whole
      obtain ⟨c, rfl⟩ := Option.isSome_iff_exists.1 whole.1
      simp [ih whole.2]
  rw [decodeLossy, lossyChars, hsame _ whole]

theorem mem_flatten_of_mem {us : List (Option Char)} {parts : List Bytes} {c : Char}
    (stands : List.Forall₂ StandsFor us parts) (h : some c ∈ us) :
    ∀ b ∈ String.utf8EncodeChar c, b ∈ parts.flatten := by
  induction stands with
  | nil => cases h
  | cons hunit _ ih =>
    intro b hb
    rw [List.flatten_cons]
    rcases List.mem_cons.1 h with rfl | h
    · exact List.mem_append_left _ (hunit c rfl ▸ hb)
    · exact List.mem_append_right _ (ih h b hb)

/-- An ASCII character comes from its byte only. -/
theorem mem_of_mem_lossyChars {bs : Bytes} {c : Char} (h : c ∈ lossyChars bs) (ascii : c.toNat < 0x80) :
    UInt8.ofNat c.toNat ∈ bs := by
  obtain ⟨parts, rfl, stands⟩ := exists_parts bs
  obtain ⟨unit, hunit, hc⟩ := List.mem_map.1 h
  cases unit with
  | none =>
    cases hc
    exact absurd ascii (by decide)
  | some d =>
    cases hc
    refine mem_flatten_of_mem stands hunit _ ?_
    have hencode := encode_one (n := d.toNat) ascii
    rw [Char.ofNat_toNat] at hencode
    simp [hencode]

/-! ## Characters of ASCII among the bytes -/

/-- A byte of ASCII stands only in the encoding of its character. -/
theorem toNat_eq_of_mem_encode {c : Char} {b : UInt8} (h : b ∈ String.utf8EncodeChar c) (low : b.toNat < 0x80) :
    c.toNat = b.toNat := by
  have hval : c.val.toNat = c.toNat := rfl
  unfold String.utf8EncodeChar at h
  rw [hval] at h
  simp only at h
  split at h
  · simp only [List.mem_singleton] at h
    subst h
    simp only [UInt8.toNat_ofNat'] at *
    omega
  split at h
  · simp only [List.mem_cons, List.not_mem_nil, or_false] at h
    rcases h with rfl | rfl <;> simp only [UInt8.toNat_ofNat'] at * <;> omega
  split at h
  · simp only [List.mem_cons, List.not_mem_nil, or_false] at h
    rcases h with rfl | rfl | rfl <;> simp only [UInt8.toNat_ofNat'] at * <;> omega
  · simp only [List.mem_cons, List.not_mem_nil, or_false] at h
    rcases h with rfl | rfl | rfl | rfl <;> simp only [UInt8.toNat_ofNat'] at * <;> omega

theorem mem_encodeChar_iff {c a : Char} (ascii : a.toNat < 0x80) :
    UInt8.ofNat a.toNat ∈ String.utf8EncodeChar c ↔ c = a := by
  constructor
  · intro h
    have := toNat_eq_of_mem_encode h (by simp only [UInt8.toNat_ofNat']; omega)
    simp only [UInt8.toNat_ofNat'] at this
    exact Char.toNat_inj.1 (this.trans (Nat.mod_eq_of_lt (by omega)))
  · rintro rfl
    have hencode := encode_one ascii
    rw [Char.ofNat_toNat] at hencode
    simp [hencode]

@[simp] theorem encodeChars_nil : encodeChars [] = [] := rfl

theorem encodeChars_cons (c : Char) (cs : List Char) :
    encodeChars (c :: cs) = String.utf8EncodeChar c ++ encodeChars cs := rfl

theorem encode_inj {a b : String} : encode a = encode b ↔ a = b := by
  refine ⟨fun h => ?_, congrArg _⟩
  rw [← String.toByteArray_inj, ← String.utf8Encode_toList, ← String.utf8Encode_toList]
  exact congrArg List.toByteArray h

theorem encodeChars_eq_nil {cs : List Char} : encodeChars cs = [] ↔ cs = [] := by
  cases cs with
  | nil => simp
  | cons c cs => simp [encodeChars_cons]

theorem encodeChars_eq_singleton {cs : List Char} {a : Char} (ascii : a.toNat < 0x80) :
    encodeChars cs = [UInt8.ofNat a.toNat] ↔ cs = [a] := by
  have hone : String.utf8EncodeChar a = [UInt8.ofNat a.toNat] := by
    have := encode_one ascii
    rwa [Char.ofNat_toNat] at this
  constructor
  · intro h
    cases cs with
    | nil => cases h
    | cons c cs =>
      have hc : c = a := by
        obtain ⟨b, bs, hb⟩ := List.exists_cons_of_ne_nil (String.utf8EncodeChar_ne_nil (c := c))
        rw [encodeChars_cons, hb, List.cons_append] at h
        obtain ⟨rfl, -⟩ := List.cons.inj h
        exact (mem_encodeChar_iff ascii).1 (by simp [hb])
      subst hc
      rw [encodeChars_cons, hone] at h
      rw [encodeChars_eq_nil.1 (List.cons.inj h).2]
  · rintro rfl
    simp [encodeChars, hone]

end CodeSearch.Utf8
