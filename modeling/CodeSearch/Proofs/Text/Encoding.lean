import CodeSearch.Proofs.Text.Utf8

/-!
# Reading encoded text

The bytes of a text are read as the text: each character comes back from its own bytes, whatever was read
before.
-/

namespace CodeSearch.Utf8

/-- The next byte of a character under way takes its bits, if it keeps the bounds. -/
theorem step_within {bits due : Nat} {low high : UInt8} {units : List (Option Char)} {n : Nat} (small : n < 64)
    (above : low.toNat ≤ 0x80 + n) (below : 0x80 + n ≤ high.toNat) :
    Decoder.step ⟨.within bits due low high, units⟩ (UInt8.ofNat (0x80 + n)) =
      if due ≤ 1 then ⟨.fresh, some (Char.ofNat (bits * 64 + n)) :: units⟩
      else ⟨.within (bits * 64 + n) (due - 1) 0x80 0xBF, units⟩ := by
  have hbyte : (UInt8.ofNat (0x80 + n)).toNat = 0x80 + n := by
    rw [UInt8.toNat_ofNat', Nat.mod_eq_of_lt (by omega)]
  have hbounds : low ≤ UInt8.ofNat (0x80 + n) ∧ UInt8.ofNat (0x80 + n) ≤ high := by
    rw [UInt8.le_iff_toNat_le, UInt8.le_iff_toNat_le, hbyte]
    exact ⟨above, below⟩
  simp only [Decoder.step, if_pos hbounds, hbyte, Nat.add_sub_cancel_left]

/-! ## The first bytes of a character -/

/-- The first byte holds the first bits of the number. -/
theorem lead_two {n : Nat} (low : 0x80 ≤ n) (high : n < 0x800) (units : List (Option Char)) :
    Decoder.lead units (UInt8.ofNat (0xC0 + n / 64)) = ⟨.within (n / 64) 1 0x80 0xBF, units⟩ := by
  have hbyte : (UInt8.ofNat (0xC0 + n / 64)).toNat = 0xC0 + n / 64 := by
    rw [UInt8.toNat_ofNat', Nat.mod_eq_of_lt (by omega)]
  unfold Decoder.lead
  simp only [UInt8.lt_iff_toNat_lt, ← UInt8.toNat_inj, UInt8.reduceToNat, hbyte]
  rw [if_neg (by omega), if_neg (by omega), if_pos (by omega), Nat.add_sub_cancel_left]

/-- The first byte holds the first bits of the number, and the second byte keeps its bounds. -/
theorem lead_three {n : Nat} (valid : n.isValidChar) (low : 0x800 ≤ n) (high : n < 0x10000)
    (units : List (Option Char)) :
    ∃ least most : UInt8, Decoder.lead units (UInt8.ofNat (0xE0 + n / 4096)) =
        ⟨.within (n / 4096) 2 least most, units⟩ ∧
      least.toNat ≤ 0x80 + n / 64 % 64 ∧ 0x80 + n / 64 % 64 ≤ most.toNat := by
  have hbyte : (UInt8.ofNat (0xE0 + n / 4096)).toNat = 0xE0 + n / 4096 := by
    rw [UInt8.toNat_ofNat', Nat.mod_eq_of_lt (by omega)]
  unfold Nat.isValidChar at valid
  unfold Decoder.lead
  simp only [UInt8.lt_iff_toNat_lt, ← UInt8.toNat_inj, UInt8.reduceToNat, hbyte]
  rw [if_neg (by omega), if_neg (by omega), if_neg (by omega)]
  split
  · rename_i hfirst
    have hzero : n / 4096 = 0 := by omega
    refine ⟨0xA0, 0xBF, by rw [hzero], ?_, ?_⟩ <;> simp only [UInt8.reduceToNat] <;> omega
  split
  · rename_i hsurrogate
    have hbits : n / 4096 = 0xD := by omega
    refine ⟨0x80, 0x9F, by rw [hbits], ?_, ?_⟩ <;> simp only [UInt8.reduceToNat] <;> omega
  rw [if_pos (by omega), Nat.add_sub_cancel_left]
  refine ⟨0x80, 0xBF, rfl, ?_, ?_⟩ <;> simp only [UInt8.reduceToNat] <;> omega

theorem lead_four {n : Nat} (valid : n.isValidChar) (low : 0x10000 ≤ n) (units : List (Option Char)) :
    ∃ least most : UInt8, Decoder.lead units (UInt8.ofNat (0xF0 + n / 262144)) =
        ⟨.within (n / 262144) 3 least most, units⟩ ∧
      least.toNat ≤ 0x80 + n / 4096 % 64 ∧ 0x80 + n / 4096 % 64 ≤ most.toNat := by
  unfold Nat.isValidChar at valid
  have hbyte : (UInt8.ofNat (0xF0 + n / 262144)).toNat = 0xF0 + n / 262144 := by
    rw [UInt8.toNat_ofNat', Nat.mod_eq_of_lt (by omega)]
  unfold Decoder.lead
  simp only [UInt8.lt_iff_toNat_lt, ← UInt8.toNat_inj, UInt8.reduceToNat, hbyte]
  rw [if_neg (by omega), if_neg (by omega), if_neg (by omega), if_neg (by omega), if_neg (by omega),
    if_neg (by omega)]
  split
  · rename_i hfirst
    have hzero : n / 262144 = 0 := by omega
    refine ⟨0x90, 0xBF, by rw [hzero], ?_, ?_⟩ <;> simp only [UInt8.reduceToNat] <;> omega
  split
  · rw [Nat.add_sub_cancel_left]
    refine ⟨0x80, 0xBF, rfl, ?_, ?_⟩ <;> simp only [UInt8.reduceToNat] <;> omega
  have hlast : n / 262144 = 4 := by omega
  rw [if_pos (by omega)]
  refine ⟨0x80, 0x8F, by rw [hlast], ?_, ?_⟩ <;> simp only [UInt8.reduceToNat] <;> omega

theorem div_pow_succ (n k : Nat) : n / Nat.pow 64 (k + 1) * 64 + n / Nat.pow 64 k % 64 = n / Nat.pow 64 k := by
  change n / 64 ^ (k + 1) * 64 + n / 64 ^ k % 64 = n / 64 ^ k
  rw [Nat.pow_succ, ← Nat.div_div_eq_div_mul]
  omega

/-- The bytes that are due end the character with number `n`. -/
theorem foldl_step_lastBytes {n due : Nat} {low high : UInt8} (units : List (Option Char))
    (above : low.toNat ≤ 0x80 + n / Nat.pow 64 due % 64) (below : 0x80 + n / Nat.pow 64 due % 64 ≤ high.toNat) :
    (lastBytes n (due + 1)).foldl Decoder.step ⟨.within (n / Nat.pow 64 (due + 1)) (due + 1) low high, units⟩ =
      ⟨.fresh, some (Char.ofNat n) :: units⟩ := by
  induction due generalizing low high with
  | zero =>
    rw [lastBytes, List.foldl_cons, step_within (by omega) above below, if_pos (by decide), div_pow_succ]
    rw [show n / Nat.pow 64 0 = n from Nat.div_one n]
    rfl
  | succ due ih =>
    rw [lastBytes, List.foldl_cons, step_within (by omega) above below, if_neg (by omega), div_pow_succ]
    refine ih ?_ ?_ <;> simp only [UInt8.reduceToNat] <;> omega

theorem foldl_step_encodeChar (c : Char) (units : List (Option Char)) :
    (String.utf8EncodeChar c).foldl Decoder.step ⟨.fresh, units⟩ = ⟨.fresh, some c :: units⟩ := by
  obtain ⟨n, hvalid, rfl⟩ : ∃ n, Nat.isValidChar n ∧ c = Char.ofNat n :=
    ⟨c.toNat, c.valid, (Char.ofNat_toNat c).symm⟩
  by_cases hone : n < 0x80
  · have hbyte : (UInt8.ofNat n).toNat = n := by
      rw [UInt8.toNat_ofNat', Nat.mod_eq_of_lt (by omega)]
    rw [encode_one hone, List.foldl_cons, List.foldl_nil]
    unfold Decoder.step Decoder.lead
    simp only [UInt8.lt_iff_toNat_lt, hbyte, UInt8.reduceToNat, if_pos hone]
  by_cases htwo : n < 0x800
  · rw [encode_two (by omega) htwo, List.foldl_cons]
    change List.foldl Decoder.step (Decoder.lead units _) _ = _
    rw [lead_two (by omega) htwo]
    refine foldl_step_lastBytes units ?_ ?_ <;> simp only [UInt8.reduceToNat] <;> omega
  by_cases hthree : n < 0x10000
  · obtain ⟨least, most, hlead, above, below⟩ := lead_three hvalid (by omega) hthree units
    rw [encode_three hvalid (by omega) hthree, List.foldl_cons]
    change List.foldl Decoder.step (Decoder.lead units _) _ = _
    rw [hlead]
    exact foldl_step_lastBytes units above below
  · obtain ⟨least, most, hlead, above, below⟩ := lead_four hvalid (by omega) units
    rw [encode_four hvalid (by omega), List.foldl_cons]
    change List.foldl Decoder.step (Decoder.lead units _) _ = _
    rw [hlead]
    exact foldl_step_lastBytes units above below

theorem encodeChars_append (cs ds : List Char) :
    encodeChars (cs ++ ds) = encodeChars cs ++ encodeChars ds := List.flatMap_append

theorem encodeChar_ascii {c : Char} (ascii : c.toNat < 0x80) :
    String.utf8EncodeChar c = [UInt8.ofNat c.toNat] := by
  have hone := encode_one ascii
  rwa [Char.ofNat_toNat] at hone

theorem units_encodeChars (cs : List Char) : units (encodeChars cs) = cs.map some := by
  have hread : ∀ before : List (Option Char), (encodeChars cs).foldl Decoder.step ⟨.fresh, before⟩ =
      ⟨.fresh, (cs.map some).reverse ++ before⟩ := by
    induction cs with
    | nil => simp
    | cons c cs ih =>
      intro before
      rw [encodeChars_cons, List.foldl_append, foldl_step_encodeChar, ih]
      simp
  rw [units, hread]
  simp [Decoder.finish]

theorem chars?_encodeChars (cs : List Char) : chars? (encodeChars cs) = some cs := by
  simp [chars?, units_encodeChars]

theorem decode?_encode (s : String) : decode? (encode s) = some s := by
  rw [decode?, encode, chars?_encodeChars, Option.map_some, String.ofList_toList]

end CodeSearch.Utf8
