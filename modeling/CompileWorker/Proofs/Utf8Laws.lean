import CompileWorker.Text.Utf8
import CompileWorker.Proofs.JsonLines

namespace CompileWorker.Utf8

theorem pair_eq (a b : UInt8) : pair a b = Char.ofNat (a.toNat % 32 * 64 + b.toNat % 64) := rfl

theorem triple_eq (a b c : UInt8) :
    triple a b c = Char.ofNat (a.toNat % 16 * 4096 + b.toNat % 64 * 64 + c.toNat % 64) := rfl

theorem quadruple_eq (a b c d : UInt8) :
    quadruple a b c d =
      Char.ofNat (a.toNat % 8 * 262144 + b.toNat % 64 * 4096 + c.toNat % 64 * 64 + d.toNat % 64) :=
        rfl

theorem width_ofNat {n : Nat} (h : n < 256) :
    width (UInt8.ofNat n) =
      if n < 0x80 then 1 else if n < 0xC2 then 0 else if n < 0xE0 then 2 else if n < 0xF0 then 3
      else if n < 0xF5 then 4 else 0 := by
  simp only [width, UInt8.lt_iff_toNat_lt, UInt8.toNat_ofNat_of_lt' h]
  rfl

theorem continues_ofNat {n : Nat} (hleast : 0x80 ≤ n) (hgreatest : n < 0xC0) :
    continues (UInt8.ofNat n) := by
  have h : n < 256 := by omega
  simp only [continues, UInt8.le_iff_toNat_le, UInt8.lt_iff_toNat_lt, UInt8.toNat_ofNat_of_lt' h,
    Bool.and_eq_true, decide_eq_true_eq]
  exact ⟨hleast, hgreatest⟩

theorem mayFollow_ofNat {lead n : Nat} (hlead : lead < 256) (hleast : 0x80 ≤ n)
    (hgreatest : n < 0xC0) (hE0 : lead = 0xE0 → 0xA0 ≤ n) (hED : lead = 0xED → n < 0xA0)
    (hF0 : lead = 0xF0 → 0x90 ≤ n) (hF4 : lead = 0xF4 → n < 0x90) :
    mayFollow (UInt8.ofNat lead) (UInt8.ofNat n) := by
  have h : n < 256 := by omega
  have hcontinues := continues_ofNat hleast hgreatest
  simp only [mayFollow, hcontinues, Bool.true_and, ← UInt8.toNat_inj, UInt8.le_iff_toNat_le,
    UInt8.lt_iff_toNat_lt, UInt8.toNat_ofNat_of_lt' h, UInt8.toNat_ofNat_of_lt' hlead]
  split
  · simpa using hE0 ‹_›
  · split
    · simpa using hED ‹_›
    · split
      · simpa using hF0 ‹_›
      · split
        · simpa using hF4 ‹_›
        · rfl

section Step

variable {offset : Nat} {acc : List Char} {a b c d : UInt8} {rest : List UInt8}

theorem decodeFrom_single (ha : width a = 1) :
    decodeFrom offset acc (a :: rest) = decodeFrom (offset + 1)
      (Char.ofNat a.toNat :: acc) rest := by
  rw [decodeFrom.eq_def]
  simp only [ha]

theorem decodeFrom_pair (ha : width a = 2) (hb : mayFollow a b) :
    decodeFrom offset acc (a :: b :: rest) = decodeFrom (offset + 2) (pair a b :: acc) rest := by
  rw [decodeFrom.eq_def]
  simp only [ha, hb, if_true]

theorem decodeFrom_triple (ha : width a = 3) (hb : mayFollow a b) (hc : continues c) :
    decodeFrom offset acc (a :: b :: c :: rest) = decodeFrom (offset + 3)
      (triple a b c :: acc) rest := by
  rw [decodeFrom.eq_def]
  simp only [ha, hb, hc, Bool.not_true, Bool.false_eq_true, if_false]

theorem decodeFrom_quadruple (ha : width a = 4) (hb : mayFollow a b) (hc : continues c)
    (hd : continues d) :
    decodeFrom offset acc (a :: b :: c :: d :: rest) = decodeFrom (offset + 4)
      (quadruple a b c d :: acc) rest := by
  rw [decodeFrom.eq_def]
  simp only [ha, hb, hc, hd, Bool.not_true, Bool.false_eq_true, if_false]

end Step

theorem decodeFrom_encodeChar (offset : Nat) (acc : List Char) (c : Char) (rest : List UInt8) :
    decodeFrom offset acc (String.utf8EncodeChar c ++ rest) =
      decodeFrom (offset + (String.utf8EncodeChar c).length) (c :: acc) rest := by
  have hvalid : c.val.toNat < 0xD800 ∨ 0xDFFF < c.val.toNat ∧ c.val.toNat < 0x110000 := c.valid
  have hc : Char.ofNat c.val.toNat = c := c.ofNat_toNat
  rw [String.utf8EncodeChar]
  generalize c.val.toNat = v at hvalid hc ⊢
  -- by the number of bytes, as the encoder splits
  by_cases hone : v ≤ 0x7F
  · have hv : (UInt8.ofNat v).toNat = v := UInt8.toNat_ofNat_of_lt' (show v < 256 by omega)
    rw [if_pos hone, List.singleton_append, decodeFrom_single, hv, hc, List.length_singleton]
    rw [width_ofNat (by omega), if_pos (by omega)]
  by_cases htwo : v ≤ 0x7FF
  · rw [if_neg hone, if_pos htwo]
    have hlead : v / 64 % 32 + 192 < 256 := by omega
    have hlow : v % 64 + 128 < 256 := by omega
    have hpair : pair (UInt8.ofNat (v / 64 % 32 + 192)) (UInt8.ofNat (v % 64 + 128)) = c := by
      rw [pair_eq, UInt8.toNat_ofNat_of_lt' hlead, UInt8.toNat_ofNat_of_lt' hlow, ← hc]
      congr 1
      omega
    rw [List.cons_append, List.cons_append, List.nil_append, decodeFrom_pair, hpair]
    · rfl
    · rw [width_ofNat hlead, if_neg (by omega), if_neg (by omega), if_pos (by omega)]
    · apply mayFollow_ofNat hlead <;> omega
  by_cases hthree : v ≤ 0xFFFF
  · rw [if_neg hone, if_neg htwo, if_pos hthree]
    have hlead : v / 4096 % 16 + 224 < 256 := by omega
    have hmiddle : v / 64 % 64 + 128 < 256 := by omega
    have hlow : v % 64 + 128 < 256 := by omega
    have htriple : triple (UInt8.ofNat (v / 4096 % 16 + 224)) (UInt8.ofNat (v / 64 % 64 + 128))
        (UInt8.ofNat (v % 64 + 128)) = c := by
      rw [triple_eq, UInt8.toNat_ofNat_of_lt' hlead, UInt8.toNat_ofNat_of_lt' hmiddle,
        UInt8.toNat_ofNat_of_lt' hlow, ← hc]
      congr 1
      omega
    rw [List.cons_append, List.cons_append, List.cons_append, List.nil_append, decodeFrom_triple,
      htriple]
    · rfl
    · rw [width_ofNat hlead, if_neg (by omega), if_neg (by omega), if_neg (by omega),
        if_pos (by omega)]
    · apply mayFollow_ofNat hlead <;> omega
    · apply continues_ofNat <;> omega
  · rw [if_neg hone, if_neg htwo, if_neg hthree]
    have hlead : v / 262144 % 8 + 240 < 256 := by omega
    have hsecond : v / 4096 % 64 + 128 < 256 := by omega
    have hthird : v / 64 % 64 + 128 < 256 := by omega
    have hlow : v % 64 + 128 < 256 := by omega
    have hquadruple : quadruple (UInt8.ofNat (v / 262144 % 8 + 240))
      (UInt8.ofNat (v / 4096 % 64 + 128))
        (UInt8.ofNat (v / 64 % 64 + 128)) (UInt8.ofNat (v % 64 + 128)) = c := by
      rw [quadruple_eq, UInt8.toNat_ofNat_of_lt' hlead, UInt8.toNat_ofNat_of_lt' hsecond,
        UInt8.toNat_ofNat_of_lt' hthird, UInt8.toNat_ofNat_of_lt' hlow, ← hc]
      congr 1
      omega
    rw [List.cons_append, List.cons_append, List.cons_append, List.cons_append, List.nil_append,
      decodeFrom_quadruple, hquadruple]
    · rfl
    · rw [width_ofNat hlead, if_neg (by omega), if_neg (by omega), if_neg (by omega),
        if_neg (by omega), if_pos (by omega)]
    · apply mayFollow_ofNat hlead <;> omega
    · apply continues_ofNat <;> omega
    · apply continues_ofNat <;> omega

theorem decodeFrom_flatMap (offset : Nat) (acc cs : List Char) :
    decodeFrom offset acc (cs.flatMap String.utf8EncodeChar) = .ok (acc.reverse ++ cs) := by
  induction cs generalizing offset acc with
  | nil =>
    rw [List.flatMap_nil, List.append_nil]
    rfl
  | cons c cs ih =>
    rw [List.flatMap_cons, decodeFrom_encodeChar, ih, List.reverse_cons, List.append_assoc,
      List.singleton_append]

theorem decode_encode (s : String) : decode (encode s) = .ok s := by
  rw [decode, encode, decodeFrom_flatMap]
  exact congrArg Except.ok String.ofList_toList

theorem toNat_of_mem_encodeChar {c : Char} {b : UInt8} (hmem : b ∈ String.utf8EncodeChar c)
    (hb : b < 0x80) : b.toNat = c.toNat := by
  have hb' : b.toNat < 0x80 := UInt8.lt_iff_toNat_lt.mp hb
  rw [String.utf8EncodeChar] at hmem
  change b.toNat = c.val.toNat
  generalize c.val.toNat = v at hmem ⊢
  split at hmem
  · rw [List.mem_singleton.mp hmem, UInt8.toNat_ofNat_of_lt' (show v < 256 by omega)]
  · -- every byte of a longer character has its high bit set
    have hhigh : ∀ n, 0x80 ≤ n → n < 256 → b ≠ UInt8.ofNat n := by
      rintro n hleast hgreatest rfl
      rw [UInt8.toNat_ofNat_of_lt' hgreatest] at hb'
      omega
    split at hmem
    · simp only [List.mem_cons, List.not_mem_nil, or_false] at hmem
      rcases hmem with h | h <;> exact absurd h (hhigh _ (by omega) (by omega))
    · split at hmem <;> simp only [List.mem_cons, List.not_mem_nil, or_false] at hmem
      · rcases hmem with h | h | h <;> exact absurd h (hhigh _ (by omega) (by omega))
      · rcases hmem with h | h | h | h <;> exact absurd h (hhigh _ (by omega) (by omega))

theorem not_mem_encode {s : String} (h : OneLine s) : 0x0A ∉ encode s := by
  intro hmem
  obtain ⟨c, hc, hfeed⟩ := List.mem_flatMap.mp hmem
  have heq : c.toNat = '\n'.toNat := (toNat_of_mem_encodeChar hfeed (by decide)).symm
  rw [Char.toNat_inj.mp heq] at hc
  exact h hc

@[simp]
theorem encode_append (s t : String) : encode (s ++ t) = encode s ++ encode t := by
  rw [encode, String.toList_append, List.flatMap_append]
  rfl

theorem encode_join (parts : List String) : encode (String.join parts) = parts.flatMap encode := by
  rw [encode, String.toList_join, List.flatMap_assoc]
  rfl

end CompileWorker.Utf8
