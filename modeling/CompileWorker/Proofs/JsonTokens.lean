import CompileWorker.Json.Reader
import CompileWorker.Proofs.Utf8Laws
import Mathlib.Data.Nat.Digits.Lemmas

namespace CompileWorker.Json

/-- What may follow a value: nothing that a numeral could go on with. -/
def Ends (rest : List UInt8) : Prop :=
  ∀ b ∈ rest.head?, ¬ isDigit b ∧ b ≠ 0x2E ∧ b ≠ 0x65 ∧ b ≠ 0x45

theorem Ends.nil : Ends [] := by
  rintro b ⟨⟩

theorem Ends.cons {b : UInt8} (h : ¬ isDigit b ∧ b ≠ 0x2E ∧ b ≠ 0x65 ∧ b ≠ 0x45)
    (rest : List UInt8) : Ends (b :: rest) := by
  rintro b' ⟨⟩
  exact h

/-- The reader takes a value off a text, whatever follows. -/
def Reads {α : Type} (r : Reader α) (a : α) (text : List UInt8) : Prop :=
  ∀ rest, Ends rest → r (text ++ rest) = .ok (a, rest)

def digits (n : Nat) : List UInt8 := Utf8.encode (Nat.repr n)

theorem encode_digitChar {n : Nat} (h : n < 10) :
    String.utf8EncodeChar n.digitChar = [UInt8.ofNat (0x30 + n)] := by
  revert n
  decide

theorem digits_of_lt {n : Nat} (h : n < 10) : digits n = [UInt8.ofNat (0x30 + n)] := by
  rw [digits, Utf8.encode, Nat.toList_repr, Nat.toDigits_of_lt_base h, List.flatMap_singleton,
    encode_digitChar h]

theorem digits_of_le {n : Nat} (h : 10 ≤ n) :
    digits n = digits (n / 10) ++ [UInt8.ofNat (0x30 + n % 10)] := by
  rw [digits, Utf8.encode, Nat.toList_repr, Nat.toDigits_eq_if (by decide), if_neg (by omega),
    List.flatMap_append, List.flatMap_singleton, encode_digitChar (by omega), digits, Utf8.encode,
    Nat.toList_repr]

theorem isDigit_ofNat {n : Nat} (h : n < 10) :
    isDigit (UInt8.ofNat (0x30 + n)) ∧ digit (UInt8.ofNat (0x30 + n)) = n := by
  revert n
  decide

theorem eq_ofNat_of_isDigit {b : UInt8} (h : isDigit b) : ∃ n < 10, b = UInt8.ofNat (0x30 + n) := by
  simp only [isDigit, UInt8.le_iff_toNat_le, Bool.and_eq_true, decide_eq_true_eq] at h
  obtain ⟨hleast, hgreatest⟩ : 0x30 ≤ b.toNat ∧ b.toNat ≤ 0x39 := h
  refine ⟨b.toNat - 0x30, by omega, ?_⟩
  rw [Nat.add_sub_cancel' hleast, UInt8.ofNat_toNat]

theorem isDigit_of_mem_digits {n : Nat} {b : UInt8} (h : b ∈ digits n) : isDigit b := by
  induction n using Nat.strong_induction_on with
  | _ n ih =>
    by_cases hn : n < 10
    · rw [digits_of_lt hn, List.mem_singleton] at h
      exact h ▸ (isDigit_ofNat hn).1
    · rw [digits_of_le (by omega), List.mem_append, List.mem_singleton] at h
      rcases h with h | rfl
      · exact ih (n / 10) (by omega) h
      · exact (isDigit_ofNat (by omega)).1

theorem digits_eq_cons (n : Nat) :
    ∃ b rest, digits n = b :: rest ∧ (b = 0x30 → rest = []) ∧ (n ≠ 0 → b ≠ 0x30) := by
  induction n using Nat.strong_induction_on with
  | _ n ih =>
    by_cases hn : n < 10
    · refine ⟨_, [], digits_of_lt hn, fun _ ↦ rfl, ?_⟩
      clear ih
      revert n
      decide
    · obtain ⟨b, rest, hdigits, -, hb⟩ := ih (n / 10) (by omega)
      have hb' : b ≠ 0x30 := hb (by omega)
      rw [digits_of_le (by omega), hdigits, List.cons_append]
      exact ⟨b, _, rfl, fun h ↦ absurd h hb', fun _ ↦ hb'⟩

theorem leading_append {front : List UInt8} {m k : Nat} {d : UInt8} (h : leading front m = (k, 0))
    (hfits : k * 10 + digit d ≤ greatestSignificand) :
    leading (front ++ [d]) m = (k * 10 + digit d, 0) := by
  induction front generalizing m with
  | nil =>
    rw [leading, Prod.mk.injEq] at h
    rw [List.nil_append, leading, h.1, if_pos hfits, leading]
  | cons b front ih =>
    rw [leading] at h
    rw [List.cons_append, leading]
    split at h
    · rw [if_pos ‹_›, ih h]
    · cases (Prod.mk.inj h).2

theorem leading_digits {n : Nat} (h : n ≤ greatestSignificand) : leading (digits n) 0 = (n, 0) := by
  induction n using Nat.strong_induction_on with
  | _ n ih =>
    by_cases hn : n < 10
    · rw [digits_of_lt hn, leading, (isDigit_ofNat hn).2, Nat.zero_mul, Nat.zero_add, if_pos h,
        leading]
    · have hlast : digit (UInt8.ofNat (0x30 + n % 10)) = n % 10 := (isDigit_ofNat (by omega)).2
      have hvalue : n / 10 * 10 + n % 10 = n := by omega
      rw [digits_of_le (by omega), leading_append (ih (n / 10) (by omega) (by omega)), hlast,
        hvalue]
      rw [hlast, hvalue]
      exact h

theorem readDigits_digits {n : Nat} {rest : List UInt8} (hends : Ends rest) (atEnd : Cause) :
    readDigits atEnd (digits n ++ rest) = .ok (digits n, rest) := by
  have hrest : spanDigits rest = ([], rest) := by
    cases rest with
    | nil => rfl
    | cons b rest =>
      have hb := (hends b rfl).1
      rw [spanDigits, List.takeWhile_cons_of_neg hb, List.dropWhile_cons_of_neg hb]
  have hspan : spanDigits (digits n ++ rest) = (digits n, rest) := by
    have hall : ∀ b ∈ digits n, isDigit b := fun b hb ↦ isDigit_of_mem_digits hb
    rw [spanDigits, List.takeWhile_append_of_pos hall, List.dropWhile_append_of_pos hall]
    rw [spanDigits, Prod.mk.injEq] at hrest
    rw [hrest.1, hrest.2, List.append_nil]
  obtain ⟨b, more, hdigits, -, -⟩ := digits_eq_cons n
  rw [readDigits, hspan, hdigits]

theorem readScale_of_ends {rest : List UInt8} (hends : Ends rest) (atEnd : Cause) (negative : Bool)
    (whole : List UInt8) :
    readScale atEnd negative whole rest = .ok (⟨negative, whole, none, none⟩, rest) := by
  cases rest with
  | nil => rfl
  | cons b rest =>
    obtain ⟨-, hpoint, he, hE⟩ := hends b rfl
    unfold readScale
    split
    · rename_i h
      cases h
      exact absurd rfl hpoint
    · exact if_neg (show ¬ (decide (b = 0x65) || decide (b = 0x45)) = true by simp [he, hE])

theorem readUnsigned_digits {n : Nat} {rest : List UInt8} (hends : Ends rest) (atEnd : Cause)
    (negative : Bool) :
    readUnsigned atEnd negative (digits n ++ rest) =
      .ok (⟨negative, digits n, none, none⟩, rest) := by
  obtain ⟨b, more, hdigits, hzero, -⟩ := digits_eq_cons n
  rw [readUnsigned, readDigits_digits hends]
  simp only [bind, Except.bind]
  split
  · rename_i h
    rw [hdigits] at h
    injection h with h
    injection h with hb hmore
    cases (hzero hb).symm.trans hmore
  · rename_i h
    cases h
    exact readScale_of_ends hends atEnd negative _

def IsWord (n : Int) : Prop := -0x8000000000000000 ≤ n ∧ n ≤ 0xFFFFFFFFFFFFFFFF

instance (n : Int) : Decidable (IsWord n) := inferInstanceAs (Decidable (_ ∧ _))

theorem value_digits {n : Nat} (h : IsWord n) (rest : List UInt8) :
    Numeral.value ⟨false, digits n, none, none⟩ rest = .ok (.integer n) := by
  have hleading : leading (digits n) 0 = (n, 0) :=
    leading_digits (by have := h.2; unfold greatestSignificand; omega)
  simp only [Numeral.value, hleading]
  rfl

theorem value_negative {n : Nat} (h : IsWord (-n)) (hpos : 0 < n) (rest : List UInt8) :
    Numeral.value ⟨true, digits n, none, none⟩ rest = .ok (.integer (-n)) := by
  have hbound : n ≤ 0x8000000000000000 := by have := h.1; omega
  have hleading : leading (digits n) 0 = (n, 0) :=
    leading_digits (by unfold greatestSignificand; omega)
  simp only [Numeral.value, hleading]
  rw [if_neg (by decide), if_neg (by decide), if_pos ⟨hpos, hbound⟩]

theorem encode_negSucc (n : Nat) :
    Utf8.encode (Number.integer (.negSucc n)).text = 0x2D :: digits (n + 1) := by
  change Utf8.encode ("-" ++ Nat.repr (n + 1)) = _
  rw [Utf8.encode_append]
  rfl

theorem encode_integer (n : Int) :
    ∃ b rest, Utf8.encode (Number.integer n).text = b :: rest ∧ (b = 0x2D ∨ isDigit b) := by
  cases n with
  | ofNat n =>
    obtain ⟨b, more, hdigits, -, -⟩ := digits_eq_cons n
    exact ⟨b, more, hdigits, .inr (isDigit_of_mem_digits (hdigits ▸ List.mem_cons_self))⟩
  | negSucc n => exact ⟨0x2D, _, encode_negSucc n, .inl rfl⟩

theorem reads_integer {n : Int} (h : IsWord n) :
    Reads readNumber (.integer n) (Utf8.encode (Number.integer n).text) := by
  intro rest hends
  cases n with
  | ofNat n =>
    obtain ⟨b, more, hdigits, -, -⟩ := digits_eq_cons n
    have hminus : b ≠ 0x2D := by
      rintro rfl
      have : isDigit 0x2D := isDigit_of_mem_digits (hdigits ▸ List.mem_cons_self)
      revert this
      decide
    have hnumeral :
        readNumeral .endOfValue (digits n ++ rest) = .ok (⟨false, digits n, none, none⟩, rest) := by
      rw [readNumeral, readUnsigned_digits hends]
      intro rest' h
      rw [hdigits] at h
      injection h with h
      exact hminus h
    change readNumber (digits n ++ rest) = _
    rw [readNumber, hnumeral]
    simp only [bind, Except.bind, value_digits h]
    rfl
  | negSucc n =>
    rw [encode_negSucc, List.cons_append, readNumber, readNumeral, readUnsigned_digits hends]
    rw [Int.negSucc_eq] at h ⊢
    simp only [bind, Except.bind]
    rw [value_negative h (Nat.succ_pos n)]
    rfl

theorem readContent_cons {b : UInt8} (hquote : b ≠ 0x22) (hcontrol : ¬ b < 0x20)
    (hbackslash : b ≠ 0x5C) (acc rest : List UInt8) :
    readContent acc (b :: rest) = readContent (b :: acc) rest := by
  rw [readContent.eq_def]
  simp only [hquote, hcontrol, if_false, if_pos hbackslash]

theorem readContent_append {bytes : List UInt8} (h : ∀ b ∈ bytes, b ≠ 0x22 ∧ ¬ b < 0x20 ∧ b ≠ 0x5C)
    (acc rest : List UInt8) :
    readContent acc (bytes ++ rest) = readContent (bytes.reverse ++ acc) rest := by
  induction bytes generalizing acc with
  | nil => rfl
  | cons b bytes ih =>
    obtain ⟨⟨hquote, hcontrol, hbackslash⟩, hbytes⟩ := List.forall_mem_cons.mp h
    rw [List.cons_append, readContent_cons hquote hcontrol hbackslash, ih hbytes, List.reverse_cons,
      List.append_assoc, List.singleton_append]

theorem readContent_unit {a b c d : UInt8} {n : Nat} (h : unit? a b c d = some n) (hn : n < 0xD800)
    (acc rest : List UInt8) :
    readContent acc (0x5C :: 0x75 :: a :: b :: c :: d :: rest) =
      readContent (pushChar n acc) rest := by
  have hlow : isLowSurrogate n = false := by simp [isLowSurrogate]; omega
  have hhigh : isHighSurrogate n = false := by simp [isHighSurrogate]; omega
  rw [readContent.eq_def]
  simp [h, hlow, hhigh]

theorem readContent_short {letter b : UInt8} (h : shortEscape? letter = some b)
    (acc rest : List UInt8) :
    readContent acc (0x5C :: letter :: rest) = readContent (b :: acc) rest := by
  have hletter : letter ≠ 0x75 := by
    rintro rfl
    cases h
  rw [readContent.eq_def]
  simp [h, hletter]

theorem readContent_quote (acc rest : List UInt8) :
    readContent acc (0x22 :: rest) = .ok (acc.reverse, rest) := by
  rw [readContent.eq_def]
  rfl

def hexByte (n : Nat) : UInt8 := UInt8.ofNat (if n < 10 then 0x30 + n else 0x57 + n)

theorem unit?_hex : ∀ n < 0x20,
    Utf8.encode ((if n < 0x10 then "0" else "") ++ Text.hex n) =
      [hexByte (n / 16), hexByte (n % 16)] ∧
      unit? 0x30 0x30 (hexByte (n / 16)) (hexByte (n % 16)) = some n := by
  decide

theorem escape_cases (c : Char) :
    (∃ letter b, Utf8.encode (escape c) = [0x5C, letter] ∧ shortEscape? letter = some b ∧
      String.utf8EncodeChar c = [b]) ∨
    (c.toNat < 0x20 ∧
      escape c = "\\u00" ++ (if c.toNat < 0x10 then "0" else "") ++ Text.hex c.toNat) ∨
    (c ≠ '"' ∧ c ≠ '\\' ∧ ¬ c.toNat < 0x20 ∧ escape c = String.singleton c) := by
  unfold escape
  by_cases hquote : c = '"'
  · subst hquote
    exact .inl ⟨0x22, 0x22, rfl, rfl, rfl⟩
  rw [if_neg hquote]
  by_cases hbackslash : c = '\\'
  · subst hbackslash
    exact .inl ⟨0x5C, 0x5C, rfl, rfl, rfl⟩
  rw [if_neg hbackslash]
  split
  · subst c
    exact .inl ⟨0x62, 0x08, rfl, rfl, rfl⟩
  split
  · subst c
    exact .inl ⟨0x66, 0x0C, rfl, rfl, rfl⟩
  split
  · subst c
    exact .inl ⟨0x6E, 0x0A, rfl, rfl, rfl⟩
  split
  · subst c
    exact .inl ⟨0x72, 0x0D, rfl, rfl, rfl⟩
  split
  · subst c
    exact .inl ⟨0x74, 0x09, rfl, rfl, rfl⟩
  split
  · exact .inr (.inl ⟨‹_›, rfl⟩)
  · exact .inr (.inr ⟨hquote, hbackslash, ‹_›, rfl⟩)

theorem readContent_escape (c : Char) (acc rest : List UInt8) :
    readContent acc (Utf8.encode (escape c) ++ rest) =
      readContent ((String.utf8EncodeChar c).reverse ++ acc) rest := by
  obtain ⟨letter, b, hescape, hshort, hchar⟩ | ⟨hcontrol, hescape⟩
      | ⟨hquote, hbackslash, hcontrol, hescape⟩ :=
    escape_cases c
  · rw [hescape, hchar]
    exact readContent_short hshort acc rest
  · obtain ⟨hhex, hunit⟩ := unit?_hex c.toNat hcontrol
    rw [hescape, String.append_assoc, Utf8.encode_append, hhex]
    refine (readContent_unit hunit (by omega) acc rest).trans ?_
    rw [pushChar, c.ofNat_toNat]
  · have hencode : Utf8.encode (escape c) = String.utf8EncodeChar c := by
      rw [hescape, Utf8.encode, String.toList_singleton, List.flatMap_singleton]
    rw [hencode]
    refine readContent_append (fun b hb ↦ ?_) acc rest
    -- a byte that means something to the reader would be the character itself
    have hself : ∀ {d : Char}, d.toNat < 0x80 → b.toNat = d.toNat → c = d := by
      intro d hd hbd
      have hb' : b < 0x80 := UInt8.lt_iff_toNat_lt.mpr (hbd ▸ hd)
      exact Char.toNat_inj.mp ((Utf8.toNat_of_mem_encodeChar hb hb').symm.trans hbd)
    refine ⟨?_, fun hlow ↦ ?_, ?_⟩
    · rintro rfl
      exact hquote (hself (by decide) rfl)
    · have hlow' : b.toNat < 0x20 := UInt8.lt_iff_toNat_lt.mp hlow
      have hb' : b < 0x80 := UInt8.lt_iff_toNat_lt.mpr (Nat.lt_trans hlow' (by decide))
      rw [Utf8.toNat_of_mem_encodeChar hb hb'] at hlow'
      exact hcontrol hlow'
    · rintro rfl
      exact hbackslash (hself (by decide) rfl)

def stringBody (s : String) : List UInt8 :=
  s.toList.flatMap (fun c ↦ Utf8.encode (escape c)) ++ [0x22]

theorem encode_stringText (s : String) : Utf8.encode (stringText s) = 0x22 :: stringBody s := by
  rw [stringText, Utf8.encode_append, Utf8.encode_append, Utf8.encode_join, List.flatMap_map]
  rfl

theorem readContent_stringBody (s : String) (rest : List UInt8) :
    readContent [] (stringBody s ++ rest) = .ok (Utf8.encode s, rest) := by
  have hchars : ∀ (cs : List Char) (acc : List UInt8),
      readContent acc (cs.flatMap (fun c ↦ Utf8.encode (escape c)) ++ 0x22 :: rest) =
        .ok (acc.reverse ++ cs.flatMap String.utf8EncodeChar, rest) := by
    intro cs
    induction cs with
    | nil =>
      intro acc
      rw [List.flatMap_nil, List.nil_append, readContent_quote, List.flatMap_nil, List.append_nil]
    | cons c cs ih =>
      intro acc
      rw [List.flatMap_cons, List.append_assoc, readContent_escape, ih, List.reverse_append,
        List.reverse_reverse, List.append_assoc, List.flatMap_cons]
  rw [stringBody, List.append_assoc]
  exact hchars s.toList []

theorem readString_stringBody (s : String) (rest : List UInt8) :
    readString (stringBody s ++ rest) = .ok (s, rest) := by
  rw [readString, readContent_stringBody]
  simp only [bind, Except.bind, Utf8.decode_encode]
  rfl

theorem skipBlanks_cons {b : UInt8} (h : ¬ isBlank b) (rest : List UInt8) :
    skipBlanks (b :: rest) = b :: rest :=
  List.dropWhile_cons_of_neg h

/-- The text begins with what an item of a list may begin with. -/
def Opens (text : List UInt8) : Prop := ∃ b rest, text = b :: rest ∧ ¬ isBlank b ∧ b ≠ 0x5D

def joined (isFirst : Bool) : List (List UInt8) → List UInt8
  | [] => []
  | part :: parts => (if isFirst then [] else [0x2C]) ++ part ++ joined false parts

theorem encode_intercalate (parts : List String) :
    Utf8.encode (",".intercalate parts) = joined true (parts.map Utf8.encode) := by
  induction parts with
  | nil => rfl
  | cons part parts ih =>
    rw [Utf8.encode, String.toList_intercalate] at ih ⊢
    cases parts with
    | nil => simp [List.intercalate, joined, Utf8.encode]
    | cons next parts =>
      rw [List.map_cons, List.map_cons, List.intercalate, List.intersperse_cons_cons,
        List.flatten_cons, List.flatten_cons, List.flatMap_append, List.flatMap_append]
      rw [List.map_cons, List.intercalate] at ih
      rw [ih]
      rfl

theorem ends_joined (parts : List (List UInt8)) {closing : UInt8}
    (h : closing = 0x5D ∨ closing = 0x7D) (rest : List UInt8) :
    Ends (joined false parts ++ closing :: rest) := by
  cases parts with
  | nil =>
    refine .cons ?_ rest
    rcases h with rfl | rfl <;> decide
  | cons part parts => exact .cons (by decide) _

theorem length_le_joined {parts : List (List UInt8)} (h : ∀ part ∈ parts, part ≠ [])
    (isFirst : Bool) : parts.length ≤ (joined isFirst parts).length := by
  induction parts generalizing isFirst with
  | nil => exact Nat.zero_le _
  | cons part parts ih =>
    obtain ⟨hpart, hparts⟩ := List.forall_mem_cons.mp h
    have hlength := List.length_pos_iff.mpr hpart
    have := ih hparts false
    rw [joined, List.length_append, List.length_append, List.length_cons]
    omega

theorem nextItem_joined {part : List UInt8} (h : Opens part) (isFirst : Bool)
    (parts : List (List UInt8)) (rest : List UInt8) :
    nextItem isFirst (joined isFirst (part :: parts) ++ rest) =
      .ok (some (part ++ (joined false parts ++ rest))) := by
  obtain ⟨b, text, rfl, hblank, hbracket⟩ := h
  rw [joined, List.append_assoc, List.append_assoc]
  cases isFirst with
  | true => simp [nextItem, skipBlanks_cons hblank, hbracket]
  | false =>
    have hcomma : ∀ rest, skipBlanks (0x2C :: rest) = 0x2C :: rest := skipBlanks_cons (by decide)
    simp [nextItem, hcomma, skipBlanks_cons hblank, hbracket]

theorem nextName_joined (isFirst : Bool) (part : List UInt8) (parts : List (List UInt8))
    (rest : List UInt8) :
    nextName isFirst (joined isFirst ((0x22 :: part) :: parts) ++ rest) =
      .ok (some (part ++ (joined false parts ++ rest))) := by
  rw [joined, List.append_assoc, List.append_assoc]
  cases isFirst <;> rfl

theorem readColon_cons (rest : List UInt8) : readColon (0x3A :: rest) = .ok rest := rfl

theorem nextItem_bracket (isFirst : Bool) (rest : List UInt8) :
    nextItem isFirst (0x5D :: rest) = .ok none := rfl

theorem nextName_brace (isFirst : Bool) (rest : List UInt8) :
    nextName isFirst (0x7D :: rest) = .ok none := rfl

end CompileWorker.Json
