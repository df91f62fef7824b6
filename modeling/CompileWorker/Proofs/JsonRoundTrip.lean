import CompileWorker.Proofs.JsonTokens

namespace CompileWorker.Json

mutual

def depth : Json → Nat
  | .array items => itemsDepth items + 1
  | .object members => membersDepth members + 1
  | _ => 0

def itemsDepth : List Json → Nat
  | [] => 0
  | j :: items => max j.depth (itemsDepth items)

def membersDepth : List (String × Json) → Nat
  | [] => 0
  | (_, j) :: members => max j.depth (membersDepth members)

end

mutual

/-- A value that its text tells exactly: it holds no doubles, its integers fit 64 bits and its
members are sorted by name, as those of a canonical value are. -/
def isExact : Json → Bool
  | .number (.integer n) => decide (IsWord n)
  | .number (.double _) => false
  | .array items => areExact items
  | .object members => decide (members.Pairwise fun m n ↦ m.1 < n.1) && membersExact members
  | _ => true

def areExact : List Json → Bool
  | [] => true
  | j :: items => j.isExact && areExact items

def membersExact : List (String × Json) → Bool
  | [] => true
  | (_, j) :: members => j.isExact && membersExact members

end

theorem itemsDepth_le_iff {items : List Json} {n : Nat} :
    itemsDepth items ≤ n ↔ ∀ j ∈ items, j.depth ≤ n := by
  induction items with
  | nil => simp [itemsDepth]
  | cons j items ih => rw [itemsDepth, Nat.max_le, ih, List.forall_mem_cons]

theorem membersDepth_le_iff {members : List (String × Json)} {n : Nat} :
    membersDepth members ≤ n ↔ ∀ m ∈ members, m.2.depth ≤ n := by
  induction members with
  | nil => simp [membersDepth]
  | cons m members ih => rw [membersDepth, Nat.max_le, ih, List.forall_mem_cons]

theorem depth_array_le_iff {items : List Json} {n : Nat} :
    (Json.array items).depth ≤ n + 1 ↔ ∀ j ∈ items, j.depth ≤ n := by
  rw [depth, Nat.add_le_add_iff_right, itemsDepth_le_iff]

theorem depth_object_le_iff {members : List (String × Json)} {n : Nat} :
    (Json.object members).depth ≤ n + 1 ↔ ∀ m ∈ members, m.2.depth ≤ n := by
  rw [depth, Nat.add_le_add_iff_right, membersDepth_le_iff]

theorem exists_eq_succ_of_depth_le {j : Json} {n : Nat} (h : j.depth ≤ n) (hpos : 0 < j.depth) :
    ∃ m, n = m + 1 :=
  Nat.exists_eq_add_one_of_ne_zero (by omega)

theorem areExact_iff {items : List Json} : areExact items ↔ ∀ j ∈ items, j.isExact := by
  induction items with
  | nil => simp [areExact]
  | cons j items ih => rw [areExact, Bool.and_eq_true, ih, List.forall_mem_cons]

theorem membersExact_iff {members : List (String × Json)} :
    membersExact members ↔ ∀ m ∈ members, m.2.isExact := by
  induction members with
  | nil => simp [membersExact]
  | cons m members ih => rw [membersExact, Bool.and_eq_true, ih, List.forall_mem_cons]

def memberBytes (m : String × Json) : List UInt8 :=
  0x22 :: (stringBody m.1 ++ 0x3A :: Utf8.encode m.2.text)

theorem nextName_member (isFirst : Bool) (m : String × Json) (members : List (String × Json))
    (rest : List UInt8) :
    nextName isFirst (joined isFirst ((m :: members).map memberBytes) ++ rest) =
      .ok (some (stringBody m.1 ++
        0x3A :: (Utf8.encode m.2.text ++ (joined false (members.map memberBytes) ++ rest)))) := by
  rw [List.map_cons, memberBytes, nextName_joined, List.append_assoc, List.cons_append]

theorem itemTexts_eq (items : List Json) : itemTexts items = items.map text := by
  induction items with
  | nil => rfl
  | cons j items ih => rw [itemTexts, ih, List.map_cons]

theorem encode_memberTexts (members : List (String × Json)) :
    (memberTexts members).map Utf8.encode = members.map memberBytes := by
  induction members with
  | nil => rfl
  | cons m members ih =>
    rw [memberTexts, List.map_cons, ih, List.map_cons, Utf8.encode_append, Utf8.encode_append,
      encode_stringText, memberBytes, List.append_assoc]
    rfl

theorem encode_array (items : List Json) :
    Utf8.encode (Json.array items).text =
      0x5B :: (joined true (items.map fun j ↦ Utf8.encode j.text) ++ [0x5D]) := by
  rw [text, Utf8.encode_append, Utf8.encode_append, encode_intercalate, itemTexts_eq, List.map_map]
  rfl

theorem encode_object (members : List (String × Json)) :
    Utf8.encode (Json.object members).text =
      0x7B :: (joined true (members.map memberBytes) ++ [0x7D]) := by
  rw [text, Utf8.encode_append, Utf8.encode_append, encode_intercalate, encode_memberTexts]
  rfl

theorem encode_string (s : String) : Utf8.encode (Json.string s).text = 0x22 :: stringBody s := by
  rw [text, encode_stringText]

theorem opens_integer (n : Int) : Opens (Utf8.encode (Number.integer n).text) := by
  obtain ⟨b, rest, htext, hb⟩ := encode_integer n
  refine ⟨b, rest, htext, ?_⟩
  rcases hb with rfl | hb
  · decide
  · obtain ⟨k, hk, rfl⟩ := eq_ofNat_of_isDigit hb
    clear htext hb
    revert k
    decide

theorem opens_text {j : Json} (h : j.isExact) : Opens (Utf8.encode j.text) := by
  cases j with
  | null => exact ⟨_, _, rfl, by decide, by decide⟩
  | bool b => cases b <;> exact ⟨_, _, rfl, by decide, by decide⟩
  | number n =>
    cases n with
    | double x => cases h
    | integer n => exact opens_integer n
  | string s => exact ⟨_, _, encode_string s, by decide, by decide⟩
  | array items => exact ⟨_, _, encode_array items, by decide, by decide⟩
  | object members => exact ⟨_, _, encode_object members, by decide, by decide⟩

theorem readItems_joined {α : Type} {r : Reader α} {as : List α} {parts : List (List UInt8)}
    (h : List.Forall₂ (Reads r) as parts) (hopens : ∀ part ∈ parts, Opens part) (fuel : Nat)
    (hfuel : parts.length < fuel) (isFirst : Bool) (acc : List α) (rest : List UInt8) :
    readItems r fuel isFirst acc (joined isFirst parts ++ 0x5D :: rest) =
      .ok (acc.reverse ++ as, rest) := by
  induction h generalizing fuel isFirst acc with
  | nil =>
    obtain ⟨fuel, rfl⟩ := Nat.exists_eq_add_one_of_ne_zero (Nat.ne_of_gt hfuel)
    rw [readItems, joined, List.nil_append, nextItem_bracket, List.append_nil]
    rfl
  | cons ha has ih =>
    obtain ⟨hpart, hparts⟩ := List.forall_mem_cons.mp hopens
    obtain ⟨fuel, rfl⟩ := Nat.exists_eq_add_one_of_ne_zero (Nat.ne_of_gt (Nat.zero_lt_of_lt hfuel))
    rw [readItems, nextItem_joined hpart]
    simp only [bind, Except.bind]
    rw [ha _ (ends_joined _ (.inl rfl) rest)]
    simp only
    rw [ih hparts fuel (Nat.lt_of_succ_lt_succ hfuel), List.reverse_cons, List.append_assoc,
      List.singleton_append]

theorem readList_joined {α : Type} {r : Reader α} {as : List α} {parts : List (List UInt8)}
    (h : List.Forall₂ (Reads r) as parts) (hopens : ∀ part ∈ parts, Opens part)
    (rest : List UInt8) : readList r (joined true parts ++ 0x5D :: rest) = .ok (as, rest) := by
  have hlength : parts.length ≤ (joined true parts).length := by
    refine length_le_joined (fun part hpart ↦ ?_) true
    obtain ⟨b, text, rfl, -⟩ := hopens part hpart
    exact List.cons_ne_nil b text
  have hfuel : parts.length < (joined true parts ++ 0x5D :: rest).length + 1 := by
    rw [List.length_append]
    omega
  exact readItems_joined h hopens _ hfuel true [] rest

theorem readMembers_joined {r : Reader Json} {members : List (String × Json)}
    (h : ∀ m ∈ members, Reads r m.2 (Utf8.encode m.2.text)) (fuel : Nat)
    (hfuel : members.length < fuel) (isFirst : Bool) (acc : List (String × Json))
    (rest : List UInt8) :
    readMembers r fuel isFirst acc (joined isFirst (members.map memberBytes) ++ 0x7D :: rest) =
      .ok (acc.reverse ++ members, rest) := by
  induction members generalizing fuel isFirst acc with
  | nil =>
    obtain ⟨fuel, rfl⟩ := Nat.exists_eq_add_one_of_ne_zero (Nat.ne_of_gt hfuel)
    rw [readMembers, List.map_nil, joined, List.nil_append, nextName_brace, List.append_nil]
    rfl
  | cons m members ih =>
    obtain ⟨hm, hmembers⟩ := List.forall_mem_cons.mp h
    obtain ⟨fuel, rfl⟩ := Nat.exists_eq_add_one_of_ne_zero (Nat.ne_of_gt (Nat.zero_lt_of_lt hfuel))
    have hvalue := hm _ (ends_joined (members.map memberBytes) (.inr rfl) rest)
    rw [readMembers, nextName_member]
    simp only [bind, Except.bind, readString_stringBody, readColon_cons, hvalue]
    rw [ih hmembers fuel (Nat.lt_of_succ_lt_succ hfuel), List.reverse_cons, List.append_assoc,
      List.singleton_append]

theorem length_members_le (members : List (String × Json)) (isFirst : Bool) :
    members.length ≤ (joined isFirst (members.map memberBytes)).length := by
  rw [← List.length_map memberBytes]
  refine length_le_joined (fun part hpart ↦ ?_) isFirst
  obtain ⟨m, -, rfl⟩ := List.mem_map.mp hpart
  exact List.cons_ne_nil _ _

theorem readObject_joined {r : Reader Json} {members : List (String × Json)}
    (h : ∀ m ∈ members, Reads r m.2 (Utf8.encode m.2.text)) (rest : List UInt8) :
    readObject r (joined true (members.map memberBytes) ++ 0x7D :: rest) = .ok (members, rest) := by
  have hfuel :
      members.length < (joined true (members.map memberBytes) ++ 0x7D :: rest).length + 1 := by
    have := length_members_le members true
    rw [List.length_append]
    omega
  exact readMembers_joined h _ hfuel true [] rest

theorem readValue_scalar {b : UInt8} (hblank : ¬ isBlank b) (hbracket : b ≠ 0x5B)
    (hbrace : b ≠ 0x7B) (depth : Nat) (rest : List UInt8) :
    readValue depth (b :: rest) = readScalar (b :: rest) := by
  rw [readValue.eq_def]
  simp only [skipBlanks_cons hblank]
  split
  · rename_i h
    cases h
    exact absurd rfl hbracket
  · rename_i h
    cases h
    exact absurd rfl hbrace
  · rfl

theorem reads_number {n : Int} (h : IsWord n) (depth : Nat) :
    Reads (readValue depth) (.number (.integer n))
      (Utf8.encode (Json.number (.integer n)).text) := by
  intro rest hends
  obtain ⟨b, more, htext, hb⟩ := encode_integer n
  have hread := reads_integer h rest hends
  have hdigit : ∀ k < 10, ¬ isBlank (UInt8.ofNat (0x30 + k)) ∧ UInt8.ofNat (0x30 + k) ≠ 0x5B ∧
      UInt8.ofNat (0x30 + k) ≠ 0x7B ∧ UInt8.ofNat (0x30 + k) ≠ 0x6E ∧
      UInt8.ofNat (0x30 + k) ≠ 0x74 ∧
      UInt8.ofNat (0x30 + k) ≠ 0x66 := by decide
  obtain ⟨hblank, hbracket, hbrace, hn, ht, hf⟩ :
      ¬ isBlank b ∧ b ≠ 0x5B ∧ b ≠ 0x7B ∧ b ≠ 0x6E ∧ b ≠ 0x74 ∧ b ≠ 0x66 := by
    rcases hb with rfl | hb
    · decide
    · obtain ⟨k, hk, rfl⟩ := eq_ofNat_of_isDigit hb
      exact hdigit k hk
  have hnumber : (decide (b = 0x2D) || isDigit b) = true := by simpa using hb
  rw [text, htext, List.cons_append, readValue_scalar hblank hbracket hbrace, readScalar]
  rw [htext, List.cons_append] at hread
  simp only [hn, ht, hf, hnumber, if_false, if_true, hread]
  rfl

theorem reads_string (s : String) (depth : Nat) :
    Reads (readValue depth) (.string s) (Utf8.encode (Json.string s).text) := by
  intro rest hends
  rw [encode_string, List.cons_append, readValue_scalar (by decide) (by decide) (by decide),
    readScalar]
  simp only [readString_stringBody]
  rfl

theorem reads_scalar {j : Json} (h : j.isExact) (hflat : j.depth = 0) (depth : Nat) :
    Reads (readValue depth) j (Utf8.encode j.text) := by
  cases j with
  | null => exact fun rest _ ↦ readValue_scalar (by decide) (by decide) (by decide) depth _
  | bool b =>
    cases b <;> exact fun rest _ ↦ readValue_scalar (by decide) (by decide) (by decide) depth _
  | number n =>
    cases n with
    | double x => cases h
    | integer n => exact reads_number (of_decide_eq_true h) depth
  | string s => exact reads_string s depth
  | array items => cases hflat
  | object members => cases hflat

/-- A value is read off its text by a reader that goes as deep, whatever follows. -/
theorem reads_text {j : Json} (h : j.isExact) {depth : Nat} (hdepth : j.depth ≤ depth) :
    Reads (readValue depth) j (Utf8.encode j.text) := by
  -- on how deep the reader still goes
  induction depth generalizing j with
  | zero =>
    cases j with
    | array items => rw [Json.depth] at hdepth; omega
    | object members => rw [Json.depth] at hdepth; omega
    | _ => exact reads_scalar h (by simp [Json.depth]) 0
  | succ depth ih =>
    cases j with
    | array items =>
      rw [isExact, areExact_iff] at h
      rw [depth_array_le_iff] at hdepth
      intro rest hends
      have hitems :
          List.Forall₂ (Reads (readValue depth)) items (items.map fun j ↦ Utf8.encode j.text) := by
        rw [List.forall₂_map_right_iff, List.forall₂_same]
        exact fun j hj ↦ ih (h j hj) (hdepth j hj)
      have hopens : ∀ part ∈ items.map fun j ↦ Utf8.encode j.text, Opens part := by
        rw [List.forall_mem_map]
        exact fun j hj ↦ opens_text (h j hj)
      rw [encode_array, List.cons_append, List.append_assoc, readValue.eq_def]
      simp only [skipBlanks_cons (show ¬ isBlank 0x5B by decide), List.singleton_append,
        readList_joined hitems hopens rest, bind, Except.bind]
      rfl
    | object members =>
      rw [isExact, Bool.and_eq_true, membersExact_iff] at h
      rw [depth_object_le_iff] at hdepth
      intro rest hends
      have hmembers : ∀ m ∈ members, Reads (readValue depth) m.2 (Utf8.encode m.2.text) :=
        fun m hm ↦ ih (h.2 m hm) (hdepth m hm)
      rw [encode_object, List.cons_append, List.append_assoc, readValue.eq_def]
      simp only [skipBlanks_cons (show ¬ isBlank 0x7B by decide), List.singleton_append,
        readObject_joined hmembers rest, bind, Except.bind]
      rfl
    | _ => exact reads_scalar h (by simp [Json.depth]) (depth + 1)

theorem put_of_lt {α : Type} {name : String} {entries : List (String × α)}
    (h : ∀ e ∈ entries, e.1 < name) (value : α) :
    Sorted.put name value entries = entries ++ [(name, value)] := by
  induction entries with
  | nil => rfl
  | cons e entries ih =>
    obtain ⟨he, hentries⟩ := List.forall_mem_cons.mp h
    rw [Sorted.put, if_neg (String.lt_asymm he), if_pos he, ih hentries, List.cons_append]

theorem foldl_put {α : Type} {sorted members : List (String × α)}
    (h : (sorted ++ members).Pairwise fun m n ↦ m.1 < n.1) :
    members.foldl (fun sorted m ↦ Sorted.put m.1 m.2 sorted) sorted = sorted ++ members := by
  induction members generalizing sorted with
  | nil => rw [List.foldl_nil, List.append_nil]
  | cons m members ih =>
    have hm : ∀ e ∈ sorted, e.1 < m.1 :=
      fun e he ↦ (List.pairwise_append.mp h).2.2 e he m List.mem_cons_self
    rw [List.append_cons] at h
    rw [List.foldl_cons, put_of_lt hm, ih h, ← List.append_cons]

theorem sortMembers_of_sorted {α : Type} {members : List (String × α)}
    (h : members.Pairwise fun m n ↦ m.1 < n.1) : sortMembers members = members :=
  foldl_put (by rwa [List.nil_append])

mutual

theorem canonical_of_isExact : ∀ j : Json, j.isExact → j.canonical = j
  | .null, _ => rfl
  | .bool _, _ => rfl
  | .number _, _ => rfl
  | .string _, _ => rfl
  | .array items, h => by
    rw [isExact] at h
    rw [canonical, canonicalItems_of_areExact items h]
  | .object members, h => by
    rw [isExact, Bool.and_eq_true, decide_eq_true_eq] at h
    rw [canonical, canonicalMembers_of_membersExact members h.2, sortMembers_of_sorted h.1]

theorem canonicalItems_of_areExact : ∀ items : List Json, areExact items →
    canonicalItems items = items
  | [], _ => rfl
  | j :: items, h => by
    rw [areExact, Bool.and_eq_true] at h
    rw [canonicalItems, canonical_of_isExact j h.1, canonicalItems_of_areExact items h.2]

theorem canonicalMembers_of_membersExact :
    ∀ members : List (String × Json), membersExact members → canonicalMembers members = members
  | [], _ => rfl
  | (name, j) :: members, h => by
    rw [membersExact, Bool.and_eq_true] at h
    rw [canonicalMembers, canonical_of_isExact j h.1, canonicalMembers_of_membersExact members h.2]

end

end CompileWorker.Json
