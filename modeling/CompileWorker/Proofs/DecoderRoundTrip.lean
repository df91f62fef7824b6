import CompileWorker.Proofs.JsonRoundTrip
import CompileWorker.Json.Decoder

namespace CompileWorker.Json

variable {α β : Type}

/-- A reader that knows how deep it goes takes a value off the text of a JSON value, whatever
follows. -/
def Takes (ofText : Nat → Reader α) (j : Json) (a : α) : Prop :=
  ∀ depth, j.depth ≤ depth → Reads (ofText depth) a (Utf8.encode j.text)

theorem Takes.decode {d : Decoder α} {j : Json} {a : α} (h : Takes d.ofText j a)
    (hdepth : j.depth ≤ greatestDepth) : d.decode (Utf8.encode j.text) = .ok a := by
  have hread := h greatestDepth hdepth [] .nil
  rw [List.append_nil] at hread
  rw [Decoder.decode, readAll, hread]
  rfl

theorem Takes.map {d : Decoder α} {j : Json} {a : α} (h : Takes d.ofText j a) (f : α → β) :
    Takes (d.map f).ofText j (f a) := by
  intro depth hdepth rest hends
  simp only [Decoder.map, h depth hdepth rest hends, bind, Except.bind]
  rfl

theorem takes_string (s : String) : Takes Decoder.string.ofText (.string s) s := by
  intro depth _ rest _
  rw [encode_string]
  exact readString_stringBody s rest

theorem takes_bool (b : Bool) : Takes Decoder.bool.ofText (.bool b) b := by
  intro depth _ rest _
  cases b <;> rfl

theorem takes_integer {n least greatest : Int} (hleast : least ≤ n) (hgreatest : n ≤ greatest)
    (hword : IsWord n) (expected : String) :
    Takes (Decoder.integer least greatest expected).ofText (.int n) n := by
  intro depth _ rest hends
  obtain ⟨b, more, htext, hb⟩ := encode_integer n
  obtain ⟨b', more', htext', hblank, -⟩ := opens_integer n
  have hread := reads_integer hword rest hends
  rw [htext, List.cons.injEq] at htext'
  obtain ⟨rfl, rfl⟩ := htext'
  have hnumber : (decide (b = 0x2D) || isDigit b) = true := by simpa using hb
  have hwithin : Decoder.within least greatest expected (.integer n) = .ok n :=
    if_pos ⟨hleast, hgreatest⟩
  rw [htext, List.cons_append] at hread
  rw [Json.int, text, htext, List.cons_append]
  simp only [Decoder.integer, skipBlanks_cons hblank, hnumber, if_true, hread, bind, Except.bind,
    hwithin]
  rfl

theorem takes_int32 (n : Int32) : Takes Decoder.int32.ofText (.int n.toInt) n := by
  have hleast := n.le_toInt
  have hgreatest := n.toInt_lt
  have hword : IsWord n.toInt := ⟨by omega, by omega⟩
  have hinteger :
      Takes (Decoder.integer (-0x80000000) 0x7FFFFFFF "i32").ofText (.int n.toInt) n.toInt :=
    takes_integer (by omega) (by omega) hword "i32"
  have h := hinteger.map Int32.ofInt
  rwa [n.ofInt_toInt] at h

theorem takes_list {item : Decoder α} {toJson : α → Json} {as : List α}
    (h : ∀ a ∈ as, Takes item.ofText (toJson a) a)
    (hopens : ∀ a ∈ as, Opens (Utf8.encode (toJson a).text)) :
    Takes (Decoder.list item).ofText (.array (as.map toJson)) as := by
  intro depth hdepth rest _
  obtain ⟨depth, rfl⟩ := exists_eq_succ_of_depth_le hdepth (Nat.succ_pos _)
  rw [depth_array_le_iff, List.forall_mem_map] at hdepth
  have hitems :
      List.Forall₂ (Reads (item.ofText depth)) as
        ((as.map toJson).map fun j ↦ Utf8.encode j.text) := by
    rw [List.map_map, List.forall₂_map_right_iff, List.forall₂_same]
    exact fun a ha ↦ h a ha depth (hdepth a ha)
  have hparts : ∀ part ∈ (as.map toJson).map fun j ↦ Utf8.encode j.text, Opens part := by
    rw [List.forall_mem_map, List.forall_mem_map]
    exact hopens
  rw [encode_array, List.cons_append, List.append_assoc]
  exact readList_joined hitems hparts rest

theorem takes_optional {d : Decoder α} {j : Json} {a : α} (h : Takes d.ofText j a) {b : UInt8}
    {more : List UInt8} (htext : Utf8.encode j.text = b :: more) (hblank : ¬ isBlank b)
    (hnull : b ≠ 0x6E) : Takes d.optional.ofText j (some a) := by
  intro depth hdepth rest hends
  have hread := h depth hdepth rest hends
  rw [htext, List.cons_append] at hread ⊢
  simp only [Decoder.optional, skipBlanks_cons hblank]
  split
  · rename_i heq
    cases heq
    exact absurd rfl hnull
  · rw [hread]
    rfl

theorem ofTree_strings (ss : List String) :
    (Decoder.list .string).ofTree (.array (ss.map .string)) = .ok ss := by
  change (ss.map .string).mapM Decoder.string.ofTree = .ok ss
  rw [List.mapM_map]
  refine (List.mapM_pure (m := Except Cause) (f := id)).trans ?_
  rw [List.map_id]
  rfl

theorem Takes.field {d : Decoder β} {j : Json} {b : β} (h : Takes d.ofText j b)
    {presence : Presence} {name : String} {set : β → α → α} :
    Takes (Field.of presence name d set).ofText j (set b) :=
  h.map set

/-- The members fill the record: each is the value of a field not seen before, and no field is
missed in the end. -/
inductive Record.Fills (r : Record α) : List String → α → List (String × Json) → α → Prop
  | done {seen : List String} {a : α} (hseen : r.missing? seen = none) : Fills r seen a [] a
  | field {seen : List String} {a b : α} {name : String} {j : Json} {members : List (String × Json)}
      {f : Field α}
      {set : α → α} (hfield : r.lookup seen name = .ok (some f)) (hvalue : Takes f.ofText j set)
      (hrest : Fills r (name :: seen) (set a) members b) : Fills r seen a ((name, j) :: members) b

theorem Record.Fills.reads {r : Record α} {seen : List String} {a b : α}
    {members : List (String × Json)} (h : r.Fills seen a members b) {depth : Nat}
    (hdepth : ∀ m ∈ members, m.2.depth ≤ depth) (fuel : Nat) (hfuel : members.length < fuel)
    (isFirst : Bool) (rest : List UInt8) :
    r.readFields depth fuel isFirst seen a
      (joined isFirst (members.map memberBytes) ++ 0x7D :: rest) =
      .ok (b, rest) := by
  induction h generalizing fuel isFirst with
  | done hseen =>
    obtain ⟨fuel, rfl⟩ := Nat.exists_eq_add_one_of_ne_zero (Nat.ne_of_gt hfuel)
    rw [readFields, List.map_nil, joined, List.nil_append, nextName_brace]
    simp only [bind, Except.bind, hseen]
    rfl
  | field hfield hvalue hrest ih =>
    obtain ⟨hm, hmembers⟩ := List.forall_mem_cons.mp hdepth
    obtain ⟨fuel, rfl⟩ := Nat.exists_eq_add_one_of_ne_zero (Nat.ne_of_gt (Nat.zero_lt_of_lt hfuel))
    rw [readFields, nextName_member]
    simp only [bind, Except.bind, readString_stringBody, hfield, readColon_cons]
    rw [hvalue depth hm _ (ends_joined _ (.inr rfl) rest)]
    exact ih hmembers fuel (Nat.lt_of_succ_lt_succ hfuel) false

theorem Record.takes {r : Record α} {members : List (String × Json)} {a : α}
    (h : r.Fills [] r.initial members a) : Takes r.decoder.ofText (.object members) a := by
  intro depth hdepth rest _
  obtain ⟨depth, rfl⟩ := exists_eq_succ_of_depth_le hdepth (Nat.succ_pos _)
  rw [depth_object_le_iff] at hdepth
  have hlength := length_members_le members true
  rw [encode_object, List.cons_append, List.append_assoc]
  exact h.reads hdepth _ (by rw [List.length_append]; omega) true rest

theorem Record.ofMembers_cons {r : Record α} {seen : List String} {name : String} {j : Json}
    {f : Field α} {set : α → α} (hfield : r.lookup seen name = .ok (some f))
    (hvalue : f.ofTree j = .ok set) (a : α) (members : List (String × Json)) :
    r.ofMembers seen a ((name, j) :: members) = r.ofMembers (name :: seen) (set a) members := by
  rw [Record.ofMembers, hfield]
  simp only [bind, Except.bind, hvalue]

theorem ofTree_field {d : Decoder β} {j : Json} {b : β} (h : d.ofTree j = .ok b)
    {presence : Presence} {name : String} {set : β → α → α} :
    (Field.of presence name d set).ofTree j = .ok (set b) := by
  change (d.ofTree j).map set = _
  rw [h]
  rfl

theorem readName_string {choices : List (String × α)} {name : String} {a : α}
    (h : choices.lookup name = some a) (rest : List UInt8) :
    readName choices (Utf8.encode (Json.string name).text ++ rest) = .ok (a, rest) := by
  rw [encode_string, List.cons_append, readName]
  simp only [skipBlanks_cons (show ¬ isBlank 0x22 by decide), readString_stringBody, bind,
    Except.bind, h]
  rfl

namespace Tagged

variable {t : Tagged α} {members : List (String × Json)}

theorem readMembers_joined (hmembers : ∀ m ∈ members, m.1 ≠ t.tag ∧ m.2.isExact) {depth : Nat}
    (hdepth : ∀ m ∈ members, m.2.depth ≤ depth) (fuel : Nat) (hfuel : members.length < fuel)
    (isFirst : Bool) (r : Record α) (acc : List (String × Json)) (rest : List UInt8) :
    t.readMembers depth fuel isFirst (some r) acc
      (joined isFirst (members.map memberBytes) ++ 0x7D :: rest) =
      .ok ((r, acc.reverse ++ members), rest) := by
  induction members generalizing fuel isFirst acc with
  | nil =>
    obtain ⟨fuel, rfl⟩ := Nat.exists_eq_add_one_of_ne_zero (Nat.ne_of_gt hfuel)
    rw [Tagged.readMembers, List.map_nil, joined, List.nil_append, nextName_brace, List.append_nil]
    rfl
  | cons m members ih =>
    obtain ⟨⟨hname, hexact⟩, hmembers⟩ := List.forall_mem_cons.mp hmembers
    obtain ⟨hm, hdepth⟩ := List.forall_mem_cons.mp hdepth
    obtain ⟨fuel, rfl⟩ := Nat.exists_eq_add_one_of_ne_zero (Nat.ne_of_gt (Nat.zero_lt_of_lt hfuel))
    have hvalue := reads_text hexact hm _ (ends_joined (members.map memberBytes) (.inr rfl) rest)
    rw [Tagged.readMembers, nextName_member]
    simp only [bind, Except.bind, readString_stringBody, hname, if_false, readColon_cons, hvalue]
    rw [ih hmembers hdepth fuel (Nat.lt_of_succ_lt_succ hfuel), List.reverse_cons,
      List.append_assoc, List.singleton_append]

theorem takes {r : Record α} {variant : String} {a : α} (htag : t.variants.lookup variant = some r)
    (hmembers : ∀ m ∈ members, m.1 ≠ t.tag ∧ m.2.isExact)
    (hfields : r.ofMembers [] r.initial members = .ok a) :
    Takes t.decoder.ofText (.object ((t.tag, .string variant) :: members)) a := by
  intro depth hdepth rest _
  obtain ⟨depth, rfl⟩ := exists_eq_succ_of_depth_le hdepth (Nat.succ_pos _)
  rw [depth_object_le_iff] at hdepth
  have hdepth' := (List.forall_mem_cons.mp hdepth).2
  have hread : ∀ fuel, members.length < fuel →
      t.readMembers depth (fuel + 1) true none []
          (joined true (((t.tag, .string variant) :: members).map memberBytes) ++ 0x7D :: rest) =
        .ok ((r, members), rest) := by
    intro fuel hfuel
    rw [Tagged.readMembers, nextName_member]
    simp only [bind, Except.bind, readString_stringBody, if_true, Option.isSome_none,
      Bool.false_eq_true, if_false, readColon_cons, readName_string htag]
    exact readMembers_joined hmembers hdepth' fuel hfuel false r [] rest
  have hlength := length_members_le ((t.tag, .string variant) :: members) true
  rw [encode_object, List.cons_append, List.append_assoc]
  simp only [Tagged.decoder, skipBlanks_cons (show ¬ isBlank 0x7B by decide), nested,
    List.singleton_append]
  rw [hread _ (by rw [List.length_cons] at hlength; rw [List.length_append]; omega)]
  simp only [bind, Except.bind, hfields]
  rfl

end Tagged

end CompileWorker.Json
