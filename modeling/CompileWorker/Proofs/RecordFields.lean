import CompileWorker.Json.Decoder
import CompileWorker.Proofs.CanonicalValues

namespace CompileWorker.Json

variable {α β : Type}

def isNested : Json → Bool
  | .array _ => true
  | .object _ => true
  | _ => false

/-- What is shown under any path is held there too, or a list or an object is shown where members
are held. -/
def Reflects (shown held : Json) : Prop :=
  ∀ path j, shown.at? path = some j →
    held.at? path = some j ∨ j.isNested ∧ ∃ m members, held.at? path = some (.object (m :: members))

theorem Reflects.refl (j : Json) : j.Reflects j := fun _ _ h ↦ .inl h

theorem reflects_array (items : List Json) (m : String × Json) (members : List (String × Json)) :
    (Json.array items).Reflects (.object (m :: members)) := by
  rintro (_ | ⟨name, path⟩) j h
  · obtain rfl := Option.some.inj h
    exact .inr ⟨rfl, m, members, rfl⟩
  · cases h

theorem reflects_object {shown held : List (String × Json)} (hne : held ≠ [])
    (h : ∀ name j, shown.lookup name = some j → ∃ k, held.lookup name = some k ∧ j.Reflects k) :
    (Json.object shown).Reflects (.object held) := by
  rintro (_ | ⟨name, path⟩) j hj
  · obtain rfl := Option.some.inj hj
    obtain ⟨m, members, rfl⟩ := List.exists_cons_of_ne_nil hne
    exact .inr ⟨rfl, m, members, rfl⟩
  · rw [at?_object_cons] at hj ⊢
    obtain ⟨i, hi, hpath⟩ := Option.bind_eq_some_iff.mp hj
    obtain ⟨k, hk, hreflects⟩ := h name i hi
    rw [hk]
    exact hreflects path j hpath

/-- A decoded value, encoded again, holds what was read. -/
def Decoder.Faithful (d : Decoder α) (encode : α → Json) : Prop :=
  ∀ j a, d.ofTree j = .ok a → j.Reflects (encode a)

namespace Decoder

theorem faithful_string : Decoder.string.Faithful .string := by
  rintro (_ | _ | _ | s | _ | _) a h <;> cases h
  exact .refl _

theorem faithful_bool : Decoder.bool.Faithful .bool := by
  rintro (_ | b | _ | _ | _ | _) a h <;> cases h
  exact .refl _

theorem integer_ok {least greatest : Int} {expected : String} {j : Json} {n : Int}
    (h : (integer least greatest expected).ofTree j = .ok n) :
    j = .int n ∧ least ≤ n ∧ n ≤ greatest := by
  obtain _ | _ | (m | x) | _ | _ | _ := j
  case number.integer =>
    simp only [integer, within] at h
    split at h
    · rename_i hrange
      cases h
      exact ⟨rfl, hrange⟩
    · cases h
  all_goals cases h

theorem map_ok {d : Decoder α} {f : α → β} {j : Json} {b : β} (h : (d.map f).ofTree j = .ok b) :
    ∃ a, d.ofTree j = .ok a ∧ b = f a := by
  change (d.ofTree j).map f = .ok b at h
  cases hd : d.ofTree j with
  | error cause => rw [hd] at h; cases h
  | ok a => rw [hd] at h; cases h; exact ⟨a, rfl, rfl⟩

theorem nat_eq_int {m : Nat} {n : Int} (h : (m : Int) = n) : Json.nat m = .int n := h ▸ rfl

theorem faithful_uint32 : Decoder.uint32.Faithful fun n ↦ .nat n.toNat := by
  intro j a h
  obtain ⟨n, hn, rfl⟩ := map_ok h
  obtain ⟨rfl, hleast, hgreatest⟩ := integer_ok hn
  have hword : n.toNat < 2 ^ 32 := by omega
  have hsame : ((n.toNat.toUInt32).toNat : Int) = n := by
    rw [Nat.toUInt32_eq, UInt32.toNat_ofNat_of_lt' hword]
    omega
  change (Json.int n).Reflects (.nat _)
  rw [nat_eq_int hsame]
  exact .refl _

theorem faithful_uint64 (expected : String) :
    (Decoder.uint64 expected).Faithful fun n ↦ .nat n.toNat := by
  intro j a h
  obtain ⟨n, hn, rfl⟩ := map_ok h
  obtain ⟨rfl, hleast, hgreatest⟩ := integer_ok hn
  have hword : n.toNat < 2 ^ 64 := by omega
  have hsame : ((n.toNat.toUInt64).toNat : Int) = n := by
    rw [Nat.toUInt64_eq, UInt64.toNat_ofNat_of_lt' hword]
    omega
  change (Json.int n).Reflects (.nat _)
  rw [nat_eq_int hsame]
  exact .refl _

theorem mapM_string_ok {items : List Json} {ss : List String}
    (h : items.mapM Decoder.string.ofTree = .ok ss) : items = ss.map .string := by
  induction items generalizing ss with
  | nil => cases h; rfl
  | cons j items ih =>
    rw [List.mapM_cons] at h
    cases hj : Decoder.string.ofTree j with
    | error cause => rw [hj] at h; cases h
    | ok s =>
      cases hrest : items.mapM Decoder.string.ofTree with
      | error cause => rw [hj, hrest] at h; cases h
      | ok rest =>
        rw [hj, hrest] at h
        cases h
        rw [ih hrest, List.map_cons]
        obtain _ | _ | _ | t | _ | _ := j <;> cases hj
        rfl

theorem faithful_strings : (Decoder.list .string).Faithful fun ss ↦ .array (ss.map .string) := by
  rintro (_ | _ | _ | _ | items | _) ss h
  case array =>
    rw [mapM_string_ok h]
    exact .refl _
  all_goals cases h

end Decoder

/-- Setting the field sets what the encoding has under its name, and nothing else. -/
def Field.Shown (f : Field α) (encode : α → Json) : Prop :=
  ∀ j set, f.ofTree j = .ok set → ∀ a,
    (∃ k, (encode (set a)).member? f.name = some k ∧ j.Reflects k) ∧
      ∀ name, name ≠ f.name → (encode (set a)).member? name = (encode a).member? name

theorem Decoder.Faithful.shown {d : Decoder β} {inner : β → Json} (h : d.Faithful inner)
    {presence : Presence} {name : String} {set : β → α → α} {encode : α → Json}
    (hset : ∀ b a, (encode (set b a)).member? name = some (inner b))
    (hframe : ∀ b a other, other ≠ name →
      (encode (set b a)).member? other = (encode a).member? other) :
    (Field.of presence name d set).Shown encode := by
  intro j update hupdate a
  obtain ⟨b, hb, rfl⟩ := Decoder.map_ok hupdate
  exact ⟨⟨inner b, hset b a, h j b hb⟩, hframe b a⟩

structure Record.Encodes (r : Record α) (encode : α → Json) : Prop where
  object : ∀ a, ∃ m members, encode a = .object (m :: members)
  fields : ∀ f ∈ r.fields, f.Shown encode

namespace Record

variable {r : Record α} {encode : α → Json}

theorem lookup_ok (hclosed : r.isClosed) {seen : List String} {name : String}
    {found : Option (Field α)} (h : r.lookup seen name = .ok found) :
    ∃ f ∈ r.fields, found = some f ∧ f.name = name ∧ name ∉ seen := by
  rw [Record.lookup] at h
  split at h
  · rename_i f hf
    split at h
    · cases h
    · rename_i hseen
      cases h
      obtain ⟨hname, hmem⟩ := And.intro (List.find?_some hf) (List.mem_of_find?_eq_some hf)
      exact ⟨f, hmem, rfl, of_decide_eq_true hname, by simpa using hseen⟩
  · rw [if_pos hclosed] at h
    cases h

theorem Encodes.ofMembers (h : r.Encodes encode) (hclosed : r.isClosed)
    {members : List (String × Json)} {seen : List String} {a b : α}
    (hb : r.ofMembers seen a members = .ok b) :
    (∀ name j, members.lookup name = some j → ∃ k, (encode b).member? name = some k ∧
      j.Reflects k) ∧
      ∀ name ∈ seen, (encode b).member? name = (encode a).member? name := by
  induction members generalizing seen a with
  | nil =>
    rw [Record.ofMembers] at hb
    split at hb
    · cases hb
    · cases hb
      refine ⟨fun name j hj ↦ ?_, fun name _ ↦ rfl⟩
      cases hj
  | cons m members ih =>
    obtain ⟨n, j⟩ := m
    rw [Record.ofMembers] at hb
    cases hfound : r.lookup seen n with
    | error cause => rw [hfound] at hb; cases hb
    | ok found =>
      obtain ⟨f, hf, rfl, rfl, hseen⟩ := lookup_ok hclosed hfound
      cases hset : f.ofTree j with
      | error cause => rw [hfound] at hb; simp only [bind, Except.bind, hset] at hb; cases hb
      | ok set =>
        rw [hfound] at hb
        simp only [bind, Except.bind, hset] at hb
        obtain ⟨hmembers, hbefore⟩ := ih hb
        obtain ⟨⟨k, hk, hreflects⟩, hframe⟩ := h.fields f hf j set hset a
        refine ⟨fun name i hi ↦ ?_, fun name hname ↦ ?_⟩
        · rw [Sorted.lookup_cons] at hi
          split at hi
          · rename_i he
            cases hi
            exact ⟨k, he ▸ (hbefore _ List.mem_cons_self).trans hk, hreflects⟩
          · exact hmembers name i hi
        · have hne : name ≠ f.name := fun he ↦ hseen (he ▸ hname)
          exact (hbefore name (List.mem_cons_of_mem _ hname)).trans (hframe name hne)

theorem Encodes.faithful (h : r.Encodes encode) (hclosed : r.isClosed) :
    r.decoder.Faithful encode := by
  rintro (_ | _ | _ | _ | items | members) a ha
  case array =>
    obtain ⟨m, held, hobject⟩ := h.object a
    exact hobject ▸ reflects_array items m held
  case object =>
    obtain ⟨m, held, hobject⟩ := h.object a
    have hmembers := (h.ofMembers hclosed ha).1
    rw [hobject] at hmembers ⊢
    exact reflects_object (List.cons_ne_nil m held) hmembers
  all_goals cases ha

end Record

mutual

def places : Json → List (List String)
  | .object [] => [[]]
  | .object members => membersPlaces members
  | _ => [[]]

def membersPlaces : List (String × Json) → List (List String)
  | [] => []
  | (name, j) :: members => j.places.map (fun place ↦ name :: place) ++ membersPlaces members

end

theorem mem_membersPlaces {members : List (String × Json)} {place : List String} :
    place ∈ membersPlaces members ↔ ∃ m ∈ members, ∃ p ∈ m.2.places, place = m.1 :: p := by
  induction members with
  | nil => simp [membersPlaces]
  | cons m members ih =>
    rw [membersPlaces, List.mem_append, List.mem_map, ih, List.exists_mem_cons_iff]
    simp only [eq_comm]

theorem exists_mem_places : ∀ j : Json, ∃ place, place ∈ j.places
  | .null => ⟨[], List.mem_singleton_self _⟩
  | .bool _ => ⟨[], List.mem_singleton_self _⟩
  | .number _ => ⟨[], List.mem_singleton_self _⟩
  | .string _ => ⟨[], List.mem_singleton_self _⟩
  | .array _ => ⟨[], List.mem_singleton_self _⟩
  | .object [] => ⟨[], List.mem_singleton_self _⟩
  | .object ((name, j) :: members) => by
    obtain ⟨place, hplace⟩ := exists_mem_places j
    exact ⟨name :: place, mem_membersPlaces.mpr ⟨_, List.mem_cons_self, place, hplace, rfl⟩⟩

theorem exists_append_mem_places {path : List String} {j k : Json} (h : j.at? path = some k) :
    ∃ rest, path ++ rest ∈ j.places := by
  induction path generalizing j with
  | nil => exact exists_mem_places j
  | cons name path ih =>
    obtain _ | _ | _ | _ | _ | members := j
    case object =>
      obtain ⟨i, hi, hpath⟩ := Option.bind_eq_some_iff.mp h
      obtain ⟨rest, hrest⟩ := ih hpath
      have hmem := Sorted.mem_of_lookup hi
      obtain _ | ⟨m, members⟩ := members
      · cases hmem
      · exact ⟨rest, mem_membersPlaces.mpr ⟨_, hmem, _, hrest, rfl⟩⟩
    all_goals cases h

theorem IsCanonical.at?_place {j : Json} (h : j.IsCanonical) {place : List String}
    (hplace : place ∈ j.places) :
    ∃ k, j.at? place = some k ∧ ∀ m members, k ≠ .object (m :: members) := by
  induction place generalizing j with
  | nil =>
    refine ⟨j, rfl, ?_⟩
    rintro m members rfl
    obtain ⟨_, -, _, -, hcons⟩ := mem_membersPlaces.mp hplace
    cases hcons
  | cons name place ih =>
    obtain _ | _ | _ | _ | _ | (_ | ⟨m, members⟩) := j
    case object.cons =>
      obtain ⟨⟨n, i⟩, hmem, p, hp, hcons⟩ := mem_membersPlaces.mp hplace
      obtain ⟨rfl, rfl⟩ := List.cons.inj hcons
      obtain ⟨hsorted, hmembers⟩ := isCanonical_object.mp h
      obtain ⟨k, hk, hplain⟩ := ih (hmembers _ hmem) hp
      refine ⟨k, ?_, hplain⟩
      rw [at?_object_cons, hsorted.lookup_of_mem hmem]
      exact hk
    all_goals exact absurd (List.mem_singleton.mp hplace) (List.cons_ne_nil _ _)

theorem at?_append {j k : Json} {path : List String} (h : j.at? path = some k)
    (rest : List String) : j.at? (path ++ rest) = k.at? rest := by
  rw [at?, List.foldlM_append]
  exact congrArg (Option.bind · _) h

theorem at?_append_eq_none {j : Json} {path : List String} (h : j.at? path = none)
    (rest : List String) : j.at? (path ++ rest) = none := by
  rw [at?, List.foldlM_append]
  exact congrArg (Option.bind · _) h

/-- What is shown is all that is held if something is shown at every place. -/
theorem Reflects.eq_iff {shown held : Json} (h : shown.Reflects held) (hshown : shown.IsCanonical)
    (hheld : held.IsCanonical) : held = shown ↔ ∀ place ∈ held.places, shown.at? place ≠ none := by
  constructor
  · rintro rfl place hplace
    obtain ⟨k, hk, -⟩ := hheld.at?_place hplace
    rw [hk]
    exact Option.some_ne_none k
  · intro hplaces
    refine hheld.ext hshown fun path ↦ ?_
    cases hpath : shown.at? path with
    | none =>
      cases hpath' : held.at? path with
      | none => exact .inl rfl
      | some k =>
        obtain ⟨rest, hrest⟩ := exists_append_mem_places hpath'
        exact absurd (at?_append_eq_none hpath rest) (hplaces _ hrest)
    | some j =>
      obtain hsame | ⟨hnested, m, members, hobject⟩ := h path j hpath
      · exact .inl hsame
      · obtain _ | _ | _ | _ | items | shownMembers := j
        case object => exact .inr ⟨_, _, hobject, rfl⟩
        case array =>
          -- below the list there is nothing, and it does not stand at a place itself
          obtain ⟨rest, hrest⟩ := exists_append_mem_places hobject
          obtain _ | ⟨name, rest⟩ := rest
          · rw [List.append_nil] at hrest
            obtain ⟨k, hk, hplain⟩ := hheld.at?_place hrest
            exact absurd (Option.some.inj (hk.symm.trans hobject)) (hplain m members)
          · exact absurd (at?_append hpath (name :: rest)) (hplaces _ hrest)
        all_goals cases hnested

end CompileWorker.Json
