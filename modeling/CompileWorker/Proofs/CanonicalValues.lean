import CompileWorker.Proofs.DigestLaws
import CompileWorker.Proofs.JsonRoundTrip

namespace CompileWorker

namespace Sorted

variable {β : Type}

theorem mem_of_mem_put {name : String} {value : β} {entries : List (String × β)}
    {entry : String × β} (h : entry ∈ put name value entries) :
    entry = (name, value) ∨ entry ∈ entries := by
  induction entries with
  | nil => exact .inl (List.mem_singleton.mp h)
  | cons e rest ih =>
    simp only [put] at h
    split at h
    · exact List.mem_cons.mp h
    · split at h
      · rcases List.mem_cons.mp h with rfl | h
        · exact .inr List.mem_cons_self
        · exact (ih h).imp_right (List.mem_cons_of_mem _)
      · exact (List.mem_cons.mp h).imp_right (List.mem_cons_of_mem _)

theorem IsSorted.lookup_tail {name : String} {value : β} {rest : List (String × β)}
    (h : IsSorted ((name, value) :: rest)) : rest.lookup name = none := by
  cases hl : rest.lookup name with
  | none => rfl
  | some v =>
    exact absurd ((List.pairwise_cons.mp h).1 _ (mem_of_lookup hl)) (String.lt_irrefl name)

theorem IsSorted.nodup {entries : List (String × β)} (h : IsSorted entries) : entries.Nodup := by
  refine List.Pairwise.imp ?_ h
  rintro e e' hlt rfl
  exact String.lt_irrefl _ hlt

theorem IsSorted.ext {a b : List (String × β)} (ha : IsSorted a) (hb : IsSorted b)
    (h : ∀ name, a.lookup name = b.lookup name) : a = b := by
  have hmem {a b : List (String × β)} (ha : IsSorted a)
    (h : ∀ name, a.lookup name = b.lookup name) :
      ∀ e ∈ a, e ∈ b := fun e he ↦ mem_of_lookup ((h e.1).symm.trans (ha.lookup_of_mem he))
  have hperm : a.Perm b := by
    refine (List.perm_ext_iff_of_nodup ha.nodup hb.nodup).mpr fun e ↦ ⟨?_, ?_⟩
    · exact hmem ha h e
    · exact hmem hb (fun name ↦ (h name).symm) e
  exact hperm.eq_of_pairwise (fun _ _ _ _ hab hba ↦ absurd hba (String.lt_asymm hab)) ha hb

end Sorted

namespace Json

theorem isSorted_foldl_put {α : Type} {sorted : List (String × α)} (h : Sorted.IsSorted sorted)
    (members : List (String × α)) :
    Sorted.IsSorted (members.foldl (fun sorted m ↦ Sorted.put m.1 m.2 sorted) sorted) := by
  induction members generalizing sorted with
  | nil => exact h
  | cons m members ih => exact ih (h.put m.1 m.2)

theorem mem_of_mem_foldl_put {α : Type} {sorted members : List (String × α)} {m : String × α}
    (h : m ∈ members.foldl (fun sorted m ↦ Sorted.put m.1 m.2 sorted) sorted) :
    m ∈ sorted ∨ m ∈ members := by
  induction members generalizing sorted with
  | nil => exact .inl h
  | cons m' members ih =>
    rcases ih h with h | h
    · rcases Sorted.mem_of_mem_put h with rfl | h
      · exact .inr List.mem_cons_self
      · exact .inl h
    · exact .inr (List.mem_cons_of_mem _ h)

theorem isSorted_sortMembers {α : Type} (members : List (String × α)) :
    Sorted.IsSorted (sortMembers members) :=
  isSorted_foldl_put List.Pairwise.nil members

theorem mem_of_mem_sortMembers {α : Type} {members : List (String × α)} {m : String × α}
    (h : m ∈ sortMembers members) : m ∈ members :=
  (mem_of_mem_foldl_put h).resolve_left List.not_mem_nil

/-- A value proper, as against one of the ways to write it. -/
def IsCanonical (j : Json) : Prop := j.canonical = j

theorem canonicalItems_eq_map (items : List Json) : canonicalItems items = items.map canonical := by
  induction items with
  | nil => rfl
  | cons j items ih => rw [canonicalItems, ih, List.map_cons]

theorem canonicalMembers_eq_map (members : List (String × Json)) :
    canonicalMembers members = members.map fun m ↦ (m.1, m.2.canonical) := by
  induction members with
  | nil => rfl
  | cons m members ih => rw [canonicalMembers, ih, List.map_cons]

theorem map_eq_self_iff {α : Type} {f : α → α} {as : List α} :
    as.map f = as ↔ ∀ a ∈ as, f a = a := by
  conv_lhs => rhs; rw [← List.map_id as]
  rw [List.map_inj_left]
  rfl

theorem isCanonical_array {items : List Json} :
    (Json.array items).IsCanonical ↔ ∀ j ∈ items, j.IsCanonical := by
  rw [IsCanonical, canonical, array.injEq, canonicalItems_eq_map, map_eq_self_iff]
  rfl

theorem isCanonical_object {members : List (String × Json)} :
    (Json.object members).IsCanonical ↔ Sorted.IsSorted members ∧
    ∀ m ∈ members, m.2.IsCanonical := by
  have hmembers : members.map (fun m ↦ (m.1, m.2.canonical)) = members ↔
      ∀ m ∈ members, m.2.IsCanonical := by
    rw [map_eq_self_iff]
    exact forall₂_congr fun m _ ↦ by rw [Prod.ext_iff, IsCanonical]; exact and_iff_right rfl
  have hsorted (h : Sorted.IsSorted members) :
      sortMembers (members.map fun m ↦ (m.1, m.2.canonical)) = members.map fun m ↦
        (m.1, m.2.canonical) :=
    sortMembers_of_sorted (List.pairwise_map.mpr h)
  rw [IsCanonical, canonical, object.injEq, canonicalMembers_eq_map]
  constructor
  · intro h
    have hs : Sorted.IsSorted members := h ▸ isSorted_sortMembers _
    exact ⟨hs, hmembers.mp ((hsorted hs).symm.trans h)⟩
  · rintro ⟨hs, hm⟩
    exact (hsorted hs).trans (hmembers.mpr hm)

theorem IsCanonical.of_lookup {members : List (String × Json)}
    (h : (Json.object members).IsCanonical) {name : String} {j : Json}
    (hj : members.lookup name = some j) : j.IsCanonical :=
  (isCanonical_object.mp h).2 _ (Sorted.mem_of_lookup hj)

mutual

theorem isCanonical_canonical : ∀ j : Json, j.canonical.IsCanonical
  | .null => rfl
  | .bool _ => rfl
  | .number _ => rfl
  | .string _ => rfl
  | .array items => isCanonical_array.mpr (canonicalItems_isCanonical items)
  | .object members =>
    isCanonical_object.mpr ⟨isSorted_sortMembers _, fun m hm ↦
      canonicalMembers_isCanonical members m (mem_of_mem_sortMembers hm)⟩

theorem canonicalItems_isCanonical : ∀ (items : List Json), ∀ j ∈ canonicalItems items,
    j.IsCanonical
  | [], _, h => absurd h List.not_mem_nil
  | i :: items, j, h => by
    rcases List.mem_cons.mp h with rfl | h
    · exact isCanonical_canonical i
    · exact canonicalItems_isCanonical items j h

theorem canonicalMembers_isCanonical :
    ∀ (members : List (String × Json)), ∀ m ∈ canonicalMembers members, m.2.IsCanonical
  | [], _, h => absurd h List.not_mem_nil
  | (name, j) :: members, m, h => by
    rcases List.mem_cons.mp h with rfl | h
    · exact isCanonical_canonical j
    · exact canonicalMembers_isCanonical members m h

end

theorem at?_nil (j : Json) : j.at? [] = some j := rfl

theorem at?_object_cons (members : List (String × Json)) (name : String) (path : List String) :
    (Json.object members).at? (name :: path) = (members.lookup name).bind fun k ↦ k.at? path := rfl

/-- What is found in two values under one path is the same, or an object in both. -/
def Alike (a b : Option Json) : Prop :=
  a = b ∨ ∃ members members', a = some (.object members) ∧ b = some (.object members')

theorem lookup_eq_of_alike {members members' : List (String × Json)} {name : String}
    (h : Alike (members.lookup name) (members'.lookup name))
    (hall : ∀ a b, members.lookup name = some a → members'.lookup name = some b → a = b) :
    members.lookup name = members'.lookup name := by
  obtain h | ⟨ms, ms', ha, hb⟩ := h
  · exact h
  · rw [ha, hb, hall _ _ ha hb]

/-- Canonical values that no path tells apart are equal. -/
theorem IsCanonical.ext {a b : Json} (ha : a.IsCanonical) (hb : b.IsCanonical)
    (h : ∀ path, Alike (a.at? path) (b.at? path)) : a = b := by
  -- on a bound for how deep the first value goes
  obtain ⟨n, hn⟩ : ∃ n, a.depth ≤ n := ⟨_, le_rfl⟩
  induction n generalizing a b with
  | zero =>
    obtain h | ⟨members, members', hobj, -⟩ := h []
    · exact Option.some.inj h
    · cases hobj
      rw [depth] at hn
      omega
  | succ n ih =>
    obtain h₀ | ⟨members, members', hobj, hobj'⟩ := h []
    · exact Option.some.inj h₀
    · cases hobj
      cases hobj'
      have hdepth := depth_object_le_iff.mp hn
      refine congrArg Json.object
        ((isCanonical_object.mp ha).1.ext (isCanonical_object.mp hb).1 fun name ↦ ?_)
      have hname := h [name]
      rw [at?_object_cons, at?_object_cons] at hname
      refine lookup_eq_of_alike (by simpa [at?_nil] using hname) fun c d hc hd ↦ ?_
      refine ih (ha.of_lookup hc) (hb.of_lookup hd) (fun path ↦ ?_)
        (hdepth _ (Sorted.mem_of_lookup hc))
      have hpath := h (name :: path)
      rwa [at?_object_cons, at?_object_cons, hc, hd] at hpath

end Json

end CompileWorker
