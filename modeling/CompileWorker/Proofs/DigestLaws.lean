import CompileWorker.Digest.Map

namespace CompileWorker

namespace Sorted

variable {β : Type}

theorem lookup_cons (a b : String) (v : β) (entries : List (String × β)) :
    ((b, v) :: entries).lookup a = if a = b then some v else entries.lookup a := by
  by_cases h : a = b
  · simp [h]
  · simp [List.lookup_cons, beq_false_of_ne h, h]

theorem lookup_put (name a : String) (value : β) (entries : List (String × β)) :
    (put name value entries).lookup a = if a = name then some value else entries.lookup a := by
  induction entries with
  | nil => exact lookup_cons a name value []
  | cons e rest ih =>
    obtain ⟨b, v⟩ := e
    simp only [put]
    split
    · exact lookup_cons a name value _
    · split
      · rename_i hlt
        have hne : b ≠ name := fun h ↦ String.lt_irrefl b (h ▸ hlt)
        rw [lookup_cons, lookup_cons, ih]
        by_cases hb : a = b
        · simp [hb, hne]
        · simp [hb]
      · rename_i h₁ h₂
        have hb : name = b := String.le_antisymm (String.not_lt.mp h₂) (String.not_lt.mp h₁)
        subst hb
        by_cases h : a = name <;> simp [lookup_cons, h]

theorem mem_of_lookup {entries : List (String × β)} {a : String} {v : β}
    (h : entries.lookup a = some v) : (a, v) ∈ entries := by
  induction entries with
  | nil => simp at h
  | cons e rest ih =>
    obtain ⟨b, w⟩ := e
    rw [lookup_cons] at h
    split at h
    · simp_all
    · exact List.mem_cons_of_mem _ (ih h)

theorem IsSorted.lookup_of_mem {entries : List (String × β)} (h : IsSorted entries) {a : String}
    {v : β} (hm : (a, v) ∈ entries) : entries.lookup a = some v := by
  induction entries with
  | nil => simp at hm
  | cons e rest ih =>
    obtain ⟨b, w⟩ := e
    obtain ⟨hb, hrest⟩ := List.pairwise_cons.mp h
    rw [lookup_cons]
    rcases List.mem_cons.mp hm with he | hm
    · simp_all
    · have hne : a ≠ b := fun he ↦ String.lt_irrefl b (he ▸ hb _ hm)
      rw [if_neg hne, ih hrest hm]

theorem mem_insert_iff {α : Type} [LT α] [DecidableLT α]
    (hcompare : ∀ a b : α, ¬ a < b → ¬ b < a → a = b) {a x : α} {sorted : List α} :
    x ∈ insert a sorted ↔ x = a ∨ x ∈ sorted := by
  induction sorted with
  | nil => simp [insert]
  | cons b rest ih =>
    simp only [insert]
    split
    · simp
    · split
      · rw [List.mem_cons, ih, List.mem_cons, or_left_comm]
      · rename_i h₁ h₂
        have hab : a = b := hcompare a b h₁ h₂
        simp [hab]

theorem mem_insertAll_iff {α : Type} [LT α] [DecidableLT α]
    (hcompare : ∀ a b : α, ¬ a < b → ¬ b < a → a = b) {x : α} {as sorted : List α} :
    x ∈ insertAll as sorted ↔ x ∈ as ∨ x ∈ sorted := by
  induction as generalizing sorted with
  | nil => exact (or_iff_right List.not_mem_nil).symm
  | cons a as ih =>
    refine ih.trans ?_
    rw [mem_insert_iff hcompare, List.mem_cons, or_left_comm, or_assoc]

theorem mem_insert {a x : String} {sorted : List String} :
    x ∈ insert a sorted ↔ x = a ∨ x ∈ sorted :=
  mem_insert_iff fun _ _ h₁ h₂ ↦ String.le_antisymm (String.not_lt.mp h₂) (String.not_lt.mp h₁)

end Sorted

namespace DigestMap

variable {a b : DigestMap} {l : String}

theorem mem_entries_iff {d : String} : (l, d) ∈ a.entries ↔ a.get? l = some d :=
  ⟨a.sorted.lookup_of_mem, Sorted.mem_of_lookup⟩

@[simp] theorem get?_empty (l : String) : empty.get? l = none := rfl

@[simp] theorem get?_insert (m : DigestMap) (location digest l : String) :
    (m.insert location digest).get? l = if l = location then some digest else m.get? l :=
  Sorted.lookup_put location l digest m.entries

theorem get?_foldl_insert {pairs : List (String × String)} (h : Sorted.IsSorted pairs)
    (m : DigestMap) (l : String) :
    (pairs.foldl (fun m p ↦ m.insert p.1 p.2) m).get? l = (pairs.lookup l).or (m.get? l) := by
  induction pairs generalizing m with
  | nil => rfl
  | cons p pairs ih =>
    obtain ⟨c, d⟩ := p
    obtain ⟨hc, hpairs⟩ := List.pairwise_cons.mp h
    rw [List.foldl_cons, ih hpairs, get?_insert, Sorted.lookup_cons]
    by_cases hl : l = c
    · subst hl
      have hnone : pairs.lookup l = none := by
        cases hp : pairs.lookup l with
        | none => rfl
        | some d' => exact absurd (hc _ (Sorted.mem_of_lookup hp)) (String.lt_irrefl l)
      simp [hnone]
    · simp [hl]

@[simp] theorem get?_merge (m other : DigestMap) (l : String) :
    (m.merge other).get? l = (other.get? l).or (m.get? l) :=
  get?_foldl_insert other.sorted m l

/-- Both maps give the location a digest, and not the same. -/
def DiffersAt (a b : DigestMap) (l : String) : Prop :=
  ∃ x y, a.get? l = some x ∧ b.get? l = some y ∧ x ≠ y

def Agrees (a b : DigestMap) : Prop := ∀ l, ¬ a.DiffersAt b l

theorem Agrees.eq (h : a.Agrees b) {x y : String} (hx : a.get? l = some x)
    (hy : b.get? l = some y) : x = y := by
  by_cases he : x = y
  · exact he
  · exact absurd ⟨x, y, hx, hy, he⟩ (h l)

theorem DiffersAt.symm (h : a.DiffersAt b l) : b.DiffersAt a l := by
  obtain ⟨x, y, hx, hy, hne⟩ := h
  exact ⟨y, x, hy, hx, hne.symm⟩

theorem Agrees.symm (h : a.Agrees b) : b.Agrees a := fun l hl ↦ h l hl.symm

def change? (requested : DigestMap) : String × String → Option Comparison := fun (location, old) ↦
  match requested.get? location with
  | some new => if new = old then none else some (.differ location old new)
  | none => none

theorem change?_eq_none_iff {x : String} :
    change? b (l, x) = none ↔ ∀ y, b.get? l = some y → x = y := by
  cases hy : b.get? l with
  | none => simp [change?, hy]
  | some y => simp [change?, hy, eq_comm]

theorem change?_eq_some_iff {x : String} {c : Comparison} :
    change? b (l, x) = some c ↔ ∃ y, b.get? l = some y ∧ x ≠ y ∧ c = .differ l x y := by
  cases hy : b.get? l with
  | none => simp [change?, hy]
  | some y => simp [change?, hy, eq_comm]

theorem compare_eq (a b : DigestMap) :
    a.compare b = (a.entries.findSome? (change? b)).getD .agree := rfl

theorem compare_eq_agree_iff : a.compare b = .agree ↔ a.Agrees b := by
  rw [compare_eq]
  constructor
  · rintro h l ⟨x, y, hx, hy, hne⟩
    cases hf : a.entries.findSome? (change? b) with
    | none =>
      have hnone := List.findSome?_eq_none_iff.mp hf _ (mem_entries_iff.mpr hx)
      exact hne (change?_eq_none_iff.mp hnone y hy)
    | some c =>
      obtain ⟨⟨m, z⟩, -, hc⟩ := List.exists_of_findSome?_eq_some hf
      obtain ⟨w, -, -, rfl⟩ := change?_eq_some_iff.mp hc
      simp [hf] at h
  · intro h
    have hnone : a.entries.findSome? (change? b) = none := by
      refine List.findSome?_eq_none_iff.mpr fun ⟨l, x⟩ hm ↦ change?_eq_none_iff.mpr fun y hy ↦ ?_
      exact h.eq (mem_entries_iff.mp hm) hy
    simp [hnone]

theorem differ_of_compare {x y : String} (h : a.compare b = .differ l x y) :
    a.get? l = some x ∧ b.get? l = some y ∧ x ≠ y ∧ ∀ l', l' < l → ¬ a.DiffersAt b l' := by
  rw [compare_eq] at h
  cases hf : a.entries.findSome? (change? b) with
  | none => simp [hf] at h
  | some c =>
    obtain ⟨before, ⟨m, old⟩, after, hsplit, hc, hbefore⟩ := List.findSome?_eq_some_iff.mp hf
    obtain ⟨new, hnew, hne, rfl⟩ := change?_eq_some_iff.mp hc
    rw [hf, Option.getD_some] at h
    obtain ⟨rfl, rfl, rfl⟩ := Comparison.differ.inj h
    refine ⟨mem_entries_iff.mp (hsplit ▸ by simp), hnew, hne, ?_⟩
    rintro l' hlt ⟨x', y', hx', hy', hne'⟩
    have hsorted := a.sorted
    rw [hsplit] at hsorted
    -- an entry below the first that differs stands before it
    have hmem : (l', x') ∈ before := by
      have hm := mem_entries_iff.mpr hx'
      rw [hsplit] at hm
      rcases List.mem_append.mp hm with hm | hm
      · exact hm
      · rcases List.mem_cons.mp hm with he | hm
        · cases he
          exact absurd hlt (String.lt_irrefl _)
        · have hgt := (List.pairwise_cons.mp (List.pairwise_append.mp hsorted).2.1).1 _ hm
          exact absurd (String.lt_trans hlt hgt) (String.lt_irrefl _)
    exact hne' (change?_eq_none_iff.mp (hbefore _ hmem) y' hy')

theorem compare_eq_differ_iff {x y : String} :
    a.compare b = .differ l x y ↔
      a.get? l = some x ∧ b.get? l = some y ∧ x ≠ y ∧ ∀ l', l' < l → ¬ a.DiffersAt b l' := by
  refine ⟨differ_of_compare, fun ⟨hx, hy, hne, hleast⟩ ↦ ?_⟩
  cases hc : a.compare b with
  | agree => exact absurd ⟨x, y, hx, hy, hne⟩ (compare_eq_agree_iff.mp hc l)
  | differ m z w =>
    obtain ⟨hz, hw, hne', hleast'⟩ := differ_of_compare hc
    have hml : ¬ m < l := fun hlt ↦ hleast m hlt ⟨z, w, hz, hw, hne'⟩
    have hlm : ¬ l < m := fun hlt ↦ hleast' l hlt ⟨x, y, hx, hy, hne⟩
    have hm : m = l := String.le_antisymm (String.not_lt.mp hlm) (String.not_lt.mp hml)
    subst hm
    rw [hx] at hz
    rw [hy] at hw
    cases hz
    cases hw
    rfl

end DigestMap

end CompileWorker
