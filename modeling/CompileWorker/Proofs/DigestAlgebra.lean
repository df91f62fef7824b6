import CompileWorker.Proofs.CanonicalValues
import Mathlib.Data.List.TFAE
import Mathlib.Tactic.TFAE

namespace CompileWorker.DigestMap

variable {a b c : DigestMap} {l x y : String}

theorem ext_get? (h : ∀ l, a.get? l = b.get? l) : a = b := by
  have hentries := a.sorted.ext b.sorted h
  obtain ⟨entries, _⟩ := a
  obtain rfl : entries = b.entries := hentries
  rfl

theorem Agrees.refl (a : DigestMap) : a.Agrees a := by
  rintro l ⟨x, y, hx, hy, hne⟩
  exact hne (Option.some.inj (hx.symm.trans hy))

theorem agrees_comm : a.Agrees b ↔ b.Agrees a := ⟨Agrees.symm, Agrees.symm⟩

theorem differsAt_comm : a.DiffersAt b l ↔ b.DiffersAt a l := ⟨DiffersAt.symm, DiffersAt.symm⟩

theorem get?_merge_of_some (h : b.get? l = some y) : (a.merge b).get? l = some y := by
  rw [get?_merge, h, Option.some_or]

theorem agrees_merge (a b : DigestMap) : (a.merge b).Agrees b := by
  intro l hl
  obtain ⟨x, y, hx, hy, hne⟩ := hl
  rw [get?_merge_of_some hy] at hx
  exact hne (Option.some.inj hx).symm

theorem merge_comm_iff : a.merge b = b.merge a ↔ a.Agrees b := by
  constructor
  · intro h l hl
    obtain ⟨x, y, hx, hy, hne⟩ := hl
    have hmerged := get?_merge_of_some (a := a) hy
    rw [h, get?_merge_of_some hx] at hmerged
    exact hne (Option.some.inj hmerged)
  · intro h
    apply ext_get?
    intro l
    rw [get?_merge, get?_merge]
    cases hx : a.get? l with
    | none => rw [Option.or_none, Option.none_or]
    | some x =>
      cases hy : b.get? l with
      | none => rfl
      | some y => rw [h.eq hx hy]

theorem Agrees.get?_merge_left (h : a.Agrees b) (hx : a.get? l = some x) :
    (a.merge b).get? l = some x := by
  rw [merge_comm_iff.mpr h]
  exact get?_merge_of_some hx

theorem Agrees.merge_agrees_iff (h : a.Agrees b) :
    (a.merge b).Agrees c ↔ a.Agrees c ∧ b.Agrees c := by
  constructor
  · intro hmerged
    constructor
    · intro l hl
      obtain ⟨x, z, hx, hz, hne⟩ := hl
      exact hne (hmerged.eq (h.get?_merge_left hx) hz)
    · intro l hl
      obtain ⟨y, z, hy, hz, hne⟩ := hl
      exact hne (hmerged.eq (get?_merge_of_some hy) hz)
  · intro hboth l hl
    obtain ⟨ha, hb⟩ := hboth
    obtain ⟨x, z, hx, hz, hne⟩ := hl
    rw [get?_merge, Option.or_eq_some_iff] at hx
    obtain hx | ⟨-, hx⟩ := hx
    · exact hne (hb.eq hx hz)
    · exact hne (ha.eq hx hz)

/-- Unless the maps agree, the merged one agrees with the second but does not stand for the
first. -/
theorem agrees_of_merge_agrees_iff (h : ∀ c, (a.merge b).Agrees c ↔ a.Agrees c ∧ b.Agrees c) :
    a.Agrees b := by
  have hb := (h b).mp (agrees_merge a b)
  exact hb.1

theorem compare_comm : a.compare b = .differ l x y ↔ b.compare a = .differ l y x := by
  have hleast : (∀ l', l' < l → ¬ a.DiffersAt b l') ↔ ∀ l', l' < l → ¬ b.DiffersAt a l' := by
    simp only [differsAt_comm]
  rw [compare_eq_differ_iff, compare_eq_differ_iff, hleast, ne_comm, and_left_comm]

/-- That maps agree where they share a location, in either order, that they can be merged in either
order, and that the merged map agrees with just what both agree with, is one and the same. Where
they do not agree, the first location on which they differ is reported with the digests of both. -/
theorem compare_merge_laws (a b : DigestMap) :
    [a.compare b = .agree,
      a.Agrees b,
      b.compare a = .agree,
      a.merge b = b.merge a,
      ∀ c, (a.merge b).compare c = .agree ↔ a.compare c = .agree ∧ b.compare c = .agree].TFAE ∧
    ∀ l x y,
      (a.compare b = .differ l x y ↔
        a.get? l = some x ∧ b.get? l = some y ∧ x ≠ y ∧ ∀ l', l' < l → ¬ a.DiffersAt b l') ∧
      (a.compare b = .differ l x y ↔ b.compare a = .differ l y x) := by
  constructor
  · simp only [compare_eq_agree_iff]
    tfae_have 1 ↔ 2 := Iff.rfl
    tfae_have 2 ↔ 3 := agrees_comm
    tfae_have 4 ↔ 2 := merge_comm_iff
    tfae_have 2 → 5 := fun h c ↦ h.merge_agrees_iff
    tfae_have 5 → 2 := agrees_of_merge_agrees_iff
    tfae_finish
  · intro l x y
    exact ⟨compare_eq_differ_iff, compare_comm⟩

end CompileWorker.DigestMap
