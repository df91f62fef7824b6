import CompileWorker.Proofs.CacheOutcomes
import CompileWorker.Proofs.DigestLaws

namespace CompileWorker

namespace Sorted

variable {α : Type} [LT α] [DecidableLT α]

theorem pairwise_insert (hcompare : ∀ a b : α, ¬ a < b → ¬ b < a → a = b)
    (htrans : ∀ a b c : α, a < b → b < c → a < c) {sorted : List α} (h : sorted.Pairwise (· < ·))
    (a : α) : (insert a sorted).Pairwise (· < ·) := by
  induction sorted with
  | nil => exact List.pairwise_singleton _ a
  | cons b rest ih =>
    obtain ⟨hb, hrest⟩ := List.pairwise_cons.mp h
    simp only [insert]
    split
    · rename_i hab
      refine List.pairwise_cons.mpr ⟨fun x hx ↦ ?_, h⟩
      rcases List.mem_cons.mp hx with rfl | hx
      · exact hab
      · exact htrans a b x hab (hb x hx)
    · split
      · rename_i hba
        refine List.pairwise_cons.mpr ⟨fun x hx ↦ ?_, ih hrest⟩
        rcases (mem_insert_iff hcompare).mp hx with rfl | hx
        · exact hba
        · exact hb x hx
      · exact h

theorem pairwise_insertAll (hcompare : ∀ a b : α, ¬ a < b → ¬ b < a → a = b)
    (htrans : ∀ a b c : α, a < b → b < c → a < c) {sorted : List α} (h : sorted.Pairwise (· < ·))
    (as : List α) : (insertAll as sorted).Pairwise (· < ·) := by
  induction as generalizing sorted with
  | nil => exact h
  | cons a as ih => exact ih (pairwise_insert hcompare htrans h a)

end Sorted

namespace UnitId

theorem eq_of_not_lt (u v : UnitId) (h₁ : ¬ u < v) (h₂ : ¬ v < u) : u = v := by
  obtain ⟨⟨m⟩, a⟩ := u
  obtain ⟨⟨n⟩, b⟩ := v
  simp only [LT.lt, EnvironmentId.mk.injEq, not_or, not_and] at h₁ h₂
  obtain rfl : m = n := Nat.le_antisymm (Nat.le_of_not_lt h₂.1) (Nat.le_of_not_lt h₁.1)
  rw [String.le_antisymm (String.not_lt.mp (h₂.2 rfl)) (String.not_lt.mp (h₁.2 rfl))]

theorem lt_irrefl (u : UnitId) : ¬ u < u := by
  rintro (h | ⟨-, h⟩)
  · exact Nat.lt_irrefl _ h
  · exact String.lt_irrefl _ h

theorem lt_trans (u v w : UnitId) (huv : u < v) (hvw : v < w) : u < w := by
  rcases huv with huv | ⟨huv, hnames⟩ <;> rcases hvw with hvw | ⟨hvw, hnames'⟩
  · exact .inl (Nat.lt_trans huv hvw)
  · exact .inl (hvw ▸ huv)
  · exact .inl (huv ▸ hvw)
  · exact .inr ⟨huv.trans hvw, String.lt_trans hnames hnames'⟩

end UnitId

namespace Environment

variable {σ : Type} [Guests σ] (env : Environment) (w : World σ)

theorem addLocation_units (location : String) :
    (env.addLocation location w).2.1.units = env.units := by
  by_cases hloaded : location ∈ env.locations
  · rw [addLocation_loaded hloaded]
  · rw [addLocation_new hloaded]
    rcases Guests.load env location w.guests with ⟨_ | _, guests⟩ <;> rfl

theorem addLocation_role (location : String) :
    (env.addLocation location w).2.1.role = env.role := by
  by_cases hloaded : location ∈ env.locations
  · rw [addLocation_loaded hloaded]
  · rw [addLocation_new hloaded]
    rcases Guests.load env location w.guests with ⟨_ | _, guests⟩ <;> rfl

theorem mem_units_invoke (entryPoint payload : String) (u : UnitId) :
    u ∈ (env.invoke entryPoint payload w).2.1.units ↔
      (u.owner = env.id ∧ u.name ∈ (Guests.invoke env entryPoint payload w.guests).1.2) ∨
      u ∈ env.units := by
  refine (Sorted.mem_insertAll_iff UnitId.eq_of_not_lt).trans (or_congr_left ?_)
  rw [List.mem_map]
  constructor
  · rintro ⟨name, hname, rfl⟩
    exact ⟨rfl, hname⟩
  · rintro ⟨howner, hname⟩
    exact ⟨u.name, hname, by rw [← howner]⟩

theorem pairwise_units_invoke (entryPoint payload : String) (h : env.units.Pairwise (· < ·)) :
    (env.invoke entryPoint payload w).2.1.units.Pairwise (· < ·) :=
  Sorted.pairwise_insertAll UnitId.eq_of_not_lt UnitId.lt_trans h _

end Environment

end CompileWorker
