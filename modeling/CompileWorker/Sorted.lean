namespace CompileWorker.Sorted

section Set

variable {α : Type} [LT α] [DecidableLT α]

def insert (a : α) : List α → List α
  | [] => [a]
  | b :: rest => if a < b then a :: b :: rest else if b < a then b :: insert a rest else b :: rest

def insertAll (as : List α) (sorted : List α) : List α :=
  as.foldl (fun sorted a ↦ insert a sorted) sorted

end Set

section Map

variable {β : Type}

def put (name : String) (value : β) : List (String × β) → List (String × β)
  | [] => [(name, value)]
  | entry :: rest =>
    if name < entry.1 then (name, value) :: entry :: rest
    else if entry.1 < name then entry :: put name value rest
    else (name, value) :: rest

def IsSorted (entries : List (String × β)) : Prop := entries.Pairwise fun a b ↦ a.1 < b.1

theorem lt_of_mem_put {name a : String} {value : β} {entries : List (String × β)}
    {entry : String × β} (h : entry ∈ put name value entries) (hname : a < name)
    (hall : ∀ e ∈ entries, a < e.1) : a < entry.1 := by
  induction entries with
  | nil =>
    simp only [put, List.mem_singleton] at h
    exact h ▸ hname
  | cons e rest ih =>
    simp only [put] at h
    split at h
    · rcases List.mem_cons.mp h with rfl | h
      · exact hname
      · exact hall _ h
    · split at h
      · rcases List.mem_cons.mp h with rfl | h
        · exact hall _ List.mem_cons_self
        · exact ih h fun e he ↦ hall e (List.mem_cons_of_mem _ he)
      · rcases List.mem_cons.mp h with rfl | h
        · exact hname
        · exact hall _ (List.mem_cons_of_mem _ h)

theorem IsSorted.put {entries : List (String × β)} (h : IsSorted entries) (name : String)
    (value : β) : IsSorted (put name value entries) := by
  induction entries with
  | nil => simp [IsSorted, Sorted.put]
  | cons e rest ih =>
    obtain ⟨he, hrest⟩ := List.pairwise_cons.mp h
    simp only [Sorted.put]
    split
    · rename_i hlt
      refine List.pairwise_cons.mpr ⟨fun x hx ↦ ?_, h⟩
      rcases List.mem_cons.mp hx with rfl | hx
      · exact hlt
      · exact String.lt_trans hlt (he x hx)
    · split
      · rename_i hlt
        exact List.pairwise_cons.mpr ⟨fun x hx ↦ lt_of_mem_put hx hlt he, ih hrest⟩
      · rename_i h₁ h₂
        have : name = e.1 := String.le_antisymm (String.not_lt.mp h₂) (String.not_lt.mp h₁)
        exact List.pairwise_cons.mpr ⟨fun x hx ↦ this ▸ he x hx, hrest⟩

end Map

end CompileWorker.Sorted
