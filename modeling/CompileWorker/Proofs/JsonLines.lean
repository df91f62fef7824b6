import CompileWorker.Json.Printer

namespace CompileWorker

def OneLine (s : String) : Prop := '\n' ∉ s.toList

instance (s : String) : Decidable (OneLine s) := inferInstanceAs (Decidable (¬ _))

namespace OneLine

theorem append {s t : String} (hs : OneLine s) (ht : OneLine t) : OneLine (s ++ t) := by
  rw [OneLine, String.toList_append, List.mem_append, not_or]
  exact ⟨hs, ht⟩

theorem join {parts : List String} (h : ∀ s ∈ parts, OneLine s) : OneLine (String.join parts) := by
  rw [OneLine, String.toList_join, List.mem_flatMap]
  rintro ⟨s, hs, hfeed⟩
  exact h s hs hfeed

theorem intercalate {separator : String} {parts : List String} (hseparator : OneLine separator)
    (h : ∀ s ∈ parts, OneLine s) : OneLine (separator.intercalate parts) := by
  rw [OneLine, String.toList_intercalate, List.intercalate]
  induction parts with
  | nil => simp
  | cons s parts ih =>
    have hs : '\n' ∉ s.toList := h s List.mem_cons_self
    have hparts := ih fun s hs ↦ h s (List.mem_cons_of_mem _ hs)
    cases parts with
    | nil => simpa using hs
    | cons s' parts =>
      rw [List.map_cons, List.map_cons, List.intersperse_cons_cons, List.flatten_cons,
        List.flatten_cons, List.mem_append, List.mem_append, not_or, not_or]
      exact ⟨hs, hseparator, hparts⟩

theorem ofList {cs : List Char} (h : ∀ c ∈ cs, c.isDigit) : OneLine (String.ofList cs) := by
  rw [OneLine, String.toList_ofList]
  intro hfeed
  have hdigit := h _ hfeed
  revert hdigit
  decide

theorem ite {p : Prop} [Decidable p] {s t : String} (hs : p → OneLine s) (ht : ¬ p → OneLine t) :
    OneLine (if p then s else t) := by
  split
  · exact hs ‹_›
  · exact ht ‹_›

theorem repr (n : Nat) : OneLine (Nat.repr n) :=
  ofList fun _ hc ↦ Nat.isDigit_of_mem_toDigits (by decide) (by decide) hc

end OneLine

theorem OneLine.digits (digits : List Char) (n : Nat) (h : ∀ c ∈ digits, c ∈ (Nat.repr n).toList) :
    OneLine (String.ofList digits) :=
  .ofList fun _ hc ↦ Nat.isDigit_of_mem_toDigits (by decide) (by decide) (Nat.toList_repr ▸ h _ hc)

theorem OneLine.zeros (n : Nat) : OneLine (String.ofList (List.replicate n '0')) :=
  .ofList fun _ hc ↦ by rw [List.eq_of_mem_replicate hc]; rfl

theorem DoubleLayout.oneLine_write (layout : DoubleLayout) (d : Decimal) :
    OneLine (layout.write d) := by
  have htake : ∀ n, OneLine (String.ofList ((Nat.repr d.digits).toList.take n)) :=
    fun n ↦ .digits _ d.digits fun _ hc ↦ List.mem_of_mem_take hc
  have hdrop : ∀ n, OneLine (String.ofList ((Nat.repr d.digits).toList.drop n)) :=
    fun n ↦ .digits _ d.digits fun _ hc ↦ List.mem_of_mem_drop hc
  unfold DoubleLayout.write
  extract_lets digits first fraction
  split
  · split
    · exact ((OneLine.repr _).append (.zeros _)).append (by decide)
    · split
      · exact ((htake _).append (by decide)).append (hdrop _)
      · exact (OneLine.append (by decide) (.zeros _)).append (.repr _)
  · refine ((((htake 1).append ?_).append (by decide)).append ?_).append (.repr _)
    · split
      · decide
      · exact OneLine.append (by decide) (hdrop 1)
    · split <;> decide

theorem Number.oneLine_text (n : Number) : OneLine n.text := by
  cases n with
  | integer n =>
    cases n with
    | ofNat n => exact .repr n
    | negSucc n => exact OneLine.append (by decide) (.repr _)
  | double x =>
    refine OneLine.append ?_ (DoubleLayout.oneLine_write _ _)
    split <;> decide

namespace Json

theorem oneLine_escape (c : Char) : OneLine (escape c) := by
  have hhex : ∀ n < 0x20, OneLine (Text.hex n) := by decide
  unfold escape
  refine .ite (fun _ ↦ by decide) fun _ ↦ ?_
  refine .ite (fun _ ↦ by decide) fun _ ↦ ?_
  refine .ite (fun _ ↦ by decide) fun _ ↦ ?_
  refine .ite (fun _ ↦ by decide) fun _ ↦ ?_
  refine .ite (fun _ ↦ by decide) fun hfeed ↦ ?_
  refine .ite (fun _ ↦ by decide) fun _ ↦ ?_
  refine .ite (fun _ ↦ by decide) fun _ ↦ ?_
  refine .ite (fun hcontrol ↦ ?_) fun _ ↦ ?_
  · have hzero : OneLine (if c.toNat < 0x10 then "0" else "") :=
      .ite (fun _ ↦ by decide) fun _ ↦ by decide
    exact (OneLine.append (by decide) hzero).append (hhex _ hcontrol)
  · rw [OneLine, String.toList_singleton, List.mem_singleton]
    exact Ne.symm hfeed

theorem oneLine_stringText (s : String) : OneLine (stringText s) := by
  refine (OneLine.append (by decide) (.join fun t ht ↦ ?_)).append (by decide)
  obtain ⟨c, -, rfl⟩ := List.mem_map.mp ht
  exact oneLine_escape c

mutual

theorem oneLine_text : ∀ j : Json, OneLine j.text
  | .null => by decide
  | .bool b => by cases b <;> decide
  | .number n => by
    rw [text]
    exact n.oneLine_text
  | .string s => by
    rw [text]
    exact oneLine_stringText s
  | .array items => by
    rw [text]
    exact (OneLine.append (by decide) (.intercalate (by decide) (oneLine_itemTexts items))).append
      (by decide)
  | .object members => by
    rw [text]
    exact (OneLine.append (by decide)
      (.intercalate (by decide) (oneLine_memberTexts members))).append (by decide)

theorem oneLine_itemTexts : ∀ items : List Json, ∀ t ∈ itemTexts items, OneLine t
  | [] => by
    rw [itemTexts]
    exact List.forall_mem_nil _
  | j :: items => by
    rw [itemTexts]
    exact List.forall_mem_cons.mpr ⟨oneLine_text j, oneLine_itemTexts items⟩

theorem oneLine_memberTexts : ∀ members : List (String × Json), ∀ t ∈ memberTexts members, OneLine t
  | [] => by
    rw [memberTexts]
    exact List.forall_mem_nil _
  | (name, j) :: members => by
    rw [memberTexts]
    refine List.forall_mem_cons.mpr ⟨?_, oneLine_memberTexts members⟩
    exact ((oneLine_stringText name).append (by decide)).append (oneLine_text j)

end

end Json

end CompileWorker
