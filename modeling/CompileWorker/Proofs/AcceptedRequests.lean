import CompileWorker.Message.Compile
import CompileWorker.Proofs.DecoderRoundTrip

namespace CompileWorker

open Json

namespace CompileRequest

theorem takes_toJson (r : CompileRequest) : Takes CompileRequest.decoder.ofText r.toJson r := by
  have hstrings (ss : List String) :
      Takes (Decoder.list .string).ofText (.array (ss.map .string)) ss :=
    takes_list (fun s _ ↦ takes_string s) fun s _ ↦ opens_text (j := .string s) rfl
  have hdir (dir : String) : Takes Decoder.string.optional.ofText (.string dir) (some dir) :=
    takes_optional (takes_string dir) (encode_string dir) (by decide) (by decide)
  obtain ⟨aot, classesDir, classpath, outputJar, srcDir, srcs⟩ := r
  refine Record.takes (.field rfl (hstrings aot).field (.field rfl (takes_string classesDir).field
    (.field rfl (hstrings classpath).field (.field rfl (takes_string outputJar).field ?_))))
  cases srcDir with
  | none => exact .field rfl (hstrings srcs).field (.done rfl)
  | some dir => exact .field rfl (hdir dir).field (.field rfl (hstrings srcs).field (.done rfl))

theorem depth_toJson_le (r : CompileRequest) : r.toJson.depth ≤ 2 := by
  have hstrings (ss : List String) : (Json.array (ss.map .string)).depth ≤ 1 := by
    rw [depth_array_le_iff, List.forall_mem_map]
    exact fun s _ ↦ Nat.zero_le _
  rw [toJson, depth_object_le_iff]
  intro m hm
  simp only [List.mem_append, List.mem_cons, List.not_mem_nil, or_false, List.mem_map] at hm
  rcases hm with ((rfl | rfl | rfl | rfl) | ⟨dir, -, rfl⟩) | rfl
  · exact hstrings r.aot
  · exact Nat.zero_le _
  · exact hstrings r.classpath
  · exact Nat.zero_le _
  · exact Nat.zero_le _
  · exact hstrings r.srcs

theorem ofString_text (r : CompileRequest) : ofString r.toJson.text = r.validate := by
  have hdecoded := r.takes_toJson.decode (r.depth_toJson_le.trans (by decide))
  rw [ofString, ofText, hdecoded]

def IsBlankName (name : String) : Prop := ∀ c ∈ name.toList, Text.isBlank c

structure IsValid (r : CompileRequest) : Prop where
  classesDir : r.classesDir ≠ ""
  outputJar : r.outputJar ≠ ""
  classpath : ∀ entry ∈ r.classpath, entry ≠ ""
  aot : ∀ name ∈ r.aot, ¬ IsBlankName name

def IsFirst (p : String → Prop) (items : List String) (index : Nat) : Prop :=
  ∃ h : index < items.length, p items[index] ∧ ∀ i, ∀ hi : i < index, ¬ p items[i]

/-- The error that tells of the first condition that is violated, and where a list violates it
first. -/
inductive Violates (r : CompileRequest) : WorkError → Prop
  | classesDir (h : r.classesDir = "") :
      r.Violates (.invalidRequest "classes-dir must not be empty")
  | outputJar (hclasses : r.classesDir ≠ "") (h : r.outputJar = "") :
      r.Violates (.invalidRequest "output-jar must not be empty")
  | classpath {index : Nat} (hclasses : r.classesDir ≠ "") (houtput : r.outputJar ≠ "")
      (h : IsFirst (· = "") r.classpath index) : r.Violates (.emptyEntry "classpath" index)
  | aot {index : Nat} (hclasses : r.classesDir ≠ "") (houtput : r.outputJar ≠ "")
      (hclasspath : ∀ entry ∈ r.classpath, entry ≠ "") (h : IsFirst IsBlankName r.aot index) :
      r.Violates (.emptyEntry "aot" index)

theorem Violates.code {r : CompileRequest} {e : WorkError} (h : r.Violates e) :
    e.code = .invalidRequest := by
  cases h <;> rfl

section Search

variable {p : String → Prop} {test : String → Bool} (htest : ∀ s, test s = true ↔ p s)
  {items : List String}

include htest

theorem findIdx?_eq_some_iff_isFirst {index : Nat} :
    items.findIdx? test = some index ↔ IsFirst p items index := by
  simp only [List.findIdx?_eq_some_iff_getElem, htest, IsFirst]

theorem findIdx?_eq_none_iff_forall : items.findIdx? test = none ↔ ∀ s ∈ items, ¬ p s := by
  simp only [List.findIdx?_eq_none_iff, ← htest, Bool.not_eq_true]

end Search

theorem isBlankText_iff (s : String) : Text.isBlankText s = true ↔ IsBlankName s := List.all_eq_true

variable {r : CompileRequest} {e : WorkError}

theorem IsValid.problem?_eq (h : r.IsValid) : r.problem? = none := by
  have hclasspath := (findIdx?_eq_none_iff_forall fun _ ↦ decide_eq_true_iff).mpr h.classpath
  have haot := (findIdx?_eq_none_iff_forall isBlankText_iff).mpr h.aot
  rw [problem?, if_neg h.classesDir, if_neg h.outputJar, hclasspath, haot]
  rfl

theorem Violates.problem?_eq (h : r.Violates e) : r.problem? = some e := by
  cases h with
  | classesDir h => rw [problem?, if_pos h]
  | outputJar hclasses h => rw [problem?, if_neg hclasses, if_pos h]
  | classpath hclasses houtput h =>
    have hfirst := (findIdx?_eq_some_iff_isFirst fun _ ↦ decide_eq_true_iff).mpr h
    rw [problem?, if_neg hclasses, if_neg houtput, hfirst]
  | aot hclasses houtput hclasspath h =>
    have hnone := (findIdx?_eq_none_iff_forall fun _ ↦ decide_eq_true_iff).mpr hclasspath
    have hfirst := (findIdx?_eq_some_iff_isFirst isBlankText_iff).mpr h
    rw [problem?, if_neg hclasses, if_neg houtput, hnone, hfirst]
    rfl

theorem isValid_or_violates (r : CompileRequest) : r.IsValid ∨ ∃ e, r.Violates e := by
  by_cases hclasses : r.classesDir = ""
  · exact .inr ⟨_, .classesDir hclasses⟩
  by_cases houtput : r.outputJar = ""
  · exact .inr ⟨_, .outputJar hclasses houtput⟩
  cases hfirst : r.classpath.findIdx? fun entry ↦ decide (entry = "") with
  | some index =>
    have hempty := (findIdx?_eq_some_iff_isFirst fun _ ↦ decide_eq_true_iff).mp hfirst
    exact .inr ⟨_, .classpath hclasses houtput hempty⟩
  | none =>
    have hclasspath := (findIdx?_eq_none_iff_forall fun _ ↦ decide_eq_true_iff).mp hfirst
    cases hfirst : r.aot.findIdx? Text.isBlankText with
    | some index =>
      have hblank := (findIdx?_eq_some_iff_isFirst isBlankText_iff).mp hfirst
      exact .inr ⟨_, .aot hclasses houtput hclasspath hblank⟩
    | none => exact .inl ⟨hclasses, houtput, hclasspath,
        (findIdx?_eq_none_iff_forall isBlankText_iff).mp hfirst⟩

theorem problem?_eq_none_iff : r.problem? = none ↔ r.IsValid := by
  refine ⟨fun h ↦ ?_, IsValid.problem?_eq⟩
  obtain hvalid | ⟨e, hviolates⟩ := r.isValid_or_violates
  · exact hvalid
  · cases h.symm.trans hviolates.problem?_eq

theorem problem?_eq_some_iff : r.problem? = some e ↔ r.Violates e := by
  refine ⟨fun h ↦ ?_, Violates.problem?_eq⟩
  obtain hvalid | ⟨e', hviolates⟩ := r.isValid_or_violates
  · cases h.symm.trans hvalid.problem?_eq
  · cases h.symm.trans hviolates.problem?_eq
    exact hviolates

theorem validate_eq_ok_iff {r' : CompileRequest} : r.validate = .ok r' ↔ r' = r ∧ r.IsValid := by
  rw [← problem?_eq_none_iff, validate]
  cases r.problem? <;> simp [eq_comm]

theorem validate_eq_error_iff : r.validate = .error e ↔ r.Violates e := by
  rw [← problem?_eq_some_iff, validate]
  cases r.problem? <;> simp

theorem isValid_of_ofString {text : String} (h : ofString text = .ok r) : r.IsValid := by
  rw [ofString, ofText] at h
  split at h
  · cases h
  · exact (validate_eq_ok_iff.mp h).1 ▸ (validate_eq_ok_iff.mp h).2

/-- A request that is written and read is accepted exactly if it meets all conditions, and comes out
as it went in; otherwise the error tells of the first condition that it violates. And a request that
was accepted from any text meets all conditions, so it is accepted whenever it is written again. -/
theorem accepted_exactly_if_valid (r : CompileRequest) :
    (ofString r.toJson.text = .ok r ↔ r.IsValid) ∧
    (∀ e, ofString r.toJson.text = .error e ↔ r.Violates e ∧ e.code = .invalidRequest) ∧
    (r.IsValid ∨ ∃ e, r.Violates e) ∧
    ∀ text, ofString text = .ok r → r.IsValid ∧ ofString r.toJson.text = .ok r := by
  have hvalid : ofString r.toJson.text = .ok r ↔ r.IsValid := by
    rw [ofString_text, validate_eq_ok_iff, and_iff_right rfl]
  refine ⟨hvalid, fun e ↦ ?_, r.isValid_or_violates, fun text h ↦ ?_⟩
  · rw [ofString_text, validate_eq_error_iff]
    exact (and_iff_left_of_imp Violates.code).symm
  · exact ⟨isValid_of_ofString h, hvalid.mpr (isValid_of_ofString h)⟩

theorem request_given_as_list_reads_back :
    ∃ r : CompileRequest, r.classpath = ["a.jar"] ∧
      ofString "[[],\"c\",[\"a.jar\"],\"o\"]" = .ok r ∧
      r.IsValid ∧ ofString r.toJson.text = .ok r := by
  have haccepted : (ofString "[[],\"c\",[\"a.jar\"],\"o\"]").toOption =
      some { classesDir := "c", classpath := ["a.jar"], outputJar := "o" } := by decide +kernel
  cases hread : ofString "[[],\"c\",[\"a.jar\"],\"o\"]" with
  | error e =>
    rw [hread] at haccepted
    cases haccepted
  | ok r =>
    rw [hread] at haccepted
    obtain rfl := Option.some.inj haccepted
    exact ⟨_, rfl, rfl, (accepted_exactly_if_valid _).2.2.2 _ hread⟩

end CompileRequest

end CompileWorker
