import CompileWorker.Proofs.DigestAlgebra
import CompileWorker.Proofs.RestartBudget

namespace CompileWorker

def Input.digestOf? (i : Input) (location : String) : Option String :=
  if i.isDigested && i.path = location then some i.digest else none

def lastDigest? (inputs : List Input) (location : String) : Option String :=
  inputs.reverse.findSome? (·.digestOf? location)

theorem Input.digestOf?_eq_some_iff {i : Input} {l digest : String} :
    i.digestOf? l = some digest ↔ i.isDigested ∧ i.path = l ∧ i.digest = digest := by
  simp [digestOf?, and_assoc]

theorem lastDigest?_append (inputs more : List Input) (l : String) :
    lastDigest? (inputs ++ more) l = (lastDigest? more l).or (lastDigest? inputs l) := by
  rw [lastDigest?, List.reverse_append, List.findSome?_append]
  rfl

theorem lastDigest?_singleton (i : Input) (l : String) : lastDigest? [i] l = i.digestOf? l := by
  rw [lastDigest?, List.reverse_singleton, List.findSome?_singleton]

theorem lastDigest?_cons (i : Input) (inputs : List Input) (l : String) :
    lastDigest? (i :: inputs) l = (lastDigest? inputs l).or (i.digestOf? l) := by
  rw [← List.singleton_append, lastDigest?_append, lastDigest?_singleton]

theorem lastDigest?_eq_none_iff {inputs : List Input} {l : String} :
    lastDigest? inputs l = none ↔ ∀ i ∈ inputs, i.isDigested → i.path ≠ l := by
  simp [lastDigest?, Input.digestOf?]

namespace DigestMap

theorem forRequest_snoc (classpath : List String) (inputs : List Input) (i : Input) :
    forRequest classpath (inputs ++ [i]) =
      if i.isDigested && classpath.contains i.path then
        (forRequest classpath inputs).insert i.path i.digest
      else forRequest classpath inputs := by
  rw [forRequest, List.filter_append, List.filter_cons, List.filter_nil]
  split
  · rw [List.map_append, ofPairs, List.foldl_append]
    rfl
  · rw [List.append_nil]
    rfl

theorem get?_forRequest (classpath : List String) (inputs : List Input) (l : String) :
    (forRequest classpath inputs).get? l =
      if l ∈ classpath then lastDigest? inputs l else none := by
  induction inputs using List.reverseRecOn with
  | nil => exact (ite_self _).symm
  | append_singleton inputs i ih =>
    rw [forRequest_snoc, lastDigest?_append, lastDigest?_singleton, Input.digestOf?]
    by_cases hl : l = i.path
    · subst hl
      cases i.isDigested <;> by_cases hmem : i.path ∈ classpath <;> simp [hmem, ih]
    · have hpath : ¬ i.path = l := fun h ↦ hl h.symm
      split
      · simp [hl, hpath, ih]
      · simp [hpath, ih]

theorem forRequest_eq_iff {classpath : List String} {inputs inputs' : List Input} :
    forRequest classpath inputs = forRequest classpath inputs' ↔
      ∀ l ∈ classpath, lastDigest? inputs l = lastDigest? inputs' l := by
  constructor
  · intro h l hl
    have hget := congrArg (·.get? l) h
    simpa only [get?_forRequest, if_pos hl] using hget
  · refine fun h ↦ ext_get? fun l ↦ ?_
    rw [get?_forRequest, get?_forRequest]
    split
    · exact h l ‹_›
    · rfl

end DigestMap

/-- A change of inputs that no location on the classpath is told by. -/
inductive Immaterial (classpath : List String) : List Input → List Input → Prop
  | swap {i j : Input} (h : i.path ≠ j.path) (before after : List Input) :
      Immaterial classpath (before ++ i :: j :: after) (before ++ j :: i :: after)
  | undigested {i : Input} (h : ¬ i.isDigested) (before after : List Input) :
      Immaterial classpath (before ++ i :: after) (before ++ after)
  | untracked {i : Input} (h : i.path ∉ classpath) (before after : List Input) :
      Immaterial classpath (before ++ i :: after) (before ++ after)
  /-- a later input gives the same path another digest -/
  | superseded {i j : Input} (h : j.isDigested) (hpath : j.path = i.path) (before : List Input)
      {after : List Input}
      (hlater : j ∈ after) : Immaterial classpath (before ++ i :: after) (before ++ after)

namespace Immaterial

variable {classpath : List String} {inputs inputs' : List Input}

/-- Changes in any number, in either direction. -/
abbrev Many (classpath : List String) : List Input → List Input → Prop :=
  Relation.EqvGen (Immaterial classpath)

theorem lastDigest?_eq (h : Immaterial classpath inputs inputs') :
    ∀ l ∈ classpath, lastDigest? inputs l = lastDigest? inputs' l := by
  intro l hl
  have hdrop {i : Input} {after : List Input}
    (hi : lastDigest? after l = none → i.digestOf? l = none) :
      (lastDigest? after l).or (i.digestOf? l) = lastDigest? after l := by
    cases hafter : lastDigest? after l with
    | none => rw [hi hafter]; rfl
    | some d => rfl
  cases h with
  | @swap i j h before after =>
    rw [lastDigest?_append, lastDigest?_append]
    simp only [lastDigest?_cons]
    congr 1
    rw [Option.or_assoc, Option.or_assoc]
    congr 1
    by_cases hi : i.path = l
    · have hj : ¬ j.path = l := fun hj ↦ h (hi.trans hj.symm)
      simp [Input.digestOf?, hj]
    · simp [Input.digestOf?, hi]
  | undigested h before after =>
    rw [lastDigest?_append, lastDigest?_append, lastDigest?_cons, hdrop]
    exact fun _ ↦ by simp [Input.digestOf?, h]
  | @untracked i h before after =>
    rw [lastDigest?_append, lastDigest?_append, lastDigest?_cons, hdrop]
    have hi : ¬ i.path = l := fun hi ↦ h (hi ▸ hl)
    exact fun _ ↦ by simp [Input.digestOf?, hi]
  | @superseded i j h hpath before after hlater =>
    rw [lastDigest?_append, lastDigest?_append, lastDigest?_cons, hdrop]
    intro hnone
    have hi : ¬ i.path = l := hpath ▸ lastDigest?_eq_none_iff.mp hnone j hlater h
    simp [Input.digestOf?, hi]

theorem cons (h : Immaterial classpath inputs inputs') (i : Input) :
    Immaterial classpath (i :: inputs) (i :: inputs') := by
  cases h with
  | swap h before after => exact .swap h (i :: before) after
  | undigested h before after => exact .undigested h (i :: before) after
  | untracked h before after => exact .untracked h (i :: before) after
  | superseded h hpath before hlater => exact .superseded h hpath (i :: before) hlater

theorem Many.cons (h : Many classpath inputs inputs') (i : Input) :
    Many classpath (i :: inputs) (i :: inputs') := by
  induction h with
  | rel _ _ h => exact .rel _ _ (h.cons i)
  | refl => exact .refl _
  | symm _ _ _ ih => exact ih.symm
  | trans _ _ _ _ _ ih₁ ih₂ => exact ih₁.trans _ _ _ ih₂

end Immaterial

/-- The inputs that a location on the classpath is told by. -/
def decisive (classpath : List String) : List Input → List Input
  | [] => []
  | i :: inputs =>
    if i.isDigested ∧ i.path ∈ classpath ∧ lastDigest? inputs i.path = none then
      i :: decisive classpath inputs
    else decisive classpath inputs

section Decisive

variable {classpath : List String} {inputs inputs' : List Input}

theorem mem_decisive_iff {i : Input} :
    i ∈ decisive classpath inputs ↔ i.path ∈ classpath ∧
    lastDigest? inputs i.path = some i.digest := by
  induction inputs with
  | nil => exact iff_of_false List.not_mem_nil fun h ↦ nomatch h.2
  | cons j inputs ih =>
    rw [lastDigest?_cons, Option.or_eq_some_iff, Input.digestOf?_eq_some_iff, decisive]
    split
    · rename_i h
      rw [List.mem_cons, ih]
      constructor
      · rintro (rfl | ⟨hmem, hlast⟩)
        · exact ⟨h.2.1, .inr ⟨h.2.2, h.1, rfl, rfl⟩⟩
        · exact ⟨hmem, .inl hlast⟩
      · rintro ⟨hmem, hlast | ⟨-, -, hpath, hdigest⟩⟩
        · exact .inr ⟨hmem, hlast⟩
        · exact .inl (by cases i; cases j; simp_all)
    · rename_i h
      rw [ih]
      refine and_congr_right fun hmem ↦ ⟨.inl, ?_⟩
      rintro (hlast | ⟨hnone, hdigested, hpath, -⟩)
      · exact hlast
      · exact absurd ⟨hdigested, hpath ▸ hmem, hpath ▸ hnone⟩ h

theorem pairwise_decisive (classpath : List String) (inputs : List Input) :
    (decisive classpath inputs).Pairwise fun i j ↦ i.path ≠ j.path := by
  induction inputs with
  | nil => exact List.Pairwise.nil
  | cons i inputs ih =>
    rw [decisive]
    split
    · rename_i h
      refine List.pairwise_cons.mpr ⟨fun j hj hpath ↦ ?_, ih⟩
      -- a later input of the same path would have left nothing to this one
      have hlast := (mem_decisive_iff.mp hj).2
      rw [← hpath, h.2.2] at hlast
      cases hlast
    · exact ih

theorem Immaterial.many_decisive (classpath : List String) (inputs : List Input) :
    Many classpath inputs (decisive classpath inputs) := by
  induction inputs with
  | nil => exact .refl _
  | cons i inputs ih =>
    rw [decisive]
    split
    · exact Many.cons ih i
    · rename_i h
      refine Relation.EqvGen.trans _ inputs _ (.rel _ _ ?_) ih
      by_cases hdigested : i.isDigested
      · by_cases hmem : i.path ∈ classpath
        · have hlater : lastDigest? inputs i.path ≠ none := fun hnone ↦ h ⟨hdigested, hmem, hnone⟩
          rw [Ne, lastDigest?_eq_none_iff] at hlater
          push Not at hlater
          obtain ⟨j, hj, hjd, hpath⟩ := hlater
          exact .superseded hjd hpath [] hj
        · exact .untracked hmem [] inputs
      · exact .undigested hdigested [] inputs

theorem Immaterial.many_of_perm (h : inputs.Perm inputs')
    (hpaths : inputs.Pairwise fun i j ↦ i.path ≠ j.path) : Many classpath inputs inputs' := by
  induction h with
  | nil => exact .refl _
  | cons i _ ih => exact Many.cons (ih (List.pairwise_cons.mp hpaths).2) i
  | swap i j inputs =>
    have hne := (List.pairwise_cons.mp hpaths).1 i List.mem_cons_self
    exact .rel _ _ (.swap hne [] inputs)
  | trans hp _ ih₁ ih₂ =>
    have hpaths' := (hp.pairwise_iff fun h ↦ h.symm).mp hpaths
    exact (ih₁ hpaths).trans _ _ _ (ih₂ hpaths')

theorem nodup_decisive (classpath : List String) (inputs : List Input) :
    (decisive classpath inputs).Nodup :=
  (pairwise_decisive classpath inputs).imp fun h heq ↦ h (congrArg Input.path heq)

theorem Immaterial.many_iff :
    Many classpath inputs inputs' ↔
    ∀ l ∈ classpath, lastDigest? inputs l = lastDigest? inputs' l := by
  constructor
  · intro h l hl
    induction h with
    | rel _ _ h => exact h.lastDigest?_eq l hl
    | refl => rfl
    | symm _ _ _ ih => exact ih.symm
    | trans _ _ _ _ _ ih₁ ih₂ => exact ih₁.trans ih₂
  · intro h
    have hperm : (decisive classpath inputs).Perm (decisive classpath inputs') := by
      refine (List.perm_ext_iff_of_nodup (nodup_decisive _ _) (nodup_decisive _ _)).mpr fun i ↦ ?_
      rw [mem_decisive_iff, mem_decisive_iff]
      exact and_congr_right fun hmem ↦ by rw [h i.path hmem]
    have hmiddle : Many classpath (decisive classpath inputs) (decisive classpath inputs') :=
      many_of_perm hperm (pairwise_decisive classpath inputs)
    exact ((many_decisive classpath inputs).trans _ _ _ hmiddle).trans _ _ _
      (many_decisive classpath inputs').symm

end Decisive

variable {σ : Type} [Guests σ]

omit [Guests σ] in
theorem Step.throw_bind {α β : Type} (e : DispatchError) (f : α → Step σ β) :
    (throw e >>= f) = throw e := rfl

namespace Policy

theorem process_congr (p : Policy) {request other : WorkRequest}
    (harguments : other.arguments = request.arguments)
    (hkey : ∀ payload r, request.accepted? = some (payload, r) →
      DigestMap.forRequest r.classpath other.inputs =
        DigestMap.forRequest r.classpath request.inputs) :
    (p.process other : Step σ (Option Signal)) = p.process request := by
  have hpayload : other.payload? = request.payload? := congrArg List.head? harguments
  simp only [process, hpayload]
  cases hp : request.payload? with
  | none => rfl
  | some payload =>
    refine bind_congr fun _ ↦ ?_
    cases hr : CompileRequest.ofString payload with
    | error e => simp only [Step.throw_bind]
    | ok r =>
      have haccepted : request.accepted? = some (payload, r) := by
        simp [WorkRequest.accepted?, hp, hr, Except.toOption]
      simp only [pure_bind, hkey payload r haccepted]

end Policy

namespace Dispatcher

/-- Two requests with the same arguments, number and verbosity are handled alike if their inputs
give every location on the classpath the same last digest. Inputs are such exactly if one list of
them can be made into the other by changes that are immaterial for the classpath. -/
theorem handle_of_last_digests (d : Dispatcher σ) {request other : WorkRequest}
    (harguments : other.arguments = request.arguments)
    (hnumber : other.requestId = request.requestId)
    (hverbosity : other.verbosity = request.verbosity) :
    ((∀ payload r, request.accepted? = some (payload, r) →
        ∀ l ∈ r.classpath, lastDigest? other.inputs l = lastDigest? request.inputs l) →
      d.handle other = d.handle request) ∧
    ∀ classpath, Immaterial.Many classpath other.inputs request.inputs ↔
      ∀ l ∈ classpath, lastDigest? other.inputs l = lastDigest? request.inputs l := by
  refine ⟨fun h ↦ ?_, fun classpath ↦ Immaterial.many_iff⟩
  have hprocess : (d.policy.process other : Step σ (Option Signal)) = d.policy.process request :=
    d.policy.process_congr harguments fun payload r hr ↦
      DigestMap.forRequest_eq_iff.mpr (h payload r hr)
  have hverbose : other.isVerbose = request.isVerbose := by
    rw [WorkRequest.isVerbose, hverbosity, WorkRequest.isVerbose]
  simp only [handle, hprocess, hverbose, hnumber]

end Dispatcher

def digestedRequest : WorkRequest where
  arguments := ["[[],\"c\",[\"a.jar\",\"b.jar\"],\"o\"]"]
  inputs := [⟨"a.jar", "1"⟩, ⟨"b.jar", "2"⟩]

def digestedAgain : WorkRequest :=
  { digestedRequest with
    inputs := [⟨"a.jar", "0"⟩, ⟨"b.jar", "2"⟩, ⟨"c.jar", "3"⟩, ⟨"a.jar", "1"⟩, ⟨"b.jar", ""⟩]
    sandboxDir := some "/sandbox" }

theorem handled_with_same_digests :
    (∀ payload r, digestedRequest.accepted? = some (payload, r) →
      ∀ l ∈ r.classpath, lastDigest? digestedAgain.inputs l =
        lastDigest? digestedRequest.inputs l) ∧
    restartingStart.handle digestedAgain = restartingStart.handle digestedRequest := by
  have hdigests : ∀ payload r, digestedRequest.accepted? = some (payload, r) →
      ∀ l ∈ r.classpath, lastDigest? digestedAgain.inputs l =
        lastDigest? digestedRequest.inputs l := by
    have haccepted : digestedRequest.accepted?.map (·.2.classpath) = some ["a.jar", "b.jar"] := by
      decide +kernel
    intro payload r hr
    rw [hr] at haccepted
    obtain hclasspath : r.classpath = ["a.jar", "b.jar"] := Option.some.inj haccepted
    rw [hclasspath]
    decide
  have harguments : digestedAgain.arguments = digestedRequest.arguments := rfl
  exact ⟨hdigests, (restartingStart.handle_of_last_digests harguments rfl rfl).1 hdigests⟩

end CompileWorker
