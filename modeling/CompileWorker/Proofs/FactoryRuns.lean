import CompileWorker.Environment.Mock
import CompileWorker.Proofs.DefinedUnits
import Mathlib.Data.List.Induction

namespace CompileWorker

theorem World.create_issued_le {σ : Type} [Guests σ] (w : World σ) (role : Role) :
    (w.create role).2.issued ≤ w.issued + 1 := by
  simp only [create]
  split
  · exact Nat.le_refl _
  · exact Nat.le_refl _
  · exact Nat.le_succ _

inductive Fate
  | alive
  | discarded
  | dropped
  deriving DecidableEq, Repr

structure Handle where
  environment : Environment
  fate : Fate := .alive
  /-- the names of the units defined in it, each as often as it was defined -/
  defined : List String := []
  deriving DecidableEq, Repr

namespace Handle

inductive Use
  | addLocation (location : String)
  | invoke (entryPoint payload : String)
  | discard
  | drop
  deriving DecidableEq, Repr

variable {σ : Type} [Guests σ]

def apply (handle : Handle) (w : World σ) : Use → Handle × World σ
  | .addLocation location =>
    let (_, environment, w) := handle.environment.addLocation location w
    ({ handle with environment }, w)
  | .invoke entryPoint payload =>
    let names := (Guests.invoke handle.environment entryPoint payload w.guests).1.2
    let (_, environment, w) := handle.environment.invoke entryPoint payload w
    ({ handle with environment, defined := handle.defined ++ names }, w)
  | .discard => ({ handle with fate := .discarded }, (handle.environment.discard w).2)
  | .drop => ({ handle with fate := .dropped }, handle.environment.abandon w)

section

variable (handle : Handle) (w : World σ) (use : Use)

theorem apply_id : (handle.apply w use).1.environment.id = handle.environment.id := by
  cases use with
  | addLocation location => exact (handle.environment.addLocation_grows location w).id
  | invoke | discard | drop => rfl

theorem apply_role : (handle.apply w use).1.environment.role = handle.environment.role := by
  cases use with
  | addLocation location => exact handle.environment.addLocation_role w location
  | invoke | discard | drop => rfl

theorem apply_issued : (handle.apply w use).2.issued = w.issued := by
  cases use with
  | addLocation location => exact (handle.environment.addLocation_grows location w).issued
  | invoke | discard | drop => rfl

end

structure IsExact (handle : Handle) : Prop where
  sorted : handle.environment.units.Pairwise (· < ·)
  mem_units_iff : ∀ u, u ∈ handle.environment.units ↔ u.owner = handle.environment.id ∧
    u.name ∈ handle.defined

namespace IsExact

variable {handle : Handle}

theorem apply (h : handle.IsExact) (w : World σ) (use : Use) : (handle.apply w use).1.IsExact := by
  cases use with
  | addLocation location =>
    have hunits := handle.environment.addLocation_units w location
    exact ⟨hunits.symm ▸ h.sorted,
      fun u ↦ by rw [handle.apply_id]; exact hunits.symm ▸ h.mem_units_iff u⟩
  | invoke entryPoint payload =>
    refine ⟨handle.environment.pairwise_units_invoke w entryPoint payload h.sorted, fun u ↦ ?_⟩
    refine (handle.environment.mem_units_invoke w entryPoint payload u).trans ?_
    rw [h.mem_units_iff u, ← and_or_left, or_comm]
    exact and_congr_right fun _ ↦ List.mem_append.symm
  | discard | drop => exact ⟨h.sorted, h.mem_units_iff⟩

theorem count_units (h : handle.IsExact) (name : String) :
    handle.environment.units.count ⟨handle.environment.id, name⟩ =
      if name ∈ handle.defined then 1 else 0 := by
  have hnodup : handle.environment.units.Nodup := by
    apply h.sorted.imp
    rintro u v huv rfl
    exact u.lt_irrefl huv
  simp only [hnodup.count, h.mem_units_iff, true_and]

end IsExact

end Handle

structure Factory (σ : Type) where
  world : World σ
  handles : List Handle := []

namespace Factory

inductive Operation
  | create (role : Role)
  | use (i : Nat) (use : Handle.Use)
  deriving DecidableEq, Repr

def Operation.isCreate : Operation → Bool
  | .create _ => true
  | .use .. => false

variable {σ : Type}

def new (guests : σ) : Factory σ := { world := { guests } }

structure IsNumbered (f : Factory σ) : Prop where
  ascending : f.handles.Pairwise fun a b ↦ a.environment.id.number < b.environment.id.number
  le_issued : ∀ handle ∈ f.handles, handle.environment.id.number ≤ f.world.issued

variable [Guests σ]

/-- Nothing happens to an environment that is discarded or dropped: nobody holds it any more. -/
def perform (f : Factory σ) : Operation → Factory σ
  | .create role =>
    match f.world.create role with
    | (.ok environment, world) => { world, handles := f.handles ++ [{ environment }] }
    | (.error _, world) => { f with world }
  | .use i use =>
    match f.handles[i]? with
    | none => f
    | some handle =>
      if handle.fate = .alive then
        let (handle, world) := handle.apply f.world use
        { world, handles := f.handles.set i handle }
      else f

def after (f : Factory σ) (operations : List Operation) : Factory σ := operations.foldl perform f

inductive Performs (f : Factory σ) : Operation → Factory σ → Prop
  | created {role : Role} {environment : Environment} {world : World σ}
      (h : f.world.create role = (.ok environment, world)) :
      Performs f (.create role) { world, handles := f.handles ++ [{ environment }] }
  | notCreated {role : Role} {error : EnvironmentError} {world : World σ}
      (h : f.world.create role = (.error error, world)) : Performs f (.create role) { f with world }
  | used {older newer : List Handle} {handle : Handle} {use : Handle.Use}
      (hhandles : f.handles = older ++ handle :: newer) (halive : handle.fate = .alive) :
      Performs f (.use older.length use)
        { world := (handle.apply f.world use).2,
          handles := older ++ (handle.apply f.world use).1 :: newer }
  | gone {i : Nat} {use : Handle.Use} (h : ∀ handle ∈ f.handles[i]?, handle.fate ≠ .alive) :
      Performs f (.use i use) f

theorem performs (f : Factory σ) (operation : Operation) :
    f.Performs operation (f.perform operation) := by
  cases operation with
  | create role =>
    simp only [perform]
    split
    · rename_i h
      exact .created h
    · rename_i h
      exact .notCreated h
  | use i use =>
    simp only [perform]
    split
    · rename_i hi
      exact .gone (hi ▸ nofun)
    · rename_i handle hi
      split
      · rename_i halive
        obtain ⟨hlt, rfl⟩ := List.getElem?_eq_some_iff.mp hi
        have hsplit : f.handles = f.handles.take i ++ f.handles[i] :: f.handles.drop (i + 1) := by
          simp
        have hlength : (f.handles.take i).length = i := List.length_take_of_le (Nat.le_of_lt hlt)
        have hused : f.Performs (.use (f.handles.take i).length use) _ := .used hsplit halive
        rw [hlength] at hused
        rwa [List.set_eq_take_append_cons_drop, if_pos hlt]
      · rename_i hfate
        refine .gone fun other hother ↦ ?_
        obtain rfl := Option.some.inj (hi.symm.trans hother)
        exact hfate

theorem after_snoc (f : Factory σ) (operations : List Operation) (operation : Operation) :
    f.after (operations ++ [operation]) = (f.after operations).perform operation := by
  simp [after]

theorem after_keeps {P : Factory σ → Prop} {f : Factory σ} (hstart : P f)
    (hstep : ∀ {f f' : Factory σ} {operation : Operation}, f.Performs operation f' → P f → P f')
    (operations : List Operation) : P (f.after operations) := by
  induction operations generalizing f with
  | nil => exact hstart
  | cons operation operations ih => exact ih (hstep (f.performs operation) hstart)

/-- A property of handles that new ones have, and that every use keeps, is one of all handles. -/
theorem Performs.forall_handles {f f' : Factory σ} {operation : Operation}
    (h : f.Performs operation f') {P : Handle → Prop}
    (hnew : ∀ id role, P { environment := { id, role } })
    (huse : ∀ handle use, P handle → P (handle.apply f.world use).1)
    (hall : ∀ handle ∈ f.handles, P handle) : ∀ handle ∈ f'.handles, P handle := by
  cases h with
  | created h =>
    obtain ⟨rfl, -⟩ := World.create_ok h
    exact List.forall_mem_append.mpr ⟨hall, List.forall_mem_singleton.mpr (hnew _ _)⟩
  | notCreated | gone => exact hall
  | used hhandles =>
    rw [hhandles] at hall
    obtain ⟨holder, hhandle, hnewer⟩ := by
      simpa only [List.forall_mem_append, List.forall_mem_cons] using hall
    exact List.forall_mem_append.mpr ⟨holder, List.forall_mem_cons.mpr ⟨huse _ _ hhandle, hnewer⟩⟩

theorem Performs.isNumbered {f f' : Factory σ} {operation : Operation} (h : f.Performs operation f')
    (hf : f.IsNumbered) : f'.IsNumbered := by
  cases h with
  | created h =>
    obtain ⟨rfl, hissued, -⟩ := World.create_ok h
    refine ⟨List.pairwise_append.mpr ⟨hf.ascending, List.pairwise_singleton _ _,
      fun handle hhandle new hnew ↦ ?_⟩, fun handle hhandle ↦ ?_⟩
    · obtain rfl := List.mem_singleton.mp hnew
      exact Nat.lt_succ_of_le (hf.le_issued handle hhandle)
    · rw [hissued]
      rcases List.mem_append.mp hhandle with hhandle | hhandle
      · exact Nat.le_succ_of_le (hf.le_issued handle hhandle)
      · exact List.mem_singleton.mp hhandle ▸ Nat.le_refl _
  | notCreated h =>
    exact ⟨hf.ascending, fun handle hhandle ↦ Nat.le_trans (hf.le_issued handle hhandle)
      (World.create_error h).1⟩
  | @used older newer handle use hhandles =>
    obtain ⟨hascending, hle⟩ := hf
    have hid := handle.apply_id f.world use
    rw [hhandles] at hascending hle
    constructor
    · simp only [List.pairwise_append, List.pairwise_cons, List.forall_mem_cons, hid]
        at hascending ⊢
      exact hascending
    · rw [handle.apply_issued]
      simp only [List.forall_mem_append, List.forall_mem_cons, hid] at hle ⊢
      exact hle
  | gone => exact hf

theorem Performs.issued_le {f f' : Factory σ} {operation : Operation}
    (h : f.Performs operation f') :
    f'.world.issued ≤ f.world.issued + if operation.isCreate then 1 else 0 := by
  cases h with
  | created h => exact Nat.le_of_eq (World.create_ok h).2.1
  | @notCreated role _ _ h =>
    have hissued := f.world.create_issued_le role
    rwa [h] at hissued
  | used => exact Nat.le_of_eq (Handle.apply_issued ..)
  | gone => exact Nat.le_add_right _ _

section

variable (guests : σ) (operations : List Operation)

theorem isNumbered_after : ((new guests).after operations).IsNumbered :=
  after_keeps ⟨.nil, List.forall_mem_nil _⟩ Performs.isNumbered operations

theorem isExact_after : ∀ handle ∈ ((new guests).after operations).handles, handle.IsExact := by
  refine after_keeps (P := fun f ↦ ∀ handle ∈ f.handles, handle.IsExact) (List.forall_mem_nil _)
    (fun hstep ↦ ?_) operations
  refine hstep.forall_handles (fun id role ↦ ?_) fun handle use h ↦ h.apply _ use
  exact ⟨.nil, fun u ↦ iff_of_false List.not_mem_nil fun h ↦ List.not_mem_nil h.2⟩

theorem issued_after_le : ((new guests).after operations).world.issued ≤
    operations.countP Operation.isCreate := by
  induction operations using List.reverseRecOn with
  | nil => exact Nat.le_refl 0
  | append_singleton earlier operation ih =>
    rw [after_snoc, List.countP_append, List.countP_singleton]
    exact Nat.le_trans (performs _ operation).issued_le (Nat.add_le_add_right ih _)

/-- Fewer than 2^64 creations, failed ones included, leave any two environments with different
identities, also as the words that hold them. Every environment has the units that were defined in
it, each once however often it was, and all are its own; so no two environments share a unit. -/
theorem units_never_clash (h : operations.countP Operation.isCreate < UInt64.size) :
    (((new guests).after operations).handles.Pairwise fun a b ↦
      a.environment.id ≠ b.environment.id ∧
        a.environment.id.number.toUInt64 ≠ b.environment.id.number.toUInt64 ∧
        ∀ u ∈ a.environment.units, u ∉ b.environment.units) ∧
    ∀ handle ∈ ((new guests).after operations).handles,
      (∀ u ∈ handle.environment.units, u.owner = handle.environment.id) ∧
        ∀ name, handle.environment.units.count ⟨handle.environment.id, name⟩ =
          if name ∈ handle.defined then 1 else 0 := by
  have hexact := isExact_after guests operations
  have hnumbered := isNumbered_after guests operations
  have howner : ∀ handle ∈ ((new guests).after operations).handles,
      ∀ u ∈ handle.environment.units, u.owner = handle.environment.id :=
    fun handle hhandle u hu ↦ (((hexact handle hhandle).mem_units_iff u).mp hu).1
  refine ⟨?_, fun handle hhandle ↦ ⟨howner handle hhandle, (hexact handle hhandle).count_units⟩⟩
  have hword : ∀ handle ∈ ((new guests).after operations).handles, handle.environment.id.number <
      UInt64.size :=
    fun handle hhandle ↦
      Nat.lt_of_le_of_lt (Nat.le_trans (hnumbered.le_issued handle hhandle)
        (issued_after_le guests operations)) h
  refine hnumbered.ascending.imp_of_mem fun {a b} ha hb hlt ↦ ?_
  have hne : a.environment.id ≠ b.environment.id :=
    fun hid ↦ Nat.ne_of_lt hlt (congrArg EnvironmentId.number hid)
  refine ⟨hne, fun hsame ↦ Nat.ne_of_lt hlt ?_, fun u hu hu' ↦ hne ?_⟩
  · have hnumber := congrArg UInt64.toNat hsame
    rwa [Nat.toUInt64_eq, Nat.toUInt64_eq, UInt64.toNat_ofNat_of_lt' (hword a ha),
      UInt64.toNat_ofNat_of_lt' (hword b hb)] at hnumber
  · exact (howner a ha u hu).symm.trans (howner b hb u hu')

end

theorem plan_defined_in_three :
    let operations : List Operation :=
      [.create .tooling, .create .compile, .use 0 (.invoke "plan" ""), .use 1 (.invoke "plan" ""),
       .use 1 (.invoke "plan" "again"), .use 0 .discard, .create .tooling,
       .use 2 (.invoke "plan" "")]
    let handles := ((new ({} : Mock)).after operations).handles
    handles.map (·.environment.units) = [[⟨⟨1⟩, "plan"⟩], [⟨⟨2⟩, "plan"⟩], [⟨⟨3⟩, "plan"⟩]] ∧
      handles.map (·.defined) = [["plan"], ["plan", "plan"], ["plan"]] ∧
      operations.countP Operation.isCreate < UInt64.size ∧
      (handles.Pairwise fun a b ↦ a.environment.id.number.toUInt64 ≠
        b.environment.id.number.toUInt64) := by
  intro operations handles
  have hcount : operations.countP Operation.isCreate < UInt64.size := by decide
  refine ⟨by decide, by decide, hcount, ?_⟩
  exact (units_never_clash ({} : Mock) operations hcount).1.imp fun hab ↦ hab.2.1

end Factory

end CompileWorker
