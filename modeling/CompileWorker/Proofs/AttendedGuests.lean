import CompileWorker.Proofs.DefinedUnits
import CompileWorker.Proofs.HostDialogue
import CompileWorker.Proofs.Simulation

namespace CompileWorker

namespace GuestReply

def defined : GuestReply → List String
  | .ok _ _ names => names
  | .error .. => []

def output : GuestReply → String
  | .ok _ text _ => text
  | .error _ text => text

end GuestReply

/-- A command that a guest was given, with its environment as it was before and the reply that was
read, if one was. -/
structure Turn where
  environment : Environment
  command : GuestCommand
  reply : Option GuestReply := none

namespace Turn

def isInvocation (t : Turn) : Bool :=
  match t.command with
  | .invoke .. => true
  | _ => false

def defined (t : Turn) : List String :=
  match t.reply with
  | some reply => reply.defined
  | none => []

def output (t : Turn) : String :=
  match t.reply with
  | some reply => reply.output
  | none => ""

end Turn

structure Attended (η : Type) where
  hosted : Hosted η
  turns : List Turn := []

variable {η : Type}

/-- The units of the environment are those that the counted replies to it defined. -/
def Environment.Holds (env : Environment) (counts : Turn → Bool) (turns : List Turn) : Prop :=
  ∀ u, u ∈ env.units ↔
    u.owner = env.id ∧ ∃ t ∈ turns, t.environment.id = env.id ∧ counts t ∧ u.name ∈ t.defined

def World.turns (w : World (Attended η)) : List Turn := w.guests.turns

section Hosts

variable [Hosts η]

namespace Attended

def write (a : Attended η) (env : Environment) (command : GuestCommand) (hosted : Hosted η) :
    Attended η :=
  { hosted, turns := ⟨env, command, (a.hosted.request env.id command).1.toOption⟩ :: a.turns }

def release (a : Attended η) (env : Environment) : Attended η :=
  { hosted := a.hosted.release env.id,
    turns := { environment := env, command := .shutdown } :: a.turns }

/-- A location that does not exist is not told to the guest. No reply is read when a guest is to
shut down. -/
instance : Guests (Attended η) where
  start id role a :=
    let (start, hosted) := a.hosted.start id role
    (start, { a with hosted })
  load env location a :=
    let (answer, hosted) := a.hosted.load env location
    match (Hosts.files a.hosted.hosts).find location with
    | .error _ => (answer, { a with hosted })
    | .ok _ => (answer, a.write env (.addLocation location) hosted)
  invoke env entryPoint payload a :=
    let (answer, hosted) := a.hosted.invoke env entryPoint payload
    (answer, a.write env (.invoke entryPoint payload) hosted)
  discard env a := (.ok (), a.release env)
  abandon env a := a.release env

theorem maps : Guests.Maps (hosted : Attended η → Hosted η) where
  start _ _ _ := rfl
  load env location a := by
    have hload : Guests.load env location a.hosted = a.hosted.load env location := rfl
    rw [hload]
    simp only [Guests.load]
    split <;> rfl
  invoke _ _ _ _ := rfl
  discard _ _ := rfl

/-- A load is a turn or none, and never an invocation. -/
theorem load_turns (env : Environment) (location : String) (a : Attended η) :
    (Guests.load env location a).2.turns = a.turns ∨
      ∃ reply, (Guests.load env location a).2.turns = ⟨env, .addLocation location, reply⟩ ::
        a.turns := by
  simp only [Guests.load]
  split
  · exact .inl rfl
  · exact .inr ⟨_, rfl⟩

end Attended

end Hosts

theorem Environment.loadAll_keeps {σ : Type} [Guests σ] (P : Environment → World σ → Prop)
    (hadd : ∀ env w location, P env w →
      P (addLocation env location w).2.1 (addLocation env location w).2.2)
    {env : Environment} {w : World σ} (classpath : List String) (h : P env w) :
    P (env.loadAll w classpath).2.1 (env.loadAll w classpath).2.2 := by
  fun_induction env.loadAll w classpath with
  | case1 env w => exact h
  | case2 env w location classpath e env₁ w₁ ha =>
    have hfirst := hadd env w location h
    rwa [ha] at hfirst
  | case3 env w location classpath added env₁ w₁ ha failure env₂ w₂ hr ih =>
    have hfirst := hadd env w location h
    rw [ha] at hfirst
    have hrest := ih hfirst
    rwa [hr] at hrest
  | case4 env w location classpath added env₁ w₁ ha n env₂ w₂ hr ih =>
    have hfirst := hadd env w location h
    rw [ha] at hfirst
    have hrest := ih hfirst
    rwa [hr] at hrest

namespace Environment.Holds

variable {env env' : Environment} {counts : Turn → Bool} {turns : List Turn} {t : Turn}

theorem cons_iff (h : ¬ (t.environment.id = env.id ∧ counts t)) :
    env.Holds counts (t :: turns) ↔ env.Holds counts turns := by
  refine forall_congr' fun u ↦ iff_congr Iff.rfl (and_congr_right fun _ ↦ ?_)
  rw [List.exists_mem_cons_iff]
  exact or_iff_right fun ⟨hid, hcounts, _⟩ ↦ h ⟨hid, hcounts⟩

theorem congr (h : env.Holds counts turns) (hid : env'.id = env.id)
    (hunits : env'.units = env.units) : env'.Holds counts turns := by
  intro u
  rw [hid, hunits]
  exact h u

theorem append {new : List Turn} (h : env.Holds counts turns)
    (hnew : ∀ t ∈ new, ¬ (t.environment.id = env.id ∧ counts t)) :
    env.Holds counts (new ++ turns) := by
  induction new with
  | nil => exact h
  | cons t new ih =>
    obtain ⟨ht, hnew⟩ := List.forall_mem_cons.mp hnew
    exact (cons_iff ht).mpr (ih hnew)

end Environment.Holds

/-- The turns so far are in order: each environment had at its turn the units defined before, and
all are of environments there have been. -/
structure World.Accounted (w : World (Attended η)) : Prop where
  told : ∀ t older, t :: older <:+ w.turns → t.environment.Holds Turn.isInvocation older
  numbered : ∀ t ∈ w.turns, t.environment.id.number ≤ w.issued

structure Environment.Accounted (env : Environment) (w : World (Attended η)) : Prop where
  world : w.Accounted
  holds : env.Holds Turn.isInvocation w.turns
  number : env.id.number ≤ w.issued

def World.Quiet (w w' : World (Attended η)) : Prop :=
  ∃ turns, w'.turns = turns ++ w.turns ∧ ∀ t ∈ turns, ¬ t.isInvocation

namespace World

variable {w w₁ w' : World (Attended η)} {env : Environment} {t : Turn}

theorem Accounted.of_eq (h : w.Accounted) (hturns : w'.turns = w.turns)
    (hissued : w.issued ≤ w'.issued) : w'.Accounted := by
  refine ⟨hturns ▸ h.told, fun t ht ↦ ?_⟩
  rw [hturns] at ht
  exact Nat.le_trans (h.numbered t ht) hissued

namespace Quiet

theorem of_eq (h : w'.turns = w.turns) : w.Quiet w' := ⟨[], h, List.forall_mem_nil _⟩

theorem of_cons (h : w'.turns = t :: w.turns) (ht : ¬ t.isInvocation) : w.Quiet w' :=
  ⟨[t], h, List.forall_mem_singleton.mpr ht⟩

theorem trans (h : w.Quiet w₁) (h' : w₁.Quiet w') : w.Quiet w' := by
  obtain ⟨first, hfirst, hquiet⟩ := h
  obtain ⟨second, hsecond, hquiet'⟩ := h'
  exact ⟨second ++ first, by rw [hsecond, hfirst, List.append_assoc],
    List.forall_mem_append.mpr ⟨hquiet', hquiet⟩⟩

theorem holds (h : w.Quiet w') (henv : env.Holds Turn.isInvocation w.turns) :
    env.Holds Turn.isInvocation w'.turns := by
  obtain ⟨turns, hturns, hquiet⟩ := h
  rw [hturns]
  exact henv.append fun t ht hcounts ↦ hquiet t ht hcounts.2

end Quiet

end World

theorem Environment.Accounted.turn {env : Environment} {w w' : World (Attended η)} {t : Turn}
    (h : env.Accounted w) (ht : t.environment = env) (hturns : w'.turns = t :: w.turns)
    (hissued : w'.issued = w.issued) : w'.Accounted := by
  constructor
  · intro t' older hsuffix
    rw [hturns, List.suffix_cons_iff] at hsuffix
    rcases hsuffix with heq | hsuffix
    · obtain ⟨rfl, rfl⟩ := List.cons.inj heq
      exact ht ▸ h.holds
    · exact h.world.told t' older hsuffix
  · rw [hturns, hissued]
    exact List.forall_mem_cons.mpr ⟨ht ▸ h.number, h.world.numbered⟩

variable [Hosts η]

namespace World

variable {w w' : World (Attended η)} {role : Role}

theorem create_turns {result : Except EnvironmentError Environment}
    (hn : w.create role = (result, w')) : w'.turns = w.turns := by
  have hstart : (Guests.start ⟨w.issued + 1⟩ role w.guests).2.turns = w.guests.turns := rfl
  unfold create at hn
  rcases hg : Guests.start ⟨w.issued + 1⟩ role w.guests
    with ⟨_ | _ | _, guests⟩ <;> rw [hg] at hstart <;>
    simp only [hg] at hn <;> obtain ⟨-, rfl⟩ := Prod.mk.inj hn <;> exact hstart

theorem Accounted.created {env : Environment} (h : w.Accounted)
    (hn : w.create role = (.ok env, w')) : env.Accounted w' := by
  have hturns := create_turns hn
  obtain ⟨rfl, hissued, -⟩ := create_ok hn
  refine ⟨h.of_eq hturns (hissued ▸ Nat.le_succ _), fun u ↦ ?_, Nat.le_of_eq hissued.symm⟩
  refine iff_of_false List.not_mem_nil ?_
  rintro ⟨-, t, ht, hid, -⟩
  rw [hturns] at ht
  have hnumber := h.numbered t ht
  rw [hid] at hnumber
  exact Nat.not_succ_le_self _ hnumber

end World

namespace Environment

section Turns

variable (env : Environment) (w : World (Attended η))

theorem addLocation_turns (location : String) :
    (env.addLocation location w).2.2.turns = w.turns ∨
      ∃ reply, (env.addLocation location w).2.2.turns = ⟨env, .addLocation location, reply⟩ ::
        w.turns := by
  by_cases hloaded : location ∈ env.locations
  · rw [addLocation_loaded hloaded]
    exact .inl rfl
  · have hturns := w.guests.load_turns env location
    rw [addLocation_new hloaded]
    rcases hg : Guests.load env location w.guests
      with ⟨_ | _, guests⟩ <;> rw [hg] at hturns <;> exact hturns

theorem addLocation_quiet (location : String) : w.Quiet (env.addLocation location w).2.2 := by
  rcases env.addLocation_turns w location with hsame | ⟨reply, hturn⟩
  · exact .of_eq hsame
  · exact .of_cons hturn Bool.false_ne_true

theorem loadAll_quiet (classpath : List String) : w.Quiet (env.loadAll w classpath).2.2 :=
  loadAll_keeps (fun _ w' ↦ w.Quiet w')
    (fun env w' location h ↦ h.trans (env.addLocation_quiet w' location)) classpath (.of_eq rfl)

theorem discard_turns :
    (env.discard w).2.turns = { environment := env, command := .shutdown } :: w.turns := rfl

theorem discard_quiet : w.Quiet (env.discard w).2 :=
  .of_cons (env.discard_turns w) Bool.false_ne_true

theorem invoke_turn (entryPoint payload : String) :
    ∃ t : Turn, t.environment = env ∧ t.isInvocation ∧ (env.invoke entryPoint payload w).2.2.turns =
      t :: w.turns ∧
      (∀ u, u ∈ (env.invoke entryPoint payload w).2.1.units ↔
        (u.owner = env.id ∧ u.name ∈ t.defined) ∨ u ∈ env.units) ∧
      (t.output ≠ "" →
        Invocation.printed? (env.invoke entryPoint payload w).1 = some t.output) := by
  let t : Turn :=
    ⟨env, .invoke entryPoint payload,
      (w.guests.hosted.request env.id (.invoke entryPoint payload)).1.toOption⟩
  have hanswer : (w.guests.hosted.invoke env entryPoint payload).1.2 = t.defined ∧
      (t.output ≠ "" → Invocation.printed? (w.guests.hosted.invoke env entryPoint payload).1.1 =
        some t.output) := by
    simp only [t, Hosted.invoke, Turn.defined, Turn.output]
    rcases w.guests.hosted.request env.id (.invoke entryPoint payload)
      with ⟨e | ⟨value, text, names⟩ | ⟨m, text⟩, h⟩
    · exact ⟨rfl, fun hne ↦ absurd rfl hne⟩
    · exact ⟨rfl, fun _ ↦ rfl⟩
    · exact ⟨rfl, fun _ ↦ rfl⟩
  refine ⟨t, rfl, rfl, rfl, fun u ↦ ?_, hanswer.2⟩
  rw [← hanswer.1]
  exact env.mem_units_invoke w entryPoint payload u

end Turns

namespace Accounted

variable {env : Environment} {w : World (Attended η)}

theorem addLocation (h : env.Accounted w) (location : String) :
    (env.addLocation location w).2.1.Accounted (env.addLocation location w).2.2 := by
  have hgrows := env.addLocation_grows location w
  refine ⟨?_, ?_, ?_⟩
  · rcases env.addLocation_turns w location with hsame | ⟨reply, hturn⟩
    · exact h.world.of_eq hsame (Nat.le_of_eq hgrows.issued.symm)
    · exact h.turn rfl hturn hgrows.issued
  · exact ((env.addLocation_quiet w location).holds h.holds).congr hgrows.id
      (env.addLocation_units w location)
  · rw [hgrows.id, hgrows.issued]
    exact h.number

theorem loadAll (h : env.Accounted w) (classpath : List String) :
    (env.loadAll w classpath).2.1.Accounted (env.loadAll w classpath).2.2 :=
  loadAll_keeps Accounted (fun _ _ location h ↦ h.addLocation location) classpath h

theorem discard (h : env.Accounted w) : (env.discard w).2.Accounted :=
  h.turn rfl (env.discard_turns w) rfl

theorem invoke (h : env.Accounted w) (entryPoint payload : String) :
    (env.invoke entryPoint payload w).2.1.Accounted (env.invoke entryPoint payload w).2.2 := by
  obtain ⟨t, ht, hinvocation, hturns, hunits, -⟩ := env.invoke_turn w entryPoint payload
  refine ⟨h.turn ht hturns rfl, fun u ↦ ?_, h.number⟩
  rw [hunits, hturns, h.holds u, List.exists_mem_cons_iff, ht]
  constructor
  · rintro (⟨howner, hname⟩ | ⟨howner, hbefore⟩)
    · exact ⟨howner, .inl ⟨rfl, hinvocation, hname⟩⟩
    · exact ⟨howner, .inr hbefore⟩
  · rintro ⟨howner, ⟨-, -, hname⟩ | hbefore⟩
    · exact .inl ⟨howner, hname⟩
    · exact .inr ⟨howner, hbefore⟩

end Accounted

end Environment

structure EnvironmentCache.Accounted (c : EnvironmentCache) (w : World (Attended η)) : Prop where
  world : w.Accounted
  entry : ∀ entry, c.entry = some entry → entry.environment.Accounted w

namespace EnvironmentCache

variable {c c₁ : EnvironmentCache} {w w₁ : World (Attended η)} {key : DigestMap}
  {acquisition : Acquisition} {released : List Event}

theorem Vacates.quiet (hv : c.Vacates key w acquisition c₁ w₁ released) : w.Quiet w₁ := by
  cases hv with
  | vacant => exact .of_eq rfl
  | @stale entry => exact entry.environment.discard_quiet w

theorem acquire_quiet (c : EnvironmentCache) (key : DigestMap) (classpath : List String)
    (w : World (Attended η)) : w.Quiet (c.acquire key classpath w).2.2 := by
  obtain ⟨events, hacq⟩ := c.acquires key classpath w
  generalize c.acquire key classpath w = out at hacq
  have hloads {env env' : Environment} {w w' : World (Attended η)}
    {result : Except (String × EnvironmentError) Nat}
    (hl : env.loadAll w classpath = (result, env', w')) : w.Quiet w' := by
    have hquiet := env.loadAll_quiet w classpath
    rwa [hl] at hquiet
  cases hacq with
  | reused _ _ hl => exact hloads hl
  | stuck _ _ hl => exact hloads hl
  | built hv hn hl => exact (hv.quiet.trans (.of_eq (World.create_turns hn))).trans (hloads hl)
  | notCreated hv hn => exact hv.quiet.trans (.of_eq (World.create_turns hn))
  | @unloadable _ _ _ _ w₃ _ env' _ _ _ _ hv hn hl =>
    exact ((hv.quiet.trans (.of_eq (World.create_turns hn))).trans (hloads hl)).trans
      (env'.discard_quiet w₃)

theorem discard_quiet (c : EnvironmentCache) (w : World (Attended η)) :
    w.Quiet (c.discard w).2.2 := by
  unfold discard
  cases c.entry with
  | none => exact .of_eq rfl
  | some entry => exact entry.environment.discard_quiet w

theorem invoke_vacant (hc : c.entry = none) (entryPoint payload : String) (w : World (Attended η)) :
    c.invoke entryPoint payload w = (.error .closed, c, w) := by
  simp only [invoke, hc]

theorem invoke_live {entry : CacheEntry} (hc : c.entry = some entry) (entryPoint payload : String)
    (w : World (Attended η)) :
    c.invoke entryPoint payload w =
      ((entry.environment.invoke entryPoint payload w).1,
       { c with
         entry := some
           { entry with environment := (entry.environment.invoke entryPoint payload w).2.1 } },
       (entry.environment.invoke entryPoint payload w).2.2) := by
  simp only [invoke, hc]

namespace Accounted

theorem vacates (h : c.Accounted w) (hv : c.Vacates key w acquisition c₁ w₁ released) :
    w₁.Accounted := by
  cases hv with
  | vacant => exact h.world
  | stale hc => exact (h.entry _ hc).discard

theorem acquire (h : c.Accounted w) (key : DigestMap) (classpath : List String) :
    (c.acquire key classpath w).2.1.Accounted (c.acquire key classpath w).2.2 := by
  obtain ⟨events, hacq⟩ := c.acquires key classpath w
  generalize c.acquire key classpath w = out at hacq
  cases hacq with
  | reused hc _ hl | stuck hc _ hl =>
    have hloads := (h.entry _ hc).loadAll classpath
    rw [hl] at hloads
    refine ⟨hloads.world, ?_⟩
    rintro _ ⟨⟩
    exact ⟨hloads.world, hloads.holds, hloads.number⟩
  | built hv hn hl =>
    have hloads := ((h.vacates hv).created hn).loadAll classpath
    rw [hl] at hloads
    refine ⟨hloads.world, ?_⟩
    rintro _ ⟨⟩
    exact hloads
  | notCreated hv hn =>
    refine ⟨(h.vacates hv).of_eq (World.create_turns hn) (World.create_error hn).1,
      fun entry hentry ↦ ?_⟩
    cases hv.entry.symm.trans hentry
  | unloadable hv hn hl =>
    have hloads := ((h.vacates hv).created hn).loadAll classpath
    rw [hl] at hloads
    refine ⟨hloads.discard, fun entry hentry ↦ ?_⟩
    cases hv.entry.symm.trans hentry

theorem discard (h : c.Accounted w) : (c.discard w).2.1.Accounted (c.discard w).2.2 := by
  unfold EnvironmentCache.discard
  cases hc : c.entry with
  | none => exact h
  | some entry =>
    refine ⟨(h.entry entry hc).discard, ?_⟩
    rintro _ ⟨⟩

theorem invoke (h : c.Accounted w) (entryPoint payload : String) :
    (c.invoke entryPoint payload w).2.1.Accounted (c.invoke entryPoint payload w).2.2 := by
  cases hc : c.entry with
  | none => rwa [invoke_vacant hc]
  | some entry =>
    have hentry := (h.entry entry hc).invoke entryPoint payload
    rw [invoke_live hc]
    refine ⟨hentry.world, ?_⟩
    rintro _ ⟨⟩
    exact hentry

theorem call (h : c.Accounted w) (call : CacheCall) :
    (c.call w call).1.Accounted (c.call w call).2 := by
  cases call with
  | acquire key classpath => exact h.acquire key classpath
  | invoke entryPoint payload => exact h.invoke entryPoint payload
  | discard => exact h.discard

end Accounted

/-- An invocation is a turn of the live environment, if there is one. -/
theorem invoke_turns (c : EnvironmentCache) (entryPoint payload : String) (w : World (Attended η)) :
    ∃ turns, (c.invoke entryPoint payload w).2.2.turns = turns ++ w.turns ∧
      ∀ t ∈ turns, c.environmentId? = some t.environment.id ∧
        (t.output ≠ "" →
          Invocation.printed? (c.invoke entryPoint payload w).1 = some t.output) := by
  cases hc : c.entry with
  | none =>
    rw [invoke_vacant hc]
    exact ⟨[], rfl, List.forall_mem_nil _⟩
  | some entry =>
    obtain ⟨t, ht, -, hturns, -, hprinted⟩ := entry.environment.invoke_turn w entryPoint payload
    rw [invoke_live hc]
    refine ⟨[t], hturns, List.forall_mem_singleton.mpr ⟨?_, hprinted⟩⟩
    rw [ht, environmentId?, hc]
    rfl

theorem call_turns (c : EnvironmentCache) (w : World (Attended η)) (call : CacheCall) :
    ∃ turns, (c.call w call).2.turns = turns ++ w.turns ∧
      ∀ t ∈ turns, t.isInvocation → c.environmentId? = some t.environment.id := by
  cases call with
  | acquire key classpath =>
    obtain ⟨turns, hturns, hquiet⟩ := c.acquire_quiet key classpath w
    exact ⟨turns, hturns, fun t ht hinvocation ↦ absurd hinvocation (hquiet t ht)⟩
  | invoke entryPoint payload =>
    obtain ⟨turns, hturns, hlive⟩ := c.invoke_turns entryPoint payload w
    exact ⟨turns, hturns, fun t ht _ ↦ (hlive t ht).1⟩
  | discard =>
    obtain ⟨turns, hturns, hquiet⟩ := c.discard_quiet w
    exact ⟨turns, hturns, fun t ht hinvocation ↦ absurd hinvocation (hquiet t ht)⟩

theorem call_issued (c : EnvironmentCache) (w : World (Attended η)) (call : CacheCall) :
    w.issued ≤ (c.call w call).2.issued := by
  cases call with
  | acquire key classpath =>
    obtain ⟨events, hacq⟩ := c.acquires key classpath w
    exact hacq.issued_le
  | invoke entryPoint payload =>
    cases hc : c.entry with
    | none => rw [EnvironmentCache.call, invoke_vacant hc]
    | some entry =>
      rw [EnvironmentCache.call, invoke_live hc]
      exact Nat.le_refl _
  | discard =>
    rw [EnvironmentCache.call, EnvironmentCache.discard]
    cases c.entry <;> exact Nat.le_refl _

end EnvironmentCache

def Bench.Accounted (b : Bench (Attended η)) : Prop := ∀ role, (b.caches.get role).Accounted b.world

theorem Bench.Orderly.role_eq_of_live {σ : Type} {b : Bench σ} (h : b.Orderly) {id : EnvironmentId}
    {role role' : Role} (hlive : b.live role = some id) (hlive' : b.live role' = some id) :
    role = role' :=
  h.world.lives.role_unique (h.world.lives.created_of_live hlive)
    (h.world.lives.created_of_live hlive')

namespace Bench.Accounted

variable {b : Bench (Attended η)}

omit [Hosts η] in
theorem start (hosted : Hosted η) : (Bench.start ({ hosted } : Attended η)).Accounted := by
  have hvacant : ∀ role, ((Bench.start ({ hosted } : Attended η)).caches.get role).entry =
      none := by
    intro role
    cases role <;> rfl
  refine fun role ↦ ⟨⟨fun t older hsuffix ↦ ?_, List.forall_mem_nil _⟩, fun entry hentry ↦ ?_⟩
  · exact absurd (List.suffix_nil.mp hsuffix) (List.cons_ne_nil _ _)
  · rw [hvacant role] at hentry
    cases hentry

theorem step (h : b.Accounted) (hb : b.Orderly) (s : CacheStep) : (b.step s).Accounted := by
  have hown := (h s.role).call s.call
  have hissued := (b.caches.get s.role).call_issued b.world s.call
  obtain ⟨turns, hturns, hlive⟩ := (b.caches.get s.role).call_turns b.world s.call
  intro role
  by_cases hrole : role = s.role
  · rw [hrole, b.step_own s]
    exact hown
  · rw [b.step_other hrole]
    refine ⟨hown.world, fun entry hentry ↦ ?_⟩
    obtain ⟨-, hholds, hnumber⟩ := (h role).entry entry hentry
    have hcached : b.live role = some entry.environment.id := congrArg (Option.map _) hentry
    refine ⟨hown.world, ?_, Nat.le_trans hnumber hissued⟩
    rw [show (b.step s).world.turns = _ from hturns]
    -- an invocation of this environment would have it live in the role of the step too
    refine hholds.append fun t ht ⟨hid, hinvocation⟩ ↦ hrole ?_
    exact hb.role_eq_of_live hcached (hid ▸ hlive t ht hinvocation)

theorem through (h : b.Accounted) (hb : b.Orderly) (steps : List CacheStep) :
    (b.through steps).Accounted := by
  induction steps generalizing b with
  | nil => exact h
  | cons s steps ih => exact ih (h.step hb s) (hb.step s)

end Bench.Accounted

theorem Dispatcher.after_accounted (policy : Policy) (hosted : Hosted η)
    (calls : List DispatcherCall) :
    ((Dispatcher.start policy ({ hosted } : Attended η)).after calls).bench.Accounted ∧
      ((Dispatcher.start policy ({ hosted } : Attended η)).after calls).bench.Orderly := by
  induction calls using List.reverseRecOn with
  | nil => exact ⟨.start hosted, .start _⟩
  | append_singleton calls c ih =>
    obtain ⟨steps, hsteps⟩ :=
      ((Dispatcher.start policy ({ hosted } : Attended η)).after calls).call_steps c
    rw [after_snoc, hsteps]
    exact ⟨ih.1.through ih.2 steps, ih.2.through steps⟩

end CompileWorker
