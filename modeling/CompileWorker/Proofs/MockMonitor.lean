import CompileWorker.Proofs.FactoryRuns

namespace CompileWorker

namespace Mock

def scripted (queued defaults : List (String × MockReply)) (failingLocations : List String) :
    Mock :=
  { queued, defaults, failingLocations }

structure SameLives (m m' : Mock) : Prop where
  live : m'.live = m.live
  overlaps : m'.overlaps = m.overlaps
  leaked : m'.leaked = m.leaked

theorem load_sameLives (m : Mock) (env : Environment) (location : String) :
    m.SameLives (m.load env location).2 := by
  unfold load
  split
  · exact ⟨rfl, rfl, rfl⟩
  · exact ⟨rfl, rfl, rfl⟩

theorem invoke_sameLives (m : Mock) (env : Environment) (entryPoint : String) :
    m.SameLives (m.invoke env entryPoint).2 := by
  simp only [invoke, nextReply]
  split
  · exact ⟨rfl, rfl, rfl⟩
  · exact ⟨rfl, rfl, rfl⟩

section

variable (m : Mock) (env : Environment) (role : Role) (id : EnvironmentId)

theorem live_start (r : Role) : (m.start id role).live r = if r = role then some id else m.live r :=
  rfl

theorem overlaps_start : (m.start id role).overlaps =
    match m.live role with
    | some alive => (alive, id) :: m.overlaps
    | none => m.overlaps := rfl

theorem overlaps_start_eq_nil_iff : (m.start id role).overlaps = [] ↔ m.live role = none ∧
    m.overlaps = [] := by
  rw [overlaps_start]
  cases m.live role with
  | none => simp
  | some alive => simp

theorem mem_overlaps_start_iff (pair : EnvironmentId × EnvironmentId) :
    pair ∈ (m.start id role).overlaps ↔ (m.live role = some pair.1 ∧ pair.2 = id) ∨
    pair ∈ m.overlaps := by
  rw [overlaps_start]
  cases m.live role with
  | none => simp
  | some alive => simp [Prod.ext_iff, eq_comm]

theorem live_clearLive_eq_some_iff (r : Role) :
    (m.clearLive env).live r = some id ↔
      m.live r = some id ∧ ¬ (r = env.role ∧ id = env.id) := by
  unfold clearLive setLive
  split
  · rename_i hlive
    by_cases hr : r = env.role
    · subst hr
      simp [hlive, eq_comm]
    · simp [hr]
  · rename_i hlive
    refine (and_iff_left_of_imp ?_).symm
    rintro hid ⟨rfl, rfl⟩
    exact hlive hid

theorem overlaps_clearLive : (m.clearLive env).overlaps = m.overlaps := by
  unfold clearLive
  split <;> rfl

theorem leaked_clearLive : (m.clearLive env).leaked = m.leaked := by
  unfold clearLive
  split <;> rfl

end

end Mock

theorem Environment.addLocation_sameLives (env : Environment) (location : String) (w : World Mock) :
    w.guests.SameLives (env.addLocation location w).2.2.guests := by
  by_cases hloaded : location ∈ env.locations
  · rw [addLocation_loaded hloaded]
    exact ⟨rfl, rfl, rfl⟩
  · have hload : w.guests.SameLives (Guests.load env location w.guests).2 :=
      w.guests.load_sameLives env location
    rw [addLocation_new hloaded]
    rcases hg : Guests.load env location w.guests
      with ⟨_ | _, guests⟩ <;> rw [hg] at hload <;> exact hload

namespace Factory

section

variable {σ : Type}

def idsOf (f : Factory σ) (kind : Handle → Bool) : List EnvironmentId :=
  (f.handles.filter kind).map (·.environment.id)

def alive (f : Factory σ) (role : Role) : List EnvironmentId :=
  f.idsOf fun handle ↦ handle.fate = .alive ∧ handle.environment.role = role

def dropped (f : Factory σ) : List EnvironmentId := f.idsOf (·.fate = .dropped)

variable [Guests σ]

/-- During the operations `b` was created while `a` was alive, for the same role. -/
def Overlapped (f : Factory σ) (operations : List Operation) (a b : EnvironmentId) : Prop :=
  ∃ before role later, operations = before ++ .create role :: later ∧
    a ∈ (f.after before).alive role ∧
    ((f.after before).world.create role).1 = .ok { id := b, role }

theorem overlapped_snoc (f : Factory σ) (operations : List Operation) (operation : Operation)
    (a b : EnvironmentId) :
    f.Overlapped (operations ++ [operation]) a b ↔ f.Overlapped operations a b ∨
      ∃ role, operation = .create role ∧ a ∈ (f.after operations).alive role ∧
        ((f.after operations).world.create role).1 = .ok { id := b, role } := by
  constructor
  · rintro ⟨before, role, later, hsplit, h⟩
    rcases List.eq_nil_or_concat later with rfl | ⟨later, last, rfl⟩
    · obtain ⟨rfl, hlast⟩ := List.append_inj' hsplit rfl
      exact .inr ⟨role, (List.cons.inj hlast).1, h⟩
    · rw [List.concat_eq_append, ← List.cons_append, ← List.append_assoc] at hsplit
      exact .inl ⟨before, role, later, (List.append_inj' hsplit rfl).1, h⟩
  · rintro (⟨before, role, later, rfl, h⟩ | ⟨role, rfl, h⟩)
    · exact ⟨before, role, later ++ [operation], by simp, h⟩
    · exact ⟨operations, role, [], rfl, h⟩

end

section

variable {σ : Type} {f f' : Factory σ} {older newer : List Handle} {handle handle' : Handle}
  {role : Role} {id : EnvironmentId}

theorem mem_idsOf_split {kind : Handle → Bool} (hhandles : f.handles = older ++ handle :: newer) :
    id ∈ f.idsOf kind ↔ (kind handle ∧ handle.environment.id = id) ∨
      ∃ other ∈ older ++ newer, kind other ∧ other.environment.id = id := by
  simp only [idsOf, hhandles, List.mem_map, List.mem_filter, List.mem_append, List.mem_cons,
    or_and_right, exists_or, exists_eq_left, and_assoc, or_left_comm]

theorem dropped_split (hhandles : f.handles = older ++ handle :: newer) :
    f.dropped = (older.filter (·.fate = .dropped)).map (·.environment.id) ++
      (if handle.fate = .dropped then [handle.environment.id] else []) ++
        (newer.filter (·.fate = .dropped)).map (·.environment.id) := by
  by_cases hfate : handle.fate = .dropped
  · simp [dropped, idsOf, hhandles, hfate]
  · simp [dropped, idsOf, hhandles, hfate]

theorem IsNumbered.nodup_idsOf (hf : f.IsNumbered) (kind : Handle → Bool) :
    (f.idsOf kind).Nodup := by
  refine List.pairwise_map.mpr ((hf.ascending.filter kind).imp fun hlt hid ↦ ?_)
  exact Nat.ne_of_lt hlt (congrArg EnvironmentId.number hid)

theorem IsNumbered.id_ne (hf : f.IsNumbered) (hhandles : f.handles = older ++ handle :: newer) :
    ∀ other ∈ older ++ newer, other.environment.id ≠ handle.environment.id := by
  have hascending := hf.ascending
  rw [hhandles, List.pairwise_append, List.pairwise_cons] at hascending
  obtain ⟨-, ⟨hnewer, -⟩, holder⟩ := hascending
  intro other hother hid
  rcases List.mem_append.mp hother with hother | hother
  · exact Nat.ne_of_lt (holder other hother handle List.mem_cons_self)
      (congrArg EnvironmentId.number hid)
  · exact Nat.ne_of_gt (hnewer other hother) (congrArg EnvironmentId.number hid)

end

/-- What the guests remember of the environments that were created. -/
structure IsWatched (f : Factory Mock) : Prop where
  numbered : f.IsNumbered
  alive_of_live : ∀ role id, f.world.guests.live role = some id → id ∈ f.alive role
  live_of_alive : f.world.guests.overlaps = [] →
    ∀ role, ∀ id ∈ f.alive role, f.world.guests.live role = some id
  leaked : f.world.guests.leaked.Perm f.dropped

theorem IsWatched.alive_eq_toList {f : Factory Mock} (hf : f.IsWatched)
    (hnone : f.world.guests.overlaps = []) (role : Role) :
    f.alive role = (f.world.guests.live role).toList := by
  cases hlive : f.world.guests.live role with
  | none =>
    refine List.eq_nil_iff_forall_not_mem.mpr fun id hid ↦ ?_
    simp [hf.live_of_alive hnone role id hid] at hlive
  | some id =>
    have hnodup : (f.alive role).Nodup := hf.numbered.nodup_idsOf _
    refine List.perm_singleton.mp
      ((List.perm_ext_iff_of_nodup hnodup (List.pairwise_singleton _ id)).mpr fun i ↦ ?_)
    rw [List.mem_singleton]
    constructor
    · intro hi
      exact Option.some.inj ((hf.live_of_alive hnone role i hi).symm.trans hlive)
    · rintro rfl
      exact hf.alive_of_live role i hlive

namespace IsWatched

variable {f f' : Factory Mock} {older newer : List Handle} {handle handle' : Handle}

theorem kept (hf : f.IsWatched) (hnumbered : f'.IsNumbered)
    (hhandles : f.handles = older ++ handle :: newer)
    (hhandles' : f'.handles = older ++ handle' :: newer) (hfate : handle'.fate = handle.fate)
    (hrole : handle'.environment.role = handle.environment.role)
    (hid : handle'.environment.id = handle.environment.id)
    (hsame : f.world.guests.SameLives f'.world.guests) : f'.IsWatched := by
  have halive (role : Role) (id : EnvironmentId) : id ∈ f'.alive role ↔ id ∈ f.alive role := by
    rw [alive, alive, mem_idsOf_split hhandles, mem_idsOf_split hhandles', hfate, hrole, hid]
  have hdropped :
    f'.dropped = f.dropped := by rw [dropped_split hhandles, dropped_split hhandles', hfate, hid]
  refine ⟨hnumbered, fun role id h ↦ ?_, fun hnone role id h ↦ ?_, ?_⟩
  · exact (halive role id).mpr (hf.alive_of_live role id (hsame.live ▸ h))
  · rw [hsame.live]
    exact hf.live_of_alive (hsame.overlaps ▸ hnone) role id ((halive role id).mp h)
  · rw [hsame.leaked, hdropped]
    exact hf.leaked

theorem role_eq_of_live (hf : f.IsWatched) (hhandles : f.handles = older ++ handle :: newer)
    {role : Role} (hlive : f.world.guests.live role = some handle.environment.id) :
    role = handle.environment.role := by
  rcases (mem_idsOf_split hhandles).mp (hf.alive_of_live role _ hlive)
    with ⟨hkind, -⟩ | ⟨other, hother, -, hid⟩
  · exact (of_decide_eq_true hkind).2.symm
  · exact absurd hid (hf.numbered.id_ne hhandles other hother)

theorem live_clearLive_iff (hf : f.IsWatched) (hhandles : f.handles = older ++ handle :: newer)
    (role : Role) (id : EnvironmentId) :
    (f.world.guests.clearLive handle.environment).live role = some id ↔
      f.world.guests.live role = some id ∧ id ≠ handle.environment.id := by
  rw [Mock.live_clearLive_eq_some_iff]
  refine and_congr_right fun hlive ↦ not_congr (and_iff_right_of_imp ?_)
  rintro rfl
  exact hf.role_eq_of_live hhandles hlive

theorem mem_alive_ended_iff (hf : f.IsWatched) (hhandles : f.handles = older ++ handle :: newer)
    (hhandles' : f'.handles = older ++ handle' :: newer) (hfate : handle'.fate ≠ .alive)
    (role : Role) (id : EnvironmentId) :
    id ∈ f'.alive role ↔ id ∈ f.alive role ∧ id ≠ handle.environment.id := by
  rw [alive, alive, mem_idsOf_split hhandles, mem_idsOf_split hhandles']
  constructor
  · rintro (⟨hkind, -⟩ | ⟨other, hother, h⟩)
    · exact absurd (of_decide_eq_true hkind).1 hfate
    · exact ⟨.inr ⟨other, hother, h⟩, h.2 ▸ hf.numbered.id_ne hhandles other hother⟩
  · rintro ⟨⟨-, hid⟩ | h, hne⟩
    · exact absurd hid.symm hne
    · exact .inr h

theorem created (hf : f.IsWatched) {role : Role} {id : EnvironmentId} (hnumbered : f'.IsNumbered)
    (hhandles : f'.handles = f.handles ++ [{ environment := { id, role } }])
    (hguests : f'.world.guests = f.world.guests.start id role) : f'.IsWatched := by
  have halive (r : Role) : f'.alive r = f.alive r ++ if role = r then [id] else [] := by
    by_cases hr : role = r <;> simp [alive, idsOf, hhandles, hr]
  have hdropped : f'.dropped = f.dropped := by simp [dropped, idsOf, hhandles]
  refine ⟨hnumbered, fun r i h ↦ ?_, fun hnone r i h ↦ ?_, ?_⟩
  · rw [hguests, Mock.live_start] at h
    rw [halive]
    split at h
    · rename_i hr
      simp [hr, Option.some.inj h]
    · exact List.mem_append_left _ (hf.alive_of_live r i h)
  · rw [hguests, Mock.overlaps_start_eq_nil_iff] at hnone
    rw [hguests, Mock.live_start]
    rw [halive] at h
    by_cases hr : r = role
    · subst hr
      -- nothing was remembered for the role, so nothing of the role was alive
      rw [hf.alive_eq_toList hnone.2, hnone.1] at h
      simp_all
    · have hi : i ∈ f.alive r := by simpa [Ne.symm hr] using h
      rw [if_neg hr, hf.live_of_alive hnone.2 r i hi]
  · rw [hdropped, hguests]
    exact hf.leaked

theorem ended (hf : f.IsWatched) (hnumbered : f'.IsNumbered)
    (hhandles : f.handles = older ++ handle :: newer)
    (hhandles' : f'.handles = older ++ handle' :: newer) (hfate : handle'.fate ≠ .alive)
    (hlive : f'.world.guests.live = (f.world.guests.clearLive handle.environment).live)
    (hoverlaps : f'.world.guests.overlaps = f.world.guests.overlaps)
    (hleaked : f'.world.guests.leaked.Perm f'.dropped) : f'.IsWatched where
  numbered := hnumbered
  alive_of_live r i h := by
    rw [hlive, hf.live_clearLive_iff hhandles] at h
    exact (hf.mem_alive_ended_iff hhandles hhandles' hfate r i).mpr ⟨hf.alive_of_live r i h.1, h.2⟩
  live_of_alive hnone r i h := by
    obtain ⟨h, hne⟩ := (hf.mem_alive_ended_iff hhandles hhandles' hfate r i).mp h
    rw [hlive, hf.live_clearLive_iff hhandles]
    exact ⟨hf.live_of_alive (hoverlaps ▸ hnone) r i h, hne⟩
  leaked := hleaked

theorem discarded (hf : f.IsWatched) (hnumbered : f'.IsNumbered)
    (hhandles : f.handles = older ++ handle :: newer) (halive : handle.fate = .alive)
    (hhandles' : f'.handles = older ++ { handle with fate := .discarded } :: newer)
    (hguests : f'.world.guests = f.world.guests.discard handle.environment) : f'.IsWatched := by
  refine hf.ended hnumbered hhandles hhandles' nofun (hguests ▸ rfl)
    (hguests ▸ f.world.guests.overlaps_clearLive handle.environment) ?_
  have hleaked : f'.world.guests.leaked = f.world.guests.leaked :=
    hguests ▸ f.world.guests.leaked_clearLive handle.environment
  have hdropped : f'.dropped = f.dropped := by
    rw [dropped_split hhandles, dropped_split hhandles', halive]
    rfl
  rw [hleaked, hdropped]
  exact hf.leaked

theorem dropped (hf : f.IsWatched) (hnumbered : f'.IsNumbered)
    (hhandles : f.handles = older ++ handle :: newer) (halive : handle.fate = .alive)
    (hhandles' : f'.handles = older ++ { handle with fate := .dropped } :: newer)
    (hguests : f'.world.guests = f.world.guests.abandon handle.environment) : f'.IsWatched := by
  refine hf.ended hnumbered hhandles hhandles' nofun (hguests ▸ rfl)
    (hguests ▸ f.world.guests.overlaps_clearLive handle.environment) ?_
  have hleaked : f'.world.guests.leaked = handle.environment.id :: f.world.guests.leaked :=
    hguests ▸ rfl
  have hbefore := hf.leaked
  rw [dropped_split hhandles, halive] at hbefore
  rw [hleaked, dropped_split hhandles']
  simpa using (hbefore.cons handle.environment.id).trans List.perm_middle.symm

end IsWatched

theorem Performs.isWatched {f f' : Factory Mock} {operation : Operation}
    (h : f.Performs operation f') (hf : f.IsWatched) : f'.IsWatched := by
  have hnumbered := h.isNumbered hf.numbered
  cases h with
  | created h =>
    obtain ⟨henvironment, rfl⟩ := Prod.mk.inj h
    obtain rfl := Except.ok.inj henvironment
    exact hf.created hnumbered rfl rfl
  | notCreated h => cases (Prod.mk.inj h).1
  | @used older newer handle use hhandles halive =>
    cases use with
    | addLocation location =>
      refine hf.kept hnumbered hhandles rfl rfl (handle.apply_role _ _) (handle.apply_id _ _) ?_
      exact handle.environment.addLocation_sameLives location f.world
    | invoke entryPoint payload =>
      refine hf.kept hnumbered hhandles rfl rfl (handle.apply_role _ _) (handle.apply_id _ _) ?_
      exact f.world.guests.invoke_sameLives handle.environment entryPoint
    | discard => exact hf.discarded hnumbered hhandles halive rfl rfl
    | drop => exact hf.dropped hnumbered hhandles halive rfl rfl
  | gone => exact hf

/-- An overlap is noticed when an environment is created for a role that one is remembered for, and
at no other time. -/
theorem Performs.mem_overlaps_iff {f f' : Factory Mock} {operation : Operation}
    (h : f.Performs operation f') (pair : EnvironmentId × EnvironmentId) :
    pair ∈ f'.world.guests.overlaps ↔
      (∃ role, operation = .create role ∧ f.world.guests.live role = some pair.1 ∧
        pair.2 = ⟨f.world.issued + 1⟩) ∨
        pair ∈ f.world.guests.overlaps := by
  cases h with
  | @created role _ _ h =>
    obtain ⟨-, rfl⟩ := Prod.mk.inj h
    refine (f.world.guests.mem_overlaps_start_iff role ⟨f.world.issued + 1⟩ pair).trans
      (or_congr_left ?_)
    simp
  | notCreated h => cases (Prod.mk.inj h).1
  | @used older newer handle use =>
    have hsame : (handle.apply f.world use).2.guests.overlaps = f.world.guests.overlaps := by
      cases use with
      | addLocation location =>
        exact (handle.environment.addLocation_sameLives location f.world).overlaps
      | invoke entryPoint payload =>
        exact (f.world.guests.invoke_sameLives handle.environment entryPoint).overlaps
      | discard | drop => exact f.world.guests.overlaps_clearLive handle.environment
    rw [hsame]
    simp
  | gone => simp

section

variable (queued defaults : List (String × MockReply)) (failingLocations : List String)
  (operations : List Operation)

theorem isWatched_after :
    ((new (Mock.scripted queued defaults failingLocations)).after operations).IsWatched :=
  after_keeps ⟨isNumbered_after _ [], nofun, fun _ _ _ h ↦ (List.not_mem_nil h).elim, .nil⟩
    Performs.isWatched operations

theorem overlapped_of_mem_overlaps {pair : EnvironmentId × EnvironmentId}
    (h : pair ∈ ((new (Mock.scripted queued defaults failingLocations)).after
      operations).world.guests.overlaps) :
    (new (Mock.scripted queued defaults failingLocations)).Overlapped operations pair.1 pair.2 := by
  induction operations using List.reverseRecOn with
  | nil => cases h
  | append_singleton earlier operation ih =>
    rw [after_snoc, (performs _ operation).mem_overlaps_iff] at h
    refine (overlapped_snoc ..).mpr ?_
    rcases h with ⟨role, rfl, hlive, hnew⟩ | h
    · have halive :=
        (isWatched_after queued defaults failingLocations earlier).alive_of_live role pair.1 hlive
      exact .inr ⟨role, rfl, halive, hnew ▸ rfl⟩
    · exact .inl (ih h)

theorem not_overlapped_of_overlaps_eq_nil {a b : EnvironmentId}
    (h : ((new (Mock.scripted queued defaults failingLocations)).after
      operations).world.guests.overlaps = []) :
    ¬ (new (Mock.scripted queued defaults failingLocations)).Overlapped operations a b := by
  induction operations using List.reverseRecOn with
  | nil =>
    rintro ⟨before, role, later, hsplit, -⟩
    simp at hsplit
  | append_singleton earlier operation ih =>
    simp only [after_snoc, List.eq_nil_iff_forall_not_mem, (performs _ operation).mem_overlaps_iff,
      not_or] at h ih
    rw [overlapped_snoc]
    rintro (hearlier | ⟨role, rfl, halive, -⟩)
    · exact ih (fun pair ↦ (h pair).2) hearlier
    · have hnone := List.eq_nil_iff_forall_not_mem.mpr fun pair ↦ (h pair).2
      have hlive :=
        (isWatched_after queued defaults failingLocations earlier).live_of_alive hnone role a halive
      exact (h (a, ⟨_⟩)).1 ⟨role, rfl, hlive, rfl⟩

/-- Pretended guests with any script, and any use of their factory. They notice an overlap exactly
if there was one, and only genuine ones; those they call leaked are the environments dropped without
being discarded, each once; and as long as there was no overlap the environment they remember for a
role is the one that is alive. -/
theorem lives_noticed :
    let start := new (Mock.scripted queued defaults failingLocations)
    let f := start.after operations
    let m := f.world.guests
    (m.overlaps = [] ↔ ∀ a b, ¬ start.Overlapped operations a b) ∧
      (∀ pair ∈ m.overlaps, start.Overlapped operations pair.1 pair.2) ∧
      m.leaked.Perm f.dropped ∧ m.leaked.Nodup ∧
      (m.overlaps = [] → ∀ role, f.alive role = (m.live role).toList) := by
  intro start f m
  have hwatched : f.IsWatched := isWatched_after queued defaults failingLocations operations
  have hgenuine : ∀ pair ∈ m.overlaps, start.Overlapped operations pair.1 pair.2 :=
    fun _ ↦ overlapped_of_mem_overlaps queued defaults failingLocations operations
  refine ⟨⟨fun hnone _ _ ↦ ?_, fun hnever ↦ ?_⟩, hgenuine, hwatched.leaked,
    hwatched.leaked.nodup_iff.mpr (hwatched.numbered.nodup_idsOf _), hwatched.alive_eq_toList⟩
  · exact not_overlapped_of_overlaps_eq_nil queued defaults failingLocations operations hnone
  · exact List.eq_nil_iff_forall_not_mem.mpr fun pair hpair ↦ hnever _ _ (hgenuine pair hpair)

end

/-- Once there was an overlap, a further one may go unnoticed. -/
example :
    let f := (new ({} : Mock)).after [.create .compile, .create .compile, .use 1 .discard,
      .create .compile]
    f.world.guests.overlaps = [(⟨1⟩, ⟨2⟩)] ∧ f.alive .compile = [⟨1⟩, ⟨3⟩] := by
  decide

end Factory

end CompileWorker
