import CompileWorker.Proofs.Actions
import CompileWorker.Proofs.CacheOutcomes

namespace CompileWorker

abbrev Live := Role → Option EnvironmentId

def Live.set (live : Live) (role : Role) (id? : Option EnvironmentId) : Live :=
  fun r ↦ if r = role then id? else live r

namespace Live

variable {live : Live} {role : Role} {id? : Option EnvironmentId}

@[simp] theorem set_same : live.set role id? role = id? := if_pos rfl

@[simp] theorem set_set {id?' : Option EnvironmentId} :
    (live.set role id?).set role id?' = live.set role id?' := by
  funext r
  by_cases h : r = role <;> simp [set, h]

theorem set_of_ne {r : Role} (h : r ≠ role) : live.set role id? r = live r := if_neg h

theorem set_self : live.set role (live role) = live := by
  funext r
  by_cases h : r = role <;> simp [set, h]

end Live

/-- Who is live after a trace, the newest event first. Only one that is new starts living, in a role
where nobody does; only the living are used and discarded; nobody is abandoned. -/
inductive Lives : List Event → Live → Prop
  | nil : Lives [] fun _ ↦ none
  | created {trace : List Event} {live : Live} {id : EnvironmentId} {role : Role}
      (h : Lives trace live)
      (hvacant : live role = none) (hnew : ∀ e ∈ trace, e.environment? ≠ some id) :
      Lives (.created id role :: trace) (live.set role (some id))
  | notCreated {trace : List Event} {live : Live} {role : Role} {error : EnvironmentError}
      (h : Lives trace live) :
      Lives (.notCreated role error :: trace) live
  | used {trace : List Event} {live : Live} {id : EnvironmentId} {role : Role} {e : Event}
      (h : Lives trace live)
      (hlive : live role = some id) (hused : e.used? = some id) : Lives (e :: trace) live
  | discarded {trace : List Event} {live : Live} {id : EnvironmentId} {role : Role}
      {answer : Except EnvironmentError Unit} (h : Lives trace live) (hlive : live role = some id) :
      Lives (.discarded id answer :: trace) (live.set role none)

namespace Lives

variable {trace : List Event} {live : Live} {id : EnvironmentId} {role : Role}

theorem append_used {events : List Event} (h : Lives trace live) (hlive : live role = some id)
    (hused : ∀ e ∈ events, e.used? = some id) : Lives (events ++ trace) live := by
  induction events with
  | nil => exact h
  | cons e events ih =>
    exact .used (ih fun e' he' ↦ hused e' (List.mem_cons_of_mem _ he')) hlive
      (hused e List.mem_cons_self)

theorem of_append {newer : List Event} (h : Lives (newer ++ trace) live) :
    ∃ live', Lives trace live' := by
  induction newer generalizing live with
  | nil => exact ⟨live, h⟩
  | cons e newer ih =>
    cases h with
    | created h | notCreated h | used h | discarded h => exact ih h

theorem alone {between : List Event} (h : Lives (between ++ .created id role :: trace) live)
    (hkept : ∀ answer, .discarded id answer ∉ between) :
    live role = some id ∧ ∀ id', .created id' role ∉ between := by
  induction between generalizing live with
  | nil =>
    cases h with
    | created => exact ⟨Live.set_same, by simp⟩
    | used _ _ hused => cases hused
  | cons e between ih =>
    have hrest : ∀ answer, .discarded id answer ∉ between := fun answer hm ↦
      hkept answer (List.mem_cons_of_mem _ hm)
    cases h with
    | @created _ live id' role' h hvacant =>
      obtain ⟨hlive, halone⟩ := ih h hrest
      have hne : role ≠ role' := by
        rintro rfl
        rw [hlive] at hvacant
        cases hvacant
      refine ⟨(Live.set_of_ne hne).trans hlive, fun id'' hm ↦ ?_⟩
      rcases List.mem_cons.mp hm with heq | hm
      · cases heq
        exact hne rfl
      · exact halone id'' hm
    | notCreated h =>
      obtain ⟨hlive, halone⟩ := ih h hrest
      exact ⟨hlive, by simpa using halone⟩
    | used h _ hused =>
      obtain ⟨hlive, halone⟩ := ih h hrest
      refine ⟨hlive, fun id'' hm ↦ ?_⟩
      rcases List.mem_cons.mp hm with rfl | hm
      · cases hused
      · exact halone id'' hm
    | @discarded _ live id' role' answer h hlive' =>
      obtain ⟨hlive, halone⟩ := ih h hrest
      have hne : role ≠ role' := by
        rintro rfl
        rw [hlive] at hlive'
        cases hlive'
        exact hkept answer List.mem_cons_self
      exact ⟨(Live.set_of_ne hne).trans hlive, by simpa using halone⟩

end Lives

/-- What is done to one environment, the newest event first, with who is live then. -/
inductive Phase (id : EnvironmentId) (live : Live) : List Event → Prop
  | unborn (hlive : ∀ r, live r ≠ some id) : Phase id live []
  | alive {role : Role} {uses : List Event} (hlive : ∀ r, live r = some id ↔ r = role)
      (huses : ∀ e ∈ uses, e.used? = some id) : Phase id live (uses ++ [.created id role])
  | gone {role : Role} {uses : List Event} {answer : Except EnvironmentError Unit}
      (hlive : ∀ r, live r ≠ some id) (huses : ∀ e ∈ uses, e.used? = some id) :
      Phase id live (.discarded id answer :: (uses ++ [.created id role]))

def Event.own (id : EnvironmentId) (trace : List Event) : List Event :=
  trace.filter (·.environment? = some id)

namespace Phase

variable {id : EnvironmentId} {live live' : Live} {own : List Event}

theorem congr (h : Phase id live own) (hlive : ∀ r, live' r = some id ↔ live r = some id) :
    Phase id live' own := by
  cases h with
  | unborn h => exact .unborn fun r hr ↦ h r ((hlive r).mp hr)
  | alive h huses => exact .alive (fun r ↦ (hlive r).trans (h r)) huses
  | gone h huses => exact .gone (fun r hr ↦ h r ((hlive r).mp hr)) huses

theorem set (h : Phase id live own) {role : Role} {id? : Option EnvironmentId}
    (hbefore : live role ≠ some id) (hafter : id? ≠ some id) :
    Phase id (live.set role id?) own := by
  refine h.congr fun r ↦ ?_
  by_cases hr : r = role
  · subst r
    simp [hbefore, hafter]
  · rw [Live.set_of_ne hr]

end Phase

namespace Phase

variable {id : EnvironmentId} {live : Live} {own : List Event} {role : Role}

theorem born (h : Phase id live []) : Phase id (live.set role (some id)) [.created id role] := by
  have hlive : ∀ r, live r ≠ some id := by
    generalize hown : ([] : List Event) = own at h
    cases h with
    | unborn hlive => exact hlive
    | alive | gone => simp at hown
  change Phase id _ ([] ++ [.created id role])
  refine .alive (fun r ↦ ?_) (by simp)
  by_cases hr : r = role
  · simp [hr]
  · simp [Live.set_of_ne hr, hlive r, hr]

theorem dead {answer : Except EnvironmentError Unit}
    (h : Phase id live (.discarded id answer :: own)) : ∀ r, live r ≠ some id := by
  generalize hown : .discarded id answer :: own = events at h
  cases h with
  | unborn hlive | gone hlive => exact hlive
  | @alive _ uses _ huses =>
    cases uses with
    | nil => simp at hown
    | cons e uses =>
      have hused := huses e List.mem_cons_self
      rw [← (List.cons.inj hown).1] at hused
      cases hused

theorem used (h : Phase id live own) (hlive : live role = some id) {e : Event}
    (hused : e.used? = some id) : Phase id live (e :: own) := by
  cases h with
  | unborn hnone | gone hnone => exact absurd hlive (hnone role)
  | alive hrole huses => exact .alive hrole (List.forall_mem_cons.mpr ⟨hused, huses⟩)

theorem discarded (h : Phase id live own) (hlive : live role = some id)
    {answer : Except EnvironmentError Unit} :
    Phase id (live.set role none) (.discarded id answer :: own) := by
  cases h with
  | unborn hnone | gone hnone => exact absurd hlive (hnone role)
  | alive hrole huses =>
    refine .gone (fun r ↦ ?_) huses
    by_cases hr : r = role
    · simp [hr]
    · rw [Live.set_of_ne hr]
      exact fun h ↦ hr (((hrole r).mp h).trans ((hrole role).mp hlive).symm)

end Phase

theorem Lives.phase {trace : List Event} {live : Live} (h : Lives trace live) (id : EnvironmentId) :
    Phase id live (Event.own id trace) := by
  -- event by event; those of other environments leave this one in its phase
  induction h with
  | nil => exact .unborn (by simp)
  | @created trace live id' role h hvacant hnew ih =>
    by_cases hid : id' = id
    · subst hid
      have hown : Event.own id' trace = [] :=
        List.filter_eq_nil_iff.mpr fun e he ↦ by simpa using hnew e he
      rw [hown] at ih
      rw [Event.own, List.filter_cons_of_pos (by simp [Event.environment?]), ← Event.own, hown]
      exact ih.born
    · rw [Event.own, List.filter_cons_of_neg (by simpa [Event.environment?] using hid)]
      exact ih.set (by simp [hvacant]) (by simpa using hid)
  | notCreated h ih => exact ih
  | @used trace live id' role e h hlive hused ih =>
    have hconcerns := Event.environment?_of_used? hused
    by_cases hid : id' = id
    · subst hid
      rw [Event.own, List.filter_cons_of_pos (by simp [hconcerns])]
      exact ih.used hlive hused
    · rwa [Event.own, List.filter_cons_of_neg (by simpa [hconcerns] using hid)]
  | @discarded trace live id' role answer h hlive ih =>
    by_cases hid : id' = id
    · subst hid
      rw [Event.own, List.filter_cons_of_pos (by simp [Event.environment?])]
      exact ih.discarded hlive
    · rw [Event.own, List.filter_cons_of_neg (by simpa [Event.environment?] using hid)]
      exact ih.set (by simpa [hlive] using hid) (by simp)

theorem Event.mem_own {e : Event} {id : EnvironmentId} {trace : List Event} :
    e ∈ own id trace ↔ e ∈ trace ∧ e.environment? = some id := by
  simp [own]

theorem Lives.created_of_live {trace : List Event} {live : Live} {id : EnvironmentId} {role : Role}
    (h : Lives trace live) (hlive : live role = some id) : .created id role ∈ trace := by
  have hphase := h.phase id
  generalize hown : Event.own id trace = own at hphase
  cases hphase with
  | unborn hnone | gone hnone => exact absurd hlive (hnone role)
  | @alive role' uses hrole =>
    obtain rfl := (hrole role).mp hlive
    have hmem : .created id role ∈ Event.own id trace := by simp [hown]
    exact (Event.mem_own.mp hmem).1

theorem Lives.role_unique {trace : List Event} {live : Live} {id : EnvironmentId}
    {role role' : Role} (h : Lives trace live) (hcreated : .created id role ∈ trace)
    (hcreated' : .created id role' ∈ trace) : role = role' := by
  induction h with
  | nil => cases hcreated
  | created _ _ hnew ih =>
    rcases List.mem_cons.mp hcreated with heq | hold
    · rcases List.mem_cons.mp hcreated' with heq' | hold'
      · cases heq
        cases heq'
        rfl
      · cases heq
        exact absurd rfl (hnew _ hold')
    · rcases List.mem_cons.mp hcreated' with heq' | hold'
      · cases heq'
        exact absurd rfl (hnew _ hold)
      · exact ih hold hold'
  | notCreated _ ih | discarded _ _ ih =>
    exact ih ((List.mem_cons.mp hcreated).resolve_left nofun)
      ((List.mem_cons.mp hcreated').resolve_left nofun)
  | @used _ _ _ _ e _ _ hused ih =>
    have hne : ∀ r, .created id r ≠ e := by
      rintro r rfl
      cases hused
    exact ih ((List.mem_cons.mp hcreated).resolve_left (hne role))
      ((List.mem_cons.mp hcreated').resolve_left (hne role'))

theorem Lives.after_discarded {newer older : List Event} {live : Live} {id : EnvironmentId}
    {answer : Except EnvironmentError Unit}
    (h : Lives (newer ++ .discarded id answer :: older) live) :
    (∀ r, live r ≠ some id) ∧ ∀ e ∈ newer, e.environment? ≠ some id := by
  induction newer generalizing live with
  | nil =>
    have hphase := h.phase id
    rw [List.nil_append, Event.own,
      List.filter_cons_of_pos (by simp [Event.environment?])] at hphase
    exact ⟨hphase.dead, by simp⟩
  | cons e newer ih =>
    cases h with
    | @created _ live id' role h _ hnew =>
      obtain ⟨hdead, hnone⟩ := ih h
      have hne : id' ≠ id := by
        rintro rfl
        exact hnew (.discarded id' answer) (by simp) rfl
      refine ⟨fun r ↦ ?_, List.forall_mem_cons.mpr ⟨by simpa [Event.environment?] using hne, hnone⟩⟩
      by_cases hr : r = role
      · simpa [hr] using hne
      · rw [Live.set_of_ne hr]
        exact hdead r
    | notCreated h =>
      obtain ⟨hdead, hnone⟩ := ih h
      exact ⟨hdead, List.forall_mem_cons.mpr ⟨by simp [Event.environment?], hnone⟩⟩
    | @used _ _ id' role _ h hlive hused =>
      obtain ⟨hdead, hnone⟩ := ih h
      have hne : id' ≠ id := by
        rintro rfl
        exact hdead role hlive
      refine ⟨hdead, List.forall_mem_cons.mpr ⟨?_, hnone⟩⟩
      rw [Event.environment?_of_used? hused]
      simpa using hne
    | @discarded _ live id' role _ h hlive =>
      obtain ⟨hdead, hnone⟩ := ih h
      have hne : id' ≠ id := by
        rintro rfl
        exact hdead role hlive
      refine ⟨fun r ↦ ?_, List.forall_mem_cons.mpr ⟨by simpa [Event.environment?] using hne, hnone⟩⟩
      by_cases hr : r = role
      · simp [hr]
      · rw [Live.set_of_ne hr]
        exact hdead r

variable {σ : Type}

/-- The trace tells who is live, and every number in it was given out. -/
structure World.Orderly (w : World σ) (live : Live) : Prop where
  lives : Lives w.trace live
  numbered : ∀ e ∈ w.trace, ∀ id, e.environment? = some id → id.number ≤ w.issued

namespace World.Orderly

variable {w w' : World σ} {live : Live} {env env' : Environment} {role : Role}

theorem cons {e : Event} (h : w.Orderly live) {live' : Live} (htrace : w'.trace = e :: w.trace)
    (hissued : w.issued ≤ w'.issued)
    (hnumber : ∀ id, e.environment? = some id → id.number ≤ w'.issued)
    (hlives : Lives (e :: w.trace) live') : w'.Orderly live' := by
  refine ⟨htrace ▸ hlives, fun e' he' id hid ↦ ?_⟩
  rw [htrace] at he'
  rcases List.mem_cons.mp he' with rfl | he'
  · exact hnumber id hid
  · exact Nat.le_trans (h.numbered e' he' id hid) hissued

theorem number_of_live (h : w.Orderly live) {id : EnvironmentId} (hlive : live role = some id) :
    id.number ≤ w.issued := by
  have hphase := h.lives.phase id
  generalize hown : Event.own id w.trace = own at hphase
  have hmem : ∀ e ∈ own, e ∈ w.trace ∧ e.environment? = some id := fun e he ↦ by
    rw [← hown, Event.own, List.mem_filter] at he
    simpa using he
  cases hphase with
  | unborn hnone | gone hnone => exact absurd hlive (hnone role)
  | alive =>
    obtain ⟨he, hid⟩ := hmem _ (List.mem_append_right _ List.mem_cons_self)
    exact h.numbered _ he id hid

theorem used {e : Event} (h : w.Orderly live) {id : EnvironmentId} (hlive : live role = some id)
    (hused : e.used? = some id) (htrace : w'.trace = e :: w.trace)
    (hissued : w'.issued = w.issued) : w'.Orderly live := by
  refine h.cons htrace (Nat.le_of_eq hissued.symm) (fun id' hid' ↦ ?_) (h.lives.used hlive hused)
  obtain rfl := Option.some.inj ((Event.environment?_of_used? hused).symm.trans hid')
  exact hissued ▸ h.number_of_live hlive

theorem grows {events : List Event} (h : w.Orderly live) (role : Role)
    (hlive : live role = some env.id) (hg : env.Grows w env' w' events) : w'.Orderly live := by
  have hused : ∀ e ∈ events, e.used? = some env.id := fun e he ↦ by
    obtain ⟨location, answer, rfl⟩ := hg.located e he
    rfl
  refine ⟨hg.trace ▸ h.lives.append_used hlive hused, fun e he id hid ↦ ?_⟩
  rw [hg.issued]
  rw [hg.trace] at he
  rcases List.mem_append.mp he with he | he
  · obtain rfl := Option.some.inj ((Event.environment?_of_used? (hused e he)).symm.trans hid)
    exact h.number_of_live hlive
  · exact h.numbered e he id hid

variable [Guests σ]

theorem create (h : w.Orderly live) (hvacant : live role = none)
    (hn : w.create role = (.ok env, w')) : w'.Orderly (live.set role (some env.id)) := by
  obtain ⟨rfl, hissued, htrace⟩ := World.create_ok hn
  refine h.cons htrace (hissued ▸ Nat.le_succ _) (fun id hid ↦ ?_)
    (h.lives.created hvacant fun e he hid ↦ Nat.not_succ_le_self _ (h.numbered e he _ hid))
  cases hid
  exact Nat.le_of_eq hissued.symm

theorem notCreated {e : EnvironmentError} (h : w.Orderly live)
    (hn : w.create role = (.error e, w')) : w'.Orderly live := by
  obtain ⟨hissued, htrace⟩ := World.create_error hn
  exact h.cons htrace hissued (by simp [Event.environment?]) h.lives.notCreated

theorem discard (h : w.Orderly live) (role : Role) (hlive : live role = some env.id) :
    (env.discard w).2.Orderly (live.set role none) := by
  refine h.cons (env.discard_trace w) (Nat.le_of_eq (env.discard_issued w).symm) (fun id hid ↦ ?_)
    (h.lives.discarded hlive)
  cases hid
  exact h.number_of_live hlive

theorem invoke (h : w.Orderly live) (role : Role) (hlive : live role = some env.id)
    (entryPoint payload : String) : (env.invoke entryPoint payload w).2.2.Orderly live := by
  obtain ⟨-, -, hissued, htrace⟩ := env.invoke_spec entryPoint payload w
  exact h.used hlive rfl htrace hissued

end World.Orderly

structure Kept (live : Live) (role : Role) (c : EnvironmentCache) (w : World σ) : Prop where
  role_eq : c.role = role
  orderly : w.Orderly (live.set role c.environmentId?)

namespace Kept

variable {live : Live} {role : Role} {c : EnvironmentCache} {w : World σ}

theorem environment {entry : CacheEntry} (h : Kept live role c w) (hc : c.entry = some entry) :
    w.Orderly (live.set role (some entry.environment.id)) := by
  simpa [EnvironmentCache.environmentId?, hc] using h.orderly

variable [Guests σ]

theorem vacates {key : DigestMap} {acquisition : Acquisition} {c₁ : EnvironmentCache} {w₁ : World σ}
    {released : List Event} (h : Kept live role c w)
    (hv : c.Vacates key w acquisition c₁ w₁ released) :
    c₁.role = role ∧ w₁.Orderly (live.set role none) := by
  refine ⟨hv.role.trans h.role_eq, ?_⟩
  cases hv with
  | vacant hc => simpa [EnvironmentCache.environmentId?, hc] using h.orderly
  | stale hc => simpa using (h.environment hc).discard role Live.set_same

theorem acquire (h : Kept live role c w) (key : DigestMap) (classpath : List String) :
    Kept live role (c.acquire key classpath w).2.1 (c.acquire key classpath w).2.2 := by
  obtain ⟨events, hacq⟩ := c.acquires key classpath w
  generalize c.acquire key classpath w = out at hacq
  cases hacq with
  | reused hc hs hl hg | stuck hc hs hl hg =>
    have hgrown := (h.environment hc).grows role Live.set_same hg
    exact ⟨h.role_eq, by simpa [EnvironmentCache.environmentId?, hg.id] using hgrown⟩
  | built hv hn hl hg =>
    obtain ⟨hrole, hvacant⟩ := h.vacates hv
    have hgrown := (hvacant.create Live.set_same (hrole ▸ hn)).grows role Live.set_same hg
    exact ⟨hrole, by simpa [EnvironmentCache.environmentId?, hg.id] using hgrown⟩
  | notCreated hv hn =>
    obtain ⟨hrole, hvacant⟩ := h.vacates hv
    exact ⟨hrole, by simpa [EnvironmentCache.environmentId?, hv.entry] using hvacant.notCreated hn⟩
  | unloadable hv hn hl hg =>
    obtain ⟨hrole, hvacant⟩ := h.vacates hv
    have hgrown := (hvacant.create Live.set_same (hrole ▸ hn)).grows role Live.set_same hg
    have hdead := hgrown.discard role (by rw [hg.id]; exact Live.set_same)
    exact ⟨hrole, by simpa [EnvironmentCache.dispose, EnvironmentCache.environmentId?,
      hv.entry] using hdead⟩

theorem invoke (h : Kept live role c w) (entryPoint payload : String) :
    Kept live role (c.invoke entryPoint payload w).2.1 (c.invoke entryPoint payload w).2.2 := by
  unfold EnvironmentCache.invoke
  cases hc : c.entry with
  | none => exact h
  | some entry =>
    have hinvoked := (h.environment hc).invoke role Live.set_same entryPoint payload
    exact ⟨h.role_eq, hinvoked⟩

theorem discard (h : Kept live role c w) : Kept live role (c.discard w).2.1 (c.discard w).2.2 := by
  unfold EnvironmentCache.discard
  cases hc : c.entry with
  | none => exact h
  | some entry =>
    have hdead := (h.environment hc).discard role Live.set_same
    exact ⟨h.role_eq, by simpa [EnvironmentCache.dispose,
      EnvironmentCache.environmentId?] using hdead⟩

theorem attempt (h : Kept live role c w) (key : DigestMap) (classpath : List String)
    (entryPoint payload : String) :
    Kept live role (c.attempt key classpath entryPoint payload w).1
      (c.attempt key classpath entryPoint payload w).2 := by
  have hacquired := h.acquire key classpath
  have hattempts := c.attempts key classpath entryPoint payload w
  generalize c.attempt key classpath entryPoint payload w = out at hattempts
  cases hattempts with
  | notAcquired ha => rwa [ha] at hacquired
  | invoked ha hi =>
    rw [ha] at hacquired
    have hinvoked := hacquired.invoke entryPoint payload
    rwa [hi] at hinvoked
  | broken ha hi =>
    rw [ha] at hacquired
    have hinvoked := hacquired.invoke entryPoint payload
    rw [hi] at hinvoked
    exact hinvoked.discard

end Kept

namespace Bench

def live (b : Bench σ) : Live := fun role ↦ (b.caches.get role).environmentId?

theorem live_on (b : Bench σ) (role : Role)
    (f : EnvironmentCache → World σ → EnvironmentCache × World σ) :
    (b.on role f).live = b.live.set role (f (b.caches.get role) b.world).1.environmentId? := by
  funext r
  simp only [live, Bench.on, RoleCaches.get_set, Live.set]
  split <;> rfl

structure Orderly (b : Bench σ) : Prop where
  role_eq : ∀ role, (b.caches.get role).role = role
  world : b.world.Orderly b.live

namespace Orderly

variable {b : Bench σ}

theorem start (guests : σ) : (Bench.start guests).Orderly := by
  refine ⟨fun role ↦ by cases role <;> rfl, ?_, by simp [Bench.start]⟩
  have hlive : (Bench.start guests).live = fun _ ↦ none := by
    funext role
    cases role <;> rfl
  rw [hlive]
  exact .nil

theorem kept (h : b.Orderly) (role : Role) : Kept b.live role (b.caches.get role) b.world :=
  ⟨h.role_eq role, (Live.set_self : b.live.set role (b.live role) = b.live).symm ▸ h.world⟩

theorem on (h : b.Orderly) (role : Role)
    (f : EnvironmentCache → World σ → EnvironmentCache × World σ)
    (hf : Kept b.live role (f (b.caches.get role) b.world).1 (f (b.caches.get role) b.world).2) :
    (b.on role f).Orderly := by
  refine ⟨fun r ↦ ?_, b.live_on role f ▸ hf.orderly⟩
  simp only [Bench.on, RoleCaches.get_set]
  split
  · rename_i hr
    exact hr ▸ hf.role_eq
  · exact h.role_eq r

variable [Guests σ]

theorem perform (h : b.Orderly) : ∀ action, (b.perform action).Orderly
  | .attempt role key classpath entryPoint payload =>
    h.on role (fun c w ↦ c.attempt key classpath entryPoint payload w)
      ((h.kept role).attempt key classpath entryPoint payload)
  | .discard role => h.on role (fun c w ↦ (c.discard w).2) (h.kept role).discard

theorem after (h : b.Orderly) (actions : List Action) : (b.after actions).Orderly := by
  induction actions generalizing b with
  | nil => exact h
  | cons action actions ih => exact ih (h.perform action)

end Orderly

variable [Guests σ]

theorem vacant_after_discards (b : Bench σ) (role : Role) :
    ((b.after [.discard .tooling, .discard .compile]).caches.get role).entry = none := by
  cases role <;> exact EnvironmentCache.discard_entry _ _

end Bench

/-- The life of every environment that a trace tells of, the oldest event first: it is created once,
then used, then discarded once, and until then no other is created in its role. -/
structure Lifecycle (trace : List Event) : Prop where
  whole : ∀ id, Event.own id trace = [] ∨
    ∃ role uses answer, Event.own id trace = .created id role :: (uses ++ [.discarded id answer]) ∧
      ∀ e ∈ uses, e.used? = some id
  alone : ∀ before id role between after, trace = before ++ .created id role :: (between ++ after) →
    (∀ answer, .discarded id answer ∉ between) → ∀ id', .created id' role ∉ between

theorem Lives.lifecycle {trace : List Event} (h : Lives trace fun _ ↦ none) :
    Lifecycle trace.reverse := by
  constructor
  · intro id
    have hown : Event.own id trace.reverse = (Event.own id trace).reverse := by
      rw [Event.own, Event.own, List.filter_reverse]
    have hphase := h.phase id
    rw [hown]
    generalize Event.own id trace = own at hphase
    cases hphase with
    | unborn => exact .inl rfl
    | @alive role uses hlive => exact absurd ((hlive role).mpr rfl) (by simp)
    | @gone role uses answer hlive huses =>
      exact .inr ⟨role, uses.reverse, answer, by simp, fun e he ↦ huses e (List.mem_reverse.mp he)⟩
  · intro before id role between after htrace hkept id' hm
    have hsplit :
        trace = after.reverse ++ (between.reverse ++ .created id role :: before.reverse) := by
      rw [← List.reverse_reverse trace, htrace]
      simp
    rw [hsplit] at h
    obtain ⟨live, h⟩ := h.of_append
    exact (h.alone fun answer hd ↦ hkept answer (List.mem_reverse.mp hd)).2 id'
      (List.mem_reverse.mpr hm)

/-- Whatever a service reads, writes or hears from guests, and whatever its dispatcher handled
before: no two environments of a role are alive at once, and the caches hold those that are. However
it ends, every environment is created once, used, and discarded once, and both caches are vacant. -/
theorem Service.run_lifecycle [Guests σ] (policy : Policy) (guests : σ) (earlier : List WorkRequest)
    (source : Framing.Source) (sink : Framing.Sink) : let s : Service σ :=
      { dispatcher := (Dispatcher.start policy guests).handleAll earlier, source, sink }
    Lives s.run.2.dispatcher.world.trace s.run.2.dispatcher.bench.live ∧ (s.run.1.isSome →
      Lifecycle s.run.2.dispatcher.world.trace.reverse ∧
      ∀ role, (s.run.2.dispatcher.caches.get role).isVacant) := by
  intro s
  obtain ⟨before, hbefore⟩ := (Dispatcher.start policy guests).handleAll_acts earlier
  obtain ⟨actions, hrun⟩ := s.run_acts
  have hstart : s.dispatcher.bench.Orderly := hbefore ▸ (Bench.Orderly.start guests).after before
  have horderly : s.run.2.dispatcher.bench.Orderly := hrun ▸ hstart.after _
  have hlives : Lives s.run.2.dispatcher.bench.world.trace s.run.2.dispatcher.bench.live :=
    horderly.world.lives
  refine ⟨hlives, fun hends ↦ ?_⟩
  rw [if_pos hends] at hrun
  have hvacant : ∀ role, (s.run.2.dispatcher.caches.get role).entry = none := fun role ↦ by
    have hcaches : s.run.2.dispatcher.caches = _ := congrArg Bench.caches hrun
    rw [hcaches, Bench.after_append]
    exact Bench.vacant_after_discards _ role
  have hlive : s.run.2.dispatcher.bench.live = fun _ ↦ none := by
    funext role
    simp [Bench.live, Dispatcher.bench, EnvironmentCache.environmentId?, hvacant role]
  rw [hlive] at hlives
  exact ⟨hlives.lifecycle, fun role ↦ by simp [EnvironmentCache.isVacant, hvacant role]⟩

end CompileWorker
