import CompileWorker.Proofs.RestlessGuests

namespace CompileWorker

def isUnsettled : Except DispatchError Round → Bool
  | .ok (.restarted _) => true
  | _ => false

variable {σ : Type}

variable [Guests σ]

namespace Policy

variable (p : Policy) (key : DigestMap) (classpath : List String) (script : String) (s : Session σ)

/-- Compiling as far as a first round and so many more take it, whether or not the limit allows for
them. -/
def follow (more : Nat) : Except DispatchError Round × Session σ :=
  (p.rounds key classpath script more 0).run.run s

/-- However long compiling is followed, it ends with the round after as many restarts as the limit
at the latest, no call is made beyond that, and what is counted and reported are the numbers of
restarts and of calls. -/
structure KeepsLimit : Prop where
  ended : ∀ more, p.settings.maxRestarts.toNat ≤ more →
    ¬ isUnsettled (p.follow key classpath script s more).1 ∧
      p.follow key classpath script s more =
        p.follow key classpath script s p.settings.maxRestarts.toNat
  calls : ∀ more, (s.world.callsUntil (p.follow key classpath script s more).2.world).length ≤
    p.settings.maxRestarts.toNat + 1
  counted : ∀ more restarts, (p.follow key classpath script s more).1 = .ok (.restarted restarts) →
    restarts.toNat = more + 1
  reported : ∀ more attempts, (p.follow key classpath script s more).1 =
    .error (.restartLoop attempts) →
    attempts.toNat = p.settings.maxRestarts.toNat + 1 ∧
      attempts.toNat = (s.world.callsUntil (p.follow key classpath script s more).2.world).length

def AlwaysRestarts : Prop :=
  let calls := s.world.callsUntil
    (p.follow key classpath script s p.settings.maxRestarts.toNat).2.world
  calls.length = p.settings.maxRestarts.toNat + 1 ∧ ∀ e ∈ calls, e.signal? = some .retry

end Policy

theorem TaskOutcome.verdict_ne_restartLoop (o : TaskOutcome) (attempts : UInt32) :
    o.verdict ≠ .error (.restartLoop attempts) := by
  rcases o with e | ⟨id, e | invocation⟩
  · nofun
  · nofun
  · intro h
    simp only [verdict] at h
    cases hv : Signal.ofValue invocation.value <;> rw [hv] at h <;> cases h

namespace Policy

variable {p : Policy}

namespace Repeats

variable {t : GuestTask} {made more : Nat} {b b' : Bench σ} {as : List Attempt}
  {r : Except DispatchError Round} {restarts : UInt32}

theorem follows (h : p.Repeats t made more b as r b') : b.Follows as b' := by
  cases h with
  | settled h _ hm => exact h.follows.append hm.follows
  | refused h => exact h.follows
  | unsettled h => exact h.follows

theorem length_le (h : p.Repeats t made more b as r b') : as.length ≤ more + 1 := by
  cases h with
  | settled _ hlen =>
    rw [List.length_append, List.length_singleton]
    omega
  | refused _ _ hlen => exact hlen
  | unsettled _ hlen => exact Nat.le_of_eq hlen

theorem of_refused (h : p.Repeats t 0 more b as (.error (.restartLoop restarts)) b') :
    b.Restarts t as b' ∧ as.length = p.settings.maxRestarts.toNat + 1 ∧
      restarts.toNat = p.settings.maxRestarts.toNat + 1 := by
  generalize hr : (.error (.restartLoop restarts) : Except DispatchError Round) = r at h
  cases h with
  | @settled _ o =>
    cases hv : o.verdict with
    | ok signal =>
      rw [hv] at hr
      cases hr
    | error e =>
      rw [hv] at hr
      cases hr
      exact absurd hv (o.verdict_ne_restartLoop restarts)
  | refused h _ _ hgranted hover =>
    cases hr
    rw [Nat.zero_add] at hgranted hover ⊢
    have hlen := eq_succ_of_first_above hgranted hover
    have hword : p.settings.maxRestarts.toNat + 1 < UInt32.size :=
      Nat.lt_of_le_of_lt (UInt32.lt_iff_toNat_lt.mp hover) (UInt32.toNat_lt_size _)
    refine ⟨h, hlen, ?_⟩
    rw [hlen]
    exact UInt32.toNat_ofNat_of_lt' hword
  | unsettled => cases hr

theorem of_restarted (h : p.Repeats t 0 more b as (.ok (.restarted restarts)) b') :
    b.Restarts t as b' ∧ as.length = more + 1 ∧ restarts = UInt32.ofNat (more + 1) ∧
      (more < p.settings.maxRestarts.toNat ∨ p.settings.maxRestarts.toNat + 1 = UInt32.size) := by
  generalize hr : (.ok (.restarted restarts) : Except DispatchError Round) = r at h
  cases h with
  | @settled _ o => cases hv : o.verdict <;> rw [hv] at hr <;> cases hr
  | refused => cases hr
  | unsettled h hlen hgranted =>
    cases hr
    rw [Nat.zero_add, hlen] at hgranted ⊢
    refine ⟨h, rfl, rfl, ?_⟩
    by_contra hneither
    have hlt := UInt32.toNat_lt_size p.settings.maxRestarts
    have hword : p.settings.maxRestarts.toNat + 1 < UInt32.size := by omega
    have hle := (UInt32.ofNat_le_iff hword).mp (hgranted _ (Nat.succ_pos _) (by omega))
    omega

end Repeats

variable (p) (key : DigestMap) (classpath : List String) (script : String) (s : Session σ)

theorem repeats_follow (more : Nat) :
    ∃ as, p.Repeats ⟨.compile, key, classpath, p.settings.entryPoints.compile, script⟩ 0 more
        s.bench as (p.follow key classpath script s more).1
        (p.follow key classpath script s more).2.bench ∧
      s.world.callsUntil (p.follow key classpath script s more).2.world =
        as.filterMap Attempt.call? := by
  have hrun : (p.rounds key classpath script more (UInt32.ofNat 0)).run.run s =
      ((p.follow key classpath script s more).1, (p.follow key classpath script s more).2) := rfl
  obtain ⟨as, h⟩ := p.repeats_rounds 0 hrun
  exact ⟨as, h, h.follows.callsUntil⟩

theorem calls_follow_le (more : Nat) :
    (s.world.callsUntil (p.follow key classpath script s more).2.world).length ≤ more + 1 := by
  obtain ⟨as, hrepeats, hcalls⟩ := p.repeats_follow key classpath script s more
  rw [hcalls]
  exact Nat.le_trans (List.length_filterMap_le _ _) hrepeats.length_le

theorem rounds_of_settled {more : Nat} {restarts : UInt32} {s : Session σ}
    (h : ¬ isUnsettled ((p.rounds key classpath script more restarts).run.run s).1) :
    (p.rounds key classpath script (more + 1) restarts).run.run s =
      (p.rounds key classpath script more restarts).run.run s := by
  -- on the rounds that were enough
  induction more generalizing restarts s with
  | zero =>
    rw [run_rounds_succ]
    change ¬ isUnsettled ((p.round key classpath script restarts).run.run s).1 at h
    change _ = (p.round key classpath script restarts).run.run s
    rcases hround : (p.round key classpath script restarts).run.run s with ⟨e | round, s₁⟩
    · rfl
    · cases round with
      | settled => rfl
      | restarted => exact absurd rfl (hround ▸ h)
  | succ more ih =>
    rw [run_rounds_succ p key classpath script more] at h
    rw [run_rounds_succ, run_rounds_succ p key classpath script more]
    rcases hround : (p.round key classpath script restarts).run.run s with ⟨e | round, s₁⟩
    · rfl
    · rw [hround] at h
      cases round with
      | settled => rfl
      | restarted restarts => exact ih h

theorem follow_of_settled {more later : Nat}
    (h : ¬ isUnsettled (p.follow key classpath script s more).1) (hlater : more ≤ later) :
    p.follow key classpath script s later = p.follow key classpath script s more := by
  obtain ⟨further, rfl⟩ := Nat.exists_eq_add_of_le hlater
  induction further with
  | zero => rfl
  | succ further ih =>
    have hsame := ih (Nat.le_add_right more further)
    rw [← hsame] at h ⊢
    exact p.rounds_of_settled key classpath script h

variable {p key classpath script s}

theorem alwaysRestarts_of_unsettled {more : Nat} (hmore : p.settings.maxRestarts.toNat ≤ more)
    (h : isUnsettled (p.follow key classpath script s more).1) :
    p.settings.maxRestarts.toNat + 1 = UInt32.size ∧ p.AlwaysRestarts key classpath script s := by
  have hlimit : isUnsettled (p.follow key classpath script s p.settings.maxRestarts.toNat).1 := by
    by_contra hsettled
    rw [p.follow_of_settled key classpath script s hsettled hmore] at h
    exact hsettled h
  obtain ⟨as, hrepeats, hcalls⟩ :=
    p.repeats_follow key classpath script s p.settings.maxRestarts.toNat
  rcases hr : (p.follow key classpath script s p.settings.maxRestarts.toNat).1
    with e | signal | restarts
  · rw [hr] at hlimit
    cases hlimit
  · rw [hr] at hlimit
    cases hlimit
  · rw [hr] at hrepeats
    obtain ⟨hrestarts, hlen, -, hlt | hlargest⟩ := hrepeats.of_restarted
    · exact absurd hlt (Nat.lt_irrefl _)
    · obtain ⟨hlength, hretry⟩ := hrestarts.calls
      rw [AlwaysRestarts, hcalls]
      exact ⟨hlargest, hlength.trans hlen, hretry⟩

theorem unsettled_of_alwaysRestarts (hlargest : p.settings.maxRestarts.toNat + 1 = UInt32.size)
    (h : p.AlwaysRestarts key classpath script s) :
    isUnsettled (p.follow key classpath script s p.settings.maxRestarts.toNat).1 := by
  obtain ⟨as, hrepeats, hcalls⟩ :=
    p.repeats_follow key classpath script s p.settings.maxRestarts.toNat
  obtain ⟨hlength, hretry⟩ := h
  rw [hcalls] at hlength hretry
  generalize (p.follow key classpath script s p.settings.maxRestarts.toNat).1 = r at hrepeats ⊢
  cases hrepeats with
  | settled _ hlen _ ho =>
    -- the attempt that settled compiling was no call
    have hle := Attempt.length_calls_le ho hretry
    omega
  | refused _ _ _ _ hover =>
    have hlt := UInt32.lt_iff_toNat_lt.mp hover
    have hword := UInt32.toNat_lt_size (UInt32.ofNat (0 + as.length))
    omega
  | unsettled => rfl

theorem calls_follow_le_limit
    (h : ¬ isUnsettled (p.follow key classpath script s p.settings.maxRestarts.toNat).1)
    (more : Nat) :
    (s.world.callsUntil (p.follow key classpath script s more).2.world).length ≤
      p.settings.maxRestarts.toNat + 1 := by
  by_cases hmore : p.settings.maxRestarts.toNat ≤ more
  · rw [p.follow_of_settled key classpath script s h hmore]
    exact p.calls_follow_le key classpath script s _
  · have hcalls := p.calls_follow_le key classpath script s more
    omega

theorem restarts_counted {more : Nat} {restarts : UInt32}
    (hmore : more < p.settings.maxRestarts.toNat)
    (h : (p.follow key classpath script s more).1 = .ok (.restarted restarts)) :
    restarts.toNat = more + 1 := by
  obtain ⟨as, hrepeats, -⟩ := p.repeats_follow key classpath script s more
  rw [h] at hrepeats
  obtain ⟨-, -, rfl, -⟩ := hrepeats.of_restarted
  have hword : more + 1 < UInt32.size := Nat.lt_of_le_of_lt hmore (UInt32.toNat_lt_size _)
  exact UInt32.toNat_ofNat_of_lt' hword

theorem attempts_reported {more : Nat} {attempts : UInt32}
    (h : (p.follow key classpath script s more).1 = .error (.restartLoop attempts)) :
    attempts.toNat = p.settings.maxRestarts.toNat + 1 ∧
      attempts.toNat =
        (s.world.callsUntil (p.follow key classpath script s more).2.world).length := by
  obtain ⟨as, hrepeats, hcalls⟩ := p.repeats_follow key classpath script s more
  rw [h] at hrepeats
  obtain ⟨hrestarts, hlen, hattempts⟩ := hrepeats.of_refused
  rw [hcalls, hrestarts.calls.1]
  exact ⟨hattempts, hattempts.trans hlen.symm⟩

theorem maxRestarts_eq_largest_iff :
    p.settings.maxRestarts = 0xFFFFFFFF ↔ p.settings.maxRestarts.toNat + 1 = UInt32.size := by
  rw [← UInt32.toNat_inj]
  constructor
  · intro h
    rw [h]
    rfl
  · exact Nat.succ.inj

/-- Compiling keeps to its limit but for one case: the limit is the largest there is, and each of
the 2 ^ 32 calls up to it asks for a restart. -/
theorem keepsLimit_iff : p.KeepsLimit key classpath script s ↔
    ¬ (p.settings.maxRestarts = 0xFFFFFFFF ∧ p.AlwaysRestarts key classpath script s) := by
  rw [maxRestarts_eq_largest_iff]
  constructor
  · rintro h ⟨hsize, halways⟩
    exact (h.ended _ (Nat.le_refl _)).1 (unsettled_of_alwaysRestarts hsize halways)
  · intro h
    have hended : ∀ more, p.settings.maxRestarts.toNat ≤ more →
        ¬ isUnsettled (p.follow key classpath script s more).1 := by
      intro more hmore hunsettled
      exact h (alwaysRestarts_of_unsettled hmore hunsettled)
    have hlimit := hended _ (Nat.le_refl _)
    constructor
    case ended =>
      intro more hmore
      exact ⟨hended more hmore, p.follow_of_settled key classpath script s hlimit hmore⟩
    case calls => exact calls_follow_le_limit hlimit
    case counted =>
      intro more restarts hrestarted
      apply restarts_counted _ hrestarted
      by_contra hmore
      apply hended more (Nat.le_of_not_lt hmore)
      rw [hrestarted]
      rfl
    case reported => exact fun _ _ ↦ attempts_reported

end Policy

def restlessPlan : Except DispatchError String × Session Mock :=
  (unlimitedPolicy.plan "[[],\"c\",[],\"o\"]").run.run
    ((Dispatcher.start unlimitedPolicy restlessGuests).session restlessRequest)

theorem limit_not_always_kept : unlimitedPolicy.settings.problems = [] ∧ restlessPlan.1 = .ok "s" ∧
    ¬ unlimitedPolicy.KeepsLimit (.forRequest [] restlessRequest.inputs) [] "s" restlessPlan.2 := by
  have hvacant : restlessPlan.2.caches.compile.entry = none := rfl
  have hrestless :
      restlessPlan.2.world.guests.IsRestless unlimitedPolicy.settings.entryPoints.compile :=
    ⟨by decide +kernel, rfl⟩
  refine ⟨by decide +kernel, rfl, ?_⟩
  intro h
  obtain ⟨restarts, s', hrounds⟩ :=
    Policy.rounds_restless rfl (.forRequest [] restlessRequest.inputs) "s"
      unlimitedPolicy.settings.maxRestarts.toNat 0 hvacant hrestless
  apply (h.ended _ (Nat.le_refl _)).1
  rw [show (unlimitedPolicy.follow _ _ _ _ _).1 = _ from congrArg Prod.fst hrounds]
  rfl

end CompileWorker
