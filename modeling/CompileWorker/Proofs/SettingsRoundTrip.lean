import CompileWorker.Proofs.DecoderRoundTrip
import CompileWorker.Proofs.SettingsInForce

namespace CompileWorker

open Json

namespace Json

/-- If something is found wherever the base has a value, nothing of the base is left. -/
theorem merge_eq_overlay {base overlay : Json} (hbase : base.IsCanonical)
    (hoverlay : overlay.IsCanonical) (h : ∀ place ∈ base.places, overlay.at? place ≠ none) :
    merge base overlay = overlay := by
  refine (isCanonical_merge overlay hbase hoverlay).ext hoverlay fun path ↦ ?_
  rw [at?_merge hoverlay, at?_eq path overlay]
  match hm : mention path overlay with
  | some .cuts => exact .inl rfl
  | some (.holds j) => exact alike_of_grants (grants_laidOver _ j) (grants_held _)
  | none =>
    have hnone : overlay.at? path = none := by rw [at?_eq, hm]; rfl
    refine .inl (Option.eq_none_iff_forall_ne_some.mpr fun j hj ↦ ?_)
    obtain ⟨rest, hrest⟩ := exists_append_mem_places hj
    exact h _ hrest (at?_append_eq_none hnone rest)

namespace Decoder

theorem ofTree_natural {α : Type} {greatest : Int} {n : Nat} (h : n ≤ greatest) (expected : String)
    (f : Int → α) : ((integer 0 greatest expected).map f).ofTree (.nat n) = .ok (f n) := by
  have hwithin : (integer 0 greatest expected).ofTree (.nat n) = .ok (n : Int) :=
    if_pos ⟨Int.natCast_nonneg n, h⟩
  exact congrArg (Except.map f) hwithin

theorem ofTree_uint32 (n : UInt32) : Decoder.uint32.ofTree (.nat n.toNat) = .ok n := by
  have hlt := n.toNat_lt
  exact (ofTree_natural (by omega) "u32" _).trans (congrArg Except.ok UInt32.ofNat_toNat)

theorem ofTree_uint64 (expected : String) (n : UInt64) :
    (Decoder.uint64 expected).ofTree (.nat n.toNat) = .ok n := by
  have hlt := n.toNat_lt
  exact (ofTree_natural (by omega) expected _).trans (congrArg Except.ok UInt64.ofNat_toNat)

end Decoder

end Json

theorem EntryPoints.ofTree_toJson (e : EntryPoints) :
    decoder.ofTree e.toJson.canonical = .ok e := by
  rw [canonical_toJson]
  refine (Record.ofMembers_cons rfl (ofTree_field rfl) _ _).trans ?_
  refine (Record.ofMembers_cons rfl (ofTree_field rfl) _ _).trans ?_
  exact (Record.ofMembers_cons rfl (ofTree_field rfl) _ _).trans rfl

theorem GuestSettings.ofTree_toJson (g : GuestSettings) :
    decoder.ofTree g.toJson.canonical = .ok g := by
  rw [canonical_toJson]
  refine (Record.ofMembers_cons rfl (ofTree_field (ofTree_strings g.command)) _ _).trans ?_
  refine (Record.ofMembers_cons rfl (ofTree_field rfl) _ _).trans ?_
  refine (Record.ofMembers_cons rfl (ofTree_field (Decoder.ofTree_uint64 _ g.shutdownGrace)) _
    _).trans ?_
  exact (Record.ofMembers_cons rfl (ofTree_field (ofTree_strings g.toolingClasspath)) _ _).trans rfl

theorem WorkerSettings.ofTree_toJson (w : WorkerSettings) :
    decoder.ofTree w.toJson.canonical = .ok w := by
  rw [canonical_toJson]
  refine (Record.ofMembers_cons rfl (ofTree_field w.entryPoints.ofTree_toJson) _ _).trans ?_
  refine (Record.ofMembers_cons rfl (ofTree_field w.guest.ofTree_toJson) _ _).trans ?_
  refine (Record.ofMembers_cons rfl (ofTree_field (Decoder.ofTree_uint64 _ w.maxMessageBytes)) _
    _).trans ?_
  exact (Record.ofMembers_cons rfl (ofTree_field (Decoder.ofTree_uint32 w.maxRestarts)) _ _).trans
    rfl

theorem LoggingSettings.ofTree_toJson (l : LoggingSettings) :
    decoder.ofTree l.toJson.canonical = .ok l := by
  rw [canonical_toJson]
  refine (Record.ofMembers_cons rfl (ofTree_field rfl) _ _).trans ?_
  exact (Record.ofMembers_cons rfl (ofTree_field rfl) _ _).trans rfl

namespace Settings

theorem ofTree_toValue (s : Settings) : decoder.ofTree s.toValue = .ok s := by
  rw [toValue_eq]
  refine (Record.ofMembers_cons rfl (ofTree_field s.logging.ofTree_toJson) _ _).trans ?_
  exact (Record.ofMembers_cons rfl (ofTree_field s.worker.ofTree_toJson) _ _).trans rfl

theorem isCanonical_toValue (s : Settings) : s.toValue.IsCanonical := isCanonical_canonical _

theorem merge_toValue (below s : Settings) : merge below.toValue s.toValue = s.toValue := by
  refine merge_eq_overlay below.isCanonical_toValue s.isCanonical_toValue fun place hplace ↦ ?_
  rw [places_toValue, ← s.places_toValue] at hplace
  obtain ⟨j, hj, -⟩ := s.isCanonical_toValue.at?_place hplace
  exact Option.ne_none_iff_exists'.mpr ⟨j, hj⟩

end Settings

namespace EffectiveSettings

theorem check_toValue (s : Settings) :
    check s.toValue =
      if s.worker.problems = [] then .ok s else .error (.unusable s.worker.problems) := by
  have hdecoded : (Settings.decoder.ofTree s.toValue).mapError SettingsError.undecodable = .ok s :=
    congrArg (Except.mapError _) s.ofTree_toValue
  simp only [check, hdecoded, bind, Except.bind]
  cases s.worker.problems <;> rfl

/-- Settings that are laid over the defaults are printed and in force just as they are, unless
something is wrong with them; then all that is wrong is told. -/
theorem build_toValue (fs : Files) (s : Settings) :
    (s.worker.problems = [] → build fs none (some s.toValue) =
      .ok
        { config := s.toValue
          sources := [{ origin := .builtin }, { origin := .cli }]
          settings := s }) ∧
    (s.worker.problems ≠ [] → ∃ e, build fs none (some s.toValue) = .error e ∧
      e = .unusable s.worker.problems ∧
      e.message = "invalid configuration: " ++ "; ".intercalate s.worker.problems) := by
  have hmerged : mergeLayers ([SettingsLayer.builtin, .overrides s.toValue].map (·.value)) =
      s.toValue :=
    Settings.merge_toValue {} s
  have hbuild : build fs none (some s.toValue) = (check s.toValue).map fun settings ↦
      { config := s.toValue, sources := [{ origin := .builtin }, { origin := .cli }],
        settings } := by
    change ofLayers [.builtin, .overrides s.toValue] = _
    rw [ofLayers, hmerged]
    cases check s.toValue <;> rfl
  rw [hbuild, check_toValue]
  refine ⟨fun h ↦ ?_, fun h ↦ ?_⟩
  · rw [if_pos h]
    rfl
  · rw [if_neg h]
    exact ⟨_, rfl, rfl, rfl⟩

def plainSettings : Settings where
  worker :=
    { entryPoints := { plan := "plan", compile := "compile", package := "" },
      maxRestarts := 0xFFFFFFFF
      maxMessageBytes := 0xFFFFFFFFFFFFFFFF
      guest :=
        { command := ["guest"]
          shutdownGrace := 0xFFFFFFFFFFFFFFFF
          fingerprintTooling := false } }
  logging := { filter := "", ansi := true }

theorem plainSettings_in_force :
    plainSettings.worker.problems = [] ∧
      build {} none (some plainSettings.toValue) =
        .ok ⟨plainSettings.toValue, [{ origin := .builtin }, { origin := .cli }], plainSettings⟩ :=
  ⟨by decide, (build_toValue {} plainSettings).1 (by decide)⟩

end EffectiveSettings

end CompileWorker
