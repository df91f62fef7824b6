import CompileWorker.Proofs.LayerPrecedence
import CompileWorker.Proofs.RecordFields
import CompileWorker.Settings.Effective

namespace CompileWorker

open Json

namespace Toml

theorem Value.table_ok {members : List (String × Value)} {j : Json}
    (h : (Value.table members).toJson? = some j) :
    (∃ text, j = .string text) ∨
      ∃ values, membersToJson? members = some values ∧ j = .object (sortMembers values) := by
  match members with
  | [] =>
    rw [Value.toJson?] at h
    cases h
    exact .inr ⟨[], rfl, rfl⟩
  | (name, value) :: members =>
    rw [membersToJson?]
    by_cases hname : name = dateTimeMark
    · left
      cases value with
      | string text =>
        rw [Value.toJson?, if_pos hname] at h
        obtain ⟨t, -, rfl⟩ := Option.map_eq_some_iff.mp h
        exact ⟨t, rfl⟩
      | _ => simp [Value.toJson?, hname] at h
    · right
      cases value with
      | string text =>
        rw [Value.toJson?, if_neg hname] at h
        obtain ⟨values, hvalues, hj⟩ := Option.bind_eq_some_iff.mp h
        refine ⟨(name, .string text) :: values, ?_, (Option.some.inj hj).symm⟩
        rw [Value.toJson?, hvalues]
        rfl
      | _ =>
        simp only [Value.toJson?, if_neg hname] at h
        obtain ⟨k, hk, hmembers⟩ := Option.bind_eq_some_iff.mp h
        obtain ⟨values, hvalues, hj⟩ := Option.bind_eq_some_iff.mp hmembers
        refine ⟨(name, k) :: values, ?_, (Option.some.inj hj).symm⟩
        simp only [Value.toJson?, hk, hvalues]
        rfl

mutual

theorem Value.isCanonical : ∀ (value : Value) {j : Json}, value.toJson? = some j → j.IsCanonical
  | .string _, _, h => by rw [Value.toJson?] at h; cases h; rfl
  | .integer _, _, h => by rw [Value.toJson?] at h; cases h; rfl
  | .float (some _), _, h => by rw [Value.toJson?] at h; cases h; rfl
  | .float none, _, h => by rw [Value.toJson?] at h; cases h; rfl
  | .boolean _, _, h => by rw [Value.toJson?] at h; cases h; rfl
  | .dateTime _, _, h => by rw [Value.toJson?] at h; cases h; rfl
  | .array items, _, h => by
    rw [Value.toJson?] at h
    obtain ⟨js, hjs, hj⟩ := Option.bind_eq_some_iff.mp h
    cases hj
    exact isCanonical_array.mpr (itemsCanonical items hjs)
  | .table members, _, h => by
    obtain ⟨text, rfl⟩ | ⟨values, hvalues, rfl⟩ := Value.table_ok h
    · rfl
    · exact isCanonical_object.mpr ⟨isSorted_sortMembers values, fun m hm ↦
        membersCanonical members hvalues m (mem_of_mem_sortMembers hm)⟩

theorem itemsCanonical : ∀ (items : List Value) {js : List Json}, itemsToJson? items = some js →
    ∀ j ∈ js, j.IsCanonical
  | [], _, h => by rw [itemsToJson?] at h; cases h; exact List.forall_mem_nil _
  | value :: items, _, h => by
    rw [itemsToJson?] at h
    obtain ⟨j, hj, hrest⟩ := Option.bind_eq_some_iff.mp h
    obtain ⟨js, hjs, heq⟩ := Option.bind_eq_some_iff.mp hrest
    cases heq
    exact List.forall_mem_cons.mpr ⟨value.isCanonical hj, itemsCanonical items hjs⟩

theorem membersCanonical : ∀ (members : List (String × Value)) {values : List (String × Json)},
    membersToJson? members = some values → ∀ m ∈ values, m.2.IsCanonical
  | [], _, h => by rw [membersToJson?] at h; cases h; exact List.forall_mem_nil _
  | (name, value) :: members, _, h => by
    rw [membersToJson?] at h
    obtain ⟨j, hj, hrest⟩ := Option.bind_eq_some_iff.mp h
    obtain ⟨values, hvalues, heq⟩ := Option.bind_eq_some_iff.mp hrest
    cases heq
    exact List.forall_mem_cons.mpr ⟨value.isCanonical hj, membersCanonical members hvalues⟩

end

theorem isCanonical_parse {text : String} {j : Json} (h : parse text = some j) : j.IsCanonical := by
  obtain ⟨value, -, hvalue⟩ := Option.bind_eq_some_iff.mp h
  exact value.isCanonical hvalue

end Toml

theorem canonicalItems_strings (ss : List String) :
    canonicalItems (ss.map .string) = ss.map .string := by
  rw [canonicalItems_eq_map, map_eq_self_iff, List.forall_mem_map]
  exact fun _ _ ↦ rfl

theorem canonical_nat (n : Nat) : (Json.nat n).canonical = .nat n := rfl

namespace EntryPoints

theorem canonical_toJson (e : EntryPoints) :
    e.toJson.canonical =
      .object [("compile", .string e.compile), ("package", .string e.package),
        ("plan", .string e.plan)] := by
  simp only [toJson, canonical, canonicalMembers, sortMembers, List.foldl, Sorted.put,
    String.reduceLT, reduceIte]

theorem encodes : record.Encodes fun e ↦ e.toJson.canonical := by
  refine ⟨fun e ↦ ⟨_, _, e.canonical_toJson⟩, ?_⟩
  simp only [canonical_toJson]
  refine List.forall_mem_cons.mpr
    ⟨?_, List.forall_mem_cons.mpr ⟨?_, List.forall_mem_singleton.mpr ?_⟩⟩
  all_goals
    refine Decoder.faithful_string.shown (fun _ _ ↦ rfl) fun _ _ other h ↦ ?_
    simp only [member?, Sorted.lookup_cons, if_neg h]

end EntryPoints

namespace GuestSettings

theorem canonical_toJson (g : GuestSettings) :
    g.toJson.canonical =
      .object
        [("command", .array (g.command.map .string)),
         ("fingerprint-tooling", .bool g.fingerprintTooling),
         ("shutdown-grace-ms", .nat g.shutdownGrace.toNat),
         ("tooling-classpath", .array (g.toolingClasspath.map .string))] := by
  simp only [toJson, canonical, canonicalMembers, sortMembers, List.foldl, Sorted.put,
    String.reduceLT, reduceIte, canonicalItems_strings, canonical_nat]

theorem encodes : record.Encodes fun g ↦ g.toJson.canonical := by
  refine ⟨fun g ↦ ⟨_, _, g.canonical_toJson⟩, ?_⟩
  simp only [canonical_toJson]
  refine List.forall_mem_cons.mpr ⟨?_, List.forall_mem_cons.mpr ⟨?_, List.forall_mem_cons.mpr ⟨?_,
    List.forall_mem_singleton.mpr ?_⟩⟩⟩
  · refine Decoder.faithful_strings.shown (fun _ _ ↦ rfl) fun _ _ other h ↦ ?_
    simp only [member?, Sorted.lookup_cons, if_neg h]
  · refine Decoder.faithful_strings.shown (fun _ _ ↦ rfl) fun _ _ other h ↦ ?_
    simp only [member?, Sorted.lookup_cons, if_neg h]
  · refine (Decoder.faithful_uint64 "u64").shown (fun _ _ ↦ rfl) fun _ _ other h ↦ ?_
    simp only [member?, Sorted.lookup_cons, if_neg h]
  · refine Decoder.faithful_bool.shown (fun _ _ ↦ rfl) fun _ _ other h ↦ ?_
    simp only [member?, Sorted.lookup_cons, if_neg h]

end GuestSettings

namespace WorkerSettings

theorem canonical_toJson (w : WorkerSettings) :
    w.toJson.canonical =
      .object
        [("entry-points", w.entryPoints.toJson.canonical), ("guest", w.guest.toJson.canonical),
         ("max-message-bytes", .nat w.maxMessageBytes.toNat),
         ("max-restarts", .nat w.maxRestarts.toNat)] := by
  simp only [toJson, canonical, canonicalMembers, sortMembers, List.foldl, Sorted.put,
    String.reduceLT, reduceIte, canonical_nat]

theorem encodes : record.Encodes fun w ↦ w.toJson.canonical := by
  refine ⟨fun w ↦ ⟨_, _, w.canonical_toJson⟩, ?_⟩
  simp only [canonical_toJson]
  refine List.forall_mem_cons.mpr ⟨?_, List.forall_mem_cons.mpr ⟨?_, List.forall_mem_cons.mpr ⟨?_,
    List.forall_mem_singleton.mpr ?_⟩⟩⟩
  · refine (EntryPoints.encodes.faithful rfl).shown (fun _ _ ↦ rfl) fun _ _ other h ↦ ?_
    simp only [member?, Sorted.lookup_cons, if_neg h]
  · refine Decoder.faithful_uint32.shown (fun _ _ ↦ rfl) fun _ _ other h ↦ ?_
    simp only [member?, Sorted.lookup_cons, if_neg h]
  · refine (Decoder.faithful_uint64 "usize").shown (fun _ _ ↦ rfl) fun _ _ other h ↦ ?_
    simp only [member?, Sorted.lookup_cons, if_neg h]
  · refine (GuestSettings.encodes.faithful rfl).shown (fun _ _ ↦ rfl) fun _ _ other h ↦ ?_
    simp only [member?, Sorted.lookup_cons, if_neg h]

end WorkerSettings

namespace LoggingSettings

theorem canonical_toJson (l : LoggingSettings) :
    l.toJson.canonical = .object [("ansi", .bool l.ansi), ("filter", .string l.filter)] := by
  simp only [toJson, canonical, canonicalMembers, sortMembers, List.foldl, Sorted.put,
    String.reduceLT, reduceIte]

theorem encodes : record.Encodes fun l ↦ l.toJson.canonical := by
  refine ⟨fun l ↦ ⟨_, _, l.canonical_toJson⟩, ?_⟩
  simp only [canonical_toJson]
  refine List.forall_mem_cons.mpr ⟨?_, List.forall_mem_singleton.mpr ?_⟩
  · refine Decoder.faithful_string.shown (fun _ _ ↦ rfl) fun _ _ other h ↦ ?_
    simp only [member?, Sorted.lookup_cons, if_neg h]
  · refine Decoder.faithful_bool.shown (fun _ _ ↦ rfl) fun _ _ other h ↦ ?_
    simp only [member?, Sorted.lookup_cons, if_neg h]

end LoggingSettings

namespace Settings

theorem toValue_eq (s : Settings) :
    s.toValue = .object [("logging", s.logging.toJson.canonical),
      ("worker", s.worker.toJson.canonical)] := by
  simp only [toValue, toJson, canonical, canonicalMembers, sortMembers, List.foldl, Sorted.put,
    String.reduceLT, reduceIte]

theorem encodes : record.Encodes toValue := by
  refine ⟨fun s ↦ ⟨_, _, s.toValue_eq⟩, ?_⟩
  refine List.forall_mem_cons.mpr ⟨?_, List.forall_mem_singleton.mpr ?_⟩
  · refine (WorkerSettings.encodes.faithful rfl).shown (fun _ _ ↦ by rw [toValue_eq]; rfl)
      fun _ _ other h ↦ ?_
    simp only [toValue_eq, member?, Sorted.lookup_cons, if_neg h]
  · refine (LoggingSettings.encodes.faithful rfl).shown (fun _ _ ↦ by rw [toValue_eq]; rfl)
      fun _ _ other h ↦ ?_
    simp only [toValue_eq, member?, Sorted.lookup_cons, if_neg h]

def places : List (List String) :=
  [["logging", "ansi"], ["logging", "filter"], ["worker", "entry-points", "compile"],
   ["worker", "entry-points", "package"], ["worker", "entry-points", "plan"],
   ["worker", "guest", "command"], ["worker", "guest", "fingerprint-tooling"],
   ["worker", "guest", "shutdown-grace-ms"], ["worker", "guest", "tooling-classpath"],
   ["worker", "max-message-bytes"], ["worker", "max-restarts"]]

theorem places_toValue (s : Settings) : s.toValue.places = places := by
  rw [toValue_eq, LoggingSettings.canonical_toJson, WorkerSettings.canonical_toJson,
    EntryPoints.canonical_toJson, GuestSettings.canonical_toJson]
  rfl

end Settings

theorem of_bind_ok {ε α β : Type} {x : Except ε α} {f : α → Except ε β} {b : β}
    (h : x >>= f = .ok b) : ∃ a, x = .ok a ∧ f a = .ok b := by
  cases x with
  | error e => cases h
  | ok a => exact ⟨a, rfl, h⟩

theorem of_mapError_ok {ε δ α : Type} {x : Except ε α} {f : ε → δ} {a : α}
    (h : x.mapError f = .ok a) : x = .ok a := by
  cases x with
  | error e => cases h
  | ok b => exact congrArg Except.ok (Except.ok.inj h)

namespace SettingsLayer

theorem isCanonical_builtin : builtin.value.IsCanonical := isCanonical_canonical _

theorem isCanonical_ofFile {fs : Files} {path : String} {layer : SettingsLayer}
    (h : ofFile fs path = .ok layer) : layer.value.IsCanonical := by
  obtain ⟨content, -, h⟩ := of_bind_ok h
  obtain ⟨text, -, h⟩ := of_bind_ok h
  split at h
  · rename_i value hvalue
    cases h
    exact Toml.isCanonical_parse hvalue
  · cases h

end SettingsLayer

namespace EffectiveSettings

def layers (fs : Files) (path : Option String) (overrides : Option Json) :
    Except SettingsError (List SettingsLayer) := do
  let file ← path.toList.mapM (SettingsLayer.ofFile fs)
  return .builtin :: file ++ overrides.toList.map .overrides

variable {fs : Files} {path : Option String} {overrides : Option Json}

theorem build_eq : build fs path overrides = layers fs path overrides >>= ofLayers := by
  rw [layers, build]
  cases path.toList.mapM (SettingsLayer.ofFile fs) <;> rfl

theorem ofFiles_ok {file : List SettingsLayer}
    (h : path.toList.mapM (SettingsLayer.ofFile fs) = .ok file) :
    ∀ layer ∈ file, layer.value.IsCanonical := by
  cases path with
  | none =>
    cases h
    exact List.forall_mem_nil _
  | some path =>
    rw [Option.toList_some, List.mapM_cons] at h
    obtain ⟨layer, hlayer, h⟩ := of_bind_ok h
    cases h
    exact List.forall_mem_singleton.mpr (SettingsLayer.isCanonical_ofFile hlayer)

theorem layers_ok {all : List SettingsLayer} (h : layers fs path overrides = .ok all)
    (hoverrides : ∀ j ∈ overrides, j.IsCanonical) :
    (∃ upper, all = .builtin :: upper) ∧ ∀ j ∈ all.map (·.value), j.IsCanonical := by
  obtain ⟨file, hfile, h⟩ := of_bind_ok h
  cases h
  refine ⟨⟨_, rfl⟩, ?_⟩
  rw [List.forall_mem_map, List.cons_append, List.forall_mem_cons, List.forall_mem_append,
    List.forall_mem_map]
  refine ⟨SettingsLayer.isCanonical_builtin, ofFiles_ok hfile, fun j hj ↦ ?_⟩
  exact hoverrides j (Option.mem_toList.mp hj)

theorem ofLayers_ok {all : List SettingsLayer} {e : EffectiveSettings} (h : ofLayers all = .ok e) :
    e.config = mergeLayers (all.map (·.value)) ∧
    Settings.decoder.ofTree e.config = .ok e.settings := by
  obtain ⟨settings, hsettings, h⟩ := of_bind_ok h
  cases h
  obtain ⟨decoded, hdecoded, hsettings⟩ := of_bind_ok hsettings
  split at hsettings
  · cases hsettings
    exact ⟨rfl, of_mapError_ok hdecoded⟩
  · cases hsettings

/-- At the place of a setting the merged value has something unless the highest layer that says
anything about it has something other than a table on the way. -/
theorem at?_mergeLayers_eq_none_iff {upper : List Json}
    (h : ∀ j ∈ SettingsLayer.builtin.value :: upper, j.IsCanonical) {place : List String}
    (hplace : place ∈ Settings.places) :
    (mergeLayers (SettingsLayer.builtin.value :: upper)).at? place = none ↔
      lastMention (SettingsLayer.builtin.value :: upper) place = some .cuts := by
  have hgrants := grants_mergeLayers (List.cons_ne_nil _ _) h place
  have hbuiltin : (mention place SettingsLayer.builtin.value).isSome := by
    obtain ⟨j, hj, -⟩ :=
      SettingsLayer.isCanonical_builtin.at?_place (Settings.places_toValue {} ▸ hplace)
    rw [at?_eq] at hj
    obtain ⟨m, hm, -⟩ := Option.bind_eq_some_iff.mp hj
    exact Option.isSome_of_eq_some hm
  match hlast : lastMention (SettingsLayer.builtin.value :: upper) place with
  | none =>
    have hnone := List.findSome?_eq_none_iff.mp hlast _ (List.mem_reverse.mpr List.mem_cons_self)
    rw [hnone] at hbuiltin
    cases hbuiltin
  | some .cuts =>
    rw [hlast] at hgrants
    exact iff_of_true hgrants rfl
  | some (.holds j) =>
    rw [hlast] at hgrants
    refine iff_of_false (fun hnone ↦ ?_) (fun hcuts ↦ by cases hcuts)
    rw [hnone] at hgrants
    obtain _ | _ | _ | _ | _ | _ := j
    case object =>
      obtain ⟨_, hobject⟩ := hgrants
      cases hobject
    all_goals cases hgrants

/-- Whatever is printed is in force, a list that stands for a section apart; and all settings in
force are printed just if no setting is cut off by the highest layer that says anything about it. -/
theorem build_shown (hoverrides : ∀ j ∈ overrides, j.IsCanonical) {e : EffectiveSettings}
    (h : build fs path overrides = .ok e) :
    e.config.Reflects e.settings.toValue ∧
      ∃ all, layers fs path overrides = .ok all ∧
        (e.settings.toValue = e.config ↔
          ∀ place ∈ Settings.places, lastMention (all.map (·.value)) place ≠ some .cuts) := by
  rw [build_eq] at h
  obtain ⟨all, hall, hlayers⟩ := of_bind_ok h
  obtain ⟨⟨upper, rfl⟩, hcanonical⟩ := layers_ok hall hoverrides
  obtain ⟨hconfig, hdecoded⟩ := ofLayers_ok hlayers
  have hreflects := Settings.encodes.faithful rfl _ _ hdecoded
  refine ⟨hreflects, _, hall, ?_⟩
  rw [hreflects.eq_iff (hconfig ▸ isCanonical_mergeLayers hcanonical) (isCanonical_canonical _),
    Settings.places_toValue, hconfig]
  exact forall₂_congr fun place hplace ↦ (at?_mergeLayers_eq_none_iff hcanonical hplace).not

theorem exists_of_isOk {ε α : Type} {x : Except ε α} (h : x.isOk) : ∃ a, x = .ok a := by
  cases x with
  | error e => cases h
  | ok a => exact ⟨a, rfl⟩

def listed : Json := .object [("logging", .array [.string "cljw=debug"])]

theorem isCanonical_listed : ∀ j ∈ some listed, j.IsCanonical := by
  rintro j ⟨⟩
  rfl

theorem listed_shown :
    ∃ e, build {} none (some listed) = .ok e ∧ e.config.Reflects e.settings.toValue ∧
      ∃ all, layers {} none (some listed) = .ok all ∧
        (e.settings.toValue = e.config ↔
          ∀ place ∈ Settings.places, lastMention (all.map (·.value)) place ≠ some .cuts) := by
  obtain ⟨e, he⟩ := exists_of_isOk (x := build {} none (some listed)) (by decide +kernel)
  exact ⟨e, he, build_shown isCanonical_listed he⟩

theorem listed_not_shown :
    ¬ ∀ (fs : Files) (path : Option String) (overrides : Option Json) (e : EffectiveSettings),
      (∀ j ∈ overrides, j.IsCanonical) → build fs path overrides = .ok e →
      e.settings.toValue = e.config := by
  intro hall
  have hprinted : (match build {} none (some listed) with
      | .ok e => (e.config.at? ["logging", "filter"]).isNone
      | .error _ => false) = true := by decide +kernel
  cases he : build {} none (some listed) with
  | error error => rw [he] at hprinted; cases hprinted
  | ok e =>
    rw [he] at hprinted
    have hsame := hall {} none (some listed) e isCanonical_listed he
    simp only [← hsame, Settings.toValue_eq, LoggingSettings.canonical_toJson] at hprinted
    cases hprinted

end EffectiveSettings

end CompileWorker
