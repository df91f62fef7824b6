import CompileWorker.CommandLine
import CompileWorker.Proofs.FileNames
import CompileWorker.Proofs.SettingsRoundTrip

namespace CompileWorker

open Json

namespace Json

/-- Where the upper value has an object the lower one has an object, or nothing. -/
def Joins (lower upper : Json) : Prop :=
  ∀ path members j, upper.at? path = some (.object members) → lower.at? path = some j →
    ∃ inner, j = .object inner

def mentionOver (found : Option Json) (below : Option Mention) : Option Mention → Option Mention
  | none => below
  | some .cuts => some .cuts
  | some (.holds j) => some (.holds (laidOver found j))

theorem Joins.of_lookup {members overrides : List (String × Json)}
    (h : Joins (.object members) (.object overrides)) {name : String} {j k : Json}
    (hj : members.lookup name = some j) (hk : overrides.lookup name = some k) : Joins j k := by
  intro path inner i hupper hlower
  refine h (name :: path) inner i ?_ ?_
  · rwa [at?_object_cons, hk]
  · rwa [at?_object_cons, hj]

theorem mention_merge {lower upper : Json} (hupper : upper.IsCanonical) (h : Joins lower upper)
    (path : List String) :
    mention path (merge lower upper) = mentionOver (lower.at? path) (mention path lower)
      (mention path upper) := by
  induction path generalizing lower upper with
  | nil => rfl
  | cons name path ih =>
    by_cases ho : ∀ overrides, upper ≠ .object overrides
    · rw [merge_of_not_object ho, mention_cons_of_not_object ho]
      rfl
    · obtain ⟨overrides, rfl⟩ := not_forall_not.mp ho
      obtain ⟨members, rfl⟩ := h [] overrides lower rfl rfl
      rw [merge_object_object, mention_object_cons, mention_object_cons, mention_object_cons,
        at?_object_cons, lookup_mergeMembers (isCanonical_object.mp hupper).1]
      cases hk : overrides.lookup name with
      | none => rfl
      | some k =>
        simp only [Option.map_some, Option.some_or, Option.bind_some]
        cases hj : members.lookup name with
        | none =>
          -- below there is nothing under the name, so the upper value stands there alone
          change mention path k = mentionOver none none (mention path k)
          obtain _ | ⟨i⟩ | _ := mention path k <;> rfl
        | some j => exact ih (hupper.of_lookup hk) (h.of_lookup hj hk)

theorem Grants.trans {j k : Json} {found : Option Json} (hk : Grants (some (.holds j)) (some k))
    (hfound : Grants (some (.holds k)) found) : Grants (some (.holds j)) found := by
  cases j with
  | object members =>
    obtain ⟨inner, hinner⟩ := hk
    cases hinner
    exact hfound
  | _ =>
    cases hk
    exact hfound

theorem Grants.object_iff {j k : Json} (h : Grants (some (.holds j)) (some k)) :
    (∃ members, j = .object members) ↔ ∃ members, k = .object members := by
  cases j with
  | object members =>
    obtain ⟨inner, hinner⟩ := h
    exact iff_of_true ⟨members, rfl⟩ ⟨inner, Option.some.inj hinner⟩
  | _ => rw [Option.some.inj h]

/-- Two layers may be merged first if the upper one puts no object in the place of a value. -/
theorem merge_merge {base lower upper : Json} (hbase : base.IsCanonical)
    (hlower : lower.IsCanonical) (hupper : upper.IsCanonical) (h : Joins lower upper) :
    merge base (merge lower upper) = merge (merge base lower) upper := by
  have hmerged := isCanonical_merge upper hlower hupper
  refine (isCanonical_merge _ hbase hmerged).ext
    (isCanonical_merge upper (isCanonical_merge lower hbase hlower) hupper) fun path ↦ ?_
  rw [at?_merge hmerged, at?_merge hupper, at?_merge hlower, mention_merge hupper h]
  match mention path upper with
  | none => exact .inl rfl
  | some .cuts => exact .inl rfl
  | some (.holds j) =>
    have htwice : Grants (some (.holds j))
        (some (laidOver (base.at? path) (laidOver (lower.at? path) j))) :=
      (grants_laidOver (lower.at? path) j).trans (grants_laidOver (base.at? path) _)
    exact alike_of_grants htwice (grants_laidOver _ j)

end Json

namespace Settings

def sections : List (List String) :=
  [["logging"], ["worker"], ["worker", "entry-points"], ["worker", "guest"]]

/-- A value that may stand under a path in a layer: it has objects just where the settings or a
section of them stand. -/
structure IsLayer (path : List String) (j : Json) : Prop where
  canonical : j.IsCanonical
  sectioned : ∀ rest k, j.at? rest = some k →
    (path ++ rest ∈ [] :: sections ↔ ∃ members, k = .object members)

namespace IsLayer

theorem setting {path : List String} {j : Json} (hpath : path ∉ [] :: sections)
    (hcanonical : j.IsCanonical) (hj : ∀ members, j ≠ .object members) : IsLayer path j := by
  refine ⟨hcanonical, ?_⟩
  rintro (_ | ⟨name, rest⟩) k hk
  · obtain rfl := Option.some.inj hk
    rw [List.append_nil]
    exact iff_of_false hpath (not_exists.mpr hj)
  · rw [at?_cons_of_not_object hj] at hk
    cases hk

theorem member {path : List String} {name : String} {j : Json} (hpath : path ∈ [] :: sections)
    (hj : IsLayer (path ++ [name]) j) : IsLayer path (.object [(name, j)]) := by
  refine ⟨isCanonical_object.mpr ⟨List.pairwise_singleton _ _,
    List.forall_mem_singleton.mpr hj.canonical⟩, ?_⟩
  rintro (_ | ⟨n, rest⟩) k hk
  · obtain rfl := Option.some.inj hk
    rw [List.append_nil]
    exact iff_of_true hpath ⟨_, rfl⟩
  · rw [at?_object_cons, Sorted.lookup_cons] at hk
    split at hk
    · rename_i hn
      subst hn
      rw [List.append_cons]
      exact hj.sectioned rest k hk
    · cases hk

variable {lower upper : Json}

theorem joins (hlower : IsLayer [] lower) (hupper : IsLayer [] upper) : Joins lower upper :=
  fun path members j hj hk ↦
    (hlower.sectioned path j hk).mp ((hupper.sectioned path _ hj).mpr ⟨members, rfl⟩)

theorem merge (hlower : IsLayer [] lower) (hupper : IsLayer [] upper) :
    IsLayer [] (merge lower upper) := by
  refine ⟨isCanonical_merge upper hlower.canonical hupper.canonical, fun path k hk ↦ ?_⟩
  rw [at?_merge hupper.canonical] at hk
  match hm : mention path upper, hk with
  | none, hk => exact hlower.sectioned path k hk
  | some (.holds j), hk =>
    obtain rfl := Option.some.inj hk
    have hj : upper.at? path = some j := by rw [at?_eq, hm]; rfl
    exact (hupper.sectioned path j hj).trans (grants_laidOver _ j).object_iff

end IsLayer

theorem merge_mergeLayers {base : Json} (hbase : base.IsCanonical) {layers : List Json}
    (hne : layers ≠ []) (h : ∀ layer ∈ layers, IsLayer [] layer) :
    IsLayer [] (mergeLayers layers) ∧
    merge base (mergeLayers layers) = layers.foldl merge base := by
  induction layers using List.reverseRecOn with
  | nil => exact absurd rfl hne
  | append_singleton layers top ih =>
    obtain ⟨hlayers, htop⟩ := List.forall_mem_append.mp h
    have htop := htop top (List.mem_singleton_self top)
    by_cases hempty : layers = []
    · subst hempty
      exact ⟨htop, rfl⟩
    · obtain ⟨hlower, hmerged⟩ := ih hempty hlayers
      rw [mergeLayers_snoc hempty, List.foldl_append, ← hmerged]
      exact ⟨hlower.merge htop,
        merge_merge hbase hlower.canonical htop.canonical (hlower.joins htop)⟩

end Settings

namespace CommandLine

def workerLayer (name : String) (value : Json) : Json :=
  .object [("worker", .object [(name, value)])]

def maxRestartsLayer (n : UInt32) : Json := workerLayer "max-restarts" (.nat n.toNat)

def guestCommandLayer (words : List String) : Json :=
  workerLayer "guest" (.object [("command", .array (words.map .string))])

def toolingClasspathLayer (words : List String) : Json :=
  workerLayer "guest" (.object [("tooling-classpath", .array (words.map .string))])

def logFilterLayer (filter : String) : Json :=
  .object [("logging", .object [("filter", .string filter)])]

def packageLayer : Json := workerLayer "entry-points" (.object [("package", .string "")])

def layers (c : CommandLine) : List Json :=
  c.maxRestarts.toList.map maxRestartsLayer ++ c.guestCommand.toList.map guestCommandLayer ++
    c.toolingClasspath.toList.map toolingClasspathLayer ++ c.logFilter.toList.map logFilterLayer ++
    if c.skipsPackage then [packageLayer] else []

def setsAny (c : CommandLine) : Bool :=
  c.maxRestarts.isSome || c.guestCommand.isSome || c.toolingClasspath.isSome ||
    c.logFilter.isSome || c.skipsPackage

theorem layers_eq_nil_iff (c : CommandLine) : c.layers = [] ↔ ¬ c.setsAny := by
  cases hskips : c.skipsPackage <;>
    simp [layers, setsAny, hskips, and_assoc]

theorem overrides_eq (c : CommandLine) :
    c.overrides = if c.layers.isEmpty then none else some (mergeLayers c.layers) :=
  rfl

/-- The settings with what the options ask for in the place of what they were. -/
def replaceIn (c : CommandLine) (s : Settings) : Settings where
  worker :=
    { s.worker with
      maxRestarts := c.maxRestarts.getD s.worker.maxRestarts
      entryPoints :=
        { s.worker.entryPoints with
          package := if c.skipsPackage then "" else s.worker.entryPoints.package }
      guest :=
        { s.worker.guest with
          command := c.guestCommand.getD s.worker.guest.command
          toolingClasspath := c.toolingClasspath.getD s.worker.guest.toolingClasspath } }
  logging := { s.logging with filter := c.logFilter.getD s.logging.filter }

section

variable (s : Settings)

theorem merge_workerLayer (name : String) (j : Json) :
    merge s.toValue (workerLayer name j) =
      .object [("logging", s.logging.toJson.canonical),
        ("worker", merge s.worker.toJson.canonical (.object [(name, j)]))] := by
  simp only [Settings.toValue_eq, workerLayer, merge, mergeMembers, Sorted.put, Sorted.lookup_cons,
    String.reduceLT, String.reduceEq, reduceIte]

theorem foldl_maxRestarts (o : Option UInt32) :
    (o.toList.map maxRestartsLayer).foldl merge s.toValue =
      { s with worker := { s.worker with maxRestarts := o.getD s.worker.maxRestarts } :
        Settings }.toValue := by
  cases o with
  | none => rfl
  | some n =>
    refine (merge_workerLayer s _ _).trans ?_
    simp only [Settings.toValue_eq, WorkerSettings.canonical_toJson, merge, mergeMembers,
      Sorted.put, Sorted.lookup_cons, String.reduceLT, String.reduceEq, reduceIte]
    rfl

theorem foldl_guestCommand (o : Option (List String)) :
    (o.toList.map guestCommandLayer).foldl merge s.toValue =
      { s with worker := { s.worker with
          guest := { s.worker.guest with command := o.getD s.worker.guest.command } } :
            Settings }.toValue := by
  cases o with
  | none => rfl
  | some words =>
    refine (merge_workerLayer s _ _).trans ?_
    simp only [Settings.toValue_eq, WorkerSettings.canonical_toJson, GuestSettings.canonical_toJson,
      merge, mergeMembers, Sorted.put, Sorted.lookup_cons, String.reduceLT, String.reduceEq,
      reduceIte]
    rfl

theorem foldl_toolingClasspath (o : Option (List String)) :
    (o.toList.map toolingClasspathLayer).foldl merge s.toValue =
      { s with worker := { s.worker with
          guest := { s.worker.guest with
            toolingClasspath := o.getD s.worker.guest.toolingClasspath } } :
              Settings }.toValue := by
  cases o with
  | none => rfl
  | some words =>
    refine (merge_workerLayer s _ _).trans ?_
    simp only [Settings.toValue_eq, WorkerSettings.canonical_toJson, GuestSettings.canonical_toJson,
      merge, mergeMembers, Sorted.put, Sorted.lookup_cons, String.reduceLT, String.reduceEq,
      reduceIte]
    rfl

theorem foldl_logFilter (o : Option String) :
    (o.toList.map logFilterLayer).foldl merge s.toValue =
      { s with logging := { s.logging with filter := o.getD s.logging.filter } :
        Settings }.toValue := by
  cases o with
  | none => rfl
  | some filter =>
    simp only [Settings.toValue_eq, LoggingSettings.canonical_toJson, logFilterLayer, Option.toList,
      List.map, List.foldl, merge, mergeMembers, Sorted.put, Sorted.lookup_cons, String.reduceLT,
      String.reduceEq, reduceIte]
    rfl

theorem foldl_package (skips : Bool) :
    (if skips then [packageLayer] else []).foldl merge s.toValue =
      { s with worker := { s.worker with
          entryPoints := { s.worker.entryPoints with
            package := if skips then "" else s.worker.entryPoints.package } } :
              Settings }.toValue := by
  cases skips with
  | false => rfl
  | true =>
    refine (merge_workerLayer s _ _).trans ?_
    simp only [Settings.toValue_eq, WorkerSettings.canonical_toJson, EntryPoints.canonical_toJson,
      merge, mergeMembers, Sorted.put, Sorted.lookup_cons, String.reduceLT, String.reduceEq,
      reduceIte]

end

theorem layers_isLayer (c : CommandLine) : ∀ layer ∈ c.layers, Settings.IsLayer [] layer := by
  have hwords (words : List String) : (Json.array (words.map .string)).IsCanonical :=
    isCanonical_array.mpr (List.forall_mem_map.mpr fun _ _ ↦ rfl)
  simp only [layers, List.forall_mem_append, List.forall_mem_map]
  refine ⟨⟨⟨⟨fun n _ ↦ ?_, fun words _ ↦ ?_⟩, fun words _ ↦ ?_⟩, fun filter _ ↦ ?_⟩,
    fun layer hlayer ↦ ?_⟩
  · exact .member (by decide) (.member (by decide) (.setting (by decide) rfl nofun))
  · exact .member (by decide)
      (.member (by decide) (.member (by decide) (.setting (by decide) (hwords words) nofun)))
  · exact .member (by decide)
      (.member (by decide) (.member (by decide) (.setting (by decide) (hwords words) nofun)))
  · exact .member (by decide) (.member (by decide) (.setting (by decide) rfl nofun))
  · obtain rfl : layer = packageLayer := by split at hlayer <;> simp_all
    exact .member (by decide)
      (.member (by decide) (.member (by decide) (.setting (by decide) rfl nofun)))

theorem foldl_layers (c : CommandLine) (s : Settings) :
    c.layers.foldl merge s.toValue = (c.replaceIn s).toValue := by
  simp only [layers, List.foldl_append, foldl_maxRestarts, foldl_guestCommand,
    foldl_toolingClasspath, foldl_logFilter, foldl_package]
  rfl

end CommandLine

namespace Toml

theorem document_ok {text : String} {value : Value} (h : document text = some value) :
    ∃ members, value = .table members := by
  obtain ⟨⟨lines, rest⟩, -, h⟩ := Option.bind_eq_some_iff.mp h
  obtain ⟨root, -, h⟩ := Option.bind_eq_some_iff.mp h
  obtain ⟨table, -, h⟩ := Option.bind_eq_some_iff.mp h
  cases h
  exact ⟨_, rfl⟩

theorem parse_ok {text : String} {j : Json} (h : parse text = some j) :
    (∃ s, j = .string s) ∨ ∃ members, j = .object members := by
  obtain ⟨value, hvalue, h⟩ := Option.bind_eq_some_iff.mp h
  obtain ⟨members, rfl⟩ := document_ok hvalue
  exact (Value.table_ok h).imp_right fun ⟨values, _, hj⟩ ↦ ⟨_, hj⟩

end Toml

namespace Json

def isObject : Json → Bool
  | .object _ => true
  | _ => false

theorem isObject_iff {j : Json} : j.isObject ↔ ∃ members, j = .object members := by
  cases j with
  | object members => exact iff_of_true rfl ⟨members, rfl⟩
  | _ => exact iff_of_false nofun nofun

theorem mention_eq_cuts {path : List String} {j : Json} (h : mention path j = some .cuts) :
    ∃ front name rest k, path = front ++ name :: rest ∧ j.at? front = some k ∧ ¬ k.isObject := by
  induction path generalizing j with
  | nil => cases h
  | cons name path ih =>
    by_cases hj : j.isObject
    · obtain ⟨members, rfl⟩ := isObject_iff.mp hj
      obtain ⟨i, hi, hpath⟩ := Option.bind_eq_some_iff.mp h
      obtain ⟨front, n, rest, k, rfl, hk, hplain⟩ := ih hpath
      refine ⟨name :: front, n, rest, k, rfl, ?_, hplain⟩
      rw [at?_object_cons, hi]
      exact hk
    · exact ⟨[], name, path, j, rfl, rfl, hj⟩

theorem exists_of_lastMention {layers : List Json} {path : List String} {m : Mention}
    (h : lastMention layers path = some m) : ∃ layer ∈ layers, mention path layer = some m := by
  obtain ⟨layer, hlayer, hm⟩ := List.exists_of_findSome?_eq_some h
  exact ⟨layer, List.mem_reverse.mp hlayer, hm⟩

end Json

namespace Settings

theorem front_of_place : ∀ place ∈ places, ∀ n < place.length, place.take n ∈ [] :: sections := by
  decide

/-- The sections that a value says anything about are tables. -/
def HasTables (j : Json) : Prop := ∀ place ∈ sections, ∀ k ∈ j.at? place, k.isObject

instance (j : Json) : Decidable (HasTables j) :=
  inferInstanceAs (Decidable (∀ place ∈ sections, ∀ k ∈ j.at? place, k.isObject))

theorem HasTables.mention_ne_cuts {j : Json} (h : HasTables j) (hroot : j.isObject)
    {place : List String} (hplace : place ∈ places) : mention place j ≠ some .cuts := by
  intro hcuts
  obtain ⟨front, name, rest, k, rfl, hk, hplain⟩ := mention_eq_cuts hcuts
  have hfront := front_of_place _ hplace front.length (by simp)
  rw [List.take_left] at hfront
  obtain rfl | hsection := List.mem_cons.mp hfront
  · obtain rfl := Option.some.inj hk
    exact hplain hroot
  · exact hplain (h front hsection k hk)

end Settings

namespace SettingsLayer

theorem ofFile_value {fs : Files} {path : String} {layer : SettingsLayer}
    (h : ofFile fs path = .ok layer) :
    (∃ s, layer.value = .string s) ∨ ∃ members, layer.value = .object members := by
  obtain ⟨content, -, h⟩ := of_bind_ok h
  obtain ⟨text, -, h⟩ := of_bind_ok h
  split at h
  · rename_i value hvalue
    cases h
    exact Toml.parse_ok hvalue
  · cases h

theorem mention_builtin_ne_cuts {place : List String} (hplace : place ∈ Settings.places) :
    mention place builtin.value ≠ some .cuts := by
  intro hcuts
  obtain ⟨j, hj, -⟩ := isCanonical_builtin.at?_place (Settings.places_toValue {} ▸ hplace)
  rw [at?_eq, hcuts] at hj
  cases hj

end SettingsLayer

namespace EffectiveSettings

variable {fs : Files} {path : Option String} {e : EffectiveSettings}

theorem file_of_toList {file : List SettingsLayer}
    (h : path.toList.mapM (SettingsLayer.ofFile fs) = .ok file) :
    ∀ layer ∈ file, file = [layer] ∧ ∃ name ∈ path, SettingsLayer.ofFile fs name = .ok layer := by
  cases path with
  | none =>
    cases h
    exact List.forall_mem_nil _
  | some name =>
    rw [Option.toList_some, List.mapM_cons] at h
    obtain ⟨layer, hlayer, h⟩ := of_bind_ok h
    cases h
    exact List.forall_mem_singleton.mpr ⟨rfl, name, rfl, hlayer⟩

theorem config_eq_toValue (htables : ∀ name ∈ path, ∀ layer,
      SettingsLayer.ofFile fs name = .ok layer → Settings.HasTables layer.value)
    (h : build fs path none = .ok e) : e.config = e.settings.toValue := by
  obtain ⟨file, hfile, hlayers⟩ := of_bind_ok h
  rw [Option.toList_none, List.map_nil, List.append_nil] at hlayers
  obtain ⟨hconfig, hdecoded⟩ := ofLayers_ok hlayers
  have hcanonical : ∀ j ∈ (SettingsLayer.builtin :: file).map (·.value), j.IsCanonical := by
    rw [List.forall_mem_map]
    exact List.forall_mem_cons.mpr ⟨SettingsLayer.isCanonical_builtin, ofFiles_ok hfile⟩
  refine (((Settings.encodes.faithful rfl _ _ hdecoded).eq_iff
    (hconfig ▸ isCanonical_mergeLayers hcanonical)
    (isCanonical_canonical _)).mpr fun place hplace ↦ ?_).symm
  rw [Settings.places_toValue] at hplace
  rw [hconfig, List.map_cons, ne_eq, at?_mergeLayers_eq_none_iff hcanonical hplace]
  intro hlast
  obtain ⟨_, hmem, hcuts⟩ := exists_of_lastMention hlast
  obtain rfl | hmem := List.mem_cons.mp hmem
  · exact SettingsLayer.mention_builtin_ne_cuts hplace hcuts
  · obtain ⟨layer, hlayer, rfl⟩ := List.mem_map.mp hmem
    obtain ⟨rfl, name, hname, hread⟩ := file_of_toList hfile layer hlayer
    refine (htables name hname layer hread).mention_ne_cuts ?_ hplace hcuts
    obtain ⟨s, hs⟩ | hobject := SettingsLayer.ofFile_value hread
    · -- a text in the place of all settings would not have been read
      rw [hconfig] at hdecoded
      simp only [List.map_cons, List.map_nil, hs] at hdecoded
      cases hdecoded
    · exact isObject_iff.mpr hobject

theorem ofLayers_eq (all : List SettingsLayer) :
    ofLayers all = (check (mergeLayers (all.map (·.value)))).map fun settings ↦
      { config := mergeLayers (all.map (·.value)), sources := all.map (·.source), settings } := by
  rw [ofLayers]
  cases check (mergeLayers (all.map (·.value))) <;> rfl

theorem mergeLayers_overrides (c : CommandLine) {layers : List Json} (hne : layers ≠ [])
    {s : Settings} (h : mergeLayers layers = s.toValue) :
    mergeLayers (layers ++ c.overrides.toList) = (c.replaceIn s).toValue := by
  rw [← c.foldl_layers, ← h, c.overrides_eq]
  by_cases hlayers : c.layers = []
  · rw [hlayers]
    exact congrArg mergeLayers (List.append_nil _)
  · rw [if_neg (by rwa [List.isEmpty_iff]), Option.toList_some, mergeLayers_snoc hne]
    exact (Settings.merge_mergeLayers (h ▸ s.isCanonical_toValue) hlayers c.layers_isLayer).2

theorem layers_append {all : List SettingsLayer} (h : layers fs path none = .ok all)
    (overrides : Option Json) :
    layers fs path overrides = .ok (all ++ overrides.toList.map .overrides) := by
  obtain ⟨file, hfile, h⟩ := of_bind_ok h
  cases h
  rw [layers, hfile, Option.toList_none, List.map_nil, List.append_nil]
  rfl

theorem ofLayers_sources {all : List SettingsLayer} (h : ofLayers all = .ok e) :
    e.sources = all.map (·.source) := by
  obtain ⟨settings, -, h⟩ := of_bind_ok h
  cases h
  rfl

theorem sources_overrides (c : CommandLine) :
    (c.overrides.toList.map SettingsLayer.overrides).map (·.source) =
      if c.setsAny then [{ origin := .cli }] else [] := by
  have hnil := c.layers_eq_nil_iff
  rw [c.overrides_eq]
  by_cases hsets : c.setsAny
  · rw [if_neg (by rwa [List.isEmpty_iff, hnil, not_not]), if_pos hsets]
    rfl
  · rw [if_pos (by rwa [List.isEmpty_iff, hnil]), if_neg hsets]
    rfl

theorem build_overrides (c : CommandLine)
    (htables : ∀ name ∈ path, ∀ layer,
      SettingsLayer.ofFile fs name = .ok layer → Settings.HasTables layer.value)
    (h : build fs path none = .ok e) :
    build fs path c.overrides =
      if (c.replaceIn e.settings).worker.problems = [] then
        .ok
          { config := (c.replaceIn e.settings).toValue
            sources := e.sources ++ if c.setsAny then [{ origin := .cli }] else []
            settings := c.replaceIn e.settings }
      else .error (.unusable (c.replaceIn e.settings).worker.problems) := by
  have hshown := config_eq_toValue htables h
  rw [build_eq] at h
  obtain ⟨all, hall, hlayers⟩ := of_bind_ok h
  obtain ⟨upper, rfl⟩ := (layers_ok hall nofun).1
  have hvalues : (c.overrides.toList.map SettingsLayer.overrides).map (·.value) =
      c.overrides.toList := by
    rw [List.map_map]
    exact List.map_id _
  have hmerged : mergeLayers ((.builtin :: upper).map (·.value) ++ c.overrides.toList) =
      (c.replaceIn e.settings).toValue :=
    mergeLayers_overrides c (List.cons_ne_nil _ _) ((ofLayers_ok hlayers).1.symm.trans hshown)
  rw [build_eq, layers_append hall, ofLayers_sources hlayers]
  change ofLayers _ = _
  rw [ofLayers_eq, List.map_append, List.map_append, hvalues, sources_overrides, hmerged,
    check_toValue]
  exact apply_ite (Except.map _) _ _ _

theorem origin_of_ofFile {name : String} {layer : SettingsLayer}
    (h : SettingsLayer.ofFile fs name = .ok layer) : layer.source.origin = .file := by
  obtain ⟨content, -, h⟩ := of_bind_ok h
  obtain ⟨text, -, h⟩ := of_bind_ok h
  split at h <;> cases h
  rfl

theorem origin_ne_cli (h : build fs path none = .ok e) : ∀ s ∈ e.sources, s.origin ≠ .cli := by
  obtain ⟨file, hfile, h⟩ := of_bind_ok h
  rw [ofLayers_sources h, Option.toList_none, List.map_nil, List.append_nil, List.forall_mem_map]
  refine List.forall_mem_cons.mpr ⟨nofun, fun layer hlayer ↦ ?_⟩
  obtain ⟨-, name, -, hread⟩ := file_of_toList hfile layer hlayer
  rw [origin_of_ofFile hread]
  nofun

/-- Options change the settings that they name and no others, whatever the file says, and if the
build fails then for what is wrong with the settings changed so. The command line is among the
sources if an option sets anything. -/
theorem build_of_options (c : CommandLine)
    (htables : ∀ name ∈ path, ∀ layer,
      SettingsLayer.ofFile fs name = .ok layer → Settings.HasTables layer.value)
    (h : build fs path none = .ok e) :
    (∀ e', build fs path c.overrides = .ok e' →
      e'.settings = c.replaceIn e.settings ∧
        e'.sources = e.sources ++ (if c.setsAny then [{ origin := .cli }] else []) ∧
        ((∃ s ∈ e'.sources, s.origin = .cli) ↔ c.setsAny)) ∧
      ∀ error, build fs path c.overrides = .error error ↔
        (c.replaceIn e.settings).worker.problems ≠ [] ∧
          error = .unusable (c.replaceIn e.settings).worker.problems := by
  rw [build_overrides c htables h]
  by_cases hproblems : (c.replaceIn e.settings).worker.problems = []
  · rw [if_pos hproblems]
    refine ⟨?_, fun error ↦ iff_of_false nofun fun hnot ↦ hnot.1 hproblems⟩
    rintro e' ⟨⟩
    refine ⟨rfl, rfl, ?_⟩
    simp only [List.mem_append, or_and_right, exists_or]
    rw [or_iff_right fun ⟨s, hs, hcli⟩ ↦ origin_ne_cli h s hs hcli]
    split <;> simp_all
  · rw [if_neg hproblems]
    refine ⟨nofun, fun error ↦ ⟨?_, ?_⟩⟩
    · rintro ⟨⟩
      exact ⟨hproblems, rfl⟩
    · rintro ⟨-, rfl⟩
      rfl

theorem ofFile_of_read {name : String} {content : List UInt8} {text : String} {value : Json}
    (hread : fs.read name = .ok content) (htext : Utf8.decode content = .ok text)
    (hvalue : Toml.parse text = some value) : SettingsLayer.ofFile fs name =
      .ok ⟨{ origin := .file, path := some name, digest := some (Sha256.hexDigest content) },
        value⟩ := by
  simp only [SettingsLayer.ofFile, hread, htext, hvalue, Except.mapError, bind, Except.bind]
  rfl

theorem build_file {name : String} {layer : SettingsLayer}
    (h : SettingsLayer.ofFile fs name = .ok layer) :
    build fs (some name) none = ofLayers [.builtin, layer] := by
  rw [build, Option.toList_some, List.mapM_cons, h]
  rfl

def sectionedText : String :=
  "[worker.guest]\ncommand = ['a']\nfingerprint-tooling = false\n[logging]\nansi = true\n[worker]\n"

theorem sectionedText_parses : ∃ value, Toml.parse sectionedText = some value ∧
    Settings.HasTables value ∧
    (check (mergeLayers [SettingsLayer.builtin.value, value])).isOk := by
  have hparsed : ((Toml.parse sectionedText).any fun value ↦
      decide (Settings.HasTables value) &&
        (check (mergeLayers [SettingsLayer.builtin.value, value])).isOk) = true := by
    decide +kernel
  rw [Option.any_eq_true] at hparsed
  simpa only [Bool.and_eq_true, decide_eq_true_eq] using hparsed

def sectionedFile : Files := { entries := [(["c.toml"], .file (Utf8.encode sectionedText))] }

def guestOptions : CommandLine :=
  { guestCommand := some ["b", "c"], toolingClasspath := some ["t.jar"], skipsPackage := true }

theorem sectionedFile_overridden : ∃ e,
    (∀ name ∈ some "c.toml", ∀ layer,
      SettingsLayer.ofFile sectionedFile name = .ok layer → Settings.HasTables layer.value) ∧
    build sectionedFile (some "c.toml") none = .ok e ∧
    (∀ e', build sectionedFile (some "c.toml") guestOptions.overrides = .ok e' →
      e'.settings = guestOptions.replaceIn e.settings ∧
        e'.sources = e.sources ++ (if guestOptions.setsAny then [{ origin := .cli }] else []) ∧
        ((∃ s ∈ e'.sources, s.origin = .cli) ↔ guestOptions.setsAny)) ∧
    ∀ error, build sectionedFile (some "c.toml") guestOptions.overrides = .error error ↔
      (guestOptions.replaceIn e.settings).worker.problems ≠ [] ∧
        error = .unusable (guestOptions.replaceIn e.settings).worker.problems := by
  have hread : sectionedFile.read "c.toml" = .ok (Utf8.encode sectionedText) :=
    Files.read_name ⟨by decide, by decide, by decide, by decide, by decide⟩ rfl
  obtain ⟨value, hvalue, htables, hchecked⟩ := sectionedText_parses
  have hlayer := ofFile_of_read hread (Utf8.decode_encode _) hvalue
  obtain ⟨settings, hsettings⟩ := exists_of_isOk hchecked
  have hbuild : build sectionedFile (some "c.toml") none = .ok _ :=
    (build_file hlayer).trans ((ofLayers_eq _).trans (congrArg (Except.map _) hsettings))
  have hsections : ∀ name ∈ some "c.toml", ∀ layer,
      SettingsLayer.ofFile sectionedFile name = .ok layer → Settings.HasTables layer.value := by
    rintro name ⟨⟩ layer h
    rw [hlayer] at h
    cases h
    exact htables
  exact ⟨_, hsections, hbuild, build_of_options guestOptions hsections hbuild⟩

end EffectiveSettings

end CompileWorker
