import CompileWorker.Json.Merge
import CompileWorker.Proofs.CanonicalValues

namespace CompileWorker.Json

/-- What a value says about a path. -/
inductive Mention
  | holds (j : Json)
  /-- the path comes upon a value that is no object and ends there -/
  | cuts

def mention : List String → Json → Option Mention
  | [], j => some (.holds j)
  | name :: path, .object members => (members.lookup name).bind (mention path)
  | _ :: _, _ => some .cuts

/-- What the highest layer says that says anything; the lowest layer stands first. -/
def lastMention (layers : List Json) (path : List String) : Option Mention :=
  layers.reverse.findSome? (mention path)

def Grants : Option Mention → Option Json → Prop
  | none, found => found = none
  | some .cuts, found => found = none
  | some (.holds (.object _)), found => ∃ members, found = some (.object members)
  | some (.holds j), found => found = some j

theorem mention_object_cons (members : List (String × Json)) (name : String) (path : List String) :
    mention (name :: path) (.object members) = (members.lookup name).bind (mention path) := rfl

theorem mention_cons_of_not_object {j : Json} (h : ∀ members, j ≠ .object members) (name : String)
    (path : List String) : mention (name :: path) j = some .cuts := by
  cases j with
  | object members => exact absurd rfl (h members)
  | _ => rfl

theorem at?_cons_of_not_object {j : Json} (h : ∀ members, j ≠ .object members) (name : String)
    (path : List String) : j.at? (name :: path) = none := by
  cases j with
  | object members => exact absurd rfl (h members)
  | _ => rfl

def Mention.held? : Mention → Option Json
  | .holds j => some j
  | .cuts => none

theorem at?_eq (path : List String) (j : Json) :
    j.at? path = (mention path j).bind Mention.held? := by
  induction path generalizing j with
  | nil => rfl
  | cons name path ih =>
    cases j with
    | object members =>
      rw [at?_object_cons, mention_object_cons, Option.bind_assoc]
      exact Option.bind_congr fun k _ ↦ ih k
    | _ => rfl

def laidOver (under : Option Json) (j : Json) : Json := (under.map fun b ↦ merge b j).getD j

theorem merge_of_not_object {overlay : Json} (h : ∀ members, overlay ≠ .object members)
    (base : Json) : merge base overlay = overlay := by
  cases overlay with
  | object members => exact absurd rfl (h members)
  | _ => rfl

theorem merge_object_object (members overrides : List (String × Json)) :
    merge (.object members) (.object overrides) = .object (mergeMembers members overrides) := rfl

theorem merge_object_of_not_object {base : Json} (h : ∀ members, base ≠ .object members)
    (overrides : List (String × Json)) : merge base (.object overrides) = .object overrides := by
  cases base with
  | object members => exact absurd rfl (h members)
  | _ => rfl

theorem mergeMembers_cons (members overrides : List (String × Json)) (name : String) (j : Json) :
    mergeMembers members ((name, j) :: overrides) =
      mergeMembers (Sorted.put name (laidOver (members.lookup name) j) members) overrides := by
  rw [mergeMembers]
  cases members.lookup name <;> rfl

theorem lookup_mergeMembers {overrides : List (String × Json)} (h : Sorted.IsSorted overrides)
    (members : List (String × Json)) (name : String) :
    (mergeMembers members overrides).lookup name =
      ((overrides.lookup name).map (laidOver (members.lookup name))).or (members.lookup name) := by
  induction overrides generalizing members with
  | nil => rfl
  | cons entry overrides ih =>
    obtain ⟨n, j⟩ := entry
    rw [mergeMembers_cons, ih (List.pairwise_cons.mp h).2, Sorted.lookup_put, Sorted.lookup_cons]
    by_cases hn : name = n
    · subst hn
      rw [h.lookup_tail, if_pos rfl, if_pos rfl]
      rfl
    · rw [if_neg hn, if_neg hn]

def foundOver (below : Option Json) : Option Mention → Option Json
  | none => below
  | some .cuts => none
  | some (.holds j) => some (laidOver below j)

theorem foundOver_none (m : Option Mention) : foundOver none m = m.bind Mention.held? := by
  obtain _ | ⟨j⟩ | _ := m <;> rfl

theorem at?_merge {overlay : Json} (h : overlay.IsCanonical) (base : Json) (path : List String) :
    (merge base overlay).at? path = foundOver (base.at? path) (mention path overlay) := by
  induction path generalizing base overlay with
  | nil => rfl
  | cons name path ih =>
    by_cases ho : ∀ overrides, overlay ≠ .object overrides
    · rw [merge_of_not_object ho, mention_cons_of_not_object ho, at?_cons_of_not_object ho]
      rfl
    · obtain ⟨overrides, rfl⟩ := not_forall_not.mp ho
      by_cases hb : ∀ members, base ≠ .object members
      · rw [merge_object_of_not_object hb, at?_cons_of_not_object hb, foundOver_none, ← at?_eq]
      · obtain ⟨members, rfl⟩ := not_forall_not.mp hb
        rw [merge_object_object, at?_object_cons, at?_object_cons, mention_object_cons,
          lookup_mergeMembers (isCanonical_object.mp h).1]
        cases hj : overrides.lookup name with
        | none => rfl
        | some j =>
          simp only [Option.map_some, Option.some_or, Option.bind_some]
          cases members.lookup name with
          | none => exact (at?_eq path j).trans (foundOver_none _).symm
          | some b => exact ih (h.of_lookup hj) b

mutual

theorem isCanonical_merge : ∀ {base : Json} (overlay : Json), base.IsCanonical →
    overlay.IsCanonical →
    (merge base overlay).IsCanonical
  | _, .null, _, ho => ho
  | _, .bool _, _, ho => ho
  | _, .number _, _, ho => ho
  | _, .string _, _, ho => ho
  | _, .array _, _, ho => ho
  | .null, .object _, _, ho => ho
  | .bool _, .object _, _, ho => ho
  | .number _, .object _, _, ho => ho
  | .string _, .object _, _, ho => ho
  | .array _, .object _, _, ho => ho
  | .object _, .object overrides, hb, ho =>
    isCanonical_mergeMembers overrides hb (isCanonical_object.mp ho).2

theorem isCanonical_mergeMembers : ∀ {members : List (String × Json)}
    (overrides : List (String × Json)),
    (Json.object members).IsCanonical → (∀ m ∈ overrides, m.2.IsCanonical) →
      (Json.object (mergeMembers members overrides)).IsCanonical
  | _, [], hm, _ => hm
  | members, (name, j) :: overrides, hm, ho => by
    obtain ⟨hj, hoverrides⟩ := List.forall_mem_cons.mp ho
    have hlaid : (laidOver (members.lookup name) j).IsCanonical := by
      cases hl : members.lookup name with
      | none => exact hj
      | some b => exact isCanonical_merge j (hm.of_lookup hl) hj
    obtain ⟨hsorted, hmembers⟩ := isCanonical_object.mp hm
    rw [mergeMembers_cons]
    refine isCanonical_mergeMembers overrides
      (isCanonical_object.mpr ⟨hsorted.put _ _, fun m hmem ↦ ?_⟩) hoverrides
    rcases Sorted.mem_of_mem_put hmem with rfl | hmem
    · exact hlaid
    · exact hmembers m hmem

end

theorem mergeLayers_snoc {layers : List Json} (h : layers ≠ []) (top : Json) :
    mergeLayers (layers ++ [top]) = merge (mergeLayers layers) top := by
  cases layers with
  | nil => exact absurd rfl h
  | cons base layers => rw [List.cons_append, mergeLayers, List.foldl_append, mergeLayers]; rfl

theorem lastMention_snoc (layers : List Json) (top : Json) (path : List String) :
    lastMention (layers ++ [top]) path = (mention path top).or (lastMention layers path) := by
  rw [lastMention, List.reverse_concat, List.findSome?_cons]
  cases mention path top <;> rfl

theorem isCanonical_mergeLayers {layers : List Json} (h : ∀ layer ∈ layers, layer.IsCanonical) :
    (mergeLayers layers).IsCanonical := by
  induction layers using List.reverseRecOn with
  | nil => rfl
  | append_singleton layers top ih =>
    obtain ⟨hlayers, htop⟩ := List.forall_mem_append.mp h
    have htop := htop top (List.mem_singleton_self top)
    by_cases hne : layers = []
    · subst hne
      exact htop
    · rw [mergeLayers_snoc hne]
      exact isCanonical_merge top (ih hlayers) htop

theorem grants_held (m : Option Mention) : Grants m (m.bind Mention.held?) := by
  match m with
  | none => rfl
  | some .cuts => rfl
  | some (.holds j) =>
    cases j with
    | object members => exact ⟨members, rfl⟩
    | _ => rfl

theorem grants_laidOver (below : Option Json) (j : Json) :
    Grants (some (.holds j)) (some (laidOver below j)) := by
  cases j with
  | object overrides =>
    match below with
    | none => exact ⟨overrides, rfl⟩
    | some b =>
      by_cases hb : ∀ members, b ≠ .object members
      · exact ⟨overrides, congrArg some (merge_object_of_not_object hb overrides)⟩
      · obtain ⟨members, rfl⟩ := not_forall_not.mp hb
        exact ⟨mergeMembers members overrides, rfl⟩
  | _ => cases below <;> rfl

theorem grants_foundOver {below : Option Json} {lower upper : Option Mention}
    (h : Grants lower below) : Grants (upper.or lower) (foundOver below upper) := by
  match upper with
  | none => exact h
  | some .cuts => rfl
  | some (.holds j) => exact grants_laidOver below j

theorem grants_mergeLayers {layers : List Json} (hne : layers ≠ [])
    (h : ∀ layer ∈ layers, layer.IsCanonical) (path : List String) :
    Grants (lastMention layers path) ((mergeLayers layers).at? path) := by
  induction layers using List.reverseRecOn with
  | nil => exact absurd rfl hne
  | append_singleton layers top ih =>
    obtain ⟨hlayers, htop⟩ := List.forall_mem_append.mp h
    have htop := htop top (List.mem_singleton_self top)
    rw [lastMention_snoc]
    by_cases hempty : layers = []
    · subst hempty
      have hlast : lastMention [] path = none := rfl
      rw [hlast, Option.or_none, List.nil_append, mergeLayers, List.foldl_nil, at?_eq]
      exact grants_held _
    · rw [mergeLayers_snoc hempty, at?_merge htop]
      exact grants_foundOver (ih hempty hlayers)

theorem alike_of_grants {m : Option Mention} {a b : Option Json} (ha : Grants m a)
    (hb : Grants m b) : Alike a b := by
  match m, ha, hb with
  | none, ha, hb => exact .inl (ha.trans hb.symm)
  | some .cuts, ha, hb => exact .inl (ha.trans hb.symm)
  | some (.holds j), ha, hb =>
    cases j with
    | object _ =>
      obtain ⟨members, ha⟩ := ha
      obtain ⟨members', hb⟩ := hb
      exact .inr ⟨members, members', ha, hb⟩
    | _ => exact .inl (ha.trans hb.symm)

/-- The merged value is the one canonical value in which every path shows what the highest layer
says that says anything about it. -/
theorem eq_mergeLayers_iff {layers : List Json} (hne : layers ≠ [])
    (h : ∀ layer ∈ layers, layer.IsCanonical) {merged : Json} :
    merged = mergeLayers layers ↔
      merged.IsCanonical ∧ ∀ path, Grants (lastMention layers path) (merged.at? path) := by
  constructor
  · rintro rfl
    exact ⟨isCanonical_mergeLayers h, grants_mergeLayers hne h⟩
  · rintro ⟨hcanonical, hgrants⟩
    exact hcanonical.ext (isCanonical_mergeLayers h) fun path ↦
      alike_of_grants (hgrants path) (grants_mergeLayers hne h path)

/-- Three layers of which the middle one says `null` where the others have an object. -/
def interrupted : List Json :=
  [.object [("guest", .object [("command", .array [.string "a"]), ("retries", .nat 1)]),
    ("level", .nat 3)],
   .object [("guest", .null)],
   .object [("guest", .object [("colour", .bool true)])]]

theorem interrupted_isCanonical : ∀ layer ∈ interrupted, layer.IsCanonical :=
  List.forall_mem_cons.mpr ⟨rfl, List.forall_mem_cons.mpr ⟨rfl, List.forall_mem_singleton.mpr rfl⟩⟩

theorem interrupted_grants :
    (Json.object [("guest", .object [("colour", .bool true)]), ("level", .nat 3)]).IsCanonical ∧
      ∀ path, Grants (lastMention interrupted path)
        ((Json.object [("guest", .object [("colour", .bool true)]), ("level", .nat 3)]).at? path) :=
  (eq_mergeLayers_iff (List.cons_ne_nil _ _) interrupted_isCanonical).mp rfl

end CompileWorker.Json
