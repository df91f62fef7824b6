import Mathlib.Data.List.DropRight
import Mathlib.Data.List.Forall2
import CompileWorker.Flagfile
import CompileWorker.Proofs.FileNames
import CompileWorker.Proofs.Utf8Laws

namespace CompileWorker.Flagfile

def trimmed (line : List Char) : String := String.ofList (line.rdropWhile Text.isBlank)

def linesIn (text : List Char) : List String := ((text.splitOn '\n').map trimmed).filter (· ≠ "")

theorem linesIn_of_not_mem {line : List Char} (h : '\n' ∉ line) :
    linesIn line = [trimmed line].filter (· ≠ "") := by
  rw [linesIn, List.splitOn_eq_singleton h, List.map_singleton]

theorem linesIn_line {line : List Char} (h : '\n' ∉ line) (rest : List Char) :
    linesIn (line ++ '\n' :: rest) = [trimmed line].filter (· ≠ "") ++ linesIn rest := by
  rw [linesIn, List.splitOn_append_cons_self_of_not_mem h, List.map_cons, ← List.singleton_append,
    List.filter_append]
  rfl

theorem filter_splitLines {acc : List Char} (h : '\n' ∉ acc) (text : List Char) :
    ((splitLines acc text).map fun line ↦ Text.trimEnd (String.ofList line)).filter (· ≠ "") =
      linesIn (acc.reverse ++ text) := by
  have htrim (line : List Char) : Text.trimEnd (String.ofList line) = trimmed line := by
    rw [Text.trimEnd, String.toList_ofList]
    rfl
  simp only [htrim]
  induction text generalizing acc with
  | nil =>
    rw [List.append_nil, linesIn_of_not_mem (mt List.mem_reverse.mp h), splitLines]
    cases acc with
    | nil => rfl
    | cons c acc => rfl
  | cons c text ih =>
    rw [splitLines]
    split
    · rename_i hc
      subst hc
      rw [linesIn_line (mt List.mem_reverse.mp h), List.map_cons, ← List.singleton_append,
        List.filter_append, ih List.not_mem_nil]
      rfl
    · rename_i hc
      rw [ih (List.not_mem_cons_of_ne_of_not_mem (Ne.symm hc) h), List.reverse_cons,
        List.append_assoc, List.singleton_append]

theorem arguments_eq (text : String) : arguments text = linesIn text.toList :=
  filter_splitLines List.not_mem_nil text.toList

/-- What an argument stands for. A lone at sign names no file. -/
inductive StandsFor (fs : Files) : String → List String → Prop
  | flagfile {path text : String} (hpath : path ≠ "") (htext : fs.readText path = .ok text) :
    StandsFor fs ("@" ++ path) (linesIn text.toList)
  | plain {argument : String} (h : ∀ path, argument = "@" ++ path → path = "") :
      StandsFor fs argument [argument]

def Readable (fs : Files) (arguments : List String) : Prop :=
  ∀ path, path ≠ "" → "@" ++ path ∈ arguments → ∃ text, fs.readText path = .ok text

theorem path?_flagfile {path : String} (h : path ≠ "") : path? ("@" ++ path) = some path := by
  obtain ⟨c, rest, hpath⟩ := List.exists_cons_of_ne_nil (mt String.toList_eq_nil_iff.mp h)
  have htext : ("@" ++ path).toList = '@' :: c :: rest := by
    rw [String.toList_append, hpath]
    rfl
  have hsome : path? ("@" ++ path) = some (String.ofList (c :: rest)) := by
    rw [path?, htext]
    rfl
  rw [hsome, ← hpath, String.ofList_toList]

theorem path?_plain {argument : String} (h : ∀ path, argument = "@" ++ path → path = "") :
    path? argument = none := by
  rw [path?]
  split
  · rename_i c rest hargument
    have hsame : argument = "@" ++ String.ofList (c :: rest) := by
      rw [← String.toList_inj]
      simp [hargument]
    have hempty := congrArg String.toList (h _ hsame)
    rw [String.toList_ofList] at hempty
    cases hempty
  · rfl

theorem flagfile_or_plain (argument : String) :
    (∃ path, path ≠ "" ∧ argument = "@" ++ path) ∨ ∀ path, argument = "@" ++ path → path = "" := by
  refine or_iff_not_imp_left.mpr fun h path hargument ↦ ?_
  by_contra hne
  exact h ⟨path, hne, hargument⟩

def part (fs : Files) (argument : String) : Except SystemError (List String) :=
  match path? argument with
  | some path => read fs path
  | none => .ok [argument]

variable {fs : Files}

theorem part_flagfile {path : String} (h : path ≠ "") : part fs ("@" ++ path) = read fs path := by
  rw [part, path?_flagfile h]

theorem part_plain {argument : String} (h : ∀ path, argument = "@" ++ path → path = "") :
    part fs argument = .ok [argument] := by
  rw [part, path?_plain h]

theorem read_of_ok {path text : String} (h : fs.readText path = .ok text) :
    read fs path = .ok (linesIn text.toList) := by
  rw [read, h, ← arguments_eq]

theorem read_of_error {path : String} {e : SystemError} (h : fs.readText path = .error e) :
    read fs path = .error ⟨e.kind, "flagfile " ++ path ++ ": " ++ e.text⟩ := by
  rw [read, h]

theorem StandsFor.part {argument : String} {given : List String} (h : StandsFor fs argument given) :
    part fs argument = .ok given := by
  cases h with
  | flagfile hpath htext => rw [part_flagfile hpath, read_of_ok htext]
  | plain hplain => exact part_plain hplain

theorem standsFor_or_unreadable (fs : Files) (argument : String) :
    (∃ given, StandsFor fs argument given) ∨
      ∃ path e, path ≠ "" ∧ argument = "@" ++ path ∧ fs.readText path = .error e := by
  obtain ⟨path, hpath, rfl⟩ | hplain := flagfile_or_plain argument
  · cases hread : fs.readText path with
    | ok text => exact .inl ⟨_, .flagfile hpath hread⟩
    | error e => exact .inr ⟨path, e, hpath, rfl, hread⟩
  · exact .inl ⟨_, .plain hplain⟩

theorem expand_cons (argument : String) (rest : List String) :
    expand fs (argument :: rest) =
      (part fs argument >>= fun given ↦ (expand fs rest).map (given ++ ·)) := by
  rw [expand, part]
  cases path? argument with
  | none => cases expand fs rest <;> rfl
  | some path => cases read fs path <;> cases expand fs rest <;> rfl

theorem expand_cons_ok {argument : String} {given : List String} (h : StandsFor fs argument given)
    (rest : List String) : expand fs (argument :: rest) = (expand fs rest).map (given ++ ·) := by
  rw [expand_cons, h.part]
  rfl

theorem expand_cons_error {path : String} {e : SystemError} (hpath : path ≠ "")
    (h : fs.readText path = .error e) (rest : List String) :
    expand fs (("@" ++ path) :: rest) = .error ⟨e.kind, "flagfile " ++ path ++ ": " ++ e.text⟩ := by
  rw [expand_cons, part_flagfile hpath, read_of_error h]
  rfl

theorem expand_of_standsFor {arguments : List String} {parts : List (List String)}
    (h : List.Forall₂ (StandsFor fs) arguments parts) :
    expand fs arguments = .ok parts.flatten := by
  induction h with
  | nil => rfl
  | cons hfirst _ ih =>
    rw [expand_cons_ok hfirst, ih]
    rfl

theorem standFor_or_unreadable (fs : Files) (arguments : List String) :
    (∃ parts, List.Forall₂ (StandsFor fs) arguments parts) ∨
      ∃ before parts path after e, arguments = before ++ ("@" ++ path) :: after ∧
        List.Forall₂ (StandsFor fs) before parts ∧ path ≠ "" ∧ fs.readText path = .error e := by
  induction arguments with
  | nil => exact .inl ⟨[], .nil⟩
  | cons argument rest ih =>
    obtain ⟨given, hgiven⟩ | ⟨path, e, hpath, rfl, hread⟩ := standsFor_or_unreadable fs argument
    · obtain ⟨parts, hparts⟩ | ⟨before, parts, path, after, e, rfl, hbefore, hpath, hread⟩ := ih
      · exact .inl ⟨given :: parts, .cons hgiven hparts⟩
      · exact .inr ⟨argument :: before, given :: parts, path, after, e, rfl, .cons hgiven hbefore,
          hpath, hread⟩
    · exact .inr ⟨[], [], path, rest, e, rfl, .nil, hpath, hread⟩

theorem expand_of_unreadable {before : List String} {parts : List (List String)}
    (h : List.Forall₂ (StandsFor fs) before parts) {path : String} {e : SystemError}
    (hpath : path ≠ "") (hread : fs.readText path = .error e) (after : List String) :
    expand fs (before ++ ("@" ++ path) :: after) =
      .error ⟨e.kind, "flagfile " ++ path ++ ": " ++ e.text⟩ := by
  induction h with
  | nil => exact expand_cons_error hpath hread after
  | cons hfirst _ ih =>
    rw [List.cons_append, expand_cons_ok hfirst, ih]
    rfl

theorem StandsFor.readable {path : String} {given : List String}
    (h : StandsFor fs ("@" ++ path) given) (hpath : path ≠ "") :
    ∃ text, fs.readText path = .ok text := by
  generalize hargument : "@" ++ path = argument at h
  cases h with
  | flagfile _ htext =>
    rw [String.append_right_inj] at hargument
    exact ⟨_, hargument ▸ htext⟩
  | plain hplain => exact absurd (hplain path hargument.symm) hpath

theorem readable_iff {arguments : List String} :
    Readable fs arguments ↔ ∃ parts, List.Forall₂ (StandsFor fs) arguments parts := by
  constructor
  · intro h
    obtain hparts | ⟨before, _, path, after, e, rfl, -, hpath, hread⟩ :=
      standFor_or_unreadable fs arguments
    · exact hparts
    · obtain ⟨text, htext⟩ := h path hpath (List.mem_append_right _ List.mem_cons_self)
      rw [hread] at htext
      cases htext
  · rintro ⟨parts, hparts⟩ path hpath hmem
    induction hparts with
    | nil => cases hmem
    | cons hfirst _ ih =>
      obtain rfl | hmem := List.mem_cons.mp hmem
      · exact hfirst.readable hpath
      · exact ih hmem

theorem expand_eq_ok_iff {arguments result : List String} :
    expand fs arguments = .ok result ↔
      ∃ parts, List.Forall₂ (StandsFor fs) arguments parts ∧ result = parts.flatten := by
  constructor
  · intro h
    obtain ⟨parts, hparts⟩ | ⟨before, parts, path, after, e, rfl, hbefore, hpath, hread⟩ :=
      standFor_or_unreadable fs arguments
    · rw [expand_of_standsFor hparts] at h
      cases h
      exact ⟨parts, hparts, rfl⟩
    · rw [expand_of_unreadable hbefore hpath hread] at h
      cases h
  · rintro ⟨parts, hparts, rfl⟩
    exact expand_of_standsFor hparts

theorem expand_eq_error_iff {arguments : List String} {error : SystemError} :
    expand fs arguments = .error error ↔
      ∃ before path after e, arguments = before ++ ("@" ++ path) :: after ∧ Readable fs before ∧
        path ≠ "" ∧
        fs.readText path = .error e ∧ error = ⟨e.kind, "flagfile " ++ path ++ ": " ++ e.text⟩ := by
  constructor
  · intro h
    obtain ⟨parts, hparts⟩ | ⟨before, parts, path, after, e, rfl, hbefore, hpath, hread⟩ :=
      standFor_or_unreadable fs arguments
    · rw [expand_of_standsFor hparts] at h
      cases h
    · rw [expand_of_unreadable hbefore hpath hread] at h
      cases h
      exact ⟨before, path, after, e, rfl, readable_iff.mpr ⟨parts, hbefore⟩, hpath, hread, rfl⟩
  · rintro ⟨before, path, after, e, rfl, hbefore, hpath, hread, rfl⟩
    obtain ⟨parts, hparts⟩ := readable_iff.mp hbefore
    exact expand_of_unreadable hparts hpath hread after

structure IsLine (s : String) : Prop where
  ne_empty : s ≠ ""
  one_line : '\n' ∉ s.toList
  no_blank_end : ∀ c ∈ s.toList.getLast?, ¬ Text.isBlank c

instance (s : String) : Decidable (IsLine s) :=
  decidable_of_iff (s ≠ "" ∧ '\n' ∉ s.toList ∧ s.toList.getLast?.all fun c ↦ !Text.isBlank c)
    ⟨fun h ↦ ⟨h.1, h.2.1, by simpa [Option.all_eq_true] using h.2.2⟩,
      fun h ↦ ⟨h.ne_empty, h.one_line, by simpa [Option.all_eq_true] using h.no_blank_end⟩⟩

/-- White space that may follow an argument on its line. -/
def IsPadding (s : String) : Prop := ∀ c ∈ s.toList, Text.isBlank c ∧ c ≠ '\n'

instance (s : String) : Decidable (IsPadding s) := List.decidableBAll _ _

/-- A text that holds some arguments, one on a line. There may be white space after them and blank
lines between them, and the last line may have an end or not. -/
def Holds (text : String) (strings : List String) : Prop :=
  ∃ rows : List (String × String), (∀ row ∈ rows, IsPadding row.2) ∧
    text = "\n".intercalate (rows.map fun row ↦ row.1 ++ row.2) ∧
    strings = (rows.map (·.1)).filter (· ≠ "")

inductive Passed (fs : Files) : List String → List String → Prop
  | plain {strings : List String} (h : ∀ s ∈ strings, s = "@" ∨ s.toList.head? ≠ some '@') :
      Passed fs strings strings
  | file {path text : String} {strings : List String} (hpath : path ≠ "")
    (hread : fs.read path = .ok (Utf8.encode text)) (htext : Holds text strings) :
    Passed fs strings ["@" ++ path]

theorem trimmed_row {s blanks : List Char} (hs : ∀ c ∈ s.getLast?, ¬ Text.isBlank c)
    (hblanks : ∀ c ∈ blanks, Text.isBlank c) : trimmed (s ++ blanks) = String.ofList s := by
  rw [trimmed, List.rdropWhile, List.reverse_append,
    List.dropWhile_append_of_pos fun c hc ↦ hblanks c (List.mem_reverse.mp hc), ← List.rdropWhile,
    List.rdropWhile_eq_self_iff.mpr fun hne ↦ hs _ (List.getLast?_eq_some_getLast hne)]

theorem Holds.linesIn {text : String} {strings : List String} (h : Holds text strings)
    (hstrings : ∀ s ∈ strings, IsLine s) : linesIn text.toList = strings := by
  obtain ⟨rows, hblanks, rfl, rfl⟩ := h
  have hrow : ∀ row ∈ rows, '\n' ∉ (row.1 ++ row.2).toList ∧
      trimmed (row.1 ++ row.2).toList = row.1 := by
    intro row hmem
    have hend : '\n' ∉ row.2.toList := fun hfeed ↦ (hblanks row hmem _ hfeed).2 rfl
    have hblank : ∀ c ∈ row.2.toList, Text.isBlank c := fun c hc ↦ (hblanks row hmem c hc).1
    rw [String.toList_append, List.mem_append, not_or]
    by_cases hempty : row.1 = ""
    · rw [hempty]
      exact ⟨⟨List.not_mem_nil, hend⟩, trimmed_row nofun hblank⟩
    · have hline :=
        hstrings row.1 (List.mem_filter.mpr ⟨List.mem_map_of_mem hmem, by simpa using hempty⟩)
      exact ⟨⟨hline.one_line, hend⟩,
        (trimmed_row hline.no_blank_end hblank).trans String.ofList_toList⟩
  by_cases hnil : rows = []
  · subst hnil
    rfl
  · have hfeed : ∀ line ∈ (rows.map fun row ↦ row.1 ++ row.2).map String.toList, '\n' ∉ line := by
      simp only [List.forall_mem_map]
      exact fun row hmem ↦ (hrow row hmem).1
    have hne : (rows.map fun row ↦ row.1 ++ row.2).map String.toList ≠ [] := by simpa using hnil
    rw [Flagfile.linesIn, String.toList_intercalate]
    change (((['\n'].intercalate _).splitOn '\n').map trimmed).filter _ = _
    rw [List.splitOn_intercalate '\n' hfeed hne, List.map_map, List.map_map]
    exact congrArg (List.filter _) (List.map_congr_left fun row hmem ↦ (hrow row hmem).2)

theorem standsFor_itself {s : String} (h : s = "@" ∨ s.toList.head? ≠ some '@') :
    StandsFor fs s [s] := by
  refine .plain ?_
  rintro path rfl
  obtain h | h := h
  · have hempty : "@" ++ path = "@" ++ "" := h
    rwa [String.append_right_inj] at hempty
  · rw [String.toList_append] at h
    exact absurd rfl h

theorem readText_of_read {path text : String} (h : fs.read path = .ok (Utf8.encode text)) :
    fs.readText path = .ok text := by
  rw [Files.readText, h]
  change (match Utf8.decode? (Utf8.encode text) with | some text => _ | none => _) = _
  rw [Utf8.decode?, Utf8.decode_encode]
  rfl

theorem Passed.standFor {strings arguments : List String} (h : Passed fs strings arguments)
    (hstrings : ∀ s ∈ strings, IsLine s) :
    ∃ parts, List.Forall₂ (StandsFor fs) arguments parts ∧ parts.flatten = strings := by
  cases h with
  | plain h =>
    refine ⟨strings.map ([·]), ?_, ?_⟩
    · rw [List.forall₂_map_right_iff, List.forall₂_same]
      exact fun s hs ↦ standsFor_itself (h s hs)
    · rw [← List.flatMap_def]
      exact List.flatMap_singleton' strings
  | file hpath hread htext =>
    have hfile := StandsFor.flagfile hpath (readText_of_read hread)
    rw [htext.linesIn hstrings] at hfile
    exact ⟨[strings], .cons hfile .nil, List.flatten_singleton⟩

theorem standFor_of_runs {runs passed : List (List String)}
    (h : List.Forall₂ (Passed fs) runs passed) (hlines : ∀ s ∈ runs.flatten, IsLine s) :
    ∃ parts, List.Forall₂ (StandsFor fs) passed.flatten parts ∧ parts.flatten = runs.flatten := by
  induction h with
  | nil => exact ⟨[], .nil, rfl⟩
  | cons hfirst _ ih =>
    rw [List.flatten_cons, List.forall_mem_append] at hlines
    obtain ⟨parts, hparts, hflatten⟩ := hfirst.standFor hlines.1
    obtain ⟨others, hothers, hrest⟩ := ih hlines.2
    refine ⟨parts ++ others, List.rel_append hparts hothers, ?_⟩
    rw [List.flatten_append, hflatten, hrest, List.flatten_cons]

/-- Arguments are expanded just if every file they name can be read as text; each then gives what it
stands for, in order, and else the first file that cannot be read is the error. So arguments that
lines can carry may be cut up in any way and passed in files or, where they name no file themselves,
as they are. -/
theorem expand_flagfiles (fs : Files) :
    (∀ arguments, (∃ result, expand fs arguments = .ok result) ↔ Readable fs arguments) ∧
    (∀ arguments result, expand fs arguments = .ok result ↔
      ∃ parts, List.Forall₂ (StandsFor fs) arguments parts ∧ result = parts.flatten) ∧
    (∀ arguments error, expand fs arguments = .error error ↔
      ∃ before path after e, arguments = before ++ ("@" ++ path) :: after ∧ Readable fs before ∧
        path ≠ "" ∧
        fs.readText path = .error e ∧ error = ⟨e.kind, "flagfile " ++ path ++ ": " ++ e.text⟩) ∧
    ∀ runs passed, (∀ s ∈ runs.flatten, IsLine s) → List.Forall₂ (Passed fs) runs passed →
      expand fs passed.flatten = .ok runs.flatten := by
  refine ⟨fun arguments ↦ ?_, fun arguments result ↦ expand_eq_ok_iff,
    fun arguments error ↦ expand_eq_error_iff, ?_⟩
  · rw [readable_iff]
    constructor
    · rintro ⟨result, hresult⟩
      obtain ⟨parts, hparts, -⟩ := expand_eq_ok_iff.mp hresult
      exact ⟨parts, hparts⟩
    · rintro ⟨parts, hparts⟩
      exact ⟨_, expand_of_standsFor hparts⟩
  · intro runs passed hlines hpassed
    obtain ⟨parts, hparts, hflatten⟩ := standFor_of_runs hpassed hlines
    rw [expand_of_standsFor hparts, hflatten]

def optionFile : Files :=
  { entries := [(["a"], .file (Utf8.encode "x\r\n@a\n\n  y \u3000\n")), (["b"], .file [])] }

theorem options_given_in_files :
    (∀ s ∈ [["plain", "@"], ["x", "@a", "  y"], [], ["z"]].flatten, IsLine s) ∧
    List.Forall₂ (Passed optionFile) [["plain", "@"], ["x", "@a", "  y"], [], ["z"]]
      [["plain", "@"], ["@a"], ["@b"], ["z"]] ∧
    expand optionFile ["plain", "@", "@a", "@b", "z"] =
      .ok ["plain", "@", "x", "@a", "  y", "z"] := by
  have hname (name : String) (h : name = "a" ∨ name = "b") : Files.IsName name := by
    obtain rfl | rfl := h <;> exact ⟨by decide, by decide, by decide, by decide, by decide⟩
  have hlines : ∀ s ∈ [["plain", "@"], ["x", "@a", "  y"], [], ["z"]].flatten, IsLine s := by decide
  have hfirst : Passed optionFile ["x", "@a", "  y"] ["@" ++ "a"] :=
    .file (by decide) (Files.read_name (hname "a" (.inl rfl)) rfl)
      ⟨[("x", "\r"), ("@a", ""), ("", ""), ("  y", " \u3000"),
        ("", "")], by decide, by decide, by decide⟩
  have hsecond : Passed optionFile [] ["@" ++ "b"] :=
    .file (by decide) (Files.read_name (hname "b" (.inr rfl)) rfl) ⟨[], by decide, rfl, rfl⟩
  have hpassed : List.Forall₂ (Passed optionFile) [["plain", "@"], ["x", "@a", "  y"], [], ["z"]]
      [["plain", "@"], ["@a"], ["@b"], ["z"]] :=
    .cons (.plain (by decide)) (.cons hfirst (.cons hsecond (.cons (.plain (by decide)) .nil)))
  exact ⟨hlines, hpassed, (expand_flagfiles optionFile).2.2.2 _ _ hlines hpassed⟩

end CompileWorker.Flagfile
