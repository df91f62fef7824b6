import CompileWorker.Proofs.LineSplitting
import Mathlib.Data.List.Infix

namespace CompileWorker.Framing

open Json

def cuts (bytes : List UInt8) : List (List UInt8 × List UInt8) :=
  match _h : bytes.dropWhile (· ≠ 0x0A) with
  | [] => if bytes = [] then [] else [(bytes, [])]
  | _ :: rest => (bytes.takeWhile (· ≠ 0x0A), rest) :: cuts rest
termination_by bytes.length
decreasing_by
  have hsuffix := (List.dropWhile_suffix (l := bytes) fun b : UInt8 ↦ decide (b ≠ 0x0A)).length_le
  rw [_h, List.length_cons] at hsuffix
  omega

theorem cuts_of_not_mem {bytes : List UInt8} (h : 0x0A ∉ bytes) :
    cuts bytes = if bytes = [] then [] else [(bytes, [])] := by
  have hdrop : bytes.dropWhile (· ≠ 0x0A) = [] :=
    List.dropWhile_eq_nil_iff.mpr (ne_feed_of_not_mem h)
  rw [cuts]
  split
  · rfl
  · rename_i hcons
    rw [hdrop] at hcons
    cases hcons

theorem cuts_append_feed {part : List UInt8} (hpart : 0x0A ∉ part) (rest : List UInt8) :
    cuts (part ++ 0x0A :: rest) = (part, rest) :: cuts rest := by
  have hall := ne_feed_of_not_mem hpart
  have hdrop : (part ++ 0x0A :: rest).dropWhile (· ≠ 0x0A) = 0x0A :: rest := by
    rw [List.dropWhile_append_of_pos hall]
    rfl
  have htake : (part ++ 0x0A :: rest).takeWhile (· ≠ 0x0A) = part := by
    rw [List.takeWhile_append_of_pos hall, List.takeWhile_cons_of_neg (by decide), List.append_nil]
  rw [cuts]
  split
  · rename_i hnil
    rw [hdrop] at hnil
    cases hnil
  · rename_i hcons
    rw [hdrop] at hcons
    cases hcons
    rw [htake]

theorem cuts_map_fst (bytes : List UInt8) : (cuts bytes).map Prod.fst = linesOf true bytes := by
  by_cases h : 0x0A ∈ bytes
  · obtain ⟨part, rest, hbytes, hpart⟩ := List.eq_append_cons_of_mem h
    have hlength := congrArg List.length hbytes
    rw [List.length_append, List.length_cons] at hlength
    rw [hbytes, cuts_append_feed hpart, linesOf_cons hpart, List.map_cons, cuts_map_fst rest]
  · rw [cuts_of_not_mem h, linesOf_of_not_mem h]
    split <;> simp_all
termination_by bytes.length

variable {limit : Nat} {s s' : Source} {line : Line}

theorem cuts_of_readLine (hending : s.ending = none) (h : readLine limit s = (.ok line, s'))
    (htaken : line.taken ≠ 0) :
    ∃ content feed, cuts s.bytes = (content, s'.bytes) :: cuts s'.bytes ∧ s'.ending = none ∧
      line = .ofBytes limit content feed := by
  by_cases hfeed : 0x0A ∈ s.bytes
  · obtain ⟨part, rest, hbytes, hpart⟩ := List.eq_append_cons_of_mem hfeed
    obtain ⟨pieces, htake, hrest⟩ := takeLine_of_feed limit [] hpart hbytes
    rw [Line.ofBytes_nil] at htake
    simp only [readLine, htake, Prod.mk.injEq, Except.ok.injEq] at h
    obtain ⟨rfl, rfl⟩ := h
    rw [hbytes, cuts_append_feed hpart]
    exact ⟨part, true, by rw [Source.bytes, hrest], hending, rfl⟩
  · have htake := takeLine_of_not_mem limit [] hfeed
    rw [Line.ofBytes_nil] at htake
    simp only [readLine, htake, hending, Prod.mk.injEq, Except.ok.injEq] at h
    obtain ⟨rfl, rfl⟩ := h
    have hbytes : s.bytes ≠ [] := by
      rwa [Line.ofBytes_taken, Bool.toNat_false, Nat.add_zero, ne_eq,
        List.length_eq_zero_iff] at htaken
    have hleft : Source.bytes { pieces := [] } = [] := rfl
    refine ⟨s.bytes, false, ?_, rfl, rfl⟩
    rw [cuts_of_not_mem hfeed, if_neg hbytes, hleft, cuts_of_not_mem List.not_mem_nil, if_pos rfl]

theorem cuts_of_readLine_end (h : readLine limit s = (.ok line, s')) (htaken : line.taken = 0) :
    cuts s.bytes = [] := by
  obtain ⟨hlines, hending⟩ := lines_of_readLine_end h htaken
  rw [Source.lines, hending, Option.isNone_none, ← cuts_map_fst] at hlines
  exact List.map_eq_nil_iff.mp hlines

def Line.Fits (limit : Nat) (line : Line) : Prop :=
  ∃ part feed, line.content = part ++ feed ∧ 0x0A ∉ part ∧ part.length ≤ limit ∧
    (feed = [] ∨ feed = [0x0A])

theorem Line.ofBytes_fits (limit : Nat) {bytes : List UInt8} (h : 0x0A ∉ bytes) (feed : Bool) :
    (Line.ofBytes limit bytes feed).Fits limit := by
  by_cases hlong : limit < bytes.length
  · refine ⟨[], [], ?_, List.not_mem_nil, Nat.zero_le _, .inl rfl⟩
    simp [ofBytes, Line.add, Line.content, hlong]
  · refine ⟨bytes, if feed then [0x0A] else [], ofBytes_content hlong feed, h,
      Nat.le_of_not_lt hlong, ?_⟩
    cases feed <;> simp

/-- Whatever pieces were handed out since a line began. -/
theorem takeLine_fits (limit : Nat) (before : List Piece) :
    (takeLine limit {} before).1.Fits limit := by
  rw [← Line.ofBytes_nil limit]
  by_cases h : 0x0A ∈ before.flatMap Piece.content
  · obtain ⟨part, rest, hbytes, hpart⟩ := List.eq_append_cons_of_mem h
    obtain ⟨pieces, htake, -⟩ := takeLine_of_feed limit [] hpart hbytes
    rw [htake]
    exact Line.ofBytes_fits limit hpart true
  · rw [takeLine_of_not_mem limit [] h]
    exact Line.ofBytes_fits limit h false

/-- What reading comes to at a line: a message or an error, or nothing if the line is blank. -/
def verdict? {α : Type} (d : Decoder α) (limit : Nat) (line : List UInt8) :
    Option (Except FrameError α) :=
  if limit < line.length then some (.error (.tooLarge limit))
  else if line.all Text.isAsciiBlank then none
  else some ((d.decode (trim line)).mapError .decode)

theorem trim_eq_nil_iff {line : List UInt8} : trim line = [] ↔ line.all Text.isAsciiBlank := by
  rw [trim, Text.trimBy, List.reverse_eq_nil_iff, List.dropWhile_eq_nil_iff, List.all_eq_true]
  constructor
  · intro h b hb
    by_cases hblank : Text.isAsciiBlank b
    · exact hblank
    · -- then the line has a first byte that is not blank, and that one is left
      cases hdrop : line.dropWhile Text.isAsciiBlank with
      | nil => exact List.dropWhile_eq_nil_iff.mp hdrop b hb
      | cons c rest =>
        have hc := List.head_dropWhile_not Text.isAsciiBlank (l := line) (by simp [hdrop])
        simp only [hdrop, List.head_cons] at hc
        have := h c (by simp [hdrop])
        rw [hc] at this
        cases this
  · intro h b hb
    exact h b (List.dropWhile_subset _ (List.mem_reverse.mp hb))

theorem verdict?_eq {α : Type} (d : Decoder α) (limit : Nat) (line : List UInt8) :
    verdict? d limit line =
      if isMessageLine limit line then some (messageOf d limit line) else none := by
  have hblank : (trim line).isEmpty = line.all Text.isAsciiBlank := by
    rw [Bool.eq_iff_iff, List.isEmpty_iff, trim_eq_nil_iff]
  rw [verdict?, isMessageLine, messageOf, hblank]
  by_cases hlong : limit < line.length
  · simp [hlong]
  · cases line.all Text.isAsciiBlank <;> simp [hlong]

def verdicts {α : Type} (d : Decoder α) (limit : Nat) (bytes : List UInt8) :
    List (Except FrameError α × List UInt8) :=
  (cuts bytes).filterMap fun cut ↦ (verdict? d limit cut.1).map (·, cut.2)

theorem verdicts_of_cuts {α : Type} {d : Decoder α} {limit : Nat} {bytes content rest : List UInt8}
    (h : cuts bytes = (content, rest) :: cuts rest) :
    verdicts d limit bytes =
      (if isMessageLine limit content then [(messageOf d limit content, rest)] else []) ++
        verdicts d limit rest := by
  rw [verdicts, h, List.filterMap_cons, verdict?_eq]
  cases isMessageLine limit content <;> rfl

theorem readMessage_verdicts {α : Type} (d : Decoder α) (limit : Nat) (s : Source)
    (hending : s.ending = none) :
    match readMessage d limit s with
    | (.ok none, _) => verdicts d limit s.bytes = []
    | (.ok (some a), s') =>
      verdicts d limit s.bytes = (.ok a, s'.bytes) :: verdicts d limit s'.bytes ∧ s'.ending = none
    | (.error e, s') => e.isRecoverable ∧
      verdicts d limit s.bytes = (.error e, s'.bytes) :: verdicts d limit s'.bytes ∧
      s'.ending = none := by
  -- on the bytes to come, as the reader goes on past a blank line
  fun_induction readMessage d limit s with
  | case1 s e s' hread =>
    obtain ⟨-, hfailed⟩ := lines_of_readLine_error hread
    rw [hending] at hfailed
    cases hfailed
  | case2 s line s' hread htaken =>
    rw [verdicts, cuts_of_readLine_end hread htaken]
    rfl
  | case3 s line s' hread htaken hlong =>
    obtain ⟨content, feed, hcuts, hending', rfl⟩ := cuts_of_readLine hending hread htaken
    rw [Line.ofBytes_overlong, decide_eq_true_eq] at hlong
    have hmessage : isMessageLine limit content := by simp [isMessageLine, hlong]
    refine ⟨rfl, ?_, hending'⟩
    rw [verdicts_of_cuts hcuts, if_pos hmessage, messageOf, if_pos hlong, List.singleton_append]
  | case4 s line s' hread htaken hlong hblank ih =>
    obtain ⟨content, feed, hcuts, hending', rfl⟩ := cuts_of_readLine hending hread htaken
    rw [Line.ofBytes_overlong, decide_eq_true_eq] at hlong
    rw [trim_ofBytes hlong] at hblank
    have hmessage : ¬ isMessageLine limit content := by simp [isMessageLine, hlong, hblank]
    rw [verdicts_of_cuts hcuts, if_neg hmessage, List.nil_append]
    exact ih hending'
  | case5 s line s' hread htaken hlong hblank =>
    obtain ⟨content, feed, hcuts, hending', rfl⟩ := cuts_of_readLine hending hread htaken
    rw [Line.ofBytes_overlong, decide_eq_true_eq] at hlong
    rw [trim_ofBytes hlong] at hblank ⊢
    have hmessage : isMessageLine limit content := by simp [isMessageLine, hblank]
    rw [verdicts_of_cuts hcuts, if_pos hmessage, messageOf, if_neg hlong, List.singleton_append]
    cases d.decode (trim content) with
    | ok a => exact ⟨rfl, hending'⟩
    | error e => exact ⟨rfl, rfl, hending'⟩

/-- The results of reading one message after the other to the end of the stream, each with the
stream as it was left. An error that the reader cannot go on from is the last. -/
def Source.reads {α : Type} (d : Decoder α) (limit : Nat) (s : Source) :
    List (Except FrameError α × Source) :=
  match _h : readMessage d limit s with
  | (.ok none, _) => []
  | (.ok (some a), s') => (.ok a, s') :: s'.reads d limit
  | (.error e, s') => (.error e, s') :: if _he : e.isRecoverable then s'.reads d limit else []
termination_by s.bytes.length
decreasing_by
  · have hlt := bytes_length_readMessage_lt d limit s
    rw [_h] at hlt
    exact hlt
  · have hlt := bytes_length_readMessage_lt d limit s
    rw [_h] at hlt
    exact hlt _he

/-- What is in hand after every piece handed out, line after line. -/
def Source.inHand (limit : Nat) (s : Source) : List Line :=
  s.pieces.inits.map (fun before ↦ (takeLine limit {} before).1) ++
    match _h : readLine limit s with
    | (.ok line, s') => if _htaken : line.taken = 0 then [] else s'.inHand limit
    | (.error _, _) => []
termination_by s.bytes.length
decreasing_by
  have := bytes_length_readLine limit s s' line _h
  omega

theorem Source.fits_of_mem_inHand (limit : Nat) (s : Source) :
    ∀ line ∈ s.inHand limit, line.Fits limit := by
  intro line hmem
  fun_induction Source.inHand limit s with
  | case1 s ih =>
    rcases List.mem_append.mp hmem with hhere | hlater
    · obtain ⟨before, -, rfl⟩ := List.mem_map.mp hhere
      exact takeLine_fits limit before
    · split at hlater
      · rename_i line' s' hread
        split at hlater
        · cases hlater
        · rename_i htaken
          exact ih line' s' hread htaken hlater
      · cases hlater

theorem Source.reads_verdicts {α : Type} (d : Decoder α) (limit : Nat) (s : Source)
    (hending : s.ending = none) :
    (s.reads d limit).map (fun r ↦ (r.1, r.2.bytes)) = verdicts d limit s.bytes := by
  have hmessage := readMessage_verdicts d limit s hending
  fun_induction Source.reads d limit s with
  | case1 s s' hread =>
    rw [hread] at hmessage
    exact hmessage.symm
  | case2 s a s' hread ih =>
    rw [hread] at hmessage
    obtain ⟨hverdicts, hending'⟩ := hmessage
    rw [hverdicts, List.map_cons, ih hending' (readMessage_verdicts d limit s' hending')]
  | case3 s e s' hread ih =>
    rw [hread] at hmessage
    obtain ⟨he, hverdicts, hending'⟩ := hmessage
    rw [hverdicts, dif_pos he, List.map_cons,
      ih he hending' (readMessage_verdicts d limit s' hending')]

/-- However a stream is cut into pieces and wherever it is interrupted, the results of reading it to
its end are told by its lines, one by one: a line longer than the limit is too large, a blank one is
passed over, any other is decoded without the blanks around it. A result leaves exactly what comes
after its line; at no time is more of a line in hand than the limit. -/
theorem reads_lines {α : Type} (d : Decoder α) (limit : Nat) (pieces : List Piece) :
    let s : Source := { pieces }
    (s.reads d limit).map (fun r ↦ (r.1, r.2.bytes)) =
        (cuts s.bytes).filterMap (fun cut ↦ (verdict? d limit cut.1).map (·, cut.2)) ∧
      (cuts s.bytes).map Prod.fst = linesOf true s.bytes ∧
      ∀ line ∈ s.inHand limit, line.Fits limit :=
  ⟨Source.reads_verdicts d limit _ rfl, cuts_map_fst _, Source.fits_of_mem_inHand limit _⟩

end CompileWorker.Framing
