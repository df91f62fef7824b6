import CompileWorker.Framing.Message
import Mathlib.Data.List.TakeWhile

namespace CompileWorker.Framing

/-- The lines of some bytes. Every line feed ends one; if the bytes end with the stream, so does
their end. -/
def linesOf (ended : Bool) (bytes : List UInt8) : List (List UInt8) :=
  let parts := bytes.splitOn 0x0A
  if ended ∧ parts.getLast? ≠ some [] then parts else parts.dropLast

theorem linesOf_append_feed (ended : Bool) (front rest : List UInt8) :
    linesOf ended (front ++ 0x0A :: rest) = front.splitOn 0x0A ++ linesOf ended rest := by
  have hne : rest.splitOn 0x0A ≠ [] := List.splitOn_ne_nil _ _
  have hlast : (front.splitOn 0x0A ++ rest.splitOn 0x0A).getLast? =
      (rest.splitOn 0x0A).getLast? := by
    rw [List.getLast?_append, List.getLast?_eq_some_getLast hne, Option.some_or]
  simp only [linesOf, List.splitOn_append_cons_self, hlast]
  split
  · rfl
  · exact List.dropLast_append_of_ne_nil hne

theorem linesOf_cons {part : List UInt8} (hpart : 0x0A ∉ part) (ended : Bool) (rest : List UInt8) :
    linesOf ended (part ++ 0x0A :: rest) = part :: linesOf ended rest := by
  rw [linesOf_append_feed, List.splitOn_eq_singleton hpart, List.singleton_append]

theorem linesOf_of_not_mem {bytes : List UInt8} (h : 0x0A ∉ bytes) (ended : Bool) :
    linesOf ended bytes = if ended ∧ bytes ≠ [] then [bytes] else [] := by
  simp [linesOf, List.splitOn_eq_singleton h]

def unlines (lines : List (List UInt8)) : List UInt8 := lines.flatMap (· ++ [0x0A])

theorem linesOf_unlines {lines : List (List UInt8)} (h : ∀ line ∈ lines, 0x0A ∉ line)
    (ended : Bool) : linesOf ended (unlines lines) = lines := by
  induction lines with
  | nil =>
    rw [unlines, List.flatMap_nil, linesOf_of_not_mem List.not_mem_nil]
    simp
  | cons line lines ih =>
    obtain ⟨hline, hlines⟩ := List.forall_mem_cons.mp h
    rw [unlines, List.flatMap_cons, List.append_assoc, List.singleton_append, linesOf_cons hline,
      ← unlines, ih hlines]

theorem linesOf_prefix (bytes more : List UInt8) (ended : Bool) :
    linesOf false bytes <+: linesOf ended (bytes ++ more) := by
  by_cases h : 0x0A ∈ bytes
  · obtain ⟨part, rest, hbytes, hpart⟩ := List.eq_append_cons_of_mem h
    have hlength := congrArg List.length hbytes
    rw [List.length_append, List.length_cons] at hlength
    have hrest := linesOf_prefix rest more ended
    rw [hbytes, List.append_assoc, List.cons_append, linesOf_cons hpart, linesOf_cons hpart]
    exact List.cons_prefix_cons.mpr ⟨rfl, hrest⟩
  · rw [linesOf_of_not_mem h, if_neg (by simp)]
    exact List.nil_prefix
termination_by bytes.length

def Source.lines (s : Source) : List (List UInt8) := linesOf s.ending.isNone s.bytes

/-- The stream as it would be if the read that fails handed out more instead. -/
def Source.mended (s : Source) (more : List Piece) : Source :=
  match s.ending with
  | none => s
  | some _ => { pieces := s.pieces ++ more }

theorem Source.lines_prefix (s : Source) (more : List Piece) :
    s.lines <+: (s.mended more).lines := by
  unfold Source.mended
  cases hending : s.ending with
  | none => exact List.prefix_rfl
  | some e =>
    simp only [Source.lines, Source.bytes, hending, List.flatMap_append]
    exact linesOf_prefix _ _ _

theorem Line.add_add (l : Line) (limit : Nat) (part more : List UInt8) (feed : Bool) :
    (l.add limit part false).add limit more feed = l.add limit (part ++ more) feed := by
  unfold Line.add
  by_cases hover : l.overlong
  · simp only [hover, if_true, List.length_append, Bool.toNat_false, Line.mk.injEq, true_and,
      and_true]
    omega
  · by_cases hpart : limit < l.size + part.length
    · have hmore : limit < l.size + (part.length + more.length) := by omega
      simp only [hover, hpart, hmore, if_true, if_false, Bool.false_eq_true, List.length_append,
        Bool.toNat_false, Line.mk.injEq, true_and, and_true]
      omega
    · by_cases hmore : limit < l.size + (part.length + more.length)
      · have hmore' : limit < l.size + part.length + more.length := by omega
        simp only [hover, hpart, hmore, hmore', if_true, if_false, Bool.false_eq_true,
          List.length_append, Bool.toNat_false, Line.mk.injEq, true_and, and_true]
        omega
      · have hmore' : ¬ limit < l.size + part.length + more.length := by omega
        simp only [hover, hpart, hmore, hmore', if_false, Bool.false_eq_true, List.length_append,
          Bool.toNat_false, List.reverse_append, List.nil_append, List.append_assoc, Line.mk.injEq,
          true_and, and_true]
        omega

def Line.ofBytes (limit : Nat) (bytes : List UInt8) (feed : Bool) : Line :=
  ({} : Line).add limit bytes feed

theorem Line.ofBytes_nil (limit : Nat) : Line.ofBytes limit [] false = {} := by
  simp [ofBytes, Line.add]

theorem Line.ofBytes_taken (limit : Nat) (bytes : List UInt8) (feed : Bool) :
    (Line.ofBytes limit bytes feed).taken = bytes.length + feed.toNat := by
  simp [ofBytes, Line.taken_add]

theorem Line.ofBytes_overlong (limit : Nat) (bytes : List UInt8) (feed : Bool) :
    (Line.ofBytes limit bytes feed).overlong = decide (limit < bytes.length) := by
  by_cases h : limit < bytes.length <;> simp [ofBytes, Line.add, h]

theorem Line.ofBytes_content {limit : Nat} {bytes : List UInt8} (h : ¬ limit < bytes.length)
    (feed : Bool) :
    (Line.ofBytes limit bytes feed).content = bytes ++ if feed then [0x0A] else [] := by
  cases feed <;> simp [ofBytes, Line.add, Line.content, h]

theorem ne_feed_of_not_mem {bytes : List UInt8} (h : 0x0A ∉ bytes) :
    ∀ b ∈ bytes, decide (b ≠ 0x0A) = true := by
  intro b hb
  have hne : b ≠ 0x0A := by
    rintro rfl
    exact h hb
  exact decide_eq_true hne

theorem takeLine_of_not_mem (limit : Nat) {pieces : List Piece} (before : List UInt8)
    (h : 0x0A ∉ pieces.flatMap Piece.content) :
    takeLine limit (.ofBytes limit before false) pieces =
      (.ofBytes limit (before ++ pieces.flatMap Piece.content) false, none) := by
  induction pieces generalizing before with
  | nil => simp [takeLine]
  | cons piece pieces ih =>
    rw [List.flatMap_cons, List.mem_append, not_or] at h
    cases piece with
    | interrupted => exact ih before h.2
    | bytes content =>
      have hdrop : content.dropWhile (· ≠ 0x0A) = [] :=
        List.dropWhile_eq_nil_iff.mpr (ne_feed_of_not_mem h.1)
      rw [takeLine, hdrop, Line.ofBytes, Line.add_add, ← Line.ofBytes, ih _ h.2, List.append_assoc]
      rfl

theorem takeLine_of_feed (limit : Nat) {pieces : List Piece} (before : List UInt8)
    {part rest : List UInt8} (hpart : 0x0A ∉ part)
    (h : pieces.flatMap Piece.content = part ++ 0x0A :: rest) :
    ∃ pieces', takeLine limit (.ofBytes limit before false) pieces =
        (.ofBytes limit (before ++ part) true, some pieces') ∧
        pieces'.flatMap Piece.content = rest := by
  induction pieces generalizing before part with
  | nil => simp at h
  | cons piece pieces ih =>
    cases piece with
    | interrupted => exact ih before hpart h
    | bytes content =>
      rw [List.flatMap_cons, Piece.content] at h
      by_cases hcontent : 0x0A ∈ content
      · -- the feed is in this piece
        obtain ⟨front, back, rfl, hfront⟩ := List.eq_append_cons_of_mem hcontent
        have hsplit := congrArg (List.splitOn 0x0A) h
        rw [List.append_assoc, List.cons_append, List.splitOn_append_cons_self_of_not_mem hfront,
          List.splitOn_append_cons_self_of_not_mem hpart] at hsplit
        obtain rfl := (List.cons.inj hsplit).1
        rw [List.append_assoc, List.append_cancel_left_eq, List.cons_append, List.cons.injEq] at h
        have hfront' := ne_feed_of_not_mem hfront
        have hdrop : (front ++ 0x0A :: back).dropWhile (· ≠ 0x0A) = 0x0A :: back := by
          rw [List.dropWhile_append_of_pos hfront']
          rfl
        have htake : (front ++ 0x0A :: back).takeWhile (· ≠ 0x0A) = front := by
          rw [List.takeWhile_append_of_pos hfront', List.takeWhile_cons_of_neg (by decide),
            List.append_nil]
        refine ⟨.bytes back :: pieces, ?_, h.2⟩
        rw [takeLine, hdrop]
        simp only [htake, Line.ofBytes, Line.add_add]
      · -- the piece is part of the line
        have hdrop : content.dropWhile (· ≠ 0x0A) = [] :=
          List.dropWhile_eq_nil_iff.mpr (ne_feed_of_not_mem hcontent)
        rcases List.append_eq_append_iff.mp h with ⟨more, rfl, hmore⟩ | ⟨more, rfl, hmore⟩
        · rw [List.mem_append, not_or] at hpart
          rw [takeLine, hdrop, Line.ofBytes, Line.add_add, ← Line.ofBytes, ← List.append_assoc]
          exact ih _ hpart.2 hmore
        · cases more with
          | nil =>
            rw [takeLine, hdrop, Line.ofBytes, Line.add_add, ← Line.ofBytes]
            obtain ⟨pieces', htake, hrest⟩ :=
              ih (before ++ (part ++ [])) List.not_mem_nil hmore.symm
            exact ⟨pieces', by simpa using htake, hrest⟩
          | cons b more =>
            obtain ⟨rfl, -⟩ := List.cons.inj hmore
            simp at hcontent

/-- Reading a line takes the first line off those of the stream; with none left the stream is at its
end. -/
theorem readLine_lines (limit : Nat) (s : Source) :
    match s.lines with
    | [] => readLine limit s =
      ((match s.ending with | none => .ok {} | some e => .error e), { s with pieces := [] })
    | content :: rest => ∃ feed s', readLine limit s = (.ok (.ofBytes limit content feed), s') ∧
      s'.lines = rest ∧ s'.ending = s.ending ∧ (content = [] → feed) := by
  by_cases h : 0x0A ∈ s.bytes
  · obtain ⟨part, rest, hbytes, hpart⟩ := List.eq_append_cons_of_mem h
    obtain ⟨pieces, htake, hrest⟩ := takeLine_of_feed limit [] hpart hbytes
    rw [Line.ofBytes_nil] at htake
    rw [Source.lines, hbytes, linesOf_cons hpart]
    refine ⟨true, { s with pieces }, ?_, by rw [Source.lines, Source.bytes, hrest], rfl,
      fun _ ↦ rfl⟩
    simp only [readLine, htake]
    rfl
  · have htake := takeLine_of_not_mem limit [] h
    rw [Line.ofBytes_nil] at htake
    rw [Source.lines, linesOf_of_not_mem h]
    cases hending : s.ending with
    | some e => simp [readLine, htake, hending]
    | none =>
      cases hbytes : s.bytes with
      | nil =>
        rw [Source.bytes] at hbytes
        simp [readLine, htake, hending, hbytes, Line.ofBytes_nil]
      | cons b bytes =>
        refine ⟨false, { s with pieces := [] }, ?_, ?_, hending, by rintro ⟨⟩⟩
        · rw [Source.bytes] at hbytes
          simp only [readLine, htake, hending, hbytes]
          rfl
        · simp [Source.lines, Source.bytes, hending, linesOf_of_not_mem]

theorem lines_of_readLine {limit : Nat} {s s' : Source} {line : Line}
    (h : readLine limit s = (.ok line, s')) (htaken : line.taken ≠ 0) :
    ∃ content feed, s.lines = content :: s'.lines ∧ s'.ending = s.ending ∧
      line = .ofBytes limit content feed := by
  have hread := readLine_lines limit s
  cases hlines : s.lines with
  | nil =>
    rw [hlines, h] at hread
    cases hending : s.ending with
    | none =>
      simp only [hending, Prod.mk.injEq, Except.ok.injEq] at hread
      exact absurd (congrArg Line.taken hread.1) htaken
    | some e => simp [hending] at hread
  | cons content rest =>
    rw [hlines] at hread
    obtain ⟨feed, s'', hread, rfl, hending, -⟩ := hread
    rw [h] at hread
    obtain ⟨hline, rfl⟩ := Prod.mk.inj hread
    exact ⟨content, feed, rfl, hending, Except.ok.inj hline⟩

theorem lines_of_readLine_end {limit : Nat} {s s' : Source} {line : Line}
    (h : readLine limit s = (.ok line, s')) (htaken : line.taken = 0) :
    s.lines = [] ∧ s.ending = none := by
  have hread := readLine_lines limit s
  cases hlines : s.lines with
  | nil =>
    rw [hlines, h] at hread
    cases hending : s.ending with
    | none => exact ⟨rfl, rfl⟩
    | some e => simp [hending] at hread
  | cons content rest =>
    rw [hlines] at hread
    obtain ⟨feed, s'', hread, -, -, hfeed⟩ := hread
    rw [h] at hread
    obtain rfl := Except.ok.inj (Prod.mk.inj hread).1
    rw [Line.ofBytes_taken, Nat.add_eq_zero_iff, List.length_eq_zero_iff] at htaken
    rw [hfeed htaken.1] at htaken
    cases htaken.2

theorem lines_of_readLine_error {limit : Nat} {s s' : Source} {e : SystemError}
    (h : readLine limit s = (.error e, s')) : s.lines = [] ∧ s.ending = some e := by
  have hread := readLine_lines limit s
  cases hlines : s.lines with
  | nil =>
    rw [hlines, h] at hread
    cases hending : s.ending with
    | none => simp [hending] at hread
    | some e' =>
      simp only [hending, Prod.mk.injEq, Except.error.injEq] at hread
      exact ⟨rfl, congrArg some hread.1.symm⟩
  | cons content rest =>
    rw [hlines, h] at hread
    obtain ⟨feed, s'', hread, -⟩ := hread
    cases (Prod.mk.inj hread).1

/-- A line that a message is expected on: it is not blank, or too long to tell. -/
def isMessageLine (limit : Nat) (line : List UInt8) : Bool :=
  limit < line.length || !(trim line).isEmpty

/-- What such a line holds. -/
def messageOf {α : Type} (d : Json.Decoder α) (limit : Nat) (line : List UInt8) :
    Except FrameError α :=
  if limit < line.length then .error (.tooLarge limit) else (d.decode (trim line)).mapError .decode

def Source.messages {α : Type} (s : Source) (d : Json.Decoder α) (limit : Nat) :
    List (Except FrameError α) :=
  (s.lines.filter (isMessageLine limit)).map (messageOf d limit)

theorem trim_append_feed (line : List UInt8) : trim (line ++ [0x0A]) = trim line := by
  unfold trim Text.trimBy
  rw [List.dropWhile_append]
  split
  · rename_i hblank
    rw [List.isEmpty_iff.mp hblank]
    rfl
  · rw [List.reverse_append, List.reverse_singleton, List.singleton_append,
      List.dropWhile_cons_of_pos rfl]

theorem trim_ofBytes {limit : Nat} {bytes : List UInt8} (h : ¬ limit < bytes.length) (feed : Bool) :
    trim (Line.ofBytes limit bytes feed).content = trim bytes := by
  rw [Line.ofBytes_content h]
  cases feed with
  | true => exact trim_append_feed bytes
  | false => rw [if_neg Bool.false_ne_true, List.append_nil]

theorem readMessage_messages {α : Type} (d : Json.Decoder α) (limit : Nat) (s : Source) :
    match s.messages d limit with
    | [] =>
      (readMessage d limit s).1 = match s.ending with | none => .ok none | some e => .error (.io e)
    | m :: rest => ∃ s', readMessage d limit s = (m.map some, s') ∧ s'.messages d limit = rest ∧
      s'.ending = s.ending := by
  -- on the bytes to come, as the reader goes on past a blank line
  fun_induction readMessage d limit s with
  | case1 s e s' hread =>
    obtain ⟨hlines, hending⟩ := lines_of_readLine_error hread
    simp [Source.messages, hlines, hending]
  | case2 s line s' hread htaken =>
    obtain ⟨hlines, hending⟩ := lines_of_readLine_end hread htaken
    simp [Source.messages, hlines, hending]
  | case3 s line s' hread htaken hlong =>
    obtain ⟨content, feed, hlines, hending, rfl⟩ := lines_of_readLine hread htaken
    rw [Line.ofBytes_overlong, decide_eq_true_eq] at hlong
    have hmessage : isMessageLine limit content := by simp [isMessageLine, hlong]
    rw [Source.messages, hlines, List.filter_cons_of_pos hmessage, List.map_cons]
    exact ⟨s', by simp [messageOf, hlong, Except.map], rfl, hending⟩
  | case4 s line s' hread htaken hlong hblank ih =>
    obtain ⟨content, feed, hlines, hending, rfl⟩ := lines_of_readLine hread htaken
    rw [Line.ofBytes_overlong, decide_eq_true_eq] at hlong
    rw [trim_ofBytes hlong] at hblank
    have hmessage : ¬ isMessageLine limit content := by simp [isMessageLine, hlong, hblank]
    rw [Source.messages, hlines, List.filter_cons_of_neg hmessage, ← hending]
    exact ih
  | case5 s line s' hread htaken hlong hblank =>
    obtain ⟨content, feed, hlines, hending, rfl⟩ := lines_of_readLine hread htaken
    rw [Line.ofBytes_overlong, decide_eq_true_eq] at hlong
    rw [trim_ofBytes hlong] at hblank ⊢
    have hmessage : isMessageLine limit content := by simp [isMessageLine, hblank]
    rw [Source.messages, hlines, List.filter_cons_of_pos hmessage, List.map_cons]
    refine ⟨s', ?_, rfl, hending⟩
    rw [messageOf, if_neg hlong]
    cases d.decode (trim content) <;> rfl

section Reading

variable {α : Type} {d : Json.Decoder α} {limit : Nat} {s s' : Source} {e : FrameError}

theorem readMessage_of_messages {m : Except FrameError α} {rest : List (Except FrameError α)}
    (h : s.messages d limit = m :: rest) : ∃ s', readMessage d limit s = (m.map some, s') := by
  have hread := readMessage_messages d limit s
  rw [h] at hread
  obtain ⟨s', hread, -⟩ := hread
  exact ⟨s', hread⟩

theorem isRecoverable_of_messageOf {line : List UInt8} (h : messageOf d limit line = .error e) :
    e.isRecoverable := by
  unfold messageOf at h
  split at h
  · cases h
    rfl
  · cases hdecode : d.decode (trim line) with
    | error f =>
      rw [hdecode] at h
      cases h
      rfl
    | ok a =>
      rw [hdecode] at h
      cases h

theorem messages_of_end (h : readMessage d limit s = (.ok none, s')) :
    s.messages d limit = [] ∧ s.ending = none := by
  have hread := readMessage_messages d limit s
  cases hm : s.messages d limit with
  | nil =>
    rw [hm, h] at hread
    cases hending : s.ending with
    | none => exact ⟨rfl, rfl⟩
    | some e => simp [hending] at hread
  | cons m rest =>
    rw [hm, h] at hread
    obtain ⟨_, hread, -⟩ := hread
    cases m <;> cases (Prod.mk.inj hread).1

theorem messages_of_message {a : α} (h : readMessage d limit s = (.ok (some a), s')) :
    s.messages d limit = .ok a :: s'.messages d limit ∧ s'.ending = s.ending := by
  have hread := readMessage_messages d limit s
  cases hm : s.messages d limit with
  | nil =>
    rw [hm, h] at hread
    cases hending : s.ending <;> simp [hending] at hread
  | cons m rest =>
    rw [hm, h] at hread
    obtain ⟨_, hread, rfl, hending⟩ := hread
    obtain ⟨hmap, rfl⟩ := Prod.mk.inj hread
    cases m with
    | error => cases hmap
    | ok b =>
      cases hmap
      exact ⟨rfl, hending⟩

theorem messages_of_recoverable (h : readMessage d limit s = (.error e, s'))
    (he : e.isRecoverable) :
    s.messages d limit = .error e :: s'.messages d limit ∧ s'.ending = s.ending := by
  have hread := readMessage_messages d limit s
  cases hm : s.messages d limit with
  | nil =>
    rw [hm, h] at hread
    cases hending : s.ending with
    | none => simp [hending] at hread
    | some e' =>
      simp only [hending, Except.error.injEq] at hread
      rw [hread] at he
      cases he
  | cons m rest =>
    rw [hm, h] at hread
    obtain ⟨_, hread, rfl, hending⟩ := hread
    obtain ⟨hmap, rfl⟩ := Prod.mk.inj hread
    cases m with
    | ok => cases hmap
    | error f =>
      cases hmap
      exact ⟨rfl, hending⟩

theorem messages_of_failure (h : readMessage d limit s = (.error e, s')) (he : ¬ e.isRecoverable) :
    s.messages d limit = [] ∧ s.ending = some e.toSystemError := by
  have hread := readMessage_messages d limit s
  cases hm : s.messages d limit with
  | nil =>
    rw [hm, h] at hread
    cases hending : s.ending with
    | none => simp [hending] at hread
    | some e' =>
      simp only [hending, Except.error.injEq] at hread
      rw [hread]
      exact ⟨rfl, rfl⟩
  | cons m rest =>
    rw [hm, h] at hread
    obtain ⟨_, hread, -⟩ := hread
    have hmem : m ∈ s.messages d limit := hm ▸ List.mem_cons_self
    obtain ⟨line, -, rfl⟩ := List.mem_map.mp hmem
    cases hmessage : messageOf d limit line with
    | ok => simp [hmessage, Except.map] at hread
    | error f =>
      rw [hmessage] at hread
      cases (Prod.mk.inj hread).1
      exact absurd (isRecoverable_of_messageOf hmessage) he

end Reading

end CompileWorker.Framing
