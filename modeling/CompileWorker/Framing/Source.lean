import CompileWorker.SystemError

namespace CompileWorker.Framing

inductive Piece
  | bytes (content : List UInt8)
  /-- a read that has to be tried again -/
  | interrupted
  deriving DecidableEq, Repr

def Piece.content : Piece → List UInt8
  | .bytes content => content
  | .interrupted => []

/-- What a reader will hand out: some pieces, then the end of the stream or the same error for
ever. -/
structure Source where
  pieces : List Piece
  ending : Option SystemError := none
  deriving Repr

namespace Source

def bytes (s : Source) : List UInt8 := s.pieces.flatMap Piece.content

def ofBytes (content : List UInt8) : Source := { pieces := [.bytes content] }

def blocks (size : Nat) : Nat → List UInt8 → List (List UInt8)
  | 0, _ => []
  | _, [] => []
  | fuel + 1, content => content.take size :: blocks size fuel (content.drop size)

def chunked (size : Nat) (interrupt : Bool) (content : List UInt8) : List Piece :=
  (blocks (max size 1) content.length content).flatMap fun block ↦
    if interrupt then [.interrupted, .bytes block] else [.bytes block]

end Source

/-- A line while it is taken: the bytes kept, in reverse, how many they are without the line feed,
how many bytes were taken, and whether the line outgrew its limit. -/
structure Line where
  reversed : List UInt8 := []
  size : Nat := 0
  taken : Nat := 0
  overlong : Bool := false
  deriving Repr

namespace Line

def content (l : Line) : List UInt8 := l.reversed.reverse

def add (l : Line) (limit : Nat) (part : List UInt8) (feed : Bool) : Line :=
  let taken := l.taken + part.length + feed.toNat
  if l.overlong then { l with taken }
  else if limit < l.size + part.length then { reversed := [], size := 0, taken, overlong := true }
  else
    { reversed := (if feed then [0x0A] else []) ++ part.reverse ++ l.reversed
      size := l.size + part.length
      taken
      overlong := false }

end Line

def takeLine (limit : Nat) (line : Line) : List Piece → Line × Option (List Piece)
  | [] => (line, none)
  | .interrupted :: pieces => takeLine limit line pieces
  | .bytes content :: pieces =>
    match content.dropWhile (· ≠ 0x0A) with
    | [] => takeLine limit (line.add limit content false) pieces
    | _ :: rest =>
      (line.add limit (content.takeWhile (· ≠ 0x0A)) true, some (.bytes rest :: pieces))

/-- Reads one line. A line cut off by an error is lost; one cut off by the end of the stream
counts. -/
def readLine (limit : Nat) (s : Source) : Except SystemError Line × Source :=
  match takeLine limit {} s.pieces with
  | (line, some pieces) => (.ok line, { s with pieces })
  | (line, none) =>
    (match s.ending with
      | none => .ok line
      | some e => .error e,
     { s with pieces := [] })

theorem Line.taken_add (l : Line) (limit : Nat) (part : List UInt8) (feed : Bool) :
    (l.add limit part feed).taken = l.taken + part.length + feed.toNat := by
  unfold Line.add
  split
  · rfl
  · split <;> rfl

theorem takeLine_bytes_length (limit : Nat) (pieces : List Piece) (line line' : Line)
    (rest : Option (List Piece)) (h : takeLine limit line pieces = (line', rest)) :
    line'.taken + ((rest.getD []).flatMap Piece.content).length =
      line.taken + (pieces.flatMap Piece.content).length := by
  induction pieces generalizing line with
  | nil =>
    simp only [takeLine, Prod.mk.injEq] at h
    obtain ⟨rfl, rfl⟩ := h
    simp
  | cons p pieces ih =>
    cases p with
    | interrupted => simpa [Piece.content] using ih line h
    | bytes content =>
      have split := congrArg List.length
        (List.takeWhile_append_dropWhile (p := fun b : UInt8 ↦ decide (b ≠ 0x0A)) (l := content))
      rw [takeLine] at h
      cases hdrop : content.dropWhile (fun b : UInt8 ↦ decide (b ≠ 0x0A)) with
      | nil =>
        simp only [hdrop] at h
        have := ih _ h
        simp only [Line.taken_add, Bool.toNat_false, List.flatMap_cons, Piece.content,
          List.length_append] at this ⊢
        omega
      | cons b rest' =>
        simp only [hdrop, Prod.mk.injEq] at h
        simp only [hdrop, List.length_append, List.length_cons] at split
        obtain ⟨rfl, rfl⟩ := h
        simp only [Line.taken_add, Option.getD_some, List.flatMap_cons, Piece.content,
          List.length_append, Bool.toNat_true]
        omega

theorem bytes_length_readLine (limit : Nat) (s s' : Source) (line : Line)
    (h : readLine limit s = (.ok line, s')) : line.taken + s'.bytes.length = s.bytes.length := by
  unfold readLine at h
  cases htake : takeLine limit {} s.pieces with
  | mk line' rest =>
    have := takeLine_bytes_length limit s.pieces {} line' rest htake
    cases rest with
    | some pieces =>
      simp only [htake, Prod.mk.injEq, Except.ok.injEq] at h
      obtain ⟨rfl, rfl⟩ := h
      simpa [Source.bytes] using this
    | none =>
      cases hend : s.ending with
      | none =>
        simp only [htake, hend, Prod.mk.injEq, Except.ok.injEq] at h
        obtain ⟨rfl, rfl⟩ := h
        simpa [Source.bytes] using this
      | some e => simp [htake, hend] at h

end CompileWorker.Framing
