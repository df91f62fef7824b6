namespace CompileWorker.Utf8

/-- A place in a byte string where no character stands: how many bytes before it are sound, and how
many bytes the faulty sequence has. A sequence cut short by the end of the text has no length. -/
structure Fault where
  offset : Nat
  length : Option Nat
  deriving DecidableEq, Repr

def encode (s : String) : List UInt8 := s.toList.flatMap String.utf8EncodeChar

def width (lead : UInt8) : Nat :=
  if lead < 0x80 then 1
  else if lead < 0xC2 then 0
  else if lead < 0xE0 then 2
  else if lead < 0xF0 then 3
  else if lead < 0xF5 then 4
  else 0

def continues (b : UInt8) : Bool := 0x80 ≤ b && b < 0xC0

/-- The second byte is narrowed after four leads: no overlong form, no surrogate, nothing past
U+10FFFF. -/
def mayFollow (lead b : UInt8) : Bool :=
  continues b &&
    (if lead = 0xE0 then 0xA0 ≤ b
     else if lead = 0xED then b < 0xA0
     else if lead = 0xF0 then 0x90 ≤ b
     else if lead = 0xF4 then b < 0x90
     else true)

private def low (b : UInt8) : Nat := b.toNat % 64

def pair (a b : UInt8) : Char := Char.ofNat (a.toNat % 32 * 64 + low b)

def triple (a b c : UInt8) : Char := Char.ofNat (a.toNat % 16 * 4096 + low b * 64 + low c)

def quadruple (a b c d : UInt8) : Char :=
  Char.ofNat (a.toNat % 8 * 262144 + low b * 4096 + low c * 64 + low d)

def decodeFrom (offset : Nat) (acc : List Char) : List UInt8 → Except Fault (List Char)
  | [] => .ok acc.reverse
  | a :: bytes =>
    match width a, bytes with
    | 1, rest => decodeFrom (offset + 1) (Char.ofNat a.toNat :: acc) rest
    | 2, b :: rest =>
      if mayFollow a b then decodeFrom (offset + 2) (pair a b :: acc) rest
      else .error ⟨offset, some 1⟩
    | 3, b :: c :: rest =>
      if !mayFollow a b then .error ⟨offset, some 1⟩
      else if !continues c then .error ⟨offset, some 2⟩
      else decodeFrom (offset + 3) (triple a b c :: acc) rest
    | 4, b :: c :: d :: rest =>
      if !mayFollow a b then .error ⟨offset, some 1⟩
      else if !continues c then .error ⟨offset, some 2⟩
      else if !continues d then .error ⟨offset, some 3⟩
      else decodeFrom (offset + 4) (quadruple a b c d :: acc) rest
    | 0, _ => .error ⟨offset, some 1⟩
    | _, [] => .error ⟨offset, none⟩
    | _, [b] => .error ⟨offset, if mayFollow a b then none else some 1⟩
    | _, b :: c :: _ =>
      .error ⟨offset, if !mayFollow a b then some 1 else if continues c then none else some 2⟩

def decode (bytes : List UInt8) : Except Fault String := (decodeFrom 0 [] bytes).map String.ofList

def decode? (bytes : List UInt8) : Option String := (decode bytes).toOption

/-- Reads on with a mark in the place of every fault. Every fault has a byte at least. -/
def repair : Nat → List UInt8 → String
  | 0, _ => ""
  | fuel + 1, bytes =>
    match decode bytes with
    | .ok text => text
    | .error fault =>
      let sound := (decode? (bytes.take fault.offset)).getD ""
      match fault.length with
      | some n => sound ++ "\uFFFD" ++ repair fuel (bytes.drop (fault.offset + n))
      | none => sound ++ "\uFFFD"

/-- The text of some bytes, U+FFFD standing for what is no text. -/
def decodeLossy (bytes : List UInt8) : String := repair (bytes.length + 1) bytes

end CompileWorker.Utf8
