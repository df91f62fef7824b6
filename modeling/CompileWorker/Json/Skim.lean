import CompileWorker.Json.Token

namespace CompileWorker.Json

def skimString : List UInt8 → Except Failure (List UInt8)
  | [] => fails .endOfString []
  | b :: rest =>
    if b = 0x22 then .ok rest
    else if b < 0x20 then fails .controlCharacter (b :: rest)
    else if b ≠ 0x5C then skimString rest
    else match rest with
      | [] => fails .endOfString []
      | 0x75 :: h₁ :: h₂ :: h₃ :: h₄ :: rest =>
        if (unit? h₁ h₂ h₃ h₄).isSome then skimString rest else fails .invalidEscape rest
      | letter :: rest =>
        if letter = 0x75 then fails .endOfString []
        else if (shortEscape? letter).isSome then skimString rest
        else fails .invalidEscape rest

inductive Frame
  | list
  | object
  deriving DecidableEq

def skimOpening (bytes : List UInt8) : Except Failure (Option Frame × List UInt8) :=
  match skipBlanks bytes with
  | [] => fails .endOfValue []
  | b :: rest => do
    if b = 0x6E then return (none, ← literal ull rest)
    else if b = 0x74 then return (none, ← literal rue rest)
    else if b = 0x66 then return (none, ← literal alse rest)
    else if b = 0x2D || isDigit b then return (none, (← readNumeral .invalidNumber (b :: rest)).2)
    else if b = 0x22 then return (none, ← skimString rest)
    else if b = 0x5B then return (some .list, rest)
    else if b = 0x7B then return (some .object, rest)
    else fails .expectedValue rest

def skimName (bytes : List UInt8) : Except Failure (List UInt8) := do
  match skipBlanks bytes with
  | [] => fails .endOfObject []
  | b :: rest => if b = 0x22 then readColon (← skimString rest) else fails .nameNotString rest

inductive Onward
  | closed (rest : List UInt8)
  | value (rest : List UInt8)

def skimOnward (frame : Frame) (atStart : Bool) (bytes : List UInt8) : Except Failure Onward := do
  let value (rest : List UInt8) : Except Failure Onward :=
    match frame with
    | .list => .ok (.value rest)
    | .object => return .value (← skimName rest)
  match skipBlanks bytes with
  | [] => fails (if frame = .list then .endOfList else .endOfObject) []
  | b :: rest =>
    if b = 0x2C && !atStart then value rest
    else if b = (if frame = .list then 0x5D else 0x7D) then return .closed rest
    else if atStart then value (b :: rest)
    else fails (if frame = .list then .expectedListSeparator else .expectedObjectSeparator) rest

/-- Skips on inside the given frames, innermost first. Two steps take a byte at least, so twice the
length of the text is fuel enough. -/
def skimFrames : Nat → Bool → List Frame → List UInt8 → Except Failure (List UInt8)
  | _, _, [], bytes => .ok bytes
  | 0, _, _ :: _, _ => fails .endOfValue []
  | fuel + 1, atStart, frame :: frames, bytes => do
    match ← skimOnward frame atStart bytes with
    | .closed rest => skimFrames fuel false frames rest
    | .value rest =>
      match ← skimOpening rest with
      | (none, rest) => skimFrames fuel false (frame :: frames) rest
      | (some inner, rest) => skimFrames fuel true (inner :: frame :: frames) rest

def skim (bytes : List UInt8) : Except Failure (List UInt8) := do
  match ← skimOpening bytes with
  | (none, rest) => return rest
  | (some frame, rest) => skimFrames (2 * rest.length + 2) true [frame] rest

end CompileWorker.Json
