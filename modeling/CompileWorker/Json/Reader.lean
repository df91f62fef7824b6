import CompileWorker.Json.Skim

namespace CompileWorker.Json

def greatestDepth : Nat := 127

/-- Reads the items of a list up to its bracket. Every item takes a byte at least, so the length of
the text bounds how many there are. -/
def readItems {α : Type} (item : Reader α) : Nat → Bool → List α → Reader (List α)
  | 0, _, _, _ => fails .endOfList []
  | fuel + 1, isFirst, acc, bytes => do
    match ← nextItem isFirst bytes with
    | none => return (acc.reverse, ← closeList bytes)
    | some bytes =>
      let (a, rest) ← item bytes
      readItems item fuel false (a :: acc) rest

def readList {α : Type} (item : Reader α) : Reader (List α) := fun bytes ↦
  readItems item (bytes.length + 1) true [] bytes

def readMembers {α : Type} (value : Reader α) :
    Nat → Bool → List (String × α) → Reader (List (String × α))
  | 0, _, _, _ => fails .endOfObject []
  | fuel + 1, isFirst, acc, bytes => do
    match ← nextName isFirst bytes with
    | none => return (acc.reverse, afterBrace bytes)
    | some bytes =>
      let (name, rest) ← readString bytes
      let (a, rest) ← value (← readColon rest)
      readMembers value fuel false ((name, a) :: acc) rest

def readObject {α : Type} (value : Reader α) : Reader (List (String × α)) := fun bytes ↦
  readMembers value (bytes.length + 1) true [] bytes

def readScalar : Reader Json := fun bytes ↦ do
  match bytes with
  | [] => fails .endOfValue []
  | b :: rest =>
    if b = 0x6E then return (.null, ← literal ull rest)
    else if b = 0x74 then return (.bool true, ← literal rue rest)
    else if b = 0x66 then return (.bool false, ← literal alse rest)
    else if b = 0x2D || isDigit b then
      let (n, rest) ← readNumber (b :: rest)
      return (.number n, rest)
    else if b = 0x22 then
      let (s, rest) ← readString rest
      return (.string s, rest)
    else fails .expectedValue rest

def readValue (depth : Nat) : Reader Json := fun bytes ↦
  match skipBlanks bytes with
  | 0x5B :: rest => do
    match depth with
    | 0 => fails .tooDeep rest
    | depth + 1 =>
      let (items, rest) ← readList (readValue depth) rest
      return (.array items, rest)
  | 0x7B :: rest => do
    match depth with
    | 0 => fails .tooDeep rest
    | depth + 1 =>
      let (members, rest) ← readObject (readValue depth) rest
      return (.object members, rest)
  | bytes => readScalar bytes

def readAll {α : Type} (reader : Reader α) (text : List UInt8) : Except TextError α :=
  let result := do
    let (a, rest) ← reader text
    match skipBlanks rest with
    | [] => return a
    | _ :: rest => fails .trailingCharacters rest
  result.mapError (·.inText text)

def parse (text : List UInt8) : Except TextError Json :=
  (readAll (readValue greatestDepth) text).map canonical

end CompileWorker.Json
