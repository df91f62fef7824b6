import CompileWorker.Json.Reader

namespace CompileWorker.Json

structure Decoder (α : Type) where
  ofText : Nat → Reader α
  ofTree : Json → Except Cause α

def Decoder.decode {α : Type} (d : Decoder α) (text : List UInt8) : Except TextError α :=
  readAll (d.ofText greatestDepth) text

def Decoder.decodeString {α : Type} (d : Decoder α) (text : String) : Except TextError α :=
  d.decode (Utf8.encode text)

/-- Fails because something else stands there. A scalar has to be readable for that. -/
def mismatch {α : Type} (expected : String) (bytes : List UInt8) : Except Failure α :=
  match bytes with
  | 0x5B :: _ => fails (.wrongType .array expected) bytes
  | 0x7B :: _ => fails (.wrongType .object expected) bytes
  | _ => do
    let (j, rest) ← readScalar bytes
    fails (.wrongType (.of j) expected) rest

def nested {α : Type} (depth : Nat) (rest : List UInt8) (reader : Nat → Reader α) :
    Except Failure (α × List UInt8) :=
  match depth with
  | 0 => fails .tooDeep rest
  | depth + 1 => reader depth rest

namespace Decoder

variable {α β : Type}

def string : Decoder String where
  ofText _ bytes := match skipBlanks bytes with
    | 0x22 :: rest => readString rest
    | bytes => mismatch "a string" bytes
  ofTree
    | .string s => .ok s
    | j => .error (.wrongType (.of j) "a string")

def bool : Decoder Bool where
  ofText _ bytes := match skipBlanks bytes with
    | 0x74 :: rest => do return (true, ← literal rue rest)
    | 0x66 :: rest => do return (false, ← literal alse rest)
    | bytes => mismatch "a boolean" bytes
  ofTree
    | .bool b => .ok b
    | j => .error (.wrongType (.of j) "a boolean")

def within (least greatest : Int) (expected : String) : Number → Except Cause Int
  | .integer n => if least ≤ n ∧ n ≤ greatest then .ok n else .error (.outOfRange n expected)
  | .double x => .error (.wrongType (.number (.double x)) expected)

def integer (least greatest : Int) (expected : String) : Decoder Int where
  ofText _ bytes := match skipBlanks bytes with
    | b :: rest => do
      if b = 0x2D || isDigit b then
        let (n, rest) ← readNumber (b :: rest)
        match within least greatest expected n with
        | .ok n => return (n, rest)
        | .error cause => fails cause rest
      else mismatch expected (b :: rest)
    | [] => mismatch expected []
  ofTree
    | .number n => within least greatest expected n
    | j => .error (.wrongType (.of j) expected)

def map (f : α → β) (d : Decoder α) : Decoder β where
  ofText depth bytes := do
    let (a, rest) ← d.ofText depth bytes
    return (f a, rest)
  ofTree j := (d.ofTree j).map f

def int32 : Decoder Int32 := (integer (-0x80000000) 0x7FFFFFFF "i32").map Int32.ofInt

def uint32 : Decoder UInt32 := (integer 0 0xFFFFFFFF "u32").map fun n ↦ n.toNat.toUInt32

def uint64 (expected : String) : Decoder UInt64 :=
  (integer 0 0xFFFFFFFFFFFFFFFF expected).map fun n ↦ n.toNat.toUInt64

def list (item : Decoder α) : Decoder (List α) where
  ofText depth bytes := match skipBlanks bytes with
    | 0x5B :: rest => nested depth rest fun depth ↦ readList (item.ofText depth)
    | bytes => mismatch "a sequence" bytes
  ofTree
    | .array items => items.mapM item.ofTree
    | j => .error (.wrongType (.of j) "a sequence")

def optional (d : Decoder α) : Decoder (Option α) where
  ofText depth bytes := match skipBlanks bytes with
    | 0x6E :: rest => do return (none, ← literal ull rest)
    | bytes => do
      let (a, rest) ← d.ofText depth bytes
      return (some a, rest)
  ofTree
    | .null => .ok none
    | j => (d.ofTree j).map some

def any : Decoder Json where
  ofText depth bytes := do
    let (j, rest) ← readValue depth bytes
    return (j.canonical, rest)
  ofTree j := .ok j.canonical

end Decoder

inductive Presence
  | required
  | optional
  /-- may be missing among named fields, but not in a record given as a list -/
  | optionalByName
  deriving DecidableEq, Repr

structure Field (α : Type) where
  name : String
  presence : Presence
  ofText : Nat → Reader (α → α)
  ofTree : Json → Except Cause (α → α)

def Field.of {α β : Type} (presence : Presence) (name : String) (d : Decoder β) (set : β → α → α) :
    Field α where
  name := name
  presence := presence
  ofText := (d.map set).ofText
  ofTree := (d.map set).ofTree

/-- A record with named fields. It may also be given as the list of its values, in order. -/
structure Record (α : Type) where
  name : String
  initial : α
  fields : List (Field α)
  isClosed : Bool

namespace Record

variable {α : Type} (r : Record α)

def names : List String := r.fields.map (·.name)

def field? (name : String) : Option (Field α) := r.fields.find? (·.name = name)

def elements (n : Nat) : String := if n = 1 then "1 element" else toString n ++ " elements"

def expectedLength : String := r.name ++ " with " ++ elements r.fields.length

def missing? (seen : List String) : Option String :=
  (r.fields.find? fun f ↦ f.presence = .required && !seen.contains f.name).map (·.name)

def lookup (seen : List String) (name : String) : Except Cause (Option (Field α)) :=
  match r.field? name with
  | some f => if seen.contains name then .error (.duplicateField name) else .ok (some f)
  | none => if r.isClosed then .error (.unknownField name r.names) else .ok none

def readElements (depth : Nat) : List (Field α) → Nat → Bool → α → Reader α
  | [], _, _, a, bytes => return (a, ← closeList bytes)
  | f :: fields, index, isFirst, a, bytes => do
    match ← nextItem isFirst bytes with
    | some bytes =>
      let (set, rest) ← f.ofText depth bytes
      readElements depth fields (index + 1) false (set a) rest
    | none =>
      if f.presence = .optional then readElements depth fields (index + 1) isFirst a bytes
      else fails (.wrongLength index r.expectedLength) (afterBracket bytes)

def readFields (depth : Nat) : Nat → Bool → List String → α → Reader α
  | 0, _, _, _, _ => fails .endOfObject []
  | fuel + 1, isFirst, seen, a, bytes => do
    match ← nextName isFirst bytes with
    | none =>
      match r.missing? seen with
      | some name => fails (.missingField name) (afterBrace bytes)
      | none => return (a, afterBrace bytes)
    | some bytes =>
      let (name, rest) ← readString bytes
      match r.lookup seen name with
      | .error cause => fails cause (afterBrace rest)
      | .ok none => readFields depth fuel false seen a (← skim (← readColon rest))
      | .ok (some f) =>
        let (set, rest) ← f.ofText depth (← readColon rest)
        readFields depth fuel false (name :: seen) (set a) rest

def ofItems : List (Field α) → Nat → α → List Json → Except Cause (α × List Json)
  | [], _, a, items => .ok (a, items)
  | f :: fields, index, a, j :: items => do ofItems fields (index + 1) ((← f.ofTree j) a) items
  | f :: fields, index, a, [] =>
    if f.presence = .optional then ofItems fields (index + 1) a []
    else .error (.wrongLength index r.expectedLength)

def ofMembers : List String → α → List (String × Json) → Except Cause α
  | seen, a, [] =>
    match r.missing? seen with
    | some name => .error (.missingField name)
    | none => .ok a
  | seen, a, (name, j) :: members => do
    match ← r.lookup seen name with
    | none => ofMembers seen a members
    | some f => ofMembers (name :: seen) ((← f.ofTree j) a) members

def decoder : Decoder α where
  ofText depth bytes := match skipBlanks bytes with
    | 0x5B :: rest => nested depth rest fun depth ↦ r.readElements depth r.fields 0 true r.initial
    | 0x7B :: rest => nested depth rest fun depth rest ↦
        r.readFields depth (rest.length + 1) true [] r.initial rest
    | bytes => mismatch r.name bytes
  ofTree
    | .array items => do
      match ← r.ofItems r.fields 0 r.initial items with
      | (a, []) => return a
      | _ => .error (.wrongLength items.length "fewer elements in array")
    | .object members => r.ofMembers [] r.initial members
    | j => .error (.wrongType (.of j) r.name)

end Record

def readName {α : Type} (choices : List (String × α)) : Reader α := fun bytes ↦
  match skipBlanks bytes with
  | 0x22 :: rest => do
    let (name, rest) ← readString rest
    match choices.lookup name with
    | some a => return (a, rest)
    | none => fails (.unknownVariant name (choices.map (·.1))) rest
  | bytes => mismatch "variant identifier" bytes

def ofName {α : Type} (choices : List (String × α)) (name : String) : Except Cause α :=
  match choices.lookup name with
  | some a => .ok a
  | none => .error (.unknownVariant name (choices.map (·.1)))

/-- One of several names, given as a string or as an object with that one member, which is
`null`. -/
def Decoder.oneOf {α : Type} (choices : List (String × α)) : Decoder α where
  ofText depth bytes := match skipBlanks bytes with
    | 0x22 :: rest => readName choices (0x22 :: rest)
    | 0x7B :: rest => nested depth rest fun _ rest ↦ do
      let (a, rest) ← readName choices rest
      let rest ← match skipBlanks (← readColon rest) with
        | 0x6E :: rest => literal ull rest
        | bytes => mismatch "unit" bytes
      match skipBlanks rest with
      | [] => fails .endOfObject []
      | b :: rest => if b = 0x7D then return (a, rest) else fails .expectedValue (b :: rest)
    | [] => fails .endOfValue []
    | _ :: rest => fails .expectedValue rest
  ofTree
    | .string name => ofName choices name
    | .object [(name, .null)] => ofName choices name
    | j => .error (.wrongType (.of j) "string or map")

/-- A type with one record for each value of its tag. The tag stands anywhere among the members, or
first in a list. The other parts are read before any of them is decoded, so failures in them have no
place. -/
structure Tagged (α : Type) where
  name : String
  tag : String
  variants : List (String × Record α)

namespace Tagged

variable {α : Type} (t : Tagged α)

def ofItems (r : Record α) (items : List Json) : Except Cause α := do
  match ← r.ofItems r.fields 0 r.initial items with
  | (a, []) => return a
  | _ => .error (.wrongLength items.length (Record.elements r.fields.length ++ " in sequence"))

/-- Reads the members up to the brace, the tag apart. -/
def readMembers (depth : Nat) :
    Nat → Bool → Option (Record α) → List (String × Json) → Reader (Record α × List (String × Json))
  | 0, _, _, _, _ => fails .endOfObject []
  | fuel + 1, isFirst, found, acc, bytes => do
    match ← nextName isFirst bytes with
    | none =>
      match found with
      | none => fails (.missingField t.tag) (afterBrace bytes)
      | some r => return ((r, acc.reverse), afterBrace bytes)
    | some bytes =>
      let (name, rest) ← readString bytes
      if name = t.tag then
        if found.isSome then fails (.duplicateField t.tag) (afterBrace rest)
        else
          let (r, rest) ← readName t.variants (← readColon rest)
          readMembers depth fuel false (some r) acc rest
      else
        let (j, rest) ← readValue depth (← readColon rest)
        readMembers depth fuel false found ((name, j) :: acc) rest

def unplaced {β : Type} (rest : List UInt8) : Except Cause β → Except Failure (β × List UInt8)
  | .ok b => .ok (b, rest)
  | .error cause => .error ⟨cause, none⟩

def readArray (depth : Nat) : Reader α := fun bytes ↦ do
  match ← nextItem true bytes with
  | none => fails (.missingField t.tag) (afterBracket bytes)
  | some bytes =>
    let (r, rest) ← readName t.variants bytes
    let (items, rest) ← readItems (readValue depth) (rest.length + 1) false [] rest
    unplaced rest (ofItems r items)

def decoder : Decoder α where
  ofText depth bytes := match skipBlanks bytes with
    | 0x5B :: rest => nested depth rest t.readArray
    | 0x7B :: rest => nested depth rest fun depth rest ↦ do
      let ((r, members), rest) ← t.readMembers depth (rest.length + 1) true none [] rest
      unplaced rest (r.ofMembers [] r.initial members)
    | bytes => mismatch ("internally tagged enum " ++ t.name) bytes
  ofTree
    | .array (.string name :: items) => do ofItems (← ofName t.variants name) items
    | .array (j :: _) => .error (.wrongType (.of j) "variant identifier")
    | .array [] => .error (.missingField t.tag)
    | .object members =>
      match members.lookup t.tag with
      | none => .error (.missingField t.tag)
      | some (.string name) => do
        let r ← ofName t.variants name
        r.ofMembers [] r.initial (members.filter (·.1 ≠ t.tag))
      | some j => .error (.wrongType (.of j) "variant identifier")
    | j => .error (.wrongType (.of j) ("internally tagged enum " ++ t.name))

end Tagged

end CompileWorker.Json
