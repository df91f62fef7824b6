import CompileWorker.Shell.Pattern
import CompileWorker.Shell.State
import CompileWorker.Shell.Arithmetic

namespace CompileWorker.Shell

inductive Piece
  | fixed (text : Chars)
  | plain (text : Chars)
  /-- is cut at separators, and its fields may be patterns -/
  | loose (text : Chars)
  | cut
  deriving DecidableEq, Repr

namespace Piece

def text : Piece → Chars
  | fixed text | plain text | loose text => text
  | cut => [' ']

def marks : Piece → List CharSet.Mark
  | fixed text => text.map (·, true)
  | piece => piece.text.map (·, false)

structure Cutting where
  field : Option (List CharSet.Mark) := none
  /-- a blank has just ended a field, so that a separator may follow that ends no other -/
  isAfterBlank : Bool := false
  fields : List (List CharSet.Mark) := []

namespace Cutting

def finish (c : Cutting) : Cutting :=
  match c.field with
  | some field => { fields := field.reverse :: c.fields }
  | none => { fields := c.fields }

def append (text : List CharSet.Mark) (c : Cutting) : Cutting :=
  { c with field := some (text.reverse ++ c.field.getD []), isAfterBlank := false }

/-- Takes a character of a text that is cut. Blanks among the separators count together, any other
alone. -/
def take (separators : Chars) (char : Char) (c : Cutting) : Cutting :=
  if !separators.contains char then c.append [(char, false)]
  else if char = ' ' ∨ char = '\t' ∨ char = '\n' then
    if c.field.isSome then { c.finish with isAfterBlank := true } else c
  else if c.field.isSome then c.finish
  else if c.isAfterBlank then { c with isAfterBlank := false }
  else { c with fields := [] :: c.fields }

def add (separators : Chars) (c : Cutting) : Piece → Cutting
  | fixed text => c.append (text.map (·, true))
  | plain text => c.append (text.map (·, false))
  | loose text => text.foldl (fun c char ↦ c.take separators char) c
  | cut => c.finish

end Cutting

def fields (separators : Chars) (pieces : List Piece) : List (List CharSet.Mark) :=
  (pieces.foldl (Cutting.add separators) {}).finish.fields.reverse

end Piece

/-- Whether a part of a path has to be looked for. -/
def isSought (part : List CharSet.Mark) : Bool :=
  part.any fun (c, isHidden) ↦ !isHidden && (c = '*' || c = '?' || c = '[')

/-- The names in a directory that fit a part of a path. One that begins with a point has to be asked
for. -/
def namesThatFit (fs : Files) (directory : List String) (part : List CharSet.Mark) : List String :=
  let p := Pattern.ofMarks part
  let names := if directory = ["/"] then [] else fs.namesIn directory
  names.filter fun name ↦ p.fits (ofText name) &&
    (!name.startsWith "." || p.head? = some (.exactly '.'))

/-- Goes on from directories, with the paths that lead to them, along the parts of a path. -/
def seek (fs : Files) : List (Chars × List String) → List (List CharSet.Mark) → List Chars
  | found, [] => found.map (·.1)
  | found, part :: parts =>
    let ending (path : Chars) : Chars := if parts.isEmpty then path else path ++ ['/']
    let next := found.flatMap fun (path, directory) ↦
      if part.isEmpty then [(ending path, directory)]
      else if isSought part then
        (namesThatFit fs directory part).filterMap fun name ↦
          let names := directory ++ [name]
          if parts.isEmpty || fs.node? names = some .directory then
            some (ending (path ++ ofText name), names)
          else none
      else
        let name := part.map (·.1)
        match fs.walk directory [toText name] with
        | .ok names => [(ending (path ++ name), names)]
        | .error _ => []
    seek fs next parts

def pathsOf (fs : Files) (directory : List String) (field : List CharSet.Mark) : List Chars :=
  let text := field.map (·.1)
  if !isSought field then [text]
  else
    let parts := (field.splitOnP (·.1 = '/'))
    let lead := ofText (workingPath ++ "/")
    let found :=
      if lead.isPrefixOf text then seek fs [(lead, [])] (parts.drop 2)
      else if text.head? = some '/' then seek fs [(['/'], ["/"])] (parts.drop 1)
      else seek fs [([], directory)] parts
    if found.isEmpty then [text] else found

namespace Act

def isAll (name : Chars) : Bool := name = ['@'] || name = ['*']

def numeral (n : Nat) : Chars := (toString n).toList

def processNumber : Nat := 4242

def parameter? (name : Chars) : Act (Option Chars) := do
  let s ← get
  match name with
  | ['#'] => return some (numeral s.arguments.length)
  | ['?'] => return some (numeral s.status)
  | ['$'] => return some (numeral processNumber)
  | ['!'] => return none
  | ['-'] => return some s.options
  | ['0'] => return some s.name
  | _ =>
    if name.all Char.isDigit then return s.arguments[Numeral.value 10 name - 1]?
    value? name

/-- The text between arguments that are joined: the first of the separators. -/
def joint : Act Chars := do return (← separators).take 1

structure Parameter where
  pieces : List Piece
  isSet : Bool
  isEmpty : Bool

def parameter (isQuoted splits : Bool) (name : Chars) : Act Parameter := do
  let piece := if isQuoted then Piece.fixed else Piece.loose
  if isAll name then
    let arguments := (← get).arguments
    let isJoined := !splits || (name = ['*'] && isQuoted)
    let joint ← joint
    let pieces := if isJoined then [piece (List.intercalate joint arguments)]
      else (arguments.map fun a ↦ [piece a]).intersperse [.cut] |>.flatten
    return { pieces, isSet := !arguments.isEmpty, isEmpty := arguments.all List.isEmpty }
  match ← parameter? name with
  | some value => return { pieces := [piece value], isSet := true, isEmpty := value.isEmpty }
  | none =>
    return { pieces := if isQuoted then [.fixed []] else [], isSet := false, isEmpty := true }

def requireSet (name : Chars) (isSet : Bool) : Act Unit := do
  if !isSet && !isAll name && (← hasOption 'u') then fail (name ++ ofText ": parameter not set")

def capture (command : Act Unit) : Act Chars := do
  let s ← get
  let streams := (1, Channel.port (.pipe s.next)) :: s.streams.filter (·.1 ≠ 1)
  let inner := { s with streams, next := s.next + 1, isTested := false }
  let ((_, after), text) ← perform ((command.run.run inner).collect s.next [])
  set { s with answered := some after.status }
  return ((text.filter (· ≠ '\x00')).reverse.dropWhile (· = '\n')).reverse

def evaluate (text : Chars) : Expression → Act Int
  | .number n => return n
  | .variable name => do
    match ← value? name with
    | none => do
      requireSet name false
      return 0
    | some value => numberOf value
  | .unary op e => do return op.apply (← evaluate text e)
  | .binary .both a b => do
    if (← evaluate text a) = 0 then return 0
    else return ArithmeticOperator.ofBool ((← evaluate text b) ≠ 0)
  | .binary .either a b => do
    if (← evaluate text a) ≠ 0 then return 1
    else return ArithmeticOperator.ofBool ((← evaluate text b) ≠ 0)
  | .binary op a b => do combine op (← evaluate text a) (← evaluate text b)
  | .choice condition yes no => do
    if (← evaluate text condition) ≠ 0 then evaluate text yes else evaluate text no
  | .assign name none e => do store name (← evaluate text e)
  | .assign name (some op) e => do
    let old ← match ← value? name with
      | some value => numberOf value
      | none => pure 0
    store name (← combine op old (← evaluate text e))
where
  numberOf (value : Chars) : Act Int := do
    if value.isEmpty then return 0
    match Numeral.readSigned value with
    | some (n, rest) => if rest.all Char.isWhitespace then return n
    | none => if value.all Char.isWhitespace then return 0
    fail (ofText "Illegal number: " ++ value)
  combine (op : ArithmeticOperator) (a b : Int) : Act Int := do
    match op.apply a b with
    | .ok n => return n
    | .error e => refuse e
  refuse {α : Type} (e : ArithmeticError) : Act α :=
    fail (ofText ("arithmetic expression: " ++ e.message ++ ": \"") ++ text ++ ['"'])
  store (name : Chars) (n : Int) : Act Int := do
    assign name (toString n).toList
    return n

/-- Whether a tilde with this behind it, in a part of a word, stands for the home directory. -/
def endsTilde (ends : Chars) (isLast : Bool) (rest : Chars) : Bool :=
  match rest with
  | [] => isLast
  | c :: _ => c = '/' || ends.contains c

def home? (isAlone : Bool) : Part → Act (Option (List Piece))
  | .text false ('~' :: rest) => do
    if endsTilde [] isAlone rest then
      return (← value? (ofText "HOME")).map fun home ↦ [.fixed home, .plain rest]
    else return none
  | _ => return none

def arithmetic (text : Chars) : Act Chars := do
  match Expression.ofText text with
  | .error e => evaluate.refuse text e
  | .ok e => return (toString (← evaluate text e)).toList

end Act

namespace Expansion

variable (run : Command → Act Unit)

def patternOf (pieces : List Piece) : Pattern := Pattern.ofMarks (pieces.flatMap Piece.marks)

def textOf (pieces : List Piece) : Chars := pieces.flatMap Piece.text

def trimmed (atEnd isLongest : Bool) (p : Pattern) : Piece → Piece
  | .fixed text => .fixed (p.trim atEnd isLongest text)
  | .plain text => .plain (p.trim atEnd isLongest text)
  | .loose text => .loose (p.trim atEnd isLongest text)
  | .cut => .cut

mutual

/-- What a word stands for. Values are cut into fields where `splits`, and there what stands in
place of a value is cut as well, where `isLoose`. -/
def word (splits isLoose : Bool) : List Part → Act (List Piece)
  | [] => return []
  | first :: others => do
    match ← Act.home? others.isEmpty first with
    | some pieces => return pieces ++ (← parts splits isLoose others)
    | none => return (← part splits isLoose first) ++ (← parts splits isLoose others)

def parts (splits isLoose : Bool) : List Part → Act (List Piece)
  | [] => return []
  | first :: others => do return (← part splits isLoose first) ++ (← parts splits isLoose others)

def part (splits isLoose : Bool) : Part → Act (List Piece)
  | .text true text => return [.fixed text]
  | .text false text => return [if isLoose then .loose text else .plain text]
  | .output isQuoted command => do
    let text ← Act.capture (run (.subshell command))
    return [if isQuoted then .fixed text else .loose text]
  | .arithmetic isQuoted expression => do
    let text ← Act.arithmetic (textOf (← parts false false expression))
    return [if isQuoted then .fixed text else .loose text]
  | .parameter isQuoted name .value => do
    let p ← Act.parameter isQuoted splits name
    Act.requireSet name p.isSet
    return p.pieces
  | .parameter isQuoted name .length => do
    let text ← if Act.isAll name then do
        let joined := List.intercalate (← Act.joint) (← get).arguments
        pure (some (Act.numeral joined.length))
      else do
        let value ← Act.parameter? name
        Act.requireSet name value.isSome
        pure (some (Act.numeral (value.getD []).length))
    return [if isQuoted then .fixed (text.getD []) else .loose (text.getD [])]
  | .parameter _ _ .unknown => Act.fail (ofText "Bad substitution")
  | .parameter isQuoted name (.trim atEnd isLongest pattern) => do
    let p ← Act.parameter isQuoted splits name
    Act.requireSet name p.isSet
    let pattern := patternOf (← word false false pattern)
    return p.pieces.map (trimmed atEnd isLongest pattern)
  | .parameter isQuoted name (.fallback kind orEmpty substitute) => do
    let p ← Act.parameter isQuoted splits name
    let isThere := p.isSet && !(orEmpty && p.isEmpty)
    let empty := if isQuoted then [Piece.fixed []] else []
    match kind with
    | .substitute =>
      if isThere then return p.pieces
      return empty ++ (← word splits (splits && !isQuoted) substitute)
    | .replace =>
      if !isThere then return empty
      return empty ++ (← word splits (splits && !isQuoted) substitute)
    | .assign =>
      if isThere then return p.pieces
      let text := textOf (← word false false substitute)
      Act.assign name text
      return [if isQuoted then .fixed text else .loose text]
    | .refuse =>
      if isThere then return p.pieces
      let text := textOf (← word false false substitute)
      let cause := if orEmpty then "parameter not set or null" else "parameter not set"
      let message := if substitute.isEmpty then ofText cause else text
      Act.fail (name ++ ofText ": " ++ message)

end

def text (w : Word) : Act Chars := do return textOf (← word run false false w)

/-- A text with the home directory in place of the tildes at its beginning and behind its colons. -/
def withHomes (home : Chars) (isLast : Bool) : Bool → Chars → Chars
  | _, [] => []
  | isStart, c :: rest =>
    if isStart && c = '~' && Act.endsTilde [':'] isLast rest then
      home ++ withHomes home isLast false rest
    else c :: withHomes home isLast (c = ':') rest

def value (w : Word) : Act Chars := do
  let place (home : Chars) (p : Part × Nat) : Part :=
    match p with
    | (.text false text, i) => .text false (withHomes home (i = w.length) (i = 1) text)
    | (p, _) => p
  match ← Act.value? (ofText "HOME") with
  | some home => text run ((w.zipIdx 1).map (place home))
  | none => text run w

def pattern (w : Word) : Act Pattern := do return patternOf (← word run false false w)

def fields (w : Word) : Act (List Chars) := do
  let found := Piece.fields (← Act.separators) (← word run true false w)
  if !found.any isSought || (← Act.hasOption 'f') then return found.map fun field ↦ field.map (·.1)
  let fs ← Act.look
  let directory := (← get).directory
  return found.flatMap (pathsOf fs directory)

end Expansion

end CompileWorker.Shell
