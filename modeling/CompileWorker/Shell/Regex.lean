import CompileWorker.Shell.CharSet
import CompileWorker.Shell.Arithmetic

namespace CompileWorker.Shell

inductive Regex
  | nothing
  | one (characters : CharSet)
  | sequence (first second : Regex)
  | either (first second : Regex)
  | iterated (r : Regex) (least : Nat) (most : Option Nat)
  | group (number : Nat) (r : Regex)
  | same (number : Nat)
  | atStart
  | atEnd
  | atBoundary
  deriving Repr

namespace Regex

/-- What groups took; of equal numbers the first counts. -/
abbrev Groups := List (Nat × Chars)

structure Match where
  rest : Chars
  groups : Groups

structure Place where
  before : Option Char
  rest : Chars

abbrev Matcher := Place → Groups → (Place → Groups → Option Match) → Option Match

def isWordCharacter (c : Char) : Bool := c.isAlphanum || c = '_'

/-- Of two matches from one place the longer one, or else the first. -/
def longer : Option Match → Option Match → Option Match
  | some a, some b => some (if b.rest.length < a.rest.length then b else a)
  | some a, none => some a
  | none, b => b

def repeatedly (m : Matcher) (least : Nat) (most : Option Nat) : Nat → Nat → Matcher
  | 0, _, p, groups, next => next p groups
  | fuel + 1, count, p, groups, next =>
    let stop : Option Match := if least ≤ count then next p groups else none
    if most.all (count < ·) then
      (m p groups fun p' groups' ↦
        if p'.rest.length = p.rest.length && least ≤ count then none
        else repeatedly m least most fuel (count + 1) p' groups' next) <|> stop
    else stop

def takeText (text : Chars) (isLoose : Bool) (p : Place) : Option Place :=
  let n := text.length
  let taken := p.rest.take n
  if taken = text || (isLoose && taken.map Char.toLower = text.map Char.toLower) then
    some ⟨(taken.getLast?) <|> p.before, p.rest.drop n⟩
  else none

/-- How an expression takes a text, letters of both cases being the same if `isLoose`. -/
def matcher (isLoose : Bool) : Regex → Matcher
  | nothing, p, groups, next => next p groups
  | one characters, p, groups, next =>
    match p.rest with
    | [] => none
    | c :: rest =>
      if characters.contains c ||
        (isLoose && (characters.contains c.toLower || characters.contains c.toUpper)) then
        next ⟨some c, rest⟩ groups
      else none
  | sequence first second, p, groups, next =>
    first.matcher isLoose p groups fun p groups ↦ second.matcher isLoose p groups next
  | either first second, p, groups, next =>
    longer (first.matcher isLoose p groups next) (second.matcher isLoose p groups next)
  | iterated r least most, p, groups, next =>
    repeatedly (r.matcher isLoose) least most (p.rest.length + least + 1) 0 p groups next
  | group number r, p, groups, next =>
    r.matcher isLoose p groups fun p' groups ↦
      next p' ((number, p.rest.take (p.rest.length - p'.rest.length)) :: groups)
  | same number, p, groups, next =>
    match groups.lookup number with
    | none => none
    | some text =>
      match takeText text isLoose p with
      | some p => next p groups
      | none => none
  | atStart, p, groups, next => if p.before.isNone then next p groups else none
  | atEnd, p, groups, next => if p.rest.isEmpty then next p groups else none
  | atBoundary, p, groups, next =>
    if p.before.any isWordCharacter != p.rest.head?.any isWordCharacter then next p groups else none

def matchAt (r : Regex) (isLoose : Bool) (p : Place) : Option Match :=
  r.matcher isLoose p [] fun p groups ↦ some ⟨p.rest, groups⟩

def find (r : Regex) (isLoose : Bool) (before : Option Char) (text : Chars) :
    Option (Chars × Match) :=
  match r.matchAt isLoose ⟨before, text⟩ with
  | some found => some ([], found)
  | none =>
    match text with
    | [] => none
    | c :: rest => (r.find isLoose (some c) rest).map fun (skipped, found) ↦ (c :: skipped, found)

structure Reading where
  text : Chars
  groups : Nat := 0

abbrev Parser := StateT Reading Option

def anyCharacter : Regex := one { isNegated := true, ranges := [] }

def exactly (c : Char) : Regex := one { ranges := [(c, c)] }

def sees (isExtended : Bool) (sign : Char) : Parser Bool := do
  let s ← get
  match isExtended, s.text with
  | true, c :: rest | false, '\\' :: c :: rest =>
    if c = sign then
      set { s with text := rest }
      return true
    return false
  | _, _ => return false

def number : Parser (Option Nat) := do
  let s ← get
  let digits := s.text.takeWhile Char.isDigit
  set { s with text := s.text.drop digits.length }
  return if digits.isEmpty then none else some (Numeral.value 10 digits)

/-- Reads how often what stands before may be repeated, up to the closing brace. -/
def bounds (isExtended : Bool) : Parser (Nat × Option Nat) := do
  let least ← number
  let s ← get
  let most ← if s.text.head? = some ',' then do
      set { s with text := s.text.drop 1 }
      number
    else pure least
  if !(← sees isExtended '\x7d') then failure
  return (least.getD 0, most)

def repetitions (isExtended : Bool) : Nat → Regex → Parser Regex
  | 0, r => return r
  | fuel + 1, r => do
    let s ← get
    if s.text.head? = some '*' then
      set { s with text := s.text.drop 1 }
      repetitions isExtended fuel (.iterated r 0 none)
    else if ← sees isExtended '+' then repetitions isExtended fuel (.iterated r 1 none)
    else if ← sees isExtended '?' then repetitions isExtended fuel (.iterated r 0 (some 1))
    else if ← sees isExtended '\x7b' then
      let (least, most) ← bounds isExtended
      repetitions isExtended fuel (.iterated r least most)
    else return r

def escaped (c : Char) : Regex :=
  match c with
  | 'n' => exactly '\n'
  | 't' => exactly '\t'
  | 'w' => one { ranges := ('_', '_') :: CharSet.digits ++ CharSet.letters }
  | 'W' => one { isNegated := true, ranges := ('_', '_') :: CharSet.digits ++ CharSet.letters }
  | 's' => one { ranges := [('\t', '\r'), (' ', ' ')] }
  | 'S' => one { isNegated := true, ranges := [('\t', '\r'), (' ', ' ')] }
  | 'b' | '<' | '>' => atBoundary
  | c => if c.isDigit ∧ c ≠ '0' then same (c.toNat - 48) else exactly c

mutual

def alternatives (isExtended : Bool) : Nat → Parser Regex
  | 0 => failure
  | fuel + 1 => do
    let first ← items isExtended true fuel
    if ← sees isExtended '|' then return .either first (← alternatives isExtended fuel)
    return first

def items (isExtended isFirst : Bool) : Nat → Parser Regex
  | 0 => failure
  | fuel + 1 => do
    let s ← get
    let isOver := match isExtended, s.text with
      | _, [] => true
      | true, c :: _ => c = '|' || (c = ')' && 0 < s.groups)
      | false, '\\' :: c :: _ => c = '|' || c = ')'
      | false, _ => false
    if isOver then return .nothing
    let r ← item isExtended isFirst fuel
    let r ← match r with
      | .atStart => if isExtended then repetitions isExtended fuel r else pure r
      | r => repetitions isExtended fuel r
    return .sequence r
      (← items isExtended (!isExtended && match r with | .atStart => true | _ => false) fuel)

def item (isExtended isFirst : Bool) : Nat → Parser Regex
  | 0 => failure
  | fuel + 1 => do
    if ← sees isExtended '(' then
      let s ← get
      let n := s.groups + 1
      set { s with groups := n }
      let r ← alternatives isExtended fuel
      if !(← sees isExtended ')') then failure
      return .group n r
    let s ← get
    match s.text with
    | [] => failure
    | c :: rest =>
      set { s with text := rest }
      match c with
      | '.' => return anyCharacter
      | '^' => return if isExtended || isFirst then .atStart else exactly '^'
      | '$' =>
        let isLast := isExtended || match rest with
          | [] => true
          | '\\' :: c :: _ => c = ')' || c = '|'
          | _ => false
        return if isLast then .atEnd else exactly '$'
      | '[' =>
        match CharSet.read '^' (rest.map fun c ↦ (c, false)) with
        | none => failure
        | some (characters, left) =>
          set { s with text := left.map Prod.fst }
          return .one characters
      | '\\' =>
        match rest with
        | [] => failure
        | c :: rest =>
          set { s with text := rest }
          return escaped c
      | c => return exactly c

end

def ofText? (isExtended : Bool) (text : Chars) : Option Regex := do
  let (r, s) ← (alternatives isExtended (8 * text.length + 16)).run { text }
  if s.text.isEmpty then return r else none

def ofLiteral (text : Chars) : Regex := text.foldr (fun c r ↦ .sequence (exactly c) r) .nothing

end Regex

end CompileWorker.Shell
