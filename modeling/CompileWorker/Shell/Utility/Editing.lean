import CompileWorker.Shell.Regex
import CompileWorker.Shell.Utility.Basic

namespace CompileWorker.Shell.Utility.Editing

open Act

inductive Replacement
  | text (text : Chars)
  | group (number : Nat)

inductive Address
  | line (number : Nat)
  | last
  | fitting (r : Regex) (isLoose : Bool)
  | every (first step : Nat)

structure Substitution where
  r : Regex
  replacement : List Replacement
  isLoose : Bool := false
  isGlobal : Bool := false
  first : Nat := 1
  isPrinted : Bool := false

inductive Verb
  | substitute (s : Substitution)
  | translate (source target : Chars)
  | print
  | printFirst
  | printNumber
  | delete
  | deleteFirst
  | quit (isSilent : Bool) (status : Nat)
  | next
  | join
  | hold
  | holdMore
  | get
  | getMore
  | swap
  | append (text : Chars)
  | insert (text : Chars)
  | change (text : Chars)
  | label (name : Chars)
  | jump (name : Chars) (isConditional : Bool)
  | start
  | finish

structure Instruction where
  addresses : List Address
  isNegated : Bool
  verb : Verb

/-- What is wrong with a script, and how much of it was left then. -/
abbrev Parser := StateT Chars (Except (Nat × String))

def refuse {α : Type} (problem : String) : Parser α := do throw ((← get).length, problem)

def skipBlanks : Parser Unit := modify (·.dropWhile fun c ↦ c = ' ' || c = '\t')

def take? : Parser (Option Char) := do
  match ← get with
  | [] => return none
  | c :: rest =>
    set rest
    return some c

/-- The text up to a sign that is not hidden by a backslash, and the text behind the sign. -/
def splitAt (sign : Char) : Chars → Option (Chars × Chars)
  | [] => none
  | '\\' :: c :: rest => (splitAt sign rest).map fun (text, rest) ↦
      (if c = sign then c :: text else '\\' :: c :: text, rest)
  | c :: rest =>
    if c = sign then some ([], rest)
    else (splitAt sign rest).map fun (text, rest) ↦ (c :: text, rest)

def upTo (sign : Char) (problem : String) : Parser Chars := do
  match splitAt sign (← get) with
  | some (text, rest) =>
    set rest
    return text
  | none =>
    set ([] : Chars)
    refuse problem

def regex (isExtended : Bool) (text : Chars) : Parser Regex := do
  match Regex.ofText? isExtended text with
  | some r => return r
  | none => refuse "invalid regular expression"

def looseMark : Parser Bool := do
  if (← get).head? = some 'I' then
    modify (·.drop 1)
    return true
  return false

def number : Parser Nat := do
  let digits := (← get).takeWhile Char.isDigit
  modify (·.drop digits.length)
  return Numeral.value 10 digits

def address? (isExtended : Bool) : Parser (Option Address) := do
  match ← get with
  | '$' :: rest =>
    set rest
    return some .last
  | '/' :: rest =>
    set rest
    let r ← regex isExtended (← upTo '/' "unterminated address regex")
    return some (.fitting r (← looseMark))
  | '\\' :: sign :: rest =>
    set rest
    let r ← regex isExtended (← upTo sign "unterminated address regex")
    return some (.fitting r (← looseMark))
  | c :: _ =>
    if !c.isDigit then return none
    let n ← number
    if (← get).head? = some '~' then
      modify (·.drop 1)
      return some (.every n (← number))
    return some (.line n)
  | [] => return none

def replacementOf : Chars → List Replacement
  | [] => []
  | '&' :: rest => .group 0 :: replacementOf rest
  | '\\' :: c :: rest =>
    (if c.isDigit then .group (c.toNat - 48)
      else .text [match c with
        | 'n' => '\n'
        | 't' => '\t'
        | c => c]) :: replacementOf rest
  | c :: rest => .text [c] :: replacementOf rest

def marks (s : Substitution) : Nat → Parser Substitution
  | 0 => return s
  | fuel + 1 => do
    match (← get).head? with
    | some 'g' => modify (·.drop 1) *> marks { s with isGlobal := true } fuel
    | some 'p' => modify (·.drop 1) *> marks { s with isPrinted := true } fuel
    | some 'i' | some 'I' => modify (·.drop 1) *> marks { s with isLoose := true } fuel
    | some c =>
      if c.isDigit then marks { s with first := ← number } fuel
      else if c = ';' ∨ c = '\n' ∨ c = '\x7d' ∨ c = ' ' ∨ c = '#' then return s
      else
        modify (·.drop 1)
        refuse "unknown option to \x60s'"
    | none => return s

def added : Parser Chars := do
  skipBlanks
  match ← get with
  | '\\' :: '\n' :: rest => set rest
  | '\\' :: rest => set (rest.dropWhile fun c ↦ c = ' ' || c = '\t')
  | _ => pure ()
  let text ← get
  let (line, rest) := ends text
  set rest
  return line ++ ['\n']
where
  ends : Chars → Chars × Chars
    | [] => ([], [])
    | '\\' :: c :: rest => let (line, rest) := ends rest; (c :: line, rest)
    | '\n' :: rest => ([], rest)
    | c :: rest => let (line, rest) := ends rest; (c :: line, rest)

def labelName : Parser Chars := do
  skipBlanks
  let name := (← get).takeWhile fun c ↦ c ≠ ';' && c ≠ '\n' && c ≠ '\x7d' && c ≠ ' '
  modify (·.drop name.length)
  return name

def verb (isExtended : Bool) (letter : Char) : Parser Verb := do
  match letter with
  | 's' =>
    match ← take? with
    | none => refuse "unterminated \x60s' command"
    | some sign =>
      let r ← regex isExtended (← upTo sign "unterminated \x60s' command")
      let replacement := replacementOf (← upTo sign "unterminated \x60s' command")
      let n := (← get).length
      return .substitute (← marks { r, replacement } (n + 1))
  | 'y' =>
    match ← take? with
    | none => refuse "unterminated \x60y' command"
    | some sign =>
      let source ← upTo sign "unterminated \x60y' command"
      let target ← upTo sign "unterminated \x60y' command"
      return .translate source target
  | 'p' => return .print
  | 'P' => return .printFirst
  | '=' => return .printNumber
  | 'd' => return .delete
  | 'D' => return .deleteFirst
  | 'q' | 'Q' =>
    skipBlanks
    return .quit (letter = 'Q') (← number)
  | 'n' => return .next
  | 'N' => return .join
  | 'h' => return .hold
  | 'H' => return .holdMore
  | 'g' => return .get
  | 'G' => return .getMore
  | 'x' => return .swap
  | 'a' => return .append (← added)
  | 'i' => return .insert (← added)
  | 'c' => return .change (← added)
  | ':' => return .label (← labelName)
  | 'b' => return .jump (← labelName) false
  | 't' => return .jump (← labelName) true
  | '\x7b' => return .start
  | '\x7d' => return .finish
  | letter => refuse ("unknown command: \x60" ++ letter.toString ++ "'")

def requireEnd (v : Verb) : Parser Unit := do
  match v with
  | .append _ | .insert _ | .change _ | .start | .label _ | .jump .. => pure ()
  | _ =>
    skipBlanks
    match ← get with
    | [] => pure ()
    | c :: rest =>
      if !";\n\x7d#".toList.contains c then
        set rest
        refuse "extra characters after command"

def script (isExtended : Bool) : Nat → Parser (List Instruction)
  | 0 => return []
  | fuel + 1 => do
    modify (·.dropWhile fun c ↦ c = ' ' || c = '\t' || c = '\n' || c = ';')
    if (← get).isEmpty then return []
    if (← get).head? = some '#' then
      modify (·.dropWhile (· ≠ '\n'))
      return ← script isExtended fuel
    let first ← address? isExtended
    skipBlanks
    let second ← if first.isSome && (← get).head? = some ',' then do
        modify (·.drop 1)
        skipBlanks
        match ← address? isExtended with
        | some a => pure (some a)
        | none => refuse "unexpected \x60,'"
      else pure none
    skipBlanks
    let isNegated := (← get).head? = some '!'
    if isNegated then
      modify (·.drop 1)
      skipBlanks
    match ← take? with
    | none => refuse "missing command"
    | some letter =>
      let verb ← verb isExtended letter
      requireEnd verb
      return { addresses := first.toList ++ second.toList, isNegated, verb } ::
        (← script isExtended fuel)

structure Editor where
  program : List Instruction
  isSilent : Bool
  ahead : List Chars
  isStream : Bool
  number : Nat := 0
  space : Chars := []
  kept : Chars := []
  ending : Chars := []
  /-- instructions whose lines have begun, with the number of the last line if it is known -/
  begun : List (Nat × Option Nat) := []
  isSubstituted : Bool := false
  later : Chars := []

inductive Step
  | on
  | to (place : Nat)
  | endCycle
  | again
  | stop (status : Nat) (isSilent : Bool)

abbrev Edit := StateT Editor Act

def fill : Edit Unit := do
  let e ← get
  if e.ahead.isEmpty && e.isStream then
    match ← readLine 0 with
    | none | some [] => set { e with isStream := false }
    | some line => set { e with ahead := [line] }

def isLast : Edit Bool := do
  fill
  return (← get).ahead.isEmpty

def takeLine : Edit (Option Chars) := do
  fill
  let e ← get
  match e.ahead with
  | [] => return none
  | line :: ahead =>
    let (text, ending) := splitEnd line
    set { e with ahead, ending, number := e.number + 1 }
    return some text

def write (text : Chars) : Edit Unit := put text

def flush : Edit Unit := do
  write (← get).later
  modify fun e ↦ { e with later := [] }

def show' (text : Chars) : Edit Unit := do write (text ++ (← get).ending)

def holds (a : Address) : Edit Bool := do
  let e ← get
  match a with
  | .line n => return e.number = n
  | .last => isLast
  | .fitting r isLoose => return (r.find isLoose none e.space).isSome
  | .every first step =>
    return if step = 0 then e.number = first else first ≤ e.number && (e.number - first) % step = 0

def applies (index : Nat) (i : Instruction) : Edit Bool := do
  let found ← match i.addresses with
    | [] => pure true
    | [a] => holds a
    | a :: b :: _ =>
      let e ← get
      match e.begun.lookup index with
      | some known =>
        let others := e.begun.filter (·.1 ≠ index)
        let isOver ← match known with
          | some n => pure (decide (n ≤ e.number))
          | none => holds b
        if isOver then set { e with begun := others }
        match known with
        | some n => if n < e.number then holds a else pure true
        | none => pure true
      | none =>
        if ← holds a then
          let e ← get
          match b with
          | .line n => if e.number < n then set { e with begun := (index, some n) :: e.begun }
          | .last => if !(← isLast) then modify fun e ↦ { e with begun := (index, none) :: e.begun }
          | _ => set { e with begun := (index, none) :: e.begun }
          pure true
        else pure false
  return found != i.isNegated

/-- A text with matches replaced: the first one counted is `count`, and where nothing was skipped
since the last one, `isFresh` is false. -/
def replace (s : Substitution) : Nat → Nat → Bool → Option Char → Chars → Chars × Bool
  | 0, _, _, _, text => (text, false)
  | fuel + 1, count, isFresh, before, text =>
    match s.r.find s.isLoose before text with
    | none => (text, false)
    | some (skipped, m) =>
      let rest := text.drop skipped.length
      let found := rest.take (rest.length - m.rest.length)
      if found.isEmpty && skipped.isEmpty && !isFresh then
        match text with
        | [] => ([], false)
        | c :: rest =>
          let (text, isDone) := replace s fuel count true (some c) rest
          (c :: text, isDone)
      else
        let isCounted := s.first ≤ count
        let given := if isCounted then
            s.replacement.flatMap fun
              | .text text => text
              | .group 0 => found
              | .group n => (m.groups.lookup n).getD []
          else found
        if isCounted && !s.isGlobal then (skipped ++ given ++ m.rest, true)
        else
          let (others, isDone) :=
            replace s fuel (count + 1) false ((skipped ++ found).getLast? <|> before) m.rest
          (skipped ++ given ++ others, isCounted || isDone)

/-- The place behind the end of the block that begins before a place. -/
def blockEnd : List Instruction → Nat → Nat → Nat
  | [], place, _ => place
  | i :: rest, place, depth =>
    match i.verb with
    | .start => blockEnd rest (place + 1) (depth + 1)
    | .finish => if depth = 0 then place + 1 else blockEnd rest (place + 1) (depth - 1)
    | _ => blockEnd rest (place + 1) depth

def placeOf (program : List Instruction) (name : Chars) : Option Nat :=
  program.findIdx? fun i ↦
    match i.verb with
    | .label label => label = name
    | _ => false

def firstLine (text : Chars) : Chars := text.takeWhile (· ≠ '\n')

def perform (i : Instruction) : Edit Step := do
  let e ← get
  match i.verb with
  | .substitute s =>
    let (space, isDone) := replace s (2 * e.space.length + 4) 1 true none e.space
    if isDone then
      set { e with space, isSubstituted := true }
      if s.isPrinted then show' space
    return .on
  | .translate source target =>
    set { e with space := e.space.map fun c ↦ ((source.zip target).lookup c).getD c }
    return .on
  | .print => show' e.space *> pure .on
  | .printFirst => write (firstLine e.space ++ ['\n']) *> pure .on
  | .printNumber => write (numeral e.number ++ ['\n']) *> pure .on
  | .delete => return .endCycle
  | .deleteFirst =>
    if e.space.contains '\n' then
      set { e with space := e.space.drop ((firstLine e.space).length + 1) }
      return .again
    return .endCycle
  | .quit isSilent status => return .stop status isSilent
  | .next =>
    if !e.isSilent then show' e.space
    flush
    match ← takeLine with
    | some space =>
      modify fun e ↦ { e with space }
      return .on
    | none => return .stop 0 true
  | .join =>
    match ← takeLine with
    | some line =>
      flush
      modify fun e ↦ { e with space := e.space ++ '\n' :: line }
      return .on
    | none => return .stop 0 false
  | .hold => set { e with kept := e.space } *> pure .on
  | .holdMore => set { e with kept := e.kept ++ '\n' :: e.space } *> pure .on
  | .get => set { e with space := e.kept } *> pure .on
  | .getMore => set { e with space := e.space ++ '\n' :: e.kept } *> pure .on
  | .swap => set { e with space := e.kept, kept := e.space } *> pure .on
  | .append text => set { e with later := e.later ++ text } *> pure .on
  | .insert text => write text *> pure .on
  | .change text => write text *> pure .endCycle
  | .jump name isConditional =>
    if isConditional && !e.isSubstituted then return .on
    set { e with isSubstituted := if isConditional then false else e.isSubstituted }
    return .to ((placeOf e.program name).getD e.program.length)
  | .label _ | .start | .finish => return .on

def cycle : Nat → Nat → Edit Step
  | 0, _ => return .stop 1 true
  | fuel + 1, place => do
    let e ← get
    match e.program[place]? with
    | none => return .on
    | some i =>
      let found ← applies place i
      match i.verb with
      | .start =>
        cycle fuel
          (if found then place + 1 else blockEnd (e.program.drop (place + 1)) (place + 1) 0)
      | _ =>
        if !found then cycle fuel (place + 1)
        else
          match ← perform i with
          | .on => cycle fuel (place + 1)
          | .to place => cycle fuel place
          | step => return step

def run (isNew : Bool) : Nat → Edit Nat
  | 0 => return 1
  | fuel + 1 => do
    if isNew then
      match ← takeLine with
      | none => return 0
      | some space => modify fun e ↦ { e with space, isSubstituted := false }
    match ← cycle patience 0 with
    | .endCycle =>
      flush
      run true fuel
    | .again =>
      flush
      run false fuel
    | .stop status isSilent =>
      let e ← get
      if !isSilent && !e.isSilent then show' e.space
      flush
      return status
    | .on | .to _ =>
      let e ← get
      if !e.isSilent then show' e.space
      flush
      run true fuel

end Editing

open Act Editing in
def sed (words : List Chars) : Act Unit :=
  withOptions "sed" "nErsuzi" "ef" words fun o ↦ do
    let scripts := o.given.filter (·.1 = 'e') |>.map (·.2)
    let (text, paths) := if scripts.isEmpty then (o.operands.head?.getD [], o.operands.drop 1)
      else (List.intercalate ['\n'] scripts, o.operands)
    match (script (o.has 'E' || o.has 'r') (text.length + 1)).run text with
    | .error (left, problem) =>
      complain "sed" ("-e expression #1, char " ++ toString (text.length - left) ++ ": " ++ problem)
      answer 1
    | .ok (program, _) =>
      let edit (ahead : List Chars) : Act Nat := do
        let e : Editor := { program, isSilent := o.has 'n', ahead, isStream := paths.isEmpty }
        return (← (Editing.run true patience).run e).1
      let mut status := 0
      let mut ahead : List Chars := []
      for path in paths do
        match ← openFor path fun e ↦
          complain "sed" ("can't read " ++ toText path ++ ": " ++ describe e) with
        | some channel =>
          let lines ← withInput channel (readAll 0)
          if o.has 'i' then
            match ← openPath .write path with
            | .ok target =>
              let old ← channel? 1
              redirect 1 (some target)
              status := max status (← edit lines)
              redirect 1 old
            | .error e => blame "sed" path e
          else ahead := ahead ++ lines
        | none => status := 2
      if !o.has 'i' then
        let n ← edit ahead
        status := if n = 0 then status else n
      answer status

end CompileWorker.Shell.Utility
