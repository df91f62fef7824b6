import CompileWorker.Shell.Condition
import CompileWorker.Shell.Expansion
import CompileWorker.Shell.Format

namespace CompileWorker.Shell.Builtin

open Act

def print (text : Chars) : Act Unit := do
  if ← write 1 text then answer 0
  else
    complain ((← get).builtin ++ ofText ": I/O error")
    answer 1

def numberOf (text : Chars) : Act Nat := do
  match Numeral.decimal? text with
  | some (.ofNat n) => return n
  | _ => fail (ofText "Illegal number: " ++ text)

def takeLetters (known : String) : List Chars → Act (Chars × List Chars)
  | ['-', '-'] :: rest => return ([], rest)
  | ('-' :: letter :: letters) :: rest => do
    if let some c := (letter :: letters).find? fun c ↦ !known.toList.contains c then
      fail (ofText "Illegal option -" ++ [c])
    let (others, rest) ← takeLetters known rest
    return (letter :: letters ++ others, rest)
  | words => return ([], words)

def ignore (known : String) (words : List Chars) : Act Unit := do
  let _ ← takeLetters known words
  answer 0

def exit (arguments : List Chars) : Act Unit := do
  match arguments with
  | [] => pure ()
  | n :: _ => answer ((← numberOf n) % 256)
  throw .exits

def leaveFunction (arguments : List Chars) : Act Unit := do
  match arguments with
  | [] => pure ()
  | n :: _ => answer (← numberOf n)
  throw .returns

/-- Leaves loops, as many as there are at most. -/
def leaveLoop (leave : Nat → Leave) (arguments : List Chars) : Act Unit := do
  let levels ← match arguments with
    | [] => pure 1
    | n :: _ => numberOf n
  if levels = 0 then fail (ofText "Illegal number: " ++ arguments.flatten)
  let loops := (← get).loops
  answer 0
  if 0 < loops then throw (leave (min levels loops))

def inQuotes (text : Chars) : Chars :=
  ['\''] ++ (text.flatMap fun c ↦ if c = '\'' then "'\"'\"'".toList else [c]) ++ ['\'']

def showVariables (lead : Chars) (isShown : Variable → Bool) : Act Unit := do
  let shown := (← get).bindings.filter (isShown ·.2)
  let sorted := shown.mergeSort fun a b ↦ !decide (b.1 < a.1)
  print (sorted.flatMap fun (name, v) ↦
    lead ++ name ++ ((v.value.map fun value ↦ '=' :: inQuotes value).getD []) ++ ['\n'])

def shift (arguments : List Chars) : Act Unit := do
  let n ← match arguments with
    | [] => pure 1
    | n :: _ => numberOf n
  let s ← get
  if s.arguments.length < n then fail (ofText "can't shift that many")
  set { s with arguments := s.arguments.drop n, status := 0 }

def optionNames : List (String × Char) :=
  [("errexit", 'e'), ("noglob", 'f'), ("ignoreeof", 'I'), ("interactive", 'i'), ("monitor", 'm'),
   ("noexec", 'n'), ("stdin", 's'), ("xtrace", 'x'), ("verbose", 'v'), ("vi", 'V'), ("emacs", 'E'),
   ("noclobber", 'C'), ("allexport", 'a'), ("notify", 'b'), ("nounset", 'u'), ("privileged", 'p')]

def setOption (isOn : Bool) (letter : Char) : Act Unit := do
  if !(optionNames.any (·.2 = letter)) then fail (ofText "Illegal option -" ++ [letter])
  modify fun s ↦
    let others := s.options.filter (· ≠ letter)
    { s with
      options :=
        if isOn then (optionNames.map (·.2)).reverse.filter (letter :: others).contains
        else others }

/-- Sets the options that words ask for; the words that are left, if any was an argument. -/
def setOptions : List Chars → Act (Option (List Chars))
  | [] => return none
  | ['-', '-'] :: rest => return some rest
  | [['-']] => return none
  | ['-'] :: rest => return some rest
  | [sign, 'o'] :: name :: rest =>
    if sign = '-' ∨ sign = '+' then do
      match optionNames.lookup (toText name) with
      | some letter => setOption (sign = '-') letter
      | none => fail (ofText "Illegal option " ++ [sign] ++ ofText "o " ++ name)
      setOptions rest
    else return some ([sign, 'o'] :: name :: rest)
  | (sign :: letters) :: rest =>
    if (sign = '-' ∨ sign = '+') ∧ letters ≠ [] then do
      letters.forM (setOption (sign = '-'))
      setOptions rest
    else return some ((sign :: letters) :: rest)
  | words => return some words

def setArguments (words : List Chars) : Act Unit := do
  if words.isEmpty then return ← showVariables [] fun _ ↦ true
  match ← setOptions words with
  | some arguments => modify fun s ↦ { s with arguments }
  | none => pure ()
  answer 0

def requireName (name : Chars) : Act Unit := do
  if !Reader.isName name then fail (name ++ ofText ": bad variable name")

def readAssignment (word : Chars) : Act (Chars × Option Chars) := do
  let name := word.takeWhile (· ≠ '=')
  requireName name
  let value := word.drop name.length
  return (name, if value.isEmpty then none else some (value.drop 1))

def declare (lead : String) (isMarked : Variable → Bool) (mark : Variable → Variable)
    (words : List Chars) : Act Unit := do
  if (← takeLetters "p" words).2.isEmpty then return ← showVariables (ofText lead) isMarked
  for word in (← takeLetters "p" words).2 do
    let (name, value) ← readAssignment word
    if let some value := value then assign name value
    setVariable name (some (mark ((← lookVariable name).getD { value := none })))
  answer 0

def declareOwn (words : List Chars) : Act Unit := do
  match (← get).hidden with
  | [] => fail (ofText "not in a function")
  | hidden :: others =>
    let mut hidden := hidden
    for word in words do
      let (name, value) ← readAssignment word
      if !(hidden.any (·.1 = name)) then hidden := (name, ← lookVariable name) :: hidden
      if let some value := value then assign name value
    modify fun s ↦ { s with hidden := hidden :: others, status := 0 }

def forget (words : List Chars) : Act Unit := do
  let (letters, words) ← takeLetters "fv" words
  for name in words do
    if letters.getLast? = some 'f' then
      modify fun s ↦ { s with functions := s.functions.filter (·.1 ≠ name) }
    else
      requireName name
      if ((← lookVariable name).map (·.isReadonly)).getD false then
        fail (name ++ ofText ": is read only")
      setVariable name none
  answer 0

/-- Takes the characters of a line off the input, and whether its end was found. A backslash hides
the character behind it, or goes with the line end behind it. -/
def takeMarks (isRaw : Bool) : Nat → Act (List CharSet.Mark × Bool)
  | 0 => return ([], false)
  | fuel + 1 => do
    let line ← readLine 0
    let (marks, isContinued) := hide isRaw ((line.getD []).filter fun c ↦ c ≠ '\n' && c ≠ '\x00')
    if isContinued then
      let (others, isEnded) ← takeMarks isRaw fuel
      return (marks ++ others, isEnded)
    return (marks, (line.getD []).getLast? = some '\n')
where
  hide (isRaw : Bool) : Chars → List CharSet.Mark × Bool
    | [] => ([], false)
    | ['\\'] => if isRaw then ([('\\', false)], false) else ([], true)
    | '\\' :: c :: rest =>
      if isRaw then
        let (marks, isContinued) := hide isRaw (c :: rest)
        (('\\', false) :: marks, isContinued)
      else
        let (marks, isContinued) := hide isRaw rest
        ((c, true) :: marks, isContinued)
    | c :: rest =>
      let (marks, isContinued) := hide isRaw rest
      ((c, false) :: marks, isContinued)

def takeField (separators : Chars) (text : List CharSet.Mark) : Chars × List CharSet.Mark :=
  let isSeparator (m : CharSet.Mark) : Bool := !m.2 && separators.contains m.1
  let isBlank (m : CharSet.Mark) : Bool := isSeparator m && (m.1 = ' ' || m.1 = '\t' || m.1 = '\n')
  let text := text.dropWhile isBlank
  let field := text.takeWhile fun m ↦ !isSeparator m
  let rest := (text.drop field.length).dropWhile isBlank
  (field.map (·.1), (if rest.head?.any isSeparator then rest.drop 1 else rest).dropWhile isBlank)

/-- The values of so many variables. The last one has all that is left, but if that is a single
field. -/
def valuesOf (separators : Chars) : Nat → List CharSet.Mark → List Chars
  | 0, _ => []
  | 1, text =>
    let (field, rest) := takeField separators text
    if rest.isEmpty then [field]
    else
      let isBlank (m : CharSet.Mark) : Bool :=
        !m.2 && separators.contains m.1 && (m.1 = ' ' || m.1 = '\t' || m.1 = '\n')
      [(((text.dropWhile isBlank).reverse.dropWhile isBlank).reverse).map (·.1)]
  | n + 1, text =>
    let (field, rest) := takeField separators text
    field :: valuesOf separators n rest

/-- Takes the options off: whether a backslash means itself, and the arguments that are left. A
prompt is for those who are asked. -/
def readOptions (isRaw : Bool) : Nat → List Chars → Act (Bool × List Chars)
  | 0, words => return (isRaw, words)
  | fuel + 1, words => do
    match words with
    | ['-', '-'] :: rest => return (isRaw, rest)
    | ['-', 'p'] :: _ :: rest => readOptions isRaw fuel rest
    | [['-', 'p']] => fail (ofText "No arg for -p option")
    | ('-' :: 'p' :: _) :: rest => readOptions isRaw fuel rest
    | ('-' :: 'r' :: letters) :: rest =>
      readOptions true fuel (if letters.isEmpty then rest else ('-' :: letters) :: rest)
    | ('-' :: letter :: _) :: _ => fail (ofText "Illegal option -" ++ [letter])
    | words => return (isRaw, words)

def read (words : List Chars) : Act Unit := do
  let (isRaw, names) ← readOptions false patience words
  if names.isEmpty then fail (ofText "arg count")
  let (marks, isEnded) ← takeMarks isRaw patience
  for (name, value) in names.zip (valuesOf (← separators) names.length marks) do
    requireName name
    assign name value
  answer (if isEnded then 0 else 1)

def printFormatted (words : List Chars) : Act Unit := do
  match (← takeLetters "" words).2 with
  | [] => fail (ofText "usage: printf format [arg ...]")
  | format :: arguments =>
    let p := Format.write format arguments
    p.complaints.forM complain
    print p.written.flatten
    if (← get).status = 0 then answer p.status

def test (words : List Chars) : Act Unit := do
  let fs ← look
  let s ← get
  let find (path : Chars) : Option FileNode :=
    if (Act.special? path).isSome then some (.file [])
    else
      let (base, path) := s.placed (toText path)
      (fs.resolveFrom base path).toOption.bind fs.node?
  match Condition.holds find words with
  | .ok holds => answer (if holds then 0 else 1)
  | .error problem => fail problem

def testInBrackets (words : List Chars) : Act Unit := do
  if (words.getLast?.bind List.head?) = some ']' then test words.dropLast
  else fail (ofText "missing ]")

def enter (words : List Chars) : Act Unit := do
  let target := (← takeLetters "LP" words).2.head?
  let wanted ← match target with
    | none => value? (ofText "HOME")
    | some ['-'] => value? (ofText "OLDPWD")
    | some path => pure (some path)
  let path := wanted.getD []
  let s ← get
  let names ← if path.isEmpty then pure (some s.directory) else do
    let found := (← resolve path).toOption
    pure (if found.bind (← look).node? = some .directory then found else none)
  match names with
  | none => fail (ofText "can't cd to " ++ path)
  | some directory =>
    let after := { s with directory }
    set after
    setVariable (ofText "OLDPWD") (some { value := some (ofText s.path), isExported := true })
    setVariable (ofText "PWD") (some { value := some (ofText after.path), isExported := true })
    if target = some ['-'] then print (ofText (after.path ++ "\n")) else answer 0

def printDirectory (words : List Chars) : Act Unit := do
  let _ ← takeLetters "LP" words
  print (ofText ((← get).path ++ "\n"))

def signals : List String :=
  ["EXIT", "HUP", "INT", "QUIT", "ILL", "TRAP", "ABRT", "BUS", "FPE", "KILL", "USR1", "SEGV",
   "USR2", "PIPE", "ALRM", "TERM", "STKFLT", "CHLD", "CONT", "STOP", "TSTP", "TTIN", "TTOU", "URG",
   "XCPU", "XFSZ", "VTALRM", "PROF", "WINCH", "POLL", "PWR", "SYS"]

def signal? (word : Chars) : Option Nat :=
  match Numeral.decimal? word with
  | some (.ofNat n) => if n ≤ 64 then some n else none
  | some _ => none
  | none => signals.findIdx? (· = (String.ofList word).toUpper)

def showTraps : Act Unit := do
  let traps := (← get).traps.mergeSort fun a b ↦ a.1 ≤ b.1
  print (traps.flatMap fun (n, action) ↦
    ofText "trap -- " ++ inQuotes action ++ [' '] ++ ofText (signals[n]?.getD (toString n)) ++
      ['\n'])

/-- Says what is to be done at the end. Other signals than the end never come in. -/
def trap (words : List Chars) : Act Unit := do
  let words := (← takeLetters "" words).2
  let (action, conditions) := match words with
    | action :: conditions =>
      if conditions.isEmpty || (Numeral.decimal? action).isSome then (['-'], words)
      else (action, conditions)
    | [] => (['-'], [])
  answer 0
  if words.isEmpty then showTraps
  for condition in conditions do
    match signal? condition with
    | none =>
      say (ofText "trap: " ++ condition ++ ofText ": bad trap")
      return ← answer 1
    | some n => modify fun s ↦
        let others := s.traps.filter (·.1 ≠ n)
        { s with traps := if action = ['-'] then others else (n, action) :: others }

def takeSignal (words : List Chars) : Act (Nat × List Chars) := do
  let known (name : Chars) : Act Nat := do
    match signal? name with
    | some n => return n
    | none => fail (ofText "invalid signal number or name: " ++ name)
  match words with
  | ['-', '-'] :: rest => return (15, rest)
  | ['-', 's'] :: name :: rest => return (← known name, rest)
  | ('-' :: letter :: letters) :: rest =>
    match signal? (letter :: letters) with
    | some n => return (n, rest)
    | none =>
      if letter ≠ 's' then fail (ofText "Illegal option -" ++ [letter])
      if letters.isEmpty then fail (ofText "No arg for -s option")
      return (← known letters, rest)
  | words => return (15, words)

/-- Sends a signal. There is no process but the shell itself. -/
def kill (words : List Chars) : Act Unit := do
  let (signal, targets) ← if words.isEmpty then pure (15, []) else takeSignal words
  if targets.isEmpty then
    fail (ofText "Usage: kill [-s sigspec | -signum | -sigspec] [pid | job]... or\nkill -l [exitstatus]")
  for target in targets do
    match Numeral.decimal? target with
    | none => fail (ofText "Illegal number: " ++ target)
    | some n =>
      if n ≠ processNumber then
        complain (ofText "No such process\n")
        answer 1
      else if signal = 0 then answer 0
      else
        answer (128 + signal)
        throw .dies

/-- Looks for an option in a word, at a place: its letter, whether it is known, whether it takes a
value, its value, and how many words it takes. -/
def optionAt (letters : Chars) (words : List Chars) (word place : Nat) :
    Option (Char × Bool × Bool × Option Chars × Nat) := do
  let text ← words[word]?
  let c ← text[place]?
  let isKnown := c ≠ ':' && letters.contains c
  let needs := isKnown && ((letters.dropWhile (· ≠ c)).drop 1).head? = some ':'
  if !needs then return (c, isKnown, false, none, 1)
  if place + 1 < text.length then return (c, true, true, some (text.drop (place + 1)), 1)
  return (c, true, true, words[word + 1]?, 2)

def takeOption (arguments : List Chars) : Act Unit := do
  match arguments with
  | letters :: name :: words =>
    let s ← get
    let words := if words.isEmpty then s.arguments else words
    let optind := ofText "OPTIND"
    let optarg := ofText "OPTARG"
    let index := ((← value? optind).bind Numeral.decimal?).getD 1
    let (word, place) := match s.optionPlace with
      | some (word, place) => if index.toNat = word + 2 then (word, place) else (index.toNat - 1, 1)
      | none => (index.toNat - 1, 1)
    requireName name
    let text := (words[word]?).getD []
    let isOver := text.head? ≠ some '-' || text.length < 2 || text = ['-', '-']
    match if isOver then none else optionAt letters words word place with
    | none =>
      assign optind (numeral (if text = ['-', '-'] then word + 2 else word + 1))
      modify fun s ↦ { s with optionPlace := none }
      assign name ['?']
      answer 1
    | some (c, isKnown, needs, value, taken) =>
      assign optind (numeral (word + 1 + taken))
      modify fun s ↦
        { s with
          optionPlace :=
            if !needs && place + 1 < text.length then some (word, place + 1) else none }
      let isSilent := letters.head? = some ':'
      let isFaulty := !isKnown || (needs && value.isNone)
      if isFaulty && !isSilent then setVariable optarg none
      else assign optarg (if isFaulty then [c] else value.getD [])
      if !isKnown then
        if !isSilent then say (ofText "Illegal option -" ++ [c])
        assign name ['?']
      else if needs && value.isNone then
        if !isSilent then say (ofText "No arg for -" ++ [c] ++ ofText " option")
        assign name [if isSilent then ':' else '?']
      else assign name [c]
      answer 0
  | _ => fail (ofText "Usage: getopts optstring var [arg...]")

def showMask (words : List Chars) : Act Unit := do
  let (letters, words) ← takeLetters "S" words
  if !words.isEmpty then answer 0
  else if letters.isEmpty then print (ofText "0022\n")
  else print (ofText "u=rwx,g=rx,o=rx\n")

def findAliases (words : List Chars) : Act Unit := do
  let unknown := words.filter (!·.contains '=')
  unknown.forM fun name ↦ say (ofText "alias: " ++ name ++ ofText " not found")
  answer (if unknown.isEmpty then 0 else 1)

def special? (name : String) : Option (List Chars → Act Unit) :=
  match name with
  | ":" => some fun _ ↦ answer 0
  | "break" => some (leaveLoop .breaks)
  | "continue" => some (leaveLoop .repeats)
  | "exit" => some exit
  | "export" => some (declare "export " (·.isExported) fun v ↦ { v with isExported := true })
  | "local" => some declareOwn
  | "readonly" => some (declare "readonly " (·.isReadonly) fun v ↦ { v with isReadonly := true })
  | "return" => some leaveFunction
  | "set" => some setArguments
  | "shift" => some shift
  | "times" => some fun _ ↦ print (ofText "0m0.000000s 0m0.000000s\n0m0.000000s 0m0.000000s\n")
  | "trap" => some trap
  | "unset" => some forget
  | _ => none

def plain? (name : String) : Option (List Chars → Act Unit) :=
  match name with
  | "true" => some fun _ ↦ answer 0
  | "false" => some fun _ ↦ answer 1
  | "echo" => some fun words ↦ print (Format.echo words)
  | "printf" => some printFormatted
  | "test" => some test
  | "[" => some testInBrackets
  | "cd" | "chdir" => some enter
  | "pwd" => some printDirectory
  | "read" => some read
  | "kill" => some kill
  | "getopts" => some takeOption
  | "umask" => some showMask
  | "wait" => some (ignore "")
  | "jobs" => some (ignore "lp")
  | "hash" => some (ignore "rv")
  | "ulimit" => some (ignore "HSatfdsmcnplvwr")
  | "alias" => some findAliases
  | "unalias" => some (ignore "a")
  | _ => none

end CompileWorker.Shell.Builtin
