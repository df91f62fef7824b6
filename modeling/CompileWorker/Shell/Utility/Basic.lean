import CompileWorker.Shell.Builtin

namespace CompileWorker.Shell.Utility

open Act

def complain (name : String) (text : String) : Act Unit := say (ofText (name ++ ": " ++ text))

def misuse (name : String) (text : String) (status : Nat) : Act Unit := do
  complain name text
  say (ofText ("Try '" ++ name ++ " --help' for more information."))
  answer status

inductive OptionFault
  | unknown (letter : Char)
  | lacksValue (letter : Char)

def OptionFault.message : OptionFault → String
  | unknown letter => "invalid option -- '" ++ letter.toString ++ "'"
  | lacksValue letter => "option requires an argument -- '" ++ letter.toString ++ "'"

structure Options where
  given : List (Char × Chars) := []
  operands : List Chars := []
  fault : Option OptionFault := none

namespace Options

def has (o : Options) (letter : Char) : Bool := o.given.any (·.1 = letter)

/-- Of options given more than once the last counts. -/
def value? (o : Options) (letter : Char) : Option Chars := o.given.reverse.lookup letter

def add (letter : Char) (value : Chars) (o : Options) : Options :=
  { o with given := (letter, value) :: o.given }

def readLetters (flags valued : Chars) : Chars → List Chars → Options × List Chars
  | [], rest => ({}, rest)
  | letter :: letters, rest =>
    if valued.contains letter then
      match letters, rest with
      | [], value :: rest => ({ given := [(letter, value)] }, rest)
      | [], [] => ({ fault := some (.lacksValue letter) }, [])
      | value, rest => ({ given := [(letter, value)] }, rest)
    else if flags.contains letter then
      let (o, rest) := readLetters flags valued letters rest
      (o.add letter [], rest)
    else ({ fault := some (.unknown letter) }, rest)

def readWords (flags valued : Chars) : Nat → List Chars → Options
  | 0, _ => {}
  | fuel + 1, words =>
    match words with
    | [] => {}
    | ['-', '-'] :: operands => { operands }
    | ('-' :: letter :: letters) :: rest =>
      let (found, rest) := readLetters flags valued (letter :: letters) rest
      let others := readWords flags valued fuel rest
      { others with given := found.given ++ others.given, fault := found.fault <|> others.fault }
    | word :: rest =>
      let others := readWords flags valued fuel rest
      { others with operands := word :: others.operands }

def read (flags valued : String) (words : List Chars) : Options :=
  readWords flags.toList valued.toList (words.length + 1) words

end Options

def withOptions (name flags valued : String) (words : List Chars) (body : Options → Act Unit) :
    Act Unit := do
  let o := Options.read flags valued words
  match o.fault with
  | some fault => misuse name fault.message 1
  | none => body o

def describe (e : SystemError) : String := (e.text.splitOn " (os error").headD ""

def escaped (c : Char) : Chars :=
  match ['\x07', '\x08', '\t', '\n', '\x0b', '\x0c', '\r'].zip "abtnvfr".toList |>.lookup c with
  | some letter => ['\\', letter]
  | none => '\\' :: [c.toNat / 64, c.toNat / 8 % 8, c.toNat % 8].map fun d ↦ Char.ofNat (48 + d)

def isPrintable (c : Char) : Bool := ' ' ≤ c && c ≤ '~'

/-- Writes characters between single quotes, in a form of its own where they cannot be printed. -/
def quote (isEscaping : Bool) : Chars → Chars
  | [] => ['\'']
  | c :: rest =>
    if isPrintable c then
      let lead := if isEscaping then ofText "''" else []
      lead ++ (if c = '\'' then ofText "'\\''" else [c]) ++ quote false rest
    else
      let lead := if isEscaping then [] else ofText "'$'"
      lead ++ escaped c ++ quote true rest

/-- Characters by which a shell would read more than a name. -/
def isMeaningful (c : Char) : Bool := !isPrintable c || "!\"$&()*;<=>[\\^\x60|?:".toList.contains c

def quoted (name : Chars) : String :=
  if name.contains '\'' && !name.any isMeaningful then "\"" ++ toText name ++ "\""
  else toText ('\'' :: quote false name)

def shown (name : Chars) : String :=
  let isPlain := match name with
    | [] | ['\x7b'] | ['\x7d'] | '#' :: _ | '~' :: _ => false
    | name => name.all fun c ↦ !isMeaningful c && c ≠ ' ' && c ≠ '\''
  if isPlain then toText name else quoted name

def blame (name : String) (path : Chars) (e : SystemError) : Act Unit :=
  complain name (shown path ++ ": " ++ describe e)

/-- Takes the lines of an input one by one, as long as `next` asks for more. -/
def eachLine (next : Chars → Act Bool) : Nat → Act Unit
  | 0 => pure ()
  | fuel + 1 => do
    match ← readLine 0 with
    | none | some [] => pure ()
    | some line => if ← next line then eachLine next fuel

def lines (next : Chars → Act Unit) : Act Unit :=
  eachLine (fun line ↦ do
    next line
    return true) patience

def put (text : Chars) : Act Unit := do
  let _ ← write 1 text

def withInput {α : Type} (channel : Channel) (body : Act α) : Act α := do
  let old ← channel? 0
  redirect 0 (some channel)
  let result ← body
  redirect 0 old
  return result

def openFor (path : Chars) (refuse : SystemError → Act Unit) : Act (Option Channel) := do
  match ← node? path with
  | .ok .directory =>
    refuse .isADirectory
    return none
  | _ =>
    match ← openPath .read path with
    | .ok channel => return some channel
    | .error e =>
      refuse e
      return none

/-- Does something with each of some files, or with the standard input if there are none. Ends with
status 1 if one cannot be read, after a complaint. -/
def eachInputOr (refuse : Chars → SystemError → Act Unit) (name : String) (paths : List Chars)
    (body : Chars → Act Unit) : Act Unit := do
  let mut status := 0
  for path in if paths.isEmpty then [['-']] else paths do
    if path = ['-'] then
      if (← channel? 0).isNone then
        complain name "-: Bad file descriptor"
        status := 1
      else body path
    else
      match ← openFor path (refuse path) with
      | some channel => withInput channel (body path)
      | none => status := 1
  answer status

def eachInput (name : String) : List Chars → (Chars → Act Unit) → Act Unit :=
  eachInputOr (blame name) name

def splitEnd (line : Chars) : Chars × Chars :=
  if line.getLast? = some '\n' then (line.dropLast, ['\n']) else (line, [])

def padLeft (width : Nat) (text : Chars) : Chars := List.replicate (width - text.length) ' ' ++ text

def nat? (text : Chars) : Option Nat :=
  if !text.isEmpty && text.all Char.isDigit then some (Numeral.value 10 text) else none

end CompileWorker.Shell.Utility
