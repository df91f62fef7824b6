import CompileWorker.Shell.Syntax

namespace CompileWorker.Shell

structure Input where
  text : Chars
  line : Nat := 1
  /-- lines that were taken from behind the end of this one -/
  taken : Nat := 0

structure SyntaxError where
  line : Nat
  message : String
  deriving Repr

abbrev Reader := StateT Input (Except SyntaxError)

namespace Reader

def refuse {α : Type} (message : String) : Reader α := do throw ⟨(← get).line, message⟩

def peek : Reader (Option Char) := do return (← get).text.head?

def sees (text : String) : Reader Bool := do return text.toList.isPrefixOf (← get).text

def skip : Reader Unit := modify fun i ↦
  match i.text with
  | [] => i
  | c :: rest => if c = '\n' then ⟨rest, i.line + i.taken + 1, 0⟩ else { i with text := rest }

def accepts (text : String) : Reader Bool := do
  if ← sees text then
    text.toList.forM fun _ ↦ skip
    return true
  else return false

def span (kind : Char → Bool) : Reader Chars := do
  let found := (← get).text.takeWhile kind
  found.forM fun _ ↦ skip
  return found

def isNameStart (c : Char) : Bool := c.isAlpha || c = '_'

def isNameCharacter (c : Char) : Bool := c.isAlphanum || c = '_'

def isName (text : Chars) : Bool :=
  (text.head?.map isNameStart).getD false && text.all isNameCharacter

def isSpecial (c : Char) : Bool := "@*#?-$!".toList.contains c || c.isDigit

def isBlank (c : Char) : Bool := c = ' ' || c = '\t'

def endsWord (c : Char) : Bool := " \t\n;|&<>()".toList.contains c

def skipBlanks : Nat → Reader Unit
  | 0 => pure ()
  | fuel + 1 => do
    if ← accepts "\\\n" then skipBlanks fuel
    else if (← peek).any isBlank then skip *> skipBlanks fuel
    else if (← peek) = some '#' then
      let _ ← span (· ≠ '\n')

def blanks : Reader Unit := do skipBlanks ((← get).text.length + 1)

def skipLines : Nat → Reader Unit
  | 0 => pure ()
  | fuel + 1 => do
    blanks
    if (← peek) = some '\n' then skip *> skipLines fuel

def lines : Reader Unit := do skipLines ((← get).text.length + 1)

def reserved : List String :=
  ["if", "then", "elif", "else", "fi", "while", "until", "for", "do", "done", "case", "in", "esac",
    "\x7b", "\x7d", "!"]

def closing : List String := ["then", "elif", "else", "fi", "do", "done", "esac", "\x7d"]

def reserved? : Reader (Option String) := do
  let text := String.ofList ((← get).text.takeWhile fun c ↦ !endsWord c)
  return if reserved.contains text then some text else none

def seesWord (text : String) : Reader Bool := do
  return (← get).text.takeWhile (fun c ↦ !endsWord c) = text.toList

def signs : List String := [";;", "&&", "||", ";", "&", "|", "(", ")"]

def inQuotes (text : String) : String := "\"" ++ text ++ "\""

def nextName : Reader String := do
  let text := (← get).text
  match text.head? with
  | none => return "end of file"
  | some '\n' => return "newline"
  | some c =>
    if let some sign := signs.find? fun sign ↦ sign.toList.isPrefixOf text then return inQuotes sign
    if let some word ← reserved? then return inQuotes word
    if c = '<' ∨ c = '>' then return "redirection"
    return "word"

def misplaced {α : Type} (name : String) (expected : Option String) : Reader α :=
  let expectation := match expected with
    | some "word" => " (expecting word)"
    | some text => " (expecting " ++ inQuotes text ++ ")"
    | none => ""
  refuse ("Syntax error: " ++ name ++ " unexpected" ++ expectation)

def unexpected {α : Type} (expected : Option String) : Reader α := do
  blanks
  let name ← nextName
  if name = "newline" then skip
  misplaced name expected

def expect (text : String) : Reader Unit := do if !(← accepts text) then unexpected (some text)

/-- Skips a parenthesis that has to come next, where no word is reserved. -/
def closeParenthesis : Reader Unit := do
  if (← reserved?).isSome then misplaced "word" (some ")") else expect ")"

def anySign : Reader Unit := do
  let _ ← span Char.isDigit
  let found := ["<<-", "<<", ">>", "<&", ">&", "<>", ">|", "<", ">", "\n"] ++ signs
  for sign in found do if ← accepts sign then return

def word (text : String) : Reader Unit := do
  lines
  if (← reserved?) = some text then expect text else unexpected (some text)

def atClosing : Reader Bool := do
  return (← peek).all (· = ')') || (← sees ";;") || (← reserved?).any closing.contains

/-- The length of the rest of a line, where quoted line ends do not count. -/
def lineLength (quote : Option Char) : Chars → Nat
  | [] => 0
  | '\\' :: _ :: rest => lineLength quote rest + 2
  | c :: rest =>
    if quote = none ∧ c = '\n' then 0
    else if quote = some c then lineLength none rest + 1
    else if quote = none ∧ (c = '\'' ∨ c = '"') then lineLength (some c) rest + 1
    else lineLength quote rest + 1

/-- Splits a text at the line that is a delimiter, from which leading tabs may have to go as from
all lines before. Without such a line all of the text is before it. -/
def splitAt (delimiter : Chars) (dropsTabs : Bool) : Nat → Chars → Chars × Chars
  | 0, text => (text, [])
  | fuel + 1, text =>
    let text := if dropsTabs then text.dropWhile (· = '\t') else text
    let line := text.takeWhile (· ≠ '\n')
    let after := text.drop (line.length + 1)
    if line = delimiter then ([], after)
    else if text.length ≤ line.length then (line, [])
    else
      let (body, after) := splitAt delimiter dropsTabs fuel after
      (line ++ '\n' :: body, after)

def takeBody (delimiter : Chars) (dropsTabs : Bool) : Reader Chars := do
  let i ← get
  let n := lineLength none i.text
  let behind := i.text.drop (n + 1)
  let (body, after) := splitAt delimiter dropsTabs (behind.length + 1) behind
  let isTaken (c : Char) : Bool := c = '\n'
  set
    { i with
      text := i.text.take (n + 1) ++ after
      taken := i.taken + behind.countP isTaken - after.countP isTaken }
  return body

end Reader

end CompileWorker.Shell
