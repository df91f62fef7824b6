namespace CompileWorker.Toml

abbrev Reader := StateT (List Char) Option

namespace Reader

variable {α : Type}

def satisfy (kind : Char → Bool) : Reader Char := fun
  | c :: rest => if kind c then some (c, rest) else none
  | [] => none

def char (c : Char) : Reader Unit := do let _ ← satisfy (· = c)

def word (text : String) : Reader Unit := text.toList.forM char

def span (kind : Char → Bool) : Reader (List Char) :=
  fun text ↦ some (text.takeWhile kind, text.dropWhile kind)

def accepts (r : Reader Unit) : Reader Bool := (r *> pure true) <|> pure false

def skip? (c : Char) : Reader Bool := accepts (char c)

def repeated (r : Reader α) : Nat → Reader (List α)
  | 0 => pure []
  | n + 1 => do return (← r) :: (← repeated r n)

def atEnd : Reader Unit := fun
  | [] => some ((), [])
  | _ :: _ => none

end Reader

open Reader

def isBlank (c : Char) : Bool := c = ' ' || c = '\t'

def isPlain (c : Char) : Bool := c = '\t' || (0x20 ≤ c.val && c.val ≠ 0x7F)

def blanks : Reader Unit := do let _ ← span isBlank

def newline : Reader Unit := char '\n' <|> word "\r\n"

def comment : Reader Unit := do
  if ← skip? '#' then
    let _ ← span isPlain

def lineEnd : Reader Unit := do
  blanks
  comment
  atEnd <|> newline

def skipLines (filler : Reader Unit) : Nat → Reader Unit
  | 0 => pure ()
  | fuel + 1 => do
    filler
    if ← accepts newline then skipLines filler fuel

def gap : Reader Unit := do skipLines (blanks *> comment) ((← get).length + 1)

def digit? (c : Char) : Option Nat :=
  if '0' ≤ c ∧ c ≤ '9' then some (c.toNat - 48)
  else if 'a' ≤ c ∧ c ≤ 'f' then some (c.toNat - 87)
  else if 'A' ≤ c ∧ c ≤ 'F' then some (c.toNat - 55)
  else none

def isDigit (base : Nat) (c : Char) : Bool := (digit? c).any (· < base)

def value (base : Nat) (digits : List Char) : Nat :=
  digits.foldl (fun n c ↦ n * base + (digit? c).getD 0) 0

def codePoint (size : Nat) : Reader Char := do
  let n := value 16 (← repeated (satisfy (isDigit 16)) size)
  if n.isValidChar then return Char.ofNat n else failure

def escape : Reader Char := do
  match ← satisfy fun _ ↦ true with
  | 'b' => return '\x08'
  | 't' => return '\t'
  | 'n' => return '\n'
  | 'f' => return '\x0c'
  | 'r' => return '\r'
  | '"' => return '"'
  | '\\' => return '\\'
  | 'u' => codePoint 4
  | 'U' => codePoint 8
  | _ => failure

def basicFrom : Nat → List Char → Reader String
  | 0, _ => failure
  | fuel + 1, acc => do
    let c ← satisfy isPlain
    if c = '"' then return String.ofList acc.reverse
    else if c = '\\' then basicFrom fuel ((← escape) :: acc)
    else basicFrom fuel (c :: acc)

def basic : Reader String := do
  char '"'
  basicFrom ((← get).length + 1) []

def literal : Reader String := do
  char '\''
  let content ← span fun c ↦ isPlain c && c ≠ '\''
  char '\''
  return String.ofList content

/-- A line end after a backslash vanishes, with all blanks and line ends that follow. -/
def lineFold : Reader Unit := do
  blanks
  newline
  skipLines blanks ((← get).length + 1)

/-- Reads on in a string of several lines, up to three quotes; one or two more belong to the string.
Only a double-quoted string has escapes. -/
def multilineFrom (quote : Char) : Nat → List Char → Reader String
  | 0, _ => failure
  | fuel + 1, acc => do
    match ← span (· = quote) with
    | [] =>
      if ← accepts newline then multilineFrom quote fuel ('\n' :: acc)
      else
        let c ← satisfy isPlain
        if c = '\\' && quote = '"' then
          if ← accepts lineFold then multilineFrom quote fuel acc
          else multilineFrom quote fuel ((← escape) :: acc)
        else multilineFrom quote fuel (c :: acc)
    | quotes =>
      if quotes.length < 3 then multilineFrom quote fuel (quotes ++ acc)
      else if quotes.length ≤ 5 then return String.ofList (quotes.drop 3 ++ acc).reverse
      else failure

/-- A string of several lines. A line end right after its quotes does not count. -/
def multiline (quote : Char) : Reader String := do
  let _ ← repeated (char quote) 3
  let _ ← accepts newline
  multilineFrom quote ((← get).length + 1) []

def string : Reader String := multiline '"' <|> multiline '\'' <|> basic <|> literal

def isBare (c : Char) : Bool := c.isAlphanum || c = '-' || c = '_'

def name : Reader String := do
  match ← span isBare with
  | [] => basic <|> literal
  | bare => return String.ofList bare

def key : Nat → Reader (List String)
  | 0 => failure
  | size + 1 => do
    blanks
    let first ← name
    blanks
    if ← skip? '.' then return first :: (← key size) else return [first]

end CompileWorker.Toml
