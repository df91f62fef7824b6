import CompileWorker.Shell.Reader

namespace CompileWorker.Shell.Reader

inductive Ending
  | quote
  | document
  | brace
  | expression (depth : Nat)
  deriving DecidableEq

/-- The characters that mean themselves after a backslash in a quoted text, which hides the meaning
of others. -/
def Ending.escapes (e : Ending) (c : Char) : Bool :=
  c = '$' || c = '\\' || c = '\x60' || (c = '"' && e ≠ .document) || (c = '\x7d' && e = .brace)

def graved (isQuoted : Bool) : Chars → Option (Chars × Chars)
  | [] => none
  | '\x60' :: rest => some ([], rest)
  | '\\' :: c :: rest => do
    let (text, rest) ← graved isQuoted rest
    let isHidden := c = '$' || c = '\\' || c = '\x60' || (isQuoted && c = '"')
    return (if isHidden then c :: text else '\\' :: c :: text, rest)
  | c :: rest => do
    let (text, rest) ← graved isQuoted rest
    return (c :: text, rest)

/-- The text of a word with nothing in it to be replaced, and whether any of it is quoted. -/
def delimiterOf (word : Word) : Option (Chars × Bool) := do
  let parts ← word.mapM fun
    | .text isQuoted text => some (isQuoted, text)
    | _ => none
  return (parts.flatMap (·.2), parts.any (·.1))

def assignment? : Word → Option (Chars × Word)
  | .text false text :: value =>
    let name := text.takeWhile (· ≠ '=')
    if isName name then
      match text.drop name.length with
      | _ :: [] => some (name, value)
      | _ :: rest => some (name, .text false rest :: value)
      | [] => none
    else none
  | _ => none

def atRedirection : Reader Bool := do
  let isSign (c : Char) : Bool := c = '<' || c = '>'
  match (← get).text with
  | [] => return false
  | c :: rest => return isSign c || (c.isDigit && rest.head?.any isSign)

def isActive (c : Char) : Bool := "'\"\\$\x60".toList.contains c

/-- Passes over a character. A line end does not count here. -/
def pass : Reader Unit := modify fun i ↦ { i with text := i.text.drop 1 }

def fallback? : Char → Option Fallback
  | '-' => some .substitute
  | '=' => some .assign
  | '?' => some .refuse
  | '+' => some .replace
  | _ => none

def parameterName : Reader (Chars × Bool) := do
  match (← get).text with
  | '#' :: c :: rest =>
    if c.isAlphanum || c = '_' then
      skip
      return (← if c.isDigit then span Char.isDigit else span isNameCharacter, true)
    if rest.head? = some '\x7d' && c ≠ '\x7d' then
      skip
      pass
      return (if isSpecial c then [c] else [], true)
    skip
    return (['#'], false)
  | c :: _ =>
    if isNameStart c then return (← span isNameCharacter, false)
    if c.isDigit then return (← span Char.isDigit, false)
    if c = '\x7d' then return ([], false)
    pass
    return (if isSpecial c then [c] else [], false)
  | [] => return ([], false)

def tooDeep {α : Type} : Reader α := refuse "Syntax error: too deep"

def protectedNames : List String :=
  ["break", "continue", "eval", "exec", "exit", "export", "readonly", "return", "set", "shift",
    "times", "trap", "unset"]

def badFunctionName : String := "Syntax error: Bad function name"

def unterminated : String := "Syntax error: Unterminated quoted string"

def missingBrace : String := "Syntax error: Missing '\x7d'"

mutual

/-- Reads the parts of a word. Inside braces only their end ends it. -/
def word' (inBraces : Bool) : Nat → Reader Word
  | 0 => tooDeep
  | fuel + 1 => do
    match ← peek with
    | none => if inBraces then refuse missingBrace else return []
    | some '\'' =>
      skip
      let text ← span (· ≠ '\'')
      if !(← accepts "'") then refuse unterminated
      return .text true text :: (← word' inBraces fuel)
    | some '"' =>
      skip
      let inner ← quoted .quote fuel
      return (if inner.length = 1 then inner else .text true [] :: inner) ++ (← word' inBraces fuel)
    | some '\\' =>
      skip
      match ← peek with
      | none => return .text true ['\\'] :: (← word' inBraces fuel)
      | some c =>
        skip
        let rest ← word' inBraces fuel
        return if c = '\n' then rest else .text true [c] :: rest
    | some '$' | some '\x60' => return (← replaced false fuel) :: (← word' inBraces fuel)
    | some c =>
      if inBraces then
        if c = '\x7d' then return []
        let text ← span fun c ↦ !isActive c && c ≠ '\x7d'
        return .text false text :: (← word' inBraces fuel)
      else if endsWord c then return []
      else
        let text ← span fun c ↦ !isActive c && !endsWord c
        return .text false text :: (← word' inBraces fuel)

def quoted (ending : Ending) : Nat → Reader (List Part)
  | 0 => tooDeep
  | fuel + 1 => do
    match ← peek with
    | none =>
      match ending with
      | .document => return []
      | .quote | .brace => refuse unterminated
      | .expression _ => refuse "Syntax error: Missing '))'"
    | some '"' =>
      if ending = .quote then
        skip
        return []
      skip
      if ending = .brace then return (← quoted .quote fuel) ++ (← quoted ending fuel)
      let rest ← quoted ending fuel
      return if ending = .document then .text true ['"'] :: rest else rest
    | some '\\' =>
      skip
      match ← peek with
      | none => return .text true ['\\'] :: (← quoted ending fuel)
      | some c =>
        skip
        let rest ← quoted ending fuel
        return if c = '\n' then rest else
          .text true (if ending.escapes c then [c] else ['\\', c]) :: rest
    | some '$' | some '\x60' => return (← replaced true fuel) :: (← quoted ending fuel)
    | some c =>
      match ending with
      | .brace =>
        if c = '\x7d' then
          skip
          return []
      | .expression depth =>
        if c = '(' then
          skip
          return .text true ['('] :: (← quoted (.expression (depth + 1)) fuel)
        if c = ')' then
          skip
          if depth = 0 then
            if ← accepts ")" then return []
          return .text true [')'] :: (← quoted (.expression (depth - 1)) fuel)
      | _ => pure ()
      let text ← span fun c ↦ !"\"\\$\x60\x7d()".toList.contains c
      if text.isEmpty then
        skip
        return .text true [c] :: (← quoted ending fuel)
      return .text true text :: (← quoted ending fuel)

def replaced (isQuoted : Bool) : Nat → Reader Part
  | 0 => tooDeep
  | fuel + 1 => do
    if ← accepts "\x60" then
      let i ← get
      let (text, rest) ← match graved isQuoted i.text with
        | some found => pure found
        | none =>
          i.text.forM fun _ ↦ skip
          refuse "Syntax error: EOF in backquote substitution"
      let (commands, _) ← (commands fuel).run { text }
      (i.text.take (i.text.length - rest.length)).forM fun _ ↦ skip
      return .output isQuoted (.sequence commands)
    expect "$"
    if ← accepts "((" then return .arithmetic isQuoted (← quoted (.expression 0) fuel)
    if ← accepts "(" then
      let commands ← commands fuel
      lines
      expect ")"
      return .output isQuoted (.sequence commands)
    if ← accepts "\x7b" then braced isQuoted fuel
    else
      match ← peek with
      | none => return .text isQuoted ['$']
      | some c =>
        if isNameStart c then return .parameter isQuoted (← span isNameCharacter) .value
        else if isSpecial c then
          skip
          return .parameter isQuoted [c] .value
        else return .text isQuoted ['$']

/-- Reads a parameter in braces, the first of them read before, and what is taken of it. A character
that does not say what is to be taken is passed over, and with it a line end that then does not
count. -/
def braced (isQuoted : Bool) : Nat → Reader Part
  | 0 => tooDeep
  | fuel + 1 => do
    let (name, isLength) ← parameterName
    if name.isEmpty then
      skipRest isQuoted fuel
      return .parameter isQuoted [] .unknown
    if isLength then
      if ← accepts "\x7d" then return .parameter isQuoted name .length
      skipRest isQuoted fuel
      return .parameter isQuoted name .unknown
    if ← accepts "\x7d" then return .parameter isQuoted name .value
    if (← sees "#") || (← sees "%") then
      let atEnd ← accepts "%"
      if !atEnd then skip
      let isLongest ← accepts (if atEnd then "%" else "#")
      let pattern ← word' true fuel
      expect "\x7d"
      return .parameter isQuoted name (.trim atEnd isLongest pattern)
    let orEmpty ← accepts ":"
    let kind := (← peek).bind fallback?
    pass
    let word ← if isQuoted then quoted .brace fuel
      else do
        let word ← word' true fuel
        expect "\x7d"
        pure word
    return .parameter isQuoted name <| match kind with
      | some kind => .fallback kind orEmpty word
      | none => .unknown

def skipRest (isQuoted : Bool) : Nat → Reader Unit
  | 0 => tooDeep
  | fuel + 1 => do
    if isQuoted then
      let _ ← quoted .brace fuel
    else
      let _ ← word' true fuel
      expect "\x7d"

def redirection : Nat → Reader Redirection
  | 0 => tooDeep
  | fuel + 1 => do
    let digit := (← peek).bind fun c ↦ if c.isDigit then some (c.toNat - 48) else none
    if digit.isSome then skip
    let stream (default : Nat) : Nat := digit.getD default
    let target : Reader Word := do
      blanks
      if ← atRedirection then misplaced "redirection" none
      match ← word' false fuel with
      | [] => unexpected none
      | word => return word
    if ← accepts "<<" then
      let dropsTabs ← accepts "-"
      let (delimiter, isQuoted) := (delimiterOf (← target)).getD ([], true)
      let line := (← get).line
      let body ← takeBody delimiter dropsTabs
      if isQuoted then return .mk (stream 0) (.text [.text true body])
      let (content, _) ← (quoted .document fuel).run { text := body, line }
      return .mk (stream 0) (.text content)
    if (← accepts "<&") then return .mk (stream 0) (.stream (← target))
    if (← accepts "<") then return .mk (stream 0) (.file .read (← target))
    if (← accepts ">>") then return .mk (stream 1) (.file .append (← target))
    if (← accepts ">&") then return .mk (stream 1) (.stream (← target))
    if (← accepts ">|") then return .mk (stream 1) (.file .replace (← target))
    expect ">"
    return .mk (stream 1) (.file .write (← target))

def redirections : Nat → Reader (List Redirection)
  | 0 => tooDeep
  | fuel + 1 => do
    blanks
    if ← atRedirection then return (← redirection fuel) :: (← redirections fuel)
    else return []

def simple (line : Nat) (assignments : List (Chars × Word)) (words : List Word)
    (found : List Redirection) :
    Nat → Reader Command
  | 0 => tooDeep
  | fuel + 1 => do
    blanks
    if ← atRedirection then simple line assignments words (found ++ [← redirection fuel]) fuel
    else match ← word' false fuel with
      | [] =>
        if assignments.isEmpty && words.isEmpty && found.isEmpty then unexpected none
        else return .simple line assignments words found
      | word =>
        let isFirst := assignments.isEmpty && words.isEmpty && found.isEmpty
        let line ← if isFirst then pure (← get).line else pure line
        match words, assignment? word with
        | [], some assignment => simple line (assignments ++ [assignment]) [] found fuel
        | words, _ => simple line assignments (words ++ [word]) found fuel

def function? : Nat → Reader (Option Chars)
  | 0 => tooDeep
  | fuel + 1 => do
    let start ← get
    let word ← word' false fuel
    blanks
    if word.isEmpty || (assignment? word).isSome || !(← accepts "(") then
      set start
      return none
    blanks
    examine fuel
    closeParenthesis
    match word with
    | [.text false name] =>
      if !isName name || protectedNames.contains (String.ofList name) then refuse badFunctionName
      return some name
    | _ => refuse badFunctionName

/-- Reads the patterns of an arm up to its parenthesis. Anything may stand where a word is due, as
an empty pattern. -/
def patterns : Nat → Reader (List Word)
  | 0 => tooDeep
  | fuel + 1 => do
    blanks
    let first ← if ← atRedirection then pure [] else word' false fuel
    if first.isEmpty then anySign
    blanks
    if (← sees "|") && !(← sees "||") then
      skip
      return first :: (← patterns fuel)
    examine fuel
    closeParenthesis
    return [first]

def keyword (text : String) : Nat → Reader Unit
  | 0 => tooDeep
  | fuel + 1 => do
    lines
    if (← reserved?).isNone then examine fuel
    word text

def arms : Nat → Reader (List (List Word × Command))
  | 0 => tooDeep
  | fuel + 1 => do
    lines
    if (← reserved?) = some "esac" then
      word "esac"
      return []
    let _ ← accepts "("
    let patterns ← patterns fuel
    let body ← commands fuel
    lines
    if ← accepts ";;" then return (patterns, .sequence body) :: (← arms fuel)
    if (← reserved?) ≠ some "esac" then unexpected (some ";;")
    word "esac"
    return [(patterns, .sequence body)]

def otherwise : Nat → Reader Command
  | 0 => tooDeep
  | fuel + 1 => do
    lines
    match ← reserved? with
    | some "elif" =>
      word "elif"
      let condition ← someCommands fuel
      keyword "then" fuel
      let body ← someCommands fuel
      return .choice (.sequence condition) (.sequence body) (← otherwise fuel)
    | some "else" =>
      word "else"
      let body ← someCommands fuel
      keyword "fi" fuel
      return .sequence body
    | _ =>
      keyword "fi" fuel
      return .sequence []

def items : Nat → Reader (List Word)
  | 0 => tooDeep
  | fuel + 1 => do
    blanks
    match ← word' false fuel with
    | [] => return []
    | word => return word :: (← items fuel)

def loopBody : Nat → Reader Command
  | 0 => tooDeep
  | fuel + 1 => do
    keyword "do" fuel
    let body ← someCommands fuel
    keyword "done" fuel
    return .sequence body

def compound (first : Option String) : Nat → Reader Command
  | 0 => tooDeep
  | fuel + 1 => do
    let line := (← get).line
    match first with
    | some "if" =>
      word "if"
      let condition ← someCommands fuel
      keyword "then" fuel
      let body ← someCommands fuel
      return .choice (.sequence condition) (.sequence body) (← otherwise fuel)
    | some "while" =>
      word "while"
      let condition ← someCommands fuel
      return .loop false (.sequence condition) (← loopBody fuel)
    | some "until" =>
      word "until"
      let condition ← someCommands fuel
      return .loop true (.sequence condition) (← loopBody fuel)
    | some "for" =>
      word "for"
      blanks
      let word ← word' false fuel
      let name := match word with
        | [.text false name] => name
        | _ => []
      if !isName name then
        let isAtEnd := word.isEmpty && (← peek) = some '\n'
        if isAtEnd then skip
        refuse "Syntax error: Bad for loop variable"
      lines
      let words ← if ← seesWord "in" then do
          expect "in"
          let words ← items fuel
          if !(← sees "\n") && (!(← sees ";") || (← sees ";;")) then unexpected none
          pure (some words)
        else pure none
      blanks
      if (← sees ";") && !(← sees ";;") then skip
      return .each line name words (← loopBody fuel)
    | some "case" =>
      word "case"
      blanks
      let subject ← word' false fuel
      if subject.isEmpty then unexpected (some "word")
      lines
      if !(← seesWord "in") then
        examine fuel
        unexpected (some "in")
      expect "in"
      return .case line subject (← arms fuel)
    | some "\x7b" =>
      word "\x7b"
      let body ← someCommands fuel
      keyword "\x7d" fuel
      return .sequence body
    | some _ => unexpected none
    | none =>
      expect "("
      let body ← someCommands fuel
      lines
      expect ")"
      return .subshell (.sequence body)

def command : Nat → Reader Command
  | 0 => tooDeep
  | fuel + 1 => do
    blanks
    let line := (← get).line
    let first ← reserved?
    if first.isSome || (← sees "(") then
      let body ← compound first fuel
      match ← redirections fuel with
      | [] => return body
      | found => return .redirected line body found
    else match ← function? fuel with
      | some name =>
        lines
        return .define name (← command fuel)
      | none => simple line [] [] [] fuel

def piped : Nat → Reader (List Command)
  | 0 => tooDeep
  | fuel + 1 => do
    let first ← command fuel
    blanks
    if (← sees "|") && !(← sees "||") then
      skip
      lines
      return first :: (← piped fuel)
    return [first]

def pipeline : Nat → Reader Command
  | 0 => tooDeep
  | fuel + 1 => do
    blanks
    if (← reserved?) = some "!" then
      word "!"
      blanks
      if (← reserved?) = some "!" then unexpected none
      return .negation (← pipeline fuel)
    match ← piped fuel with
    | [command] => return command
    | commands => return .pipeline commands

def joined (first : Command) : Nat → Reader Command
  | 0 => tooDeep
  | fuel + 1 => do
    blanks
    if ← accepts "&&" then
      lines
      joined (.both first (← pipeline fuel)) fuel
    else if ← accepts "||" then
      lines
      joined (.either first (← pipeline fuel)) fuel
    else return first

/-- Reads a command and what is joined to it, and the sign after it, a semicolon, an ampersand or a
line end; whether there was one. -/
def item : Nat → Reader (Command × Bool)
  | 0 => tooDeep
  | fuel + 1 => do
    let first ← joined (← pipeline fuel) fuel
    blanks
    if (← sees ";") && !(← sees ";;") then
      skip
      return (first, true)
    if (← sees "&") && !(← sees "&&") then
      skip
      return (.background first, true)
    let next ← peek
    if next ≠ some '\n' then examine fuel
    return (first, next = some '\n')

def examine : Nat → Reader Unit
  | 0 => tooDeep
  | fuel + 1 => do
    let start ← get
    let _ ← word' false fuel
    let line := (← get).line
    set { start with line }

/-- Reads commands up to a closing word or sign. -/
def commands : Nat → Reader (List Command)
  | 0 => tooDeep
  | fuel + 1 => do
    lines
    if ← atClosing then return []
    let (first, goesOn) ← item fuel
    if goesOn then return first :: (← commands fuel) else return [first]

def someCommands : Nat → Reader (List Command)
  | 0 => tooDeep
  | fuel + 1 => do
    lines
    if (← atClosing) && (← peek).isSome then unexpected none
    commands fuel

end

def onLine : Nat → Reader (List Command)
  | 0 => tooDeep
  | fuel + 1 => do
    blanks
    match ← peek with
    | none => return []
    | some '\n' =>
      skip
      return []
    | some _ =>
      let (first, goesOn) ← item fuel
      blanks
      if !goesOn && (← peek).isSome then unexpected none
      return first :: (← onLine fuel)

/-- Reads the next lines that make up whole commands. None at the end of the script. -/
def next : Reader (Option (List Command)) := do
  lines
  let left := (← get).text.length
  if left = 0 then return none
  return some (← onLine (16 * left + 64))

end CompileWorker.Shell.Reader
