import CompileWorker.Shell.Regex
import CompileWorker.Shell.Utility.Basic

namespace CompileWorker.Shell.Utility

open Act

def int? (text : Chars) : Option Int :=
  match text with
  | '-' :: digits => (nat? digits).map fun n ↦ -n
  | digits => (nat? digits).map Int.ofNat

def seqFrom (last step : Int) : Nat → Int → List Int
  | 0, _ => []
  | fuel + 1, n =>
    if (if 0 < step then n ≤ last else last ≤ n) then n :: seqFrom last step fuel (n + step) else []

def seqWords : List Chars → List (Char × Chars) × List Chars
  | ['-', 'w'] :: rest => let (o, words) := seqWords rest; (('w', []) :: o, words)
  | ['-', 's'] :: value :: rest => let (o, words) := seqWords rest; (('s', value) :: o, words)
  | ('-' :: 's' :: value) :: rest => let (o, words) := seqWords rest; (('s', value) :: o, words)
  | words => ([], words)

def seq (words : List Chars) : Act Unit := do
  let (o, operands) := seqWords words
  match operands.find? fun word ↦ (int? word).isNone with
  | some word => misuse "seq" ("invalid floating point argument: '" ++ toText word ++ "'") 1
  | none =>
    match operands.filterMap int? with
    | [] => misuse "seq" "missing operand" 1
    | numbers =>
      let (first, step, last) := match numbers with
        | [last] => (1, 1, last)
        | [first, last] => (first, 1, last)
        | first :: step :: last :: _ => (first, step, last)
        | [] => (1, 1, 0)
      let found := seqFrom last step patience first
      let texts := found.map fun n ↦ (toString n).toList
      let width := texts.foldl (fun n text ↦ max n text.length) 0
      let texts := if (o.lookup 'w').isSome then
          texts.map fun text ↦ match text with
            | '-' :: digits => '-' :: List.replicate (width - text.length) '0' ++ digits
            | text => List.replicate (width - text.length) '0' ++ text
        else texts
      if !texts.isEmpty then put (List.intercalate ((o.lookup 's').getD ['\n']) texts ++ ['\n'])
      answer 0

def duration? (text : Chars) : Option Nat := do
  let whole := text.takeWhile Char.isDigit
  let (places, rest) := match text.drop whole.length with
    | '.' :: rest => (rest.takeWhile Char.isDigit, rest.dropWhile Char.isDigit)
    | rest => ([], rest)
  if whole.isEmpty && places.isEmpty then none
  let unit ← match rest with
    | [] | ['s'] => some 1
    | ['m'] => some 60
    | ['h'] => some 3600
    | ['d'] => some 86400
    | _ => none
  let thousandths := Numeral.value 10 (whole ++ (places ++ ['0', '0', '0']).take 3)
  return thousandths * unit

def sleep (words : List Chars) : Act Unit := do
  match words.find? fun word ↦ (duration? word).isNone with
  | some word => misuse "sleep" ("invalid time interval '" ++ toText word ++ "'") 1
  | none =>
    if words.isEmpty then misuse "sleep" "missing operand" 1
    else
      pause ((words.filterMap duration?).foldl (· + ·) 0)
      answer 0

def yes (words : List Chars) : Act Unit := again patience
where
  again : Nat → Act Unit
    | 0 => answer 1
    | fuel + 1 => do
      put ((if words.isEmpty then ['y'] else List.intercalate [' '] words) ++ ['\n'])
      again fuel

inductive WordError
  | missing (after : Chars)
  | unexpected (word : Chars)
  | notWhole
  | zeroDivisor
  | plain

namespace WordError

def message : WordError → String
  | missing after => "syntax error: missing argument after '" ++ toText after ++ "'"
  | unexpected word => "syntax error: unexpected argument '" ++ toText word ++ "'"
  | notWhole => "non-integer argument"
  | zeroDivisor => "division by zero"
  | plain => "syntax error"

end WordError

namespace WordExpression

abbrev Parser := StateT (List Chars × Chars) (Except WordError)

def accepts (words : List String) : Parser (Option String) := do
  match ← get with
  | (word :: rest, _) =>
    let text := toText word
    if words.contains text then
      set (rest, word)
      return some text
    return none
  | ([], _) => return none

def next : Parser Chars := do
  match ← get with
  | (word :: rest, _) =>
    set (rest, word)
    return word
  | ([], before) => throw (.missing before)

def ofBool (b : Bool) : Chars := if b then ['1'] else ['0']

def isNothing (text : Chars) : Bool := text.isEmpty || int? text = some 0

def compute (operator : String) (a b : Chars) : Except WordError Chars := do
  match int? a, int? b with
  | some a, some b =>
    match operator with
    | "+" => return (toString (a + b)).toList
    | "-" => return (toString (a - b)).toList
    | "*" => return (toString (a * b)).toList
    | "/" => if b = 0 then throw .zeroDivisor else return (toString (a.tdiv b)).toList
    | _ => if b = 0 then throw .zeroDivisor else return (toString (a.tmod b)).toList
  | _, _ => throw .notWhole

def compare (operator : String) (a b : Chars) : Chars :=
  let (isLess, isEqual) := match int? a, int? b with
    | some a, some b => (decide (a < b), decide (a = b))
    | _, _ => (decide (String.ofList a < String.ofList b), decide (a = b))
  ofBool (match operator with
    | "=" | "==" => isEqual
    | "!=" => !isEqual
    | "<" => isLess
    | "<=" => isLess || isEqual
    | ">" => !isLess && !isEqual
    | _ => !isLess)

def matching (text pattern : Chars) : Chars :=
  match Regex.ofText? false pattern with
  | none => ['0']
  | some r =>
    let isGrouped := ((toText pattern).splitOn "\\(").length > 1
    match r.matchAt false ⟨none, text⟩ with
    | some m =>
      if isGrouped then (m.groups.lookup 1).getD []
      else numeral (text.length - m.rest.length)
    | none => if isGrouped then [] else ['0']

def levels : List (List String) :=
  [["|"], ["&"], ["=", "==", "!=", "<", "<=", ">", ">="], ["+", "-"], ["*", "/", "%"], [":"]]

def combine (operator : String) (a b : Chars) : Except WordError Chars :=
  match operator with
  | "|" => .ok (if isNothing a then (if isNothing b then ['0'] else b) else a)
  | "&" => .ok (if isNothing a || isNothing b then ['0'] else a)
  | ":" => .ok (matching a b)
  | "+" | "-" | "*" | "/" | "%" => compute operator a b
  | _ => .ok (compare operator a b)

mutual

def level (operators : List (List String)) : Nat → Parser Chars
  | 0 => throw .plain
  | fuel + 1 =>
    match operators with
    | [] => operand fuel
    | signs :: tighter => do further signs tighter (← level tighter fuel) fuel

def further (signs : List String) (tighter : List (List String)) (first : Chars) :
    Nat → Parser Chars
  | 0 => throw .plain
  | fuel + 1 => do
    match ← accepts signs with
    | none => return first
    | some sign => further signs tighter (← combine sign first (← level tighter fuel)) fuel

def operand : Nat → Parser Chars
  | 0 => throw .plain
  | fuel + 1 => do
    match toText (← next) with
    | "(" =>
      let value ← level levels fuel
      if (← accepts [")"]).isNone then throw .plain
      return value
    | "length" => return numeral (← operand fuel).length
    | "match" =>
      let text ← operand fuel
      return matching text (← operand fuel)
    | "index" =>
      let text ← operand fuel
      let set ← operand fuel
      return numeral ((text.findIdx? set.contains).elim 0 (· + 1))
    | "substr" =>
      let text ← operand fuel
      let start ← operand fuel
      let length ← operand fuel
      match int? start, int? length with
      | some (.ofNat (start + 1)), some (.ofNat n) => return (text.drop start).take n
      | _, _ => return []
    | word => return ofText word

end

end WordExpression

def expr (words : List Chars) : Act Unit := do
  let result : Except WordError Chars := do
    let (value, rest, _) ← (WordExpression.level WordExpression.levels (16 * words.length + 16)).run
      (words, [])
    match rest with
    | [] => return value
    | word :: _ => throw (.unexpected word)
  if words.isEmpty then misuse "expr" "missing operand" 2
  else
    match result with
    | .ok value =>
      put (value ++ ['\n'])
      answer (if WordExpression.isNothing value then 1 else 0)
    | .error e =>
      complain "expr" e.message
      answer 2

end CompileWorker.Shell.Utility
