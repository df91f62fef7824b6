import CompileWorker.Shell.State
import CompileWorker.Shell.Arithmetic

namespace CompileWorker.Shell.Condition

/-- Whether an operator stands before an operand, between two, or between conditions. -/
inductive Place
  | before
  | between
  | joining
  deriving DecidableEq, Repr

def place? (word : Chars) : Option Place :=
  let word := String.ofList word
  if ["-n", "-z", "-t", "-b", "-c", "-d", "-e", "-f", "-g", "-h", "-k", "-L", "-p", "-r", "-s",
      "-S", "-u", "-w", "-x", "-O", "-G"].contains word then
    some .before
  else if ["=", "!=", "<", ">", "-eq", "-ne", "-gt", "-ge", "-lt", "-le", "-nt", "-ot",
      "-ef"].contains word then
    some .between
  else if ["!", "-a", "-o", "(", ")"].contains word then some .joining
  else none

def holdsOf (letter : Char) (node : Option FileNode) : Bool :=
  match letter, node with
  | _, none => false
  | 'e', _ | 'r', _ | 'w', _ | 'O', _ | 'G', _ => true
  | 'f', some (.file _) => true
  | 's', some (.file content) => !content.isEmpty
  | 'd', some .directory | 'x', some .directory | 's', some .directory => true
  | _, _ => false

abbrev Check := StateT (List Chars) (Except Chars)

def problem (word : Chars) (text : String) : Chars :=
  if word.isEmpty then text.toList else word ++ ": ".toList ++ text.toList

def refuse {α : Type} (word : Chars) (text : String) : Check α := throw (problem word text)

def number (text : Chars) : Check Int :=
  match Numeral.decimal? text with
  | some n => pure n
  | none => throw ("Illegal number: ".toList ++ text)

def compare (operator : Chars) (a b : Chars) : Check Bool := do
  match String.ofList operator with
  | "=" => return a = b
  | "!=" => return a ≠ b
  | "<" => return decide (String.ofList a < String.ofList b)
  | ">" => return decide (String.ofList b < String.ofList a)
  | "-eq" => return (← number a) = (← number b)
  | "-ne" => return (← number a) ≠ (← number b)
  | "-gt" => return (← number b) < (← number a)
  | "-ge" => return (← number b) ≤ (← number a)
  | "-lt" => return (← number a) < (← number b)
  | "-le" => return (← number a) ≤ (← number b)
  | _ => return false

/-- A word that is an operator where it stands. One before an operand is a plain word if nothing
follows it, or if an operator between operands does. -/
def operator? : List Chars → Option (Chars × Place)
  | [] => none
  | word :: rest =>
    match place? word with
    | some .before =>
      match rest with
      | [] => none
      | [_] => some (word, .before)
      | next :: _ => if place? next = some Place.between then none else some (word, .before)
    | some place => if word = ['('] ∧ rest.isEmpty then none else some (word, place)
    | none => none

variable (find : Chars → Option FileNode)

mutual

def anyOf : Nat → Check Bool
  | 0 => throw []
  | fuel + 1 => do
    let first ← allOf fuel
    if (← get).head? = some ['-', 'o'] then
      set ((← get).drop 1)
      let others ← anyOf fuel
      return first || others
    return first

def allOf : Nat → Check Bool
  | 0 => throw []
  | fuel + 1 => do
    let first ← single fuel
    if (← get).head? = some ['-', 'a'] then
      set ((← get).drop 1)
      let others ← allOf fuel
      return first && others
    return first

def single : Nat → Check Bool
  | 0 => throw []
  | fuel + 1 => do
    let words ← get
    match words, operator? words with
    | [], _ => return false
    | _ :: rest, some (['!'], _) =>
      set rest
      return !(← single fuel)
    | _ :: rest, some (['('], _) =>
      if rest.head? = some [')'] then
        set (rest.drop 1)
        return false
      set rest
      let holds ← anyOf fuel
      if (← get).head? ≠ some [')'] then throw "closing paren expected".toList
      set ((← get).drop 1)
      return holds
    | _ :: operand :: rest, some (operator, .before) =>
      set rest
      match String.ofList operator with
      | "-n" => return !operand.isEmpty
      | "-z" => return operand.isEmpty
      | "-t" => return false
      | _ => return holdsOf ((operator.drop 1).head?.getD ' ') (find operand)
    | word :: rest, _ =>
      match rest with
      | operator :: others =>
        if place? operator = some Place.between then
          match others with
          | [] => refuse operator "argument expected"
          | operand :: others =>
            set others
            compare operator word operand
        else
          set rest
          return !word.isEmpty
      | [] =>
        set rest
        return !word.isEmpty

end

def holds (words : List Chars) : Except Chars Bool := do
  let (negated, words) := match words with
    | [['!'], a, operator, b] =>
      if place? operator = some Place.between then (true, [a, operator, b]) else (false, words)
    | _ => (false, words)
  match words with
  | [] => return false
  | [a, operator, b] =>
    if place? operator = some Place.between then
      let (holds, _) ← (compare operator a b).run []
      return holds != negated
  | _ => pure ()
  let (holds, rest) ← (anyOf find (4 * words.length + 8)).run words
  if rest.isEmpty then return holds
  throw (problem ((words.take (words.length - rest.length)).getLast?.getD []) "unexpected operator")

end CompileWorker.Shell.Condition
