import CompileWorker.Shell.Syntax

namespace CompileWorker.Shell

structure CharSet where
  isNegated : Bool := false
  ranges : List (Char × Char)
  deriving DecidableEq, Repr

namespace CharSet

def contains (s : CharSet) (c : Char) : Bool :=
  s.isNegated != s.ranges.any fun (first, last) ↦ first ≤ c && c ≤ last

def blanks : List (Char × Char) := [(' ', ' '), ('\t', '\t')]

def letters : List (Char × Char) := [('A', 'Z'), ('a', 'z')]

def digits : List (Char × Char) := [('0', '9')]

def class? (name : String) : Option (List (Char × Char)) :=
  match name with
  | "alnum" => some (digits ++ letters)
  | "alpha" => some letters
  | "blank" => some blanks
  | "cntrl" => some [('\x00', '\x1f'), ('\x7f', '\x7f')]
  | "digit" => some digits
  | "graph" => some [('!', '~')]
  | "lower" => some [('a', 'z')]
  | "print" => some [(' ', '~')]
  | "punct" => some [('!', '/'), (':', '@'), ('[', '\x60'), ('\x7b', '~')]
  | "space" => some [('\t', '\r'), (' ', ' ')]
  | "upper" => some [('A', 'Z')]
  | "xdigit" => some [('0', '9'), ('A', 'F'), ('a', 'f')]
  | _ => none

abbrev Mark := Char × Bool

def readClass (text : List Mark) : Option (List (Char × Char) × List Mark) := do
  let name := (text.map (·.1)).takeWhile Char.isAlpha
  match text.drop name.length with
  | (':', _) :: (']', _) :: rest => return (← class? (String.ofList name), rest)
  | _ => none

def readRanges (isFirst : Bool) : Nat → List Mark → Option (List (Char × Char) × List Mark)
  | 0, _ => none
  | fuel + 1, text =>
    match text with
    | [] => none
    | (c, isHidden) :: rest =>
      if c = ']' ∧ !isHidden ∧ !isFirst then some ([], rest)
      else
        let named := if c = '[' ∧ !isHidden then
            match rest with
            | (':', _) :: rest => readClass rest
            | _ => none
          else none
        match named with
        | some (ranges, rest) => do
          let (others, rest) ← readRanges false fuel rest
          return (ranges ++ others, rest)
        | none =>
          match rest with
          | ('-', false) :: (last, isHidden) :: rest' =>
            if last = ']' ∧ !isHidden then do
              let (others, rest) ← readRanges false fuel rest
              return ((c, c) :: others, rest)
            else do
              let (others, rest) ← readRanges false fuel rest'
              return ((c, last) :: others, rest)
          | _ => do
            let (others, rest) ← readRanges false fuel rest
            return ((c, c) :: others, rest)

def read (negation : Char) (text : List Mark) : Option (CharSet × List Mark) := do
  match text with
  | (c, false) :: rest =>
    if c = negation then
      let (ranges, rest) ← readRanges true (rest.length + 1) rest
      return ({ isNegated := true, ranges }, rest)
  | _ => pure ()
  let (ranges, rest) ← readRanges true (text.length + 1) text
  return ({ ranges }, rest)

end CharSet

end CompileWorker.Shell
