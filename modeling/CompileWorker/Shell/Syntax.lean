namespace CompileWorker.Shell

abbrev Chars := List Char

def ofBytes (bytes : List UInt8) : Chars := bytes.map fun b ↦ Char.ofNat b.toNat

def toBytes (text : Chars) : List UInt8 := text.map fun c ↦ c.toNat.toUInt8

inductive Fallback
  | substitute
  | assign
  | refuse
  | replace
  deriving DecidableEq, Repr

inductive Opening
  | read
  | write
  | replace
  | append
  deriving DecidableEq, Repr

mutual

/-- A part of a word. What is quoted is neither cut into fields nor read as a pattern. -/
inductive Part
  | text (isQuoted : Bool) (text : Chars)
  | parameter (isQuoted : Bool) (name : Chars) (use : Use)
  | output (isQuoted : Bool) (command : Command)
  | arithmetic (isQuoted : Bool) (expression : List Part)

inductive Use
  | value
  | length
  /-- a word instead, where the parameter is not set, or is empty and an empty value counts as not
  set -/
  | fallback (kind : Fallback) (orEmpty : Bool) (word : List Part)
  | trim (atEnd isLongest : Bool) (pattern : List Part)
  | unknown

inductive Target
  | file (opening : Opening) (path : List Part)
  | stream (number : List Part)
  | text (content : List Part)

inductive Redirection
  | mk (stream : Nat) (target : Target)

inductive Command
  | simple (line : Nat) (assignments : List (Chars × List Part)) (words : List (List Part))
      (redirections : List Redirection)
  | sequence (commands : List Command)
  | pipeline (commands : List Command)
  | negation (command : Command)
  | both (first second : Command)
  | either (first second : Command)
  | background (command : Command)
  | subshell (body : Command)
  | choice (condition body otherwise : Command)
  | loop (isUntil : Bool) (condition body : Command)
  /-- once for every field of some words; without words, for every argument -/
  | each (line : Nat) (name : Chars) (words : Option (List (List Part))) (body : Command)
  | case (line : Nat) (subject : List Part) (arms : List (List (List Part) × Command))
  | define (name : Chars) (body : Command)
  | redirected (line : Nat) (command : Command) (redirections : List Redirection)

end

abbrev Word := List Part

instance : Inhabited Command := ⟨.sequence []⟩

end CompileWorker.Shell
