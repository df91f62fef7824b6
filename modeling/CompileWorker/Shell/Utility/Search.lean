import CompileWorker.Shell.Regex
import CompileWorker.Shell.Utility.Basic

namespace CompileWorker.Shell.Utility

open Act

structure Query where
  expressions : List Regex
  isLoose : Bool
  isWhole : Bool
  isWord : Bool

namespace Query

def find (q : Query) (before : Option Char) (text : Chars) : Option (Chars × Chars × Chars) :=
  let found := q.expressions.filterMap fun r ↦
    (r.find q.isLoose before text).map fun (skipped, m) ↦
      let rest := text.drop skipped.length
      (skipped, rest.take (rest.length - m.rest.length), m.rest)
  found.foldl (fun best next ↦
    match best with
    | none => some next
    | some b =>
      if next.1.length < b.1.length ||
          (next.1.length = b.1.length && b.2.1.length < next.2.1.length) then
        some next
      else best) none

def anchored (q : Query) : Query :=
  if q.isWhole then
    { q with expressions := q.expressions.map fun r ↦ .sequence .atStart (.sequence r .atEnd) }
  else if q.isWord then
    { q with expressions := q.expressions.map fun r ↦
      .sequence .atBoundary (.sequence r .atBoundary) }
  else q

def holds (q : Query) (line : Chars) : Bool := (q.find none line).isSome

def matchesIn (q : Query) : Nat → Option Char → Chars → List Chars
  | 0, _, _ => []
  | fuel + 1, before, text =>
    match q.find before text with
    | none => []
    | some (skipped, found, rest) =>
      if found.isEmpty then
        match rest with
        | [] => []
        | c :: rest => q.matchesIn fuel (some c) rest
      else found :: q.matchesIn fuel ((skipped ++ found).getLast?) rest

end Query

def splitLines (text : Chars) : List Chars := text.splitOnP (· = '\n')

def search (name : String) (isExtended isLiteral : Bool) (words : List Chars) : Act Unit := do
  let o := Options.read "qvcinyoEFGxwlLhHsa" "efm" words
  if let some fault := o.fault then
    complain name fault.message
    say (ofText "Usage: grep [OPTION]... PATTERNS [FILE]...")
    say (ofText "Try 'grep --help' for more information.")
    return ← answer 2
  if (o.value? 'm').any fun n ↦ (nat? n).isNone then
    complain name "invalid max count"
    return ← answer 2
  let isExtended := isExtended || o.has 'E'
  let isLiteral := isLiteral || o.has 'F'
  let given := o.given.filter (·.1 = 'e') |>.map (·.2)
  let (patterns, paths) :=
    if given.isEmpty then (o.operands.take 1, o.operands.drop 1) else (given, o.operands)
  if patterns.isEmpty then
    say (ofText "Usage: grep [OPTION]... PATTERNS [FILE]...")
    say (ofText "Try 'grep --help' for more information.")
    return ← answer 2
  let expressions := (patterns.flatMap splitLines).mapM fun p ↦
    if isLiteral then some (Regex.ofLiteral p) else Regex.ofText? isExtended p
  match expressions with
  | none =>
    complain name "Invalid regular expression"
    answer 2
  | some expressions =>
    let isLoose := o.has 'i' || o.has 'y'
    let q := ({ expressions, isLoose, isWhole := o.has 'x', isWord := o.has 'w' } : Query).anchored
    let isNamed := (1 < paths.length || o.has 'H') && !o.has 'h'
    let most := (o.value? 'm').bind nat?
    let mut isFound := false
    let mut isFaulty := false
    for path in if paths.isEmpty then [['-']] else paths do
      let label := if path = ['-'] then ofText "(standard input)" else path
      let lead := if isNamed then label ++ [':'] else []
      let body : Act Nat := look q o lead most patience 1 0
      let count ← if path = ['-'] then some <$> body
        else
          let refuse (e : SystemError) : Act Unit :=
            if o.has 's' then pure () else complain name (toText path ++ ": " ++ describe e)
          match ← openFor path refuse with
          | some channel => some <$> withInput channel body
          | none => pure none
      match count with
      | none => isFaulty := true
      | some n =>
        if 0 < n then isFound := true
        put (if o.has 'q' then []
          else if o.has 'l' || o.has 'L' then
            (if o.has 'l' = decide (0 < n) then label ++ ['\n'] else [])
          else if o.has 'c' then lead ++ numeral n ++ ['\n']
          else [])
    answer (if isFaulty && !(o.has 'q' && isFound) then 2 else if isFound then 0 else 1)
where
  look (q : Query) (o : Options) (lead : Chars) (most : Option Nat) : Nat → Nat → Nat → Act Nat
    | 0, _, count => return count
    | fuel + 1, number, count => do
      if most = some count then return count
      match ← readLine 0 with
      | none | some [] => return count
      | some line =>
        let text := (splitEnd line).1
        if q.holds text = o.has 'v' then look q o lead most fuel (number + 1) count
        else
          let full := lead ++ if o.has 'n' then numeral number ++ [':'] else []
          if o.has 'q' || (o.has 'l' && !o.has 'c') then return count + 1
          if o.has 'c' || o.has 'L' then pure ()
          else if o.has 'o' then
            if !o.has 'v' then
              for found in q.matchesIn (text.length + 1) none text do put (full ++ found ++ ['\n'])
          else put (full ++ text ++ ['\n'])
          look q o lead most fuel (number + 1) (count + 1)

end CompileWorker.Shell.Utility
