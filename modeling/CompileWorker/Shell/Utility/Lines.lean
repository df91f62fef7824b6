import CompileWorker.Shell.Utility.Basic

namespace CompileWorker.Shell.Utility

open Act

def cat (words : List Chars) : Act Unit :=
  withOptions "cat" "unbesAETv" "" words fun o ↦ do
    let mut number := (0, true)
    let mut status := 0
    for path in if o.operands.isEmpty then [['-']] else o.operands do
      let body (number : Nat × Bool) : Act (Nat × Bool) := copy (o.has 'n') patience number
      if path = ['-'] then
        if (← channel? 0).isNone then
          complain "cat" "-: Bad file descriptor"
          status := 1
        else number ← body number
      else
        match ← openFor path (blame "cat" path) with
        | some channel => number ← withInput channel (body number)
        | none => status := 1
    if (← channel? 1).isNone then
      complain "cat" "standard output: Bad file descriptor"
      status := 1
    answer status
where
  copy (isNumbered : Bool) : Nat → Nat × Bool → Act (Nat × Bool)
    | 0, last => return last
    | fuel + 1, (number, isEnded) => do
      match ← readLine 0 with
      | none | some [] => return (number, isEnded)
      | some line =>
        let lead := if isNumbered && isEnded then padLeft 6 (numeral (number + 1)) ++ ['\t'] else []
        put (lead ++ line)
        copy isNumbered fuel (if isEnded then number + 1 else number, line.getLast? = some '\n')

def readCount (text : Chars) : Option (Option Char × Nat) :=
  match text with
  | '-' :: digits => (nat? digits).map (some '-', ·)
  | '+' :: digits => (nat? digits).map (some '+', ·)
  | digits => (nat? digits).map (none, ·)

def withHeadings (paths : List Chars) (path : Chars) (isFirst : Bool) (body : Act Unit) :
    Act Unit := do
  if 1 < paths.length then
    let name := if path = ['-'] then ofText "standard input" else path
    put ((if isFirst then [] else ['\n']) ++ ofText "==> " ++ name ++ ofText " <==\n")
  body

def copyCharacters : Nat → Nat → Act Unit
  | 0, _ => pure ()
  | fuel + 1, n => do
    if 0 < n then
      match ← readLine 0 with
      | none | some [] => pure ()
      | some line =>
        put (line.take n)
        copyCharacters fuel (n - line.length)

def copyLines : Nat → Act Unit
  | 0 => pure ()
  | n + 1 => do
    match ← readLine 0 with
    | none | some [] => pure ()
    | some line =>
      put line
      copyLines n

/-- The words of a program in which a count may stand as an option of its own. -/
def withCount (letter : Char) : List Chars → List Chars
  | ('-' :: d :: digits) :: rest =>
    if d.isDigit then ['-', letter] :: (d :: digits) :: rest else ('-' :: d :: digits) :: rest
  | words => words

def eachHeaded (name : String) (paths : List Chars) (body : Act Unit) : Act Unit := do
  let mut status := 0
  let mut isFirst := true
  for path in if paths.isEmpty then [['-']] else paths do
    if path = ['-'] then
      withHeadings paths path isFirst body
      isFirst := false
    else
      let refuse (e : SystemError) : Act Unit :=
        if e = .isADirectory then
          complain name ("error reading " ++ quoted path ++ ": " ++ describe e)
        else complain name ("cannot open " ++ quoted path ++ " for reading: " ++ describe e)
      match ← openFor path refuse with
      | some channel =>
        withHeadings paths path isFirst (withInput channel body)
        isFirst := false
      | none => status := 1
  answer status

def head (words : List Chars) : Act Unit :=
  withOptions "head" "qvz" "nc" (withCount 'n' words) fun o ↦ do
    match o.value? 'c', o.value? 'n' with
    | some text, _ =>
      match readCount text with
      | some (some '-', n) => eachHeaded "head" o.operands do
          let text := (← readAll 0).flatten
          put (text.take (text.length - n))
      | some (_, n) => eachHeaded "head" o.operands (copyCharacters patience n)
      | none =>
        complain "head" ("invalid number of bytes: '" ++ toText text ++ "'")
        answer 1
    | none, text =>
      match readCount (text.getD ['1', '0']) with
      | some (some '-', n) => eachHeaded "head" o.operands do
          let lines ← readAll 0
          put (lines.take (lines.length - n)).flatten
      | some (_, n) => eachHeaded "head" o.operands (copyLines n)
      | none =>
        complain "head" ("invalid number of lines: '" ++ toText (text.getD []) ++ "'")
        answer 1

def tail (words : List Chars) : Act Unit :=
  withOptions "tail" "qvfz" "nc" (withCount 'n' words) fun o ↦ do
    match o.value? 'c', o.value? 'n' with
    | some text, _ =>
      match readCount text with
      | some (sign, n) => eachHeaded "tail" o.operands do
          let text := (← readAll 0).flatten
          put (text.drop (if sign = some '+' then n - 1 else text.length - n))
      | none =>
        complain "tail" ("invalid number of bytes: '" ++ toText text ++ "'")
        answer 1
    | none, text =>
      match readCount (text.getD ['1', '0']) with
      | some (sign, n) => eachHeaded "tail" o.operands do
          let lines ← readAll 0
          put (lines.drop (if sign = some '+' then n - 1 else lines.length - n)).flatten
      | none =>
        complain "tail" ("invalid number of lines: '" ++ toText (text.getD []) ++ "'")
        answer 1

structure Counts where
  lines : Nat := 0
  words : Nat := 0
  characters : Nat := 0
  bytes : Nat := 0

namespace Counts

def add (a b : Counts) : Counts :=
  ⟨a.lines + b.lines, a.words + b.words, a.characters + b.characters, a.bytes + b.bytes⟩

def isSpace (c : Char) : Bool := c = ' ' || ('\t' ≤ c && c ≤ '\r')

def ofText (text : Chars) : Counts :=
  { lines := text.count '\n'
    words := (text.splitOnP isSpace).countP (!·.isEmpty)
    characters := text.length
    bytes := text.length }

def shown (o : Options) (c : Counts) : List Nat :=
  let all := !(o.has 'l' || o.has 'w' || o.has 'c' || o.has 'm')
  (if all || o.has 'l' then [c.lines] else []) ++ (if all || o.has 'w' then [c.words] else []) ++
    (if o.has 'm' then [c.characters] else []) ++ (if all || o.has 'c' then [c.bytes] else [])

end Counts

def wc (words : List Chars) : Act Unit :=
  withOptions "wc" "lwcm" "" words fun o ↦ do
    let mut rows : List (Counts × Chars) := []
    let mut status := 0
    let mut isStream := false
    for path in if o.operands.isEmpty then [['-']] else o.operands do
      if path = ['-'] then
        isStream := isStream || !((← channel? 0).any fun | .port (.text _) => true | _ => false)
        rows := rows ++
          [(Counts.ofText (← readAll 0).flatten, if o.operands.isEmpty then [] else path)]
      else
        match ← openFor path (blame "wc" path) with
        | some channel =>
          rows := rows ++ [(Counts.ofText (← withInput channel (readAll 0)).flatten, path)]
        | none =>
          status := 1
          if (← node? path).toOption = some .directory then
            isStream := true
            rows := rows ++ [(({} : Counts), path)]
    let total := rows.foldl (fun total row ↦ total.add row.1) ({} : Counts)
    let width := if rows.length ≤ 1 && (Counts.shown o {}).length = 1 && status = 0 then 1
      else if isStream then 7 else (numeral total.bytes).length
    if 1 < o.operands.length then rows := rows ++ [(total, ofText "total")]
    for (counts, name) in rows do
      let numbers := (Counts.shown o counts).map fun n ↦ padLeft width (numeral n)
      put (List.intercalate [' '] numbers ++ (if name.isEmpty then [] else ' ' :: name) ++ ['\n'])
    answer status

def ended (line : Chars) : Chars := (splitEnd line).1 ++ ['\n']

def linesOf (refuse : Chars → SystemError → Act Unit) (paths : List Chars) :
    Act (Option (List Chars)) := do
  let mut lines := []
  for path in if paths.isEmpty then [['-']] else paths do
    if path = ['-'] then lines := lines ++ (← readAll 0)
    else
      match ← openFor path (refuse path) with
      | some channel => lines := lines ++ (← withInput channel (readAll 0))
      | none => return none
  return some (lines.map fun line ↦ (splitEnd line).1)

/-- The number that a line begins with, in tenths to the power of `places`. -/
def leadingNumber (text : Chars) : Int :=
  let text := text.dropWhile fun c ↦ c = ' ' || c = '\t'
  let isNegative := text.head? = some '-'
  let text := if isNegative then text.drop 1 else text
  let whole := text.takeWhile Char.isDigit
  let places := match text.drop whole.length with
    | '.' :: rest => (rest.takeWhile Char.isDigit).take 9
    | _ => []
  let n : Int := Numeral.value 10 (whole ++ places ++ List.replicate (9 - places.length) '0')
  if isNegative then -n else n

def isBefore (a b : Chars) : Bool := decide (String.ofList a < String.ofList b)

def sortFields (separator : Option Char) (line : Chars) : List Chars :=
  match separator with
  | some c => line.splitOnP (· = c)
  | none => (split (line.length + 1) line)
where
  split : Nat → Chars → List Chars
    | 0, _ => []
    | fuel + 1, line =>
      let isBlank (c : Char) : Bool := c = ' ' || c = '\t'
      let blanks := line.takeWhile isBlank
      let field := (line.drop blanks.length).takeWhile fun c ↦ !isBlank c
      let rest := line.drop (blanks.length + field.length)
      if rest.isEmpty then [blanks ++ field] else (blanks ++ field) :: split fuel rest

/-- The part of a line that it is sorted by: from a field up to another. -/
def sortKey (separator : Option Char) (first : Nat) (last : Option Nat) (line : Chars) : Chars :=
  let fields := (sortFields separator line).drop (first - 1)
  let fields := match last with
    | some last => fields.take (last + 1 - first)
    | none => fields
  List.intercalate separator.toList fields

def sort (words : List Chars) : Act Unit :=
  withOptions "sort" "nrufbs" "kto" words fun o ↦ do
    let refuse (path : Chars) (e : SystemError) : Act Unit :=
      complain "sort" ("cannot read: " ++ shown path ++ ": " ++ describe e)
    let some lines ← linesOf refuse o.operands | answer 2
    let separator := (o.value? 't').bind List.head?
    let key (line : Chars) : Chars :=
      match o.value? 'k' with
      | none => line
      | some text =>
        let first := text.takeWhile Char.isDigit
        let last := ((text.dropWhile (· ≠ ',')).drop 1).takeWhile Char.isDigit
        sortKey separator (Numeral.value 10 first)
          (if last.isEmpty then none else some (Numeral.value 10 last)) line
    let letters := (o.value? 'k').getD []
    let isNumeric := o.has 'n' || letters.contains 'n'
    let isReversed := o.has 'r' || letters.contains 'r'
    let fold (text : Chars) : Chars := if o.has 'f' then text.map Char.toUpper else text
    let precedes (a b : Chars) : Bool :=
      if isNumeric then leadingNumber (key a) < leadingNumber (key b)
      else isBefore (fold (key a)) (fold (key b))
    let isLast (a b : Chars) : Bool := !o.has 'u' && !o.has 's' && isBefore a b
    let order (a b : Chars) : Bool :=
      let (a, b) := if isReversed then (b, a) else (a, b)
      precedes a b || (!precedes b a && !(isLast b a))
    let sorted := lines.mergeSort order
    let sorted := if o.has 'u' then
        sorted.foldr (fun line kept ↦
          match kept with
          | next :: kept' =>
            if precedes line next || precedes next line then line :: kept else line :: kept'
          | [] => [line]) []
      else sorted
    let text := sorted.flatMap (· ++ ['\n'])
    match o.value? 'o' with
    | none => put text
    | some path =>
      match ← openPath .write path with
      | .ok channel => let _ ← writeTo channel text
      | .error e => complain "sort" ("open failed: " ++ shown path ++ ": " ++ describe e)
    answer 0

def uniq (words : List Chars) : Act Unit :=
  withOptions "uniq" "cdui" "" words fun o ↦ do
    let some lines ← linesOf (blame "uniq") (o.operands.take 1) | answer 1
    let runs := lines.foldr (fun line runs ↦
      match runs with
      | (n, same) :: others => if same = line then (n + 1, line) :: others else (1, line) :: runs
      | [] => [(1, line)]) ([] : List (Nat × Chars))
    for (n, line) in runs do
      if (!o.has 'd' || 1 < n) && (!o.has 'u' || n = 1) then
        put ((if o.has 'c' then padLeft 7 (numeral n) ++ [' '] else []) ++ line ++ ['\n'])
    answer 0

def tac (words : List Chars) : Act Unit :=
  let refuse (path : Chars) (e : SystemError) : Act Unit :=
    complain "tac" ("failed to open " ++ quoted path ++ " for reading: " ++ describe e)
  eachInputOr refuse "tac" words fun _ ↦ do put (← readAll 0).reverse.flatten

def rev (words : List Chars) : Act Unit :=
  let refuse (path : Chars) (e : SystemError) : Act Unit :=
    complain "rev" ("cannot open " ++ toText path ++ ": " ++ describe e)
  eachInputOr refuse "rev" words fun _ ↦ lines fun line ↦
    let (text, ending) := splitEnd line
    put (text.reverse ++ ending)

def tee (words : List Chars) : Act Unit :=
  withOptions "tee" "ai" "" words fun o ↦ do
    let mut channels := []
    let mut status := 0
    for path in o.operands do
      match ← openPath (if o.has 'a' then .append else .write) path with
      | .ok channel => channels := channel :: channels
      | .error e =>
        blame "tee" path e
        status := 1
    let targets := channels.reverse
    lines fun line ↦ do
      put line
      for channel in targets do
        let _ ← writeTo channel line
    answer status

/-- Reads ranges of numbers between commas; an end that is open is none. -/
def readRanges (text : Chars) : Option (List (Nat × Option Nat)) :=
  (text.splitOnP (· = ',')).mapM fun range ↦
    let first := range.takeWhile Char.isDigit
    match range.drop first.length with
    | [] =>
      if first.isEmpty then none
      else some (Numeral.value 10 first, some (Numeral.value 10 first))
    | '-' :: last =>
      if first.isEmpty && last.isEmpty then none
      else
        let start := if first.isEmpty then 1 else Numeral.value 10 first
        if last.isEmpty then some (start, none) else (nat? last).map fun last ↦ (start, some last)
    | _ => none

def isAmong (ranges : List (Nat × Option Nat)) (n : Nat) : Bool :=
  ranges.any fun (first, last) ↦ first ≤ n && last.all (n ≤ ·)

/-- The items of a list at some places, of which the first is one. -/
def pick {α : Type} (ranges : List (Nat × Option Nat)) (items : List α) : List α :=
  ((items.zipIdx 1).filter fun (_, n) ↦ isAmong ranges n).map (·.1)

def cut (words : List Chars) : Act Unit :=
  withOptions "cut" "sn" "dfbc" words fun o ↦ do
    if let some (_ :: _ :: _) := o.value? 'd' then
      return ← misuse "cut" "the delimiter must be a single character" 1
    let separator := ((o.value? 'd').bind List.head?).getD '\t'
    match o.value? 'f', o.value? 'c' <|> o.value? 'b' with
    | some text, _ =>
      match readRanges text with
      | none => misuse "cut" ("invalid field value '" ++ toText text ++ "'") 1
      | some ranges =>
        eachInput "cut" o.operands fun _ ↦ lines fun line ↦ do
          let text := (splitEnd line).1
          if text.contains separator then
            put (List.intercalate [separator] (pick ranges (text.splitOnP (· = separator))) ++
              ['\n'])
          else if !o.has 's' then put (text ++ ['\n'])
    | none, some text =>
      match readRanges text with
      | none => misuse "cut" ("invalid byte or character range '" ++ toText text ++ "'") 1
      | some ranges =>
        eachInput "cut" o.operands fun _ ↦ lines fun line ↦
          put (pick ranges (splitEnd line).1 ++ ['\n'])
    | none, none => misuse "cut" "you must specify a list of bytes, characters, or fields" 1

def paste (words : List Chars) : Act Unit :=
  withOptions "paste" "s" "d" words fun o ↦ do
    let separator := ((o.value? 'd').bind List.head?).getD '\t'
    if o.has 's' then
      eachInput "paste" o.operands fun _ ↦ do
        let lines := (← readAll 0).map fun line ↦ (splitEnd line).1
        put (List.intercalate [separator] lines ++ ['\n'])
    else
      let mut columns : List (List Chars) := []
      for path in if o.operands.isEmpty then [['-']] else o.operands do
        let some lines ← linesOf (blame "paste") [path] | return ← answer 1
        columns := columns ++ [lines]
      let height := columns.foldl (fun n column ↦ max n column.length) 0
      for i in List.range height do
        put (List.intercalate [separator] (columns.map fun column ↦ column[i]?.getD []) ++ ['\n'])
      answer 0

/-- The characters that a set of a translation lists, with its ranges and classes written out. -/
def listCharacters : Nat → Chars → Chars
  | 0, _ => []
  | fuel + 1, text =>
    let next (text : Chars) : Option (Char × Chars) :=
      match text with
      | [] => none
      | '\\' :: rest =>
        some <| (Format.escaped? rest).getD (rest.head?.getD '\\', rest.drop 1)
      | c :: rest => some (c, rest)
    let range (first last : Char) : Chars :=
      (List.range (last.toNat + 1 - first.toNat)).map fun i ↦ Char.ofNat (first.toNat + i)
    match text with
    | '[' :: ':' :: rest =>
      let name := rest.takeWhile Char.isAlpha
      match CharSet.class? (String.ofList name), rest.drop name.length with
      | some ranges, ':' :: ']' :: rest =>
        ranges.flatMap (fun (a, b) ↦ range a b) ++ listCharacters fuel rest
      | _, _ => '[' :: listCharacters fuel (':' :: rest)
    | _ =>
      match next text with
      | none => []
      | some (c, '-' :: rest) =>
        match next rest with
        | some (last, rest) => range c last ++ listCharacters fuel rest
        | none => [c, '-']
      | some (c, rest) => c :: listCharacters fuel rest

def charactersOf (text : Chars) : Chars := listCharacters (text.length + 1) text

def squeeze (set : Char → Bool) : Option Char → Chars → Chars
  | _, [] => []
  | before, c :: rest =>
    if before = some c && set c then squeeze set before rest else c :: squeeze set (some c) rest

/-- The character that stands for another: at the same place in the second list, or its last one. -/
def translated (isComplement : Bool) (first second : Chars) (c : Char) : Char :=
  let last := second.getLast?.getD c
  if isComplement then (if first.contains c then c else last)
  else
    match first.reverse.findIdx? (· = c) with
    | some i => (second[first.length - 1 - i]?).getD last
    | none => c

def tr (words : List Chars) : Act Unit :=
  let isOption (word : Chars) : Bool :=
    1 < word.length && word.head? = some '-' && word ≠ ['-', '-']
  let options := words.takeWhile isOption
  let operands := words.drop options.length
  let operands := if operands.head? = some ['-', '-'] then operands.drop 1 else operands
  withOptions "tr" "cCdst" "" (options ++ ['-', '-'] :: operands) fun o ↦ do
    let isComplement := o.has 'c' || o.has 'C'
    let inSet (set : Chars) (c : Char) : Bool := set.contains c != isComplement
    let each (f : Chars → Chars) : Act Unit := do
      lines fun line ↦ put (f line)
      answer 0
    match o.operands with
    | [] => misuse "tr" "missing operand" 1
    | [first] =>
      let set := charactersOf first
      if o.has 'd' then each (·.filter (!inSet set ·))
      else if o.has 's' then each (squeeze (inSet set) none)
      else
        complain "tr" ("missing operand after '" ++ toText first ++ "'")
        say (ofText "Two strings must be given when translating.")
        say (ofText "Try 'tr --help' for more information.")
        answer 1
    | _ :: _ :: third :: _ => misuse "tr" ("extra operand " ++ quoted third) 1
    | [first, given] =>
      let set := charactersOf first
      let second := charactersOf given
      if o.has 'd' && !o.has 's' then
        complain "tr" ("extra operand " ++ quoted given)
        say (ofText "Only one string may be given when deleting without squeezing repeats.")
        say (ofText "Try 'tr --help' for more information.")
        answer 1
      else if o.has 'd' then
        each fun line ↦ squeeze second.contains none (line.filter (!inSet set ·))
      else
        let map (line : Chars) : Chars := line.map (translated isComplement set second)
        each fun line ↦ if o.has 's' then squeeze second.contains none (map line) else map line

end CompileWorker.Shell.Utility
