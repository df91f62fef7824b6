import CompileWorker.Numeral.Double
import CompileWorker.Shell.Arithmetic

namespace CompileWorker.Shell.Format

def escape? (letter : Char) : Option Char :=
  match letter with
  | 'a' => some '\x07'
  | 'b' => some '\x08'
  | 'e' => some '\x1b'
  | 'f' => some '\x0c'
  | 'n' => some '\n'
  | 'r' => some '\r'
  | 't' => some '\t'
  | 'v' => some '\x0b'
  | '\\' => some '\\'
  | _ => none

def isOctal (c : Char) : Bool := '0' ≤ c && c ≤ '7'

def ofOctal (digits : Chars) : Char := Char.ofNat (Numeral.value 8 digits % 256)

def escaped? (text : Chars) : Option (Char × Chars) :=
  match (text.take 3).takeWhile isOctal, text with
  | [], [] => none
  | [], letter :: rest => (escape? letter).map (·, rest)
  | digits, text => some (ofOctal digits, text.drop digits.length)

/-- Reads what follows a backslash, which means itself before anything else. -/
def readEscape (text : Chars) : Char × Chars := (escaped? text).getD ('\\', text)

/-- The text meant by an argument with escapes, where a zero may stand before three octal digits,
and whether it ends all output. -/
def unescape : Nat → Chars → Chars × Bool
  | 0, _ => ([], false)
  | fuel + 1, text =>
    match text with
    | [] => ([], false)
    | '\\' :: 'c' :: _ => ([], true)
    | '\\' :: rest =>
      let isMarked := rest.head? = some '0' ∧ (rest.drop 1).head?.any isOctal
      let (meant, rest) := readEscape (if isMarked then rest.drop 1 else rest)
      let (text, isOver) := unescape fuel rest
      (meant :: text, isOver)
    | c :: rest =>
      let (text, isOver) := unescape fuel rest
      (c :: text, isOver)

def echo (arguments : List Chars) : Chars :=
  let (arguments, isOpen) := match arguments with
    | ['-', 'n'] :: rest => (rest, true)
    | _ => (arguments, false)
  let text := List.intercalate [' '] arguments
  let (text, isOver) := unescape (text.length + 1) text
  if isOpen || isOver then text else text ++ ['\n']

structure Layout where
  flags : Chars
  width : Nat := 0
  precision : Option Nat := none

namespace Layout

def pad (l : Layout) (text : Chars) : Chars :=
  let blanks := List.replicate (l.width - text.length) ' '
  if l.flags.contains '-' then text ++ blanks else blanks ++ text

def fill (l : Layout) (isZeroed : Bool) (sign digits : Chars) : Chars :=
  if isZeroed && l.flags.contains '0' && !l.flags.contains '-' then
    sign ++ List.replicate (l.width - sign.length - digits.length) '0' ++ digits
  else l.pad (sign ++ digits)

def sign (l : Layout) (isNegative : Bool) : Chars :=
  if isNegative then ['-'] else if l.flags.contains '+' then ['+']
  else if l.flags.contains ' ' then [' '] else []

def digits (l : Layout) (base n : Nat) : Chars :=
  let digits := if n = 0 ∧ l.precision = some 0 then [] else Nat.toDigits base n
  List.replicate (l.precision.getD 1 - digits.length) '0' ++ digits

def decimal (l : Layout) (n : Int) : Chars :=
  l.fill l.precision.isNone (l.sign (n < 0)) (l.digits 10 n.natAbs)

def natural (l : Layout) (letter : Char) (n : Nat) : Chars :=
  let isMarked := l.flags.contains '#' && n ≠ 0
  match letter with
  | 'o' =>
    let digits := l.digits 8 n
    l.fill l.precision.isNone []
      (if l.flags.contains '#' && digits.head? ≠ some '0' then '0' :: digits else digits)
  | 'x' => l.fill l.precision.isNone (if isMarked then ['0', 'x'] else []) (l.digits 16 n)
  | 'X' => l.fill l.precision.isNone (if isMarked then ['0', 'X'] else [])
      ((l.digits 16 n).map Char.toUpper)
  | _ => l.fill l.precision.isNone [] (l.digits 10 n)

def text (l : Layout) (argument : Chars) : Chars :=
  l.pad (argument.take (l.precision.getD argument.length))

/-- The nearest multiple of a power of ten to a fraction, with so many places behind the point. -/
def fixed (num den places : Nat) : Chars :=
  let digits := Nat.toDigits 10 (Double.roundDiv (num * Nat.pow 10 places) den)
  let digits := List.replicate (places + 1 - digits.length) '0' ++ digits
  let whole := digits.take (digits.length - places)
  if places = 0 then whole else whole ++ '.' :: digits.drop whole.length

/-- The digits of a fraction rounded to so many, and the power of ten of the first. -/
def scientificDigits (num den count : Nat) : Chars × Int :=
  if num = 0 then (List.replicate count '0', 0)
  else
    let scaled (e : Int) : Nat :=
      let shift := (count : Int) - 1 - e
      Double.roundDiv (num * Nat.pow 10 shift.toNat) (den * Nat.pow 10 (-shift).toNat)
    let guess : Int := (Nat.toDigits 10 num).length - (Nat.toDigits 10 den).length
    let e := if (Nat.toDigits 10 (scaled guess)).length < count then guess - 1 else guess
    let digits := Nat.toDigits 10 (scaled e)
    if count < digits.length then (digits.take count, e + 1) else (digits, e)

def exponent (letter : Char) (e : Int) : Chars :=
  let digits := Nat.toDigits 10 e.natAbs
  letter :: (if e < 0 then '-' else '+') :: List.replicate (2 - digits.length) '0' ++ digits

def point (digits : Chars) : Chars :=
  if digits.length ≤ 1 then digits else digits.take 1 ++ '.' :: digits.drop 1

def dropZeros (text : Chars) : Chars :=
  if text.contains '.' then
    let kept := (text.reverse.dropWhile (· = '0')).reverse
    if kept.getLast? = some '.' then kept.dropLast else kept
  else text

def fraction (l : Layout) (letter : Char) (isNegative : Bool) (num den : Nat) : Chars :=
  let places := l.precision.getD 6
  let e := if letter.isUpper then 'E' else 'e'
  let text := match letter.toLower with
    | 'f' => fixed num den places
    | 'e' =>
      let (digits, power) := scientificDigits num den (places + 1)
      point digits ++ exponent e power
    | _ =>
      let count := max places 1
      let (digits, power) := scientificDigits num den count
      let clean (text : Chars) : Chars := if l.flags.contains '#' then text else dropZeros text
      if power < -4 ∨ count ≤ power then clean (point digits) ++ exponent e power
      else clean (fixed num den (count - 1 - power).toNat)
  l.fill true (l.sign isNegative) text

end Layout

inductive Flaw
  | notNumeric
  | notWhole
  | outOfRange
  deriving DecidableEq, Repr

def Flaw.message : Flaw → String
  | notNumeric => "expected numeric value"
  | notWhole => "not completely converted"
  | outOfRange => "Numerical result out of range"

def readNumber (smallest largest : Int) (argument : Chars) : Int × Option Flaw :=
  match argument with
  | [] => (0, none)
  | quote :: rest =>
    if quote = '\'' ∨ quote = '"' then ((rest.head?.map Char.toNat).getD 0, none)
    else
      let text := argument.dropWhile Char.isWhitespace
      let isNegative := text.head? = some '-'
      let digits := if isNegative ∨ text.head? = some '+' then text.drop 1 else text
      match Numeral.read digits with
      | none => (0, some .notNumeric)
      | some (n, rest) =>
        let value : Int := if isNegative then -n else n
        let isWide : Bool :=
          if smallest = 0 then largest < n else value < smallest || largest < value
        let bounded := if isWide then (if isNegative && smallest ≠ 0 then smallest else largest)
          else if value < 0 ∧ smallest = 0 then largest + 1 + value else value
        (bounded,
          if !rest.isEmpty then some .notWhole else if isWide then some .outOfRange else none)

/-- A decimal fraction as digits and a power of ten, and what follows it. -/
def readDecimal (text : Chars) : Option (Nat × Int × Chars) :=
  let whole := text.takeWhile Char.isDigit
  let rest := text.drop whole.length
  let (places, rest) := match rest with
    | '.' :: rest => (rest.takeWhile Char.isDigit, rest.dropWhile Char.isDigit)
    | _ => ([], rest)
  if whole.isEmpty && places.isEmpty then none
  else
    let n := Numeral.value 10 (whole ++ places)
    let scale : Int := -places.length
    match rest with
    | e :: signed =>
      if e = 'e' ∨ e = 'E' then
        let isNegative := signed.head? = some '-'
        let digits := if isNegative ∨ signed.head? = some '+' then signed.drop 1 else signed
        match digits.takeWhile Char.isDigit with
        | [] => some (n, scale, rest)
        | power =>
          let value : Int := Numeral.value 10 power
          some (n, scale + (if isNegative then -value else value), digits.drop power.length)
      else some (n, scale, rest)
    | [] => some (n, scale, [])

/-- The fraction that an argument begins with: its sign, and a numerator over a denominator. None of
these if it is beyond all fractions. -/
def readFraction (argument : Chars) : Bool × Option (Nat × Nat) × Option Flaw :=
  match argument with
  | [] => (false, some (0, 1), none)
  | quote :: rest =>
    if quote = '\'' ∨ quote = '"' then (false, some ((rest.head?.map Char.toNat).getD 0, 1), none)
    else
      let text := argument.dropWhile Char.isWhitespace
      let isNegative := text.head? = some '-'
      let text := if isNegative ∨ text.head? = some '+' then text.drop 1 else text
      match readDecimal text with
      | none => (false, some (0, 1), some .notNumeric)
      | some (n, scale, rest) =>
        let flaw := if rest.isEmpty then none else some Flaw.notWhole
        match Double.ofDecimal n scale with
        | none => (isNegative, none, some .outOfRange)
        | some x =>
          let (m, q) := x.magnitude
          (isNegative, some (m * Nat.pow 2 q.toNat, Nat.pow 2 (-q).toNat), flaw)

structure Progress where
  arguments : List Chars
  written : List Chars := []
  complaints : List Chars := []
  status : Nat := 0

abbrev Writer := ExceptT Unit (StateM Progress)

def put (text : Chars) : Writer Unit := modify fun p ↦ { p with written := text :: p.written }

def argument : Writer Chars := do
  let p ← get
  set { p with arguments := p.arguments.drop 1 }
  return p.arguments.head?.getD []

def complain (text : Chars) (status : Nat) : Writer Unit :=
  modify fun p ↦ { p with complaints := p.complaints ++ [text], status }

def refuse {α : Type} (text : Chars) : Writer α := do
  complain text 2
  throw ()

def report (argument : Chars) : Option Flaw → Writer Unit
  | some flaw => complain (argument ++ (": " ++ flaw.message).toList) 1
  | none => pure ()

def signed : Writer Int := do
  let text ← argument
  let (n, flaw) := readNumber (-Numeral.largest - 1) Numeral.largest text
  report text flaw
  return n

def unsigned : Writer Nat := do
  let text ← argument
  let (n, flaw) := readNumber 0 (Nat.pow 2 64 - 1) text
  report text flaw
  return n.toNat

def width (text : Chars) : Writer (Int × Chars) := do
  match text with
  | '*' :: rest => return (← signed, rest)
  | _ =>
    let digits := text.takeWhile Char.isDigit
    return (Numeral.value 10 digits, text.drop digits.length)

def convert (directive : Chars) (l : Layout) (letter : Char) : Writer Unit := do
  match letter with
  | 's' => put (l.text (← argument))
  | 'b' =>
    let text ← argument
    let (text, isOver) := unescape (text.length + 1) text
    put (l.text text)
    if isOver then throw ()
  | 'c' => put (l.pad [((← argument).head?).getD '\x00'])
  | 'd' | 'i' => put (l.decimal (← signed))
  | 'o' | 'u' | 'x' | 'X' => put (l.natural letter (← unsigned))
  | 'e' | 'E' | 'f' | 'F' | 'g' | 'G' =>
    let text ← argument
    let (isNegative, value, flaw) := readFraction text
    report text flaw
    match value with
    | some (num, den) => put (l.fraction letter isNegative num den)
    | none => put (l.fill false (l.sign isNegative) "inf".toList)
  | _ => refuse (directive ++ ": invalid directive".toList)

def once : Nat → Chars → Writer Unit
  | 0, _ => pure ()
  | fuel + 1, format => do
    match format with
    | [] => pure ()
    | '\\' :: rest =>
      let (meant, rest) := readEscape rest
      put [meant]
      once fuel rest
    | '%' :: '%' :: rest =>
      put ['%']
      once fuel rest
    | '%' :: directive =>
      let rest := directive
      let flags := rest.takeWhile "-+ #0".toList.contains
      let (wide, rest) ← width (rest.drop flags.length)
      let (precision, rest) ← match rest with
        | '.' :: rest => do
          let (n, rest) ← width rest
          pure (if n < 0 then none else some n.toNat, rest)
        | _ => pure (none, rest)
      match rest with
      | [] => refuse "missing format character".toList
      | letter :: rest =>
        let flags := if wide < 0 then '-' :: flags else flags
        let directive := '%' :: directive.take (directive.length - rest.length)
        convert directive { flags, width := wide.natAbs, precision } letter
        once fuel rest
    | c :: rest =>
      put [c]
      once fuel rest

def again (format : Chars) : Nat → Writer Unit
  | 0 => pure ()
  | fuel + 1 => do
    let before := (← get).arguments.length
    once (format.length + 1) format
    let after := (← get).arguments.length
    if 0 < after && after < before then again format fuel

def write (format : Chars) (arguments : List Chars) : Progress :=
  let (_, p) := ((again format (arguments.length + 1)).run.run { arguments }).run
  { p with written := p.written.reverse }

end CompileWorker.Shell.Format
