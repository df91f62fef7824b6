import CompileWorker.Toml.Token
import CompileWorker.Toml.Value

namespace CompileWorker.Toml

open Reader

def field (size least greatest : Nat) : Reader (List Char) := do
  let digits ← repeated (satisfy (isDigit 10)) size
  if least ≤ value 10 digits ∧ value 10 digits ≤ greatest then return digits else failure

def daysIn (year month : Nat) : Nat :=
  match month with
  | 2 => if year % 4 = 0 ∧ (year % 100 ≠ 0 ∨ year % 400 = 0) then 29 else 28
  | 4 | 6 | 9 | 11 => 30
  | _ => 31

def date : Reader (List Char) := do
  let year ← field 4 0 9999
  char '-'
  let month ← field 2 1 12
  char '-'
  let day ← field 2 1 (daysIn (value 10 year) (value 10 month))
  return year ++ '-' :: month ++ '-' :: day

def fractionDigits : Nat := 9

def fraction : Reader (List Char) := do
  if ← skip? '.' then
    let digits ← span (isDigit 10)
    if digits.isEmpty then failure
    let kept := ((digits.take fractionDigits).reverse.dropWhile (· = '0')).reverse
    return if kept.isEmpty then [] else '.' :: kept
  else return []

/-- A minute may have a leap second. -/
def time : Reader (List Char) := do
  let hour ← field 2 0 23
  char ':'
  let minute ← field 2 0 59
  char ':'
  let second ← field 2 0 60
  return hour ++ ':' :: minute ++ ':' :: second ++ (← fraction)

def twoDigits (n : Nat) : List Char := (if n < 10 then ['0'] else []) ++ Nat.toDigits 10 n

/-- The distance from universal time, its hours and minutes within limits. A distance of zero has a
plus sign. -/
def zoneWithin (hours minutes : Nat) : Reader (List Char) := do
  let sign ← satisfy fun c ↦ c = 'Z' || c = 'z' || c = '+' || c = '-'
  if sign = 'Z' || sign = 'z' then return ['Z']
  let hour ← field 2 0 hours
  char ':'
  let minute ← field 2 0 minutes
  let total := value 10 hour * 60 + value 10 minute
  if 24 * 60 < total then failure
  return (if total = 0 then '+' else sign) :: twoDigits (total / 60) ++
    ':' :: twoDigits (total % 60)

def zone : Reader (List Char) := zoneWithin 23 59

/-- A time after a date, set off by a letter or a space. -/
def timeOfDay : Reader (List Char) := do
  let _ ← satisfy fun c ↦ c = 'T' || c = 't' || c = ' '
  let time ← time
  return 'T' :: time ++ (← optional zone).getD []

def dateTime : Reader Value := do
  let dated : Reader (List Char) := do return (← date) ++ (← optional timeOfDay).getD []
  return .dateTime (String.ofList (← dated <|> time))

/-- A date, a time or both as a whole text. A date may have a zone without a time, and zones reach a
full day. -/
def dateTimeOfText? (text : String) : Option String :=
  let clock : Reader (List Char) := do
    let _ ← satisfy fun c ↦ c = 'T' || c = 't' || c = ' '
    return 'T' :: (← time)
  let dated : Reader (List Char) := do
    let date ← date
    let clock ← if (← get).head?.any fun c ↦ c = 'T' || c = 't' || c = ' ' then clock else pure []
    let zone ← if (← get).isEmpty then pure [] else zoneWithin 99 99
    return date ++ clock ++ zone
  match ((if text.toList[2]? = some ':' then time else dated) <* atEnd).run text.toList with
  | some (meaning, _) => some (String.ofList meaning)
  | none => none

def digits (base : Nat) : Reader (List Char) := do
  let text ← span fun c ↦ c = '_' || isDigit base c
  let groups := (String.ofList text).splitOn "_"
  if groups.any (· = "") then failure
  return text.filter (· ≠ '_')

def sign : Reader Bool := do
  if ← skip? '-' then return true
  let _ ← skip? '+'
  return false

def whole : Reader (List Char) := do
  match ← digits 10 with
  | '0' :: _ :: _ => failure
  | digits => return digits

def word64 (n : Int) : Reader Value :=
  if -0x8000000000000000 ≤ n ∧ n ≤ 0x7FFFFFFFFFFFFFFF then return .integer n else failure

def integer : Reader Value := do
  if ← accepts (word "0x") then word64 (value 16 (← digits 16))
  else if ← accepts (word "0o") then word64 (value 8 (← digits 8))
  else if ← accepts (word "0b") then word64 (value 2 (← digits 2))
  else
    let isNegative ← sign
    let n : Int := value 10 (← whole)
    word64 (if isNegative then -n else n)

/-- A decimal number is read as the double nearest to it. Beyond the largest double it is refused,
beyond the least it is infinite. -/
def decimal : Reader Value := do
  let isNegative ← sign
  let whole ← whole
  let fraction ← if ← skip? '.' then some <$> digits 10 else pure none
  let exponent : Option Int ←
    if ← accepts (char 'e' <|> char 'E') then do
      let isDown ← sign
      let n : Int := value 10 (← digits 10)
      pure (some (if isDown then -n else n))
    else pure none
  if fraction.isNone ∧ exponent.isNone then failure
  let places := fraction.getD []
  match Double.ofDecimal (value 10 (whole ++ places)) (exponent.getD 0 - places.length) with
  | some x => return .float (some (if isNegative then x.neg else x))
  | none => if isNegative then return .float none else failure

def notFinite : Reader Value := do
  let _ ← sign
  word "inf" <|> word "nan"
  return .float none

def scalar : Reader Value :=
  (.string <$> string) <|> (word "true" *> pure (.boolean true)) <|>
    (word "false" *> pure (.boolean false)) <|> dateTime <|> decimal <|> notFinite <|> integer

end CompileWorker.Toml
