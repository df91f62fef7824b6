import CompileWorker.Json.Failure
import CompileWorker.Text.Utf8

namespace CompileWorker.Json

def isBlank (b : UInt8) : Bool := b = 0x20 || b = 0x09 || b = 0x0A || b = 0x0D

def skipBlanks (bytes : List UInt8) : List UInt8 := bytes.dropWhile isBlank

def isDigit (b : UInt8) : Bool := 0x30 ≤ b && b ≤ 0x39

def digit (b : UInt8) : Nat := b.toNat - 0x30

def literal : List UInt8 → List UInt8 → Except Failure (List UInt8)
  | [], rest => .ok rest
  | _ :: _, [] => fails .endOfValue []
  | l :: letters, b :: rest => if b = l then literal letters rest else fails .expectedLiteral rest

def ull : List UInt8 := [0x75, 0x6C, 0x6C]

def rue : List UInt8 := [0x72, 0x75, 0x65]

def alse : List UInt8 := [0x61, 0x6C, 0x73, 0x65]

structure Numeral where
  negative : Bool
  whole : List UInt8
  fraction : Option (List UInt8)
  exponent : Option (Bool × List UInt8)

def greatestSignificand : Nat := 0xFFFFFFFFFFFFFFFF

/-- The leading digits as far as 64 bits hold them, and how many more there are. -/
def leading : List UInt8 → Nat → Nat × Nat
  | [], n => (n, 0)
  | d :: digits, n =>
    if n * 10 + digit d ≤ greatestSignificand then leading digits (n * 10 + digit d)
    else (n, digits.length + 1)

def exponentDigits : List UInt8 → Nat → Nat × Option (List UInt8)
  | [], n => (n, none)
  | d :: digits, n =>
    if n * 10 + digit d ≤ 0x7FFFFFFF then exponentDigits digits (n * 10 + digit d)
    else (n, some digits)

/-- The value of a numeral: an integer where it is written as one and fits, else a double. `rest` is
the text after the numeral and only places a failure. -/
def Numeral.value (n : Numeral) (rest : List UInt8) : Except Failure Number :=
  let (whole, dropped) := leading n.whole 0
  let signed (x : Double) : Number := .double (if n.negative then x.neg else x)
  let scaled (significand : Nat) (exponent : Int) : Except Failure Number :=
    match Double.ofScaled significand exponent with
    | some x => .ok (signed x)
    | none => fails .numberOutOfRange rest
  match n.fraction, n.exponent with
  | none, none =>
    if dropped ≠ 0 then scaled whole dropped
    else if !n.negative then .ok (.integer whole)
    else if 0 < whole ∧ whole ≤ 0x8000000000000000 then .ok (.integer (-whole))
    else scaled whole 0
  | fraction, exponent =>
    let digits := fraction.getD []
    let (significand, unread) := leading digits whole
    let start : Int := dropped - (digits.length - unread)
    match exponent with
    | none => scaled significand start
    | some (down, digits) =>
      match exponentDigits digits 0 with
      | (e, none) => scaled significand (if down then start - e else start + e)
      | (_, some unread) =>
        if significand ≠ 0 ∧ !down then
          .error ⟨.numberOutOfRange, some (rest.length + unread.length)⟩
        else .ok (signed .zero)

def spanDigits (bytes : List UInt8) : List UInt8 × List UInt8 :=
  (bytes.takeWhile isDigit, bytes.dropWhile isDigit)

/-- Reads at least one digit; `atEnd` is the cause where the text ends instead. -/
def readDigits (atEnd : Cause) (bytes : List UInt8) : Except Failure (List UInt8 × List UInt8) :=
  match spanDigits bytes with
  | ([], []) => fails atEnd []
  | ([], rest) => failsAt .invalidNumber rest
  | split => .ok split

def readExponent (atEnd : Cause) (bytes : List UInt8) :
    Except Failure ((Bool × List UInt8) × List UInt8) := do
  let (down, bytes) := match bytes with
    | b :: rest =>
      if b = 0x2D then (true, rest) else if b = 0x2B then (false, rest) else (false, b :: rest)
    | [] => (false, [])
  let (digits, rest) ← readDigits atEnd bytes
  return ((down, digits), rest)

private def isExponentLetter (b : UInt8) : Bool := b = 0x65 || b = 0x45

def readScale (atEnd : Cause) (negative : Bool) (whole : List UInt8) (bytes : List UInt8) :
    Except Failure (Numeral × List UInt8) := do
  let (fraction, bytes) ← match bytes with
    | 0x2E :: rest => do
      let (digits, rest) ← readDigits atEnd rest
      pure (some digits, rest)
    | _ => pure (none, bytes)
  match bytes with
  | b :: rest =>
    if isExponentLetter b then
      let (exponent, rest) ← readExponent atEnd rest
      return (⟨negative, whole, fraction, some exponent⟩, rest)
    else return (⟨negative, whole, fraction, none⟩, b :: rest)
  | [] => return (⟨negative, whole, fraction, none⟩, [])

def readUnsigned (atEnd : Cause) (negative : Bool) (bytes : List UInt8) :
    Except Failure (Numeral × List UInt8) := do
  match ← readDigits atEnd bytes with
  | (0x30 :: _ :: digits, rest) => fails .invalidNumber (digits ++ rest)
  | (whole, rest) => readScale atEnd negative whole rest

def readNumeral (atEnd : Cause) (bytes : List UInt8) : Except Failure (Numeral × List UInt8) :=
  match bytes with
  | 0x2D :: rest => readUnsigned atEnd true rest
  | _ => readUnsigned atEnd false bytes

def readNumber : Reader Number := fun bytes ↦ do
  let (numeral, rest) ← readNumeral .endOfValue bytes
  return (← numeral.value rest, rest)

def hexDigit? (b : UInt8) : Option Nat :=
  if 0x30 ≤ b && b ≤ 0x39 then some (b.toNat - 0x30)
  else if 0x61 ≤ b && b ≤ 0x66 then some (b.toNat - 0x57)
  else if 0x41 ≤ b && b ≤ 0x46 then some (b.toNat - 0x37)
  else none

def unit? (a b c d : UInt8) : Option Nat := do
  return (((← hexDigit? a) * 16 + (← hexDigit? b)) * 16 + (← hexDigit? c)) * 16 + (← hexDigit? d)

def isHighSurrogate (n : Nat) : Bool := 0xD800 ≤ n && n ≤ 0xDBFF

def isLowSurrogate (n : Nat) : Bool := 0xDC00 ≤ n && n ≤ 0xDFFF

def shortEscape? (letter : UInt8) : Option UInt8 :=
  if letter = 0x22 || letter = 0x5C || letter = 0x2F then some letter
  else if letter = 0x62 then some 0x08
  else if letter = 0x66 then some 0x0C
  else if letter = 0x6E then some 0x0A
  else if letter = 0x72 then some 0x0D
  else if letter = 0x74 then some 0x09
  else none

def pushChar (n : Nat) (acc : List UInt8) : List UInt8 :=
  (String.utf8EncodeChar (Char.ofNat n)).reverse ++ acc

def readContent (acc : List UInt8) : Reader (List UInt8)
  | [] => fails .endOfString []
  | b :: rest =>
    if b = 0x22 then .ok (acc.reverse, rest)
    else if b < 0x20 then fails .controlCharacter rest
    else if b ≠ 0x5C then readContent (b :: acc) rest
    else match rest with
      | [] => fails .endOfString []
      | 0x75 :: h₁ :: h₂ :: h₃ :: h₄ :: rest =>
        match unit? h₁ h₂ h₃ h₄ with
        | none => fails .invalidEscape rest
        | some high =>
          if isLowSurrogate high then fails .loneSurrogate rest
          else if !isHighSurrogate high then readContent (pushChar high acc) rest
          else match rest with
            | [] => fails .endOfString []
            | [s] => if s = 0x5C then fails .endOfString [] else fails .unfinishedSurrogate []
            | s :: u :: rest =>
              if s ≠ 0x5C then fails .unfinishedSurrogate (u :: rest)
              else if u ≠ 0x75 then fails .unfinishedSurrogate rest
              else match rest with
                | l₁ :: l₂ :: l₃ :: l₄ :: rest =>
                  match unit? l₁ l₂ l₃ l₄ with
                  | none => fails .invalidEscape rest
                  | some low =>
                    if isLowSurrogate low then
                      readContent (pushChar ((high - 0xD800) * 0x400 + (low - 0xDC00) + 0x10000)
                        acc) rest
                    else fails .loneSurrogate rest
                | _ => fails .endOfString []
      | letter :: rest =>
        if letter = 0x75 then fails .endOfString []
        else match shortEscape? letter with
          | some b => readContent (b :: acc) rest
          | none => fails .invalidEscape rest

/-- Reads a string, its opening quote already read. Text that is no Unicode fails where its first
bad byte would stand if the string had no escapes before its end. -/
def readString : Reader String := fun bytes ↦ do
  let (content, rest) ← readContent [] bytes
  match Utf8.decode content with
  | .ok s => return (s, rest)
  | .error fault => .error ⟨.notUnicode, some (rest.length + (content.length - fault.offset))⟩

def nextItem (isFirst : Bool) (bytes : List UInt8) : Except Failure (Option (List UInt8)) :=
  match skipBlanks bytes with
  | [] => fails .endOfList []
  | b :: rest =>
    if b = 0x5D then .ok none
    else if isFirst then .ok (some (b :: rest))
    else if b = 0x2C then
      match skipBlanks rest with
      | [] => fails .endOfValue []
      | c :: rest => if c = 0x5D then fails .trailingComma rest else .ok (some (c :: rest))
    else fails .expectedListSeparator rest

def closeList (bytes : List UInt8) : Except Failure (List UInt8) :=
  match skipBlanks bytes with
  | [] => fails .endOfList []
  | b :: rest =>
    if b = 0x5D then .ok rest
    else if b = 0x2C then
      match skipBlanks rest with
      | [] => fails .trailingCharacters []
      | c :: rest => if c = 0x5D then fails .trailingComma rest else fails .trailingCharacters rest
    else fails .trailingCharacters rest

/-- Goes to the next member of an object, if there is one, and past the quote that opens its
name. -/
def nextName (isFirst : Bool) (bytes : List UInt8) : Except Failure (Option (List UInt8)) :=
  match skipBlanks bytes with
  | [] => fails .endOfObject []
  | b :: rest =>
    if b = 0x7D then .ok none
    else if isFirst then if b = 0x22 then .ok (some rest) else fails .nameNotString rest
    else if b = 0x2C then
      match skipBlanks rest with
      | [] => fails .endOfValue []
      | c :: rest =>
        if c = 0x22 then .ok (some rest)
        else if c = 0x7D then fails .trailingComma rest
        else fails .nameNotString rest
    else fails .expectedObjectSeparator rest

def readColon (bytes : List UInt8) : Except Failure (List UInt8) :=
  match skipBlanks bytes with
  | [] => fails .endOfObject []
  | b :: rest => if b = 0x3A then .ok rest else fails .expectedColon rest

/-- What is left once the closing brace is read, or the blanks before whatever else stands there. -/
def afterBrace (bytes : List UInt8) : List UInt8 :=
  match skipBlanks bytes with
  | 0x7D :: rest => rest
  | rest => rest

def afterBracket (bytes : List UInt8) : List UInt8 :=
  match skipBlanks bytes with
  | 0x5D :: rest => rest
  | rest => rest

end CompileWorker.Json
