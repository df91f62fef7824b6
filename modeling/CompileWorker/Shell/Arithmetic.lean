import CompileWorker.Shell.Reader

namespace CompileWorker.Shell

inductive ArithmeticOperator
  | times | divide | remainder | plus | minus | shiftLeft | shiftRight
  | less | greater | lessEqual | greaterEqual | equal | unequal
  | bitAnd | bitXor | bitOr | both | either
  deriving DecidableEq, Repr

inductive SignOperator
  | minus | plus | complement | negation
  deriving DecidableEq, Repr

inductive Expression
  | number (n : Int)
  | variable (name : Chars)
  | unary (op : SignOperator) (e : Expression)
  | binary (op : ArithmeticOperator) (a b : Expression)
  | choice (condition yes no : Expression)
  | assign (name : Chars) (op : Option ArithmeticOperator) (e : Expression)

inductive ArithmeticError
  | noPrimary
  | noEnd
  | noParenthesis
  | noColon
  | zeroDivisor
  deriving DecidableEq, Repr

namespace ArithmeticError

def message : ArithmeticError → String
  | noPrimary => "expecting primary"
  | noEnd => "expecting EOF"
  | noParenthesis => "expecting ')'"
  | noColon => "expecting ':'"
  | zeroDivisor => "division by zero"

end ArithmeticError

namespace ArithmeticOperator

/-- The signs of the operators, with the levels at which they bind. Of two signs that begin alike
the longer stands first. -/
def signs : List (String × ArithmeticOperator × Nat) :=
  [("||", either, 1), ("&&", both, 2), ("==", equal, 6), ("!=", unequal, 6), ("<<", shiftLeft, 8),
   (">>", shiftRight, 8), ("<=", lessEqual, 7), (">=", greaterEqual, 7), ("|", bitOr, 3),
   ("^", bitXor, 4), ("&", bitAnd, 5), ("<", less, 7), (">", greater, 7), ("+", plus, 9),
   ("-", minus, 9), ("*", times, 10), ("/", divide, 10), ("%", remainder, 10)]

def isAssigning (op : ArithmeticOperator) : Bool :=
  match op with
  | times | divide | remainder | plus | minus | shiftLeft | shiftRight | bitAnd | bitXor | bitOr =>
    true
  | _ => false

def wrap (n : Int) : Int := n.bmod (Nat.pow 2 64)

def ofBool (b : Bool) : Int := if b then 1 else 0

def bits (n : Int) : Nat := (n.emod (Nat.pow 2 64)).toNat

def apply (op : ArithmeticOperator) (a b : Int) : Except ArithmeticError Int :=
  match op with
  | times => .ok (wrap (a * b))
  | divide => if b = 0 then .error .zeroDivisor else .ok (wrap (a.tdiv b))
  | remainder => if b = 0 then .error .zeroDivisor else .ok (wrap (a.tmod b))
  | plus => .ok (wrap (a + b))
  | minus => .ok (wrap (a - b))
  | shiftLeft => .ok (wrap (a * Nat.pow 2 (bits b % 64)))
  | shiftRight => .ok (a.fdiv (Nat.pow 2 (bits b % 64)))
  | less => .ok (ofBool (a < b))
  | greater => .ok (ofBool (b < a))
  | lessEqual => .ok (ofBool (a ≤ b))
  | greaterEqual => .ok (ofBool (b ≤ a))
  | equal => .ok (ofBool (a = b))
  | unequal => .ok (ofBool (a ≠ b))
  | bitAnd => .ok (wrap (Nat.land (bits a) (bits b)))
  | bitXor => .ok (wrap (Nat.xor (bits a) (bits b)))
  | bitOr => .ok (wrap (Nat.lor (bits a) (bits b)))
  | both => .ok (ofBool (a ≠ 0 && b ≠ 0))
  | either => .ok (ofBool (a ≠ 0 || b ≠ 0))

end ArithmeticOperator

namespace SignOperator

def apply (op : SignOperator) (n : Int) : Int :=
  match op with
  | minus => ArithmeticOperator.wrap (-n)
  | plus => n
  | complement => -n - 1
  | negation => ArithmeticOperator.ofBool (n = 0)

end SignOperator

namespace Numeral

def digit (c : Char) : Nat :=
  if c.isDigit then c.toNat - 48 else if c.isLower then c.toNat - 87
  else if c.isUpper then c.toNat - 55 else 99

def value (base : Nat) (digits : Chars) : Nat := digits.foldl (fun n c ↦ n * base + digit c) 0

/-- Reads digits whose first ones tell the base: hexadecimal after `0x`, octal after a zero, or else
decimal. None without a digit. -/
def read (text : Chars) : Option (Nat × Chars) :=
  let take (base : Nat) (text : Chars) : Option (Nat × Chars) :=
    match text.takeWhile fun c ↦ digit c < base with
    | [] => none
    | digits => some (value base digits, text.drop digits.length)
  match text with
  | '0' :: x :: rest =>
    if x = 'x' ∨ x = 'X' then take 16 rest <|> some (0, x :: rest) else take 8 text
  | '0' :: [] => some (0, [])
  | _ => take 10 text

def largest : Int := Nat.pow 2 63 - 1

def clamp (n : Int) : Int := max (-largest - 1) (min largest n)

def readSigned (text : Chars) : Option (Int × Chars) := do
  let text := text.dropWhile Char.isWhitespace
  let (isNegative, text) := match text with
    | '-' :: rest => (true, rest)
    | '+' :: rest => (false, rest)
    | _ => (false, text)
  let (n, rest) ← read text
  return (clamp (if isNegative then -n else n), rest)

def decimal? (text : Chars) : Option Int := do
  let text := ((text.dropWhile Char.isWhitespace).reverse.dropWhile Char.isWhitespace).reverse
  let (isNegative, digits) := match text with
    | '-' :: rest => (true, rest)
    | '+' :: rest => (false, rest)
    | _ => (false, text)
  if digits.isEmpty || !digits.all Char.isDigit then none
  else some (clamp (if isNegative then -(value 10 digits : Int) else value 10 digits))

end Numeral

namespace Expression

abbrev Parser := StateT Chars (Except ArithmeticError)

def accepts (sign : String) : Parser Bool := do
  let text := (← get).dropWhile Char.isWhitespace
  let isNext := sign.toList.isPrefixOf text
  if isNext then set (text.drop sign.length)
  return isNext

def operator? (level : Nat) : Parser (Option (ArithmeticOperator × Nat)) := do
  let text := (← get).dropWhile Char.isWhitespace
  match ArithmeticOperator.signs.find? fun (sign, _) ↦ sign.toList.isPrefixOf text with
  | some (sign, op, n) =>
    let rest := text.drop sign.length
    if n < level || (op.isAssigning && rest.head? = some '=') then return none
    set rest
    return some (op, n)
  | none => return none

def target? : Parser (Option (Chars × Option ArithmeticOperator)) := do
  let text := (← get).dropWhile Char.isWhitespace
  let name := text.takeWhile Reader.isNameCharacter
  if !Reader.isName name then return none
  let text := (text.drop name.length).dropWhile Char.isWhitespace
  match ArithmeticOperator.signs.find? fun (sign, op, _) ↦ op.isAssigning &&
    (sign ++ "=").toList.isPrefixOf text with
  | some (sign, op, _) =>
    set (text.drop (sign.length + 1))
    return some (name, some op)
  | none =>
    match text with
    | '=' :: rest =>
      if rest.head? = some '=' then return none
      set rest
      return some (name, none)
    | _ => return none

mutual

def whole : Nat → Parser Expression
  | 0 => throw .noPrimary
  | fuel + 1 => do
    match ← target? with
    | some (name, op) => return .assign name op (← whole fuel)
    | none =>
      let condition ← joined 1 fuel
      if ← accepts "?" then
        let yes ← whole fuel
        if !(← accepts ":") then throw .noColon
        return .choice condition yes (← whole fuel)
      return condition

def joined (level : Nat) : Nat → Parser Expression
  | 0 => throw .noPrimary
  | fuel + 1 => do further level (← operand fuel) fuel

def further (level : Nat) (first : Expression) : Nat → Parser Expression
  | 0 => throw .noPrimary
  | fuel + 1 => do
    match ← operator? level with
    | none => return first
    | some (op, n) => further level (.binary op first (← joined (n + 1) fuel)) fuel

def operand : Nat → Parser Expression
  | 0 => throw .noPrimary
  | fuel + 1 => do
    if ← accepts "(" then
      let e ← whole fuel
      if ← accepts ")" then return e else throw .noParenthesis
    if ← accepts "-" then return .unary .minus (← operand fuel)
    if ← accepts "+" then return .unary .plus (← operand fuel)
    if ← accepts "~" then return .unary .complement (← operand fuel)
    if ← accepts "!" then return .unary .negation (← operand fuel)
    let text := (← get).dropWhile Char.isWhitespace
    match Numeral.read text with
    | some (n, rest) =>
      set rest
      return .number (Numeral.clamp n)
    | none =>
      let name := text.takeWhile Reader.isNameCharacter
      if name.isEmpty then throw .noPrimary
      set (text.drop name.length)
      return .variable name

end

def ofText (text : Chars) : Except ArithmeticError Expression := do
  let (e, rest) ← (whole (4 * text.length + 8)).run text
  if rest.all Char.isWhitespace then return e else throw .noEnd

end Expression

end CompileWorker.Shell
