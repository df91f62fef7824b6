namespace CompileWorker

/-- A double by its bits: sign, eleven bits of exponent, fifty-two of fraction. -/
structure Double where
  bits : UInt64
  deriving DecidableEq, Repr

namespace Double

def isNegative (x : Double) : Bool := 0x8000000000000000 ≤ x.bits

def neg (x : Double) : Double := ⟨x.bits ^^^ 0x8000000000000000⟩

def zero : Double := ⟨0⟩

def hiddenBit : Nat := 0x10000000000000

private def exponentField (x : Double) : Nat := x.bits.toNat / hiddenBit % 2048

private def fractionField (x : Double) : Nat := x.bits.toNat % hiddenBit

def magnitude (x : Double) : Nat × Int :=
  if x.exponentField = 0 then (x.fractionField, -1074)
  else (x.fractionField + hiddenBit, x.exponentField - 1075)

def isZero (x : Double) : Bool := x.magnitude.1 = 0

def roundDiv (num den : Nat) : Nat :=
  let k := num / den
  let r := num % den
  if 2 * r < den then k else if den < 2 * r then k + 1 else k + k % 2

/-- The greatest `e` with `2 ^ e ≤ num / den`. -/
private def binaryExponent (num den : Nat) : Int :=
  let e : Int := num.log2 - den.log2
  if num * Nat.pow 2 (-e).toNat < den * Nat.pow 2 e.toNat then e - 1 else e

/-- The double nearest to a fraction; none if the fraction is beyond the largest double. -/
def nearest (num den : Nat) : Option Double :=
  if num = 0 then some zero
  else
    let q := max (binaryExponent num den - 52) (-1074)
    let m := roundDiv (num * Nat.pow 2 (-q).toNat) (den * Nat.pow 2 q.toNat)
    let field := if m < hiddenBit then m else (q + 1075).toNat * hiddenBit + (m - hiddenBit)
    if field < 2047 * hiddenBit then some ⟨field.toUInt64⟩ else none

private def nearestScaled (m : Nat) (q : Int) : Option Double :=
  nearest (m * Nat.pow 2 q.toNat) (Nat.pow 2 (-q).toNat)

def mul (x y : Double) : Option Double :=
  nearestScaled (x.magnitude.1 * y.magnitude.1) (x.magnitude.2 + y.magnitude.2)

def div (x y : Double) : Option Double :=
  let q := x.magnitude.2 - y.magnitude.2
  nearest (x.magnitude.1 * Nat.pow 2 q.toNat) (y.magnitude.1 * Nat.pow 2 (-q).toNat)

def powerOfTen (n : Nat) : Double := (nearest (Nat.pow 10 n) 1).getD zero

def ofDecimal (digits : Nat) (exponent : Int) : Option Double :=
  let size := (Nat.repr digits).length + exponent
  if digits = 0 ∨ size < -330 then some zero
  else if 330 < size then none
  else nearest (digits * Nat.pow 10 exponent.toNat) (Nat.pow 10 (-exponent).toNat)

/-- The value of `significand * 10 ^ exponent` by rounding the significand first and scaling it by
one power of ten, or by two where the exponent is below that of the least power. None beyond the
largest double. -/
def ofScaled (significand : Nat) (exponent : Int) : Option Double := do
  let x ← nearest significand 1
  if 0 ≤ exponent then
    if exponent ≤ 308 then x.mul (powerOfTen exponent.toNat) else if x.isZero then some x else none
  else if -308 ≤ exponent then x.div (powerOfTen (-exponent).toNat)
  else if -616 ≤ exponent then (← x.div (powerOfTen 308)).div (powerOfTen (-exponent - 308).toNat)
  else some zero

end Double

end CompileWorker
