import CompileWorker.Numeral.Double

namespace CompileWorker

structure Decimal where
  digits : Nat
  exponent : Int
  deriving DecidableEq, Repr

namespace Decimal

private def strip : Nat → Decimal → Decimal
  | 0, d => d
  | fuel + 1, d =>
    if d.digits % 10 = 0 ∧ d.digits ≠ 0 then strip fuel ⟨d.digits / 10, d.exponent + 1⟩ else d

structure Interval where
  low : Nat
  value : Nat
  high : Nat
  den : Nat
  closed : Bool

/-- The numbers that round to `m * 2 ^ q`, which reach half way to both neighbours. Below a power of
two the neighbour is twice as near. -/
def Interval.ofBinary (m : Nat) (q : Int) : Interval :=
  let unit := Nat.pow 2 (q - 2).toNat
  { low := (if m = Double.hiddenBit ∧ -1074 < q then 4 * m - 1 else 4 * m - 2) * unit
    value := 4 * m * unit
    high := (4 * m + 2) * unit
    den := Nat.pow 2 (2 - q).toNat
    closed := m % 2 = 0 }

def Interval.decimalPoint (i : Interval) : Int :=
  if i.den ≤ i.value then (Nat.repr (i.value / i.den)).length
  else 1 - (Nat.repr ((i.den - 1) / i.value)).length

/-- The number on the grid of multiples of `10 ^ exponent` that lies in the interval, if one of the
two around the value does; of two the nearer, and of two equally near the even one. -/
def Interval.onGrid? (i : Interval) (exponent : Int) : Option Decimal :=
  let up := Nat.pow 10 (-exponent).toNat
  let den := i.den * Nat.pow 10 exponent.toNat
  let low := i.low * up
  let value := i.value * up
  let high := i.high * up
  let inside (d : Nat) : Bool :=
    (low < d * den && d * den < high) || (i.closed && (d * den = low || d * den = high))
  let d := value / den
  match inside d, inside (d + 1) with
  | true, true =>
    let below := value - d * den
    let above := (d + 1) * den - value
    some ⟨if below < above then d else if above < below then d + 1 else d + d % 2, exponent⟩
  | true, false => some ⟨d, exponent⟩
  | false, true => some ⟨d + 1, exponent⟩
  | false, false => none

/-- The shortest decimal in the interval; seventeen digits always suffice for a double. -/
def Interval.shortest (i : Interval) : Decimal :=
  let k := i.decimalPoint
  let found := (List.range 17).findSome? fun (n : Nat) ↦ i.onGrid? (k - (n + 1))
  strip 17 (found.getD
    ⟨i.value * Nat.pow 10 (17 - k).toNat / (i.den * Nat.pow 10 (k - 17).toNat), k - 17⟩)

end Decimal

def Double.shortest (x : Double) : Decimal :=
  if x.isZero then ⟨0, 0⟩ else (Decimal.Interval.ofBinary x.magnitude.1 x.magnitude.2).shortest

end CompileWorker
