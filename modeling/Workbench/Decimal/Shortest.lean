import Workbench.Decimal.Binary64

namespace Workbench
namespace Binary64

/-!
# The shortest decimal

A floating-point value is written with the fewest digits that read back as the same value; of
several such decimals with equally many digits the nearest is taken.  The search tries one grid of
decimals after another, from coarse to fine: on each it needs to look only at the two neighbours
of the value.
-/

/-- A positive finite value with the borders of the numbers that round to it, all in quarters of
its step. -/
structure Target where
  value : Nat
  low : Nat
  high : Nat
  closed : Bool
  exponent : Int

/-- The target of a positive finite value.  Below a power of two the steps are half as wide. -/
def target (significand : Nat) (exponent : Int) : Target where
  value := 4 * significand
  low :=
    if significand = twoTo 52 ∧ leastExponent < exponent then 4 * significand - 1
    else 4 * significand - 2
  high := 4 * significand + 2
  closed := significand % 2 = 0
  exponent := exponent

namespace Target

/-- The target's quarter steps and a decimal grid's units brought to one common unit: the two
factors. -/
def factors (t : Target) (grid : Int) : Nat × Nat :=
  (twoTo t.exponent.toNat * tenTo (-grid).toNat,
    4 * twoTo (-t.exponent).toNat * tenTo grid.toNat)

/-- The multiple of `10 ^ grid` nearest to the value, if one rounds to it. -/
def onGrid? (t : Target) (grid : Int) : Option Nat :=
  let (quarter, unit) := t.factors grid
  let value := t.value * quarter
  let fits (n : Nat) : Bool :=
    let x := n * unit
    if t.closed then t.low * quarter ≤ x && x ≤ t.high * quarter
    else t.low * quarter < x && x < t.high * quarter
  let below := value / unit
  let above := below + 1
  if fits below && (!fits above || value - below * unit < above * unit - value) then some below
  else if fits above then some above
  else none

/-- The coarsest of `fuel` grids, each ten times finer than the last, that has such a multiple. -/
def search (t : Target) : Nat → Int → Nat × Int
  | 0, grid => ((t.onGrid? grid).getD 0, grid)
  | fuel + 1, grid =>
    match t.onGrid? grid with
    | some n => (n, grid)
    | none => search t fuel (grid - 1)

end Target

def decimalLength (n : Nat) : Nat :=
  (Nat.repr n).length

/-- A power of ten that no finite value exceeds, for values of this size. -/
def coarsestGrid (significand : Nat) (exponent : Int) : Int :=
  let (num, den) := quotient significand exponent
  (decimalLength num : Int) - decimalLength den + 1

/-- The digits and the power of ten of the shortest decimal of a positive finite value.  Seventeen
digits always suffice, and the first grids tried have none. -/
def shortest (significand : Nat) (exponent : Int) : Nat × Int :=
  (target significand exponent).search 20 (coarsestGrid significand exponent)

/-- A decimal in positional notation, with at least one digit on either side of the point. -/
def positional (digits : Nat) (power : Int) : String :=
  if 0 ≤ power then Nat.repr (digits * tenTo power.toNat) ++ ".0"
  else
    let places := (-power).toNat
    let shown := Nat.repr digits
    let padded := String.ofList (List.replicate (places + 1 - shown.length) '0') ++ shown
    let whole := padded.toList.take (padded.length - places)
    let fraction := padded.toList.drop (padded.length - places)
    String.ofList (whole ++ '.' :: fraction)

/-- A decimal with its first digit before the point and the place of that digit as an exponent,
which has a sign. -/
def scientific (digits : Nat) (power : Int) : String :=
  let shown := (Nat.repr digits).toList
  let place := power + (shown.length - 1 : Nat)
  let fraction := if shown.length = 1 then [] else '.' :: shown.drop 1
  String.ofList (shown.take 1 ++ fraction) ++
    (if place < 0 then "e-" else "e+") ++ Nat.repr place.natAbs

/-- Where decimals are written positionally. -/
inductive Layout where
  | positional
  | within (least greatest : Int)
  deriving DecidableEq, Repr

def Layout.write (layout : Layout) (digits : Nat) (power : Int) : String :=
  match layout with
  | positional => Binary64.positional digits power
  | within least greatest =>
    let place := power + (decimalLength digits - 1 : Nat)
    if least ≤ place && place ≤ greatest then Binary64.positional digits power
    else scientific digits power

def text (layout : Layout) : Binary64 → String
  | .notANumber => "NaN"
  | .infinite negative => if negative then "-inf" else "inf"
  | .finite negative significand exponent =>
    (if negative then "-" else "") ++
      if significand = 0 then "0.0"
      else
        let (digits, power) := shortest significand exponent
        layout.write digits power

end Binary64
end Workbench
