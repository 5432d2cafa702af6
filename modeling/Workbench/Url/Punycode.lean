namespace Workbench
namespace Url
namespace Punycode

/-!
# Punycode

A label outside ASCII is written as its ASCII characters, a hyphen, and a row of numbers that say
where the other characters go.  Each number counts the positions passed since the last insertion,
over all code points in increasing order, and is written in digits of base 36 whose thresholds
follow a bias.

Every loop has a measure: the quotient that is left, the code points that are left, or the digits
that are left.
-/

def digit (n : Nat) : Char :=
  if n < 26 then Char.ofNat ('a'.toNat + n) else Char.ofNat ('0'.toNat + (n - 26))

/-- The value of a digit; letters may have either case. -/
def value? (c : Char) : Option Nat :=
  if 'a' ≤ c ∧ c ≤ 'z' then some (c.toNat - 'a'.toNat)
  else if 'A' ≤ c ∧ c ≤ 'Z' then some (c.toNat - 'A'.toNat)
  else if '0' ≤ c ∧ c ≤ '9' then some (c.toNat - '0'.toNat + 26)
  else none

/-- The threshold of the digit at a position: between 1 and 26. -/
def threshold (bias position : Nat) : Nat :=
  min 26 (max 1 (36 * position - bias))

theorem threshold_bounds (bias position : Nat) :
    1 ≤ threshold bias position ∧ threshold bias position ≤ 26 := by
  unfold threshold
  omega

/-- Divides a distance by 35 until it is small, counting the divisions. -/
def settle (distance divisions : Nat) : Nat × Nat :=
  if 455 < distance then settle (distance / 35) (divisions + 1) else (distance, divisions)
  termination_by distance
  decreasing_by omega

/-- The bias after an insertion at a distance, among so many characters. -/
def nextBias (distance characters : Nat) (isFirst : Bool) : Nat :=
  let halved := if isFirst then distance / 700 else distance / 2
  let (small, divisions) := settle (halved + halved / characters) 0
  36 * divisions + 36 * small / (small + 38)

/-- A number in digits, from the digit at a position on. -/
def writeNumber (bias position n : Nat) : List Char :=
  let t := threshold bias position
  if n < t then [digit n]
  else digit (t + (n - t) % (36 - t)) :: writeNumber bias (position + 1) ((n - t) / (36 - t))
  termination_by n
  decreasing_by
    have bounds := threshold_bounds bias position
    exact Nat.lt_of_le_of_lt (Nat.div_le_self _ _) (by omega)

structure Writing where
  written : List Char
  distance : Nat
  bias : Nat
  placed : Nat

/-- Passes over one character of the label while code point `current` is placed. -/
def Writing.pass (basics current : Nat) (state : Writing) (c : Char) : Writing :=
  if c.toNat < current then { state with distance := state.distance + 1 }
  else if c.toNat = current then
    { written := state.written ++ writeNumber state.bias 1 state.distance
      distance := 0
      bias := nextBias state.distance (state.placed + 1) (state.placed == basics)
      placed := state.placed + 1 }
  else state

/-- Places all characters with the given code points, which increase, after those below `next`. -/
def Writing.place (label : List Char) (basics : Nat) : List Nat → Nat → Writing → Writing
  | [], _, state => state
  | current :: rest, next, state =>
    let moved := { state with distance := state.distance + (current - next) * (state.placed + 1) }
    let passed := label.foldl (Writing.pass basics current) moved
    place label basics rest (current + 1) { passed with distance := passed.distance + 1 }

def encode (label : List Char) : List Char :=
  let basic := label.filter fun c => c.toNat < 128
  let others := ((label.filter fun c => 128 ≤ c.toNat).map Char.toNat).eraseDups.mergeSort
  let start := if basic.isEmpty then [] else basic ++ ['-']
  (Writing.place label basic.length others 128 ⟨start, 0, 72, basic.length⟩).written

/-- Reads a number, and gives the digits after it.  The number and the weights of its digits have to
fit 32 bits. -/
def readNumber (bias : Nat) : Nat → Nat → Nat → List Char → Option (Nat × List Char)
  | _, _, _, [] => none
  | position, weight, n, c :: rest => do
    let d ← value? c
    let t := threshold bias position
    let n := n + d * weight
    if UInt32.size ≤ n then none
    else if d < t then some (n, rest)
    else if UInt32.size ≤ weight * (36 - t) then none
    else readNumber bias (position + 1) (weight * (36 - t)) n rest

/-- Inserts characters one after another, as long as the fuel and the digits last. -/
def insertAll : Nat → List Char → List Nat → Nat → Nat → Nat → Option (List Nat)
  | _, [], label, _, _, _ => some label
  | 0, _ :: _, _, _, _, _ => none
  | fuel + 1, digits, label, next, index, bias => do
    let (n, rest) ← readNumber bias 1 1 0 digits
    let size := label.length + 1
    let index' := index + n
    let current := next + index' / size
    let place := index' % size
    if 0x10FFFF < current || (0xD800 ≤ current && current ≤ 0xDFFF) then none
    else
      insertAll fuel rest (label.insertIdx place current) current (place + 1)
        (nextBias n size (index == 0))

/-- The label that a written form stands for.  A hyphen with nothing before it is not the one that
ends the ASCII characters. -/
def decode? (written : List Char) : Option (List Char) :=
  let reversed := written.reverse
  let (basic, digits) :=
    match reversed.dropWhile (· != '-') with
    | [] | [_] => ([], written)
    | _ :: before => (before.reverse, (reversed.takeWhile (· != '-')).reverse)
  if basic.any fun c => 128 ≤ c.toNat then none
  else
    (insertAll digits.length digits (basic.map Char.toNat) 128 0 72).map
      (·.map Char.ofNat)

end Punycode
end Url
end Workbench
