import Workbench.Decimal.Power
import Workbench.Text.Hex

namespace Workbench
namespace Url
namespace Address

/-!
# Numeric hosts

Addresses of the fourth and the sixth version of the internet protocol, as they are read in a URL
and as they are written.  The older kind may be written with fewer than four parts, in octal or
hexadecimal; the newer one is written with its longest run of zeros left out.
-/

/-- One part of an address of four octets. -/
def part? : List Char → Option Nat
  | [] => none
  | '0' :: 'x' :: digits | '0' :: 'X' :: digits => Text.Hex.numeral? 16 digits
  | '0' :: d :: digits => Text.Hex.numeral? 8 (d :: digits)
  | digits => Text.Hex.numeral? 10 digits

/-- Whether a host is meant as an address of four octets: its last part, not counting an empty
one at the end, is a number. -/
def endsInNumber (host : List Char) : Bool :=
  let parts := (host.splitOn '.').reverse
  let last :=
    match parts with
    | [] :: rest => rest.head?
    | last :: _ => some last
    | [] => none
  match last with
  | some digits =>
    (!digits.isEmpty && digits.all Char.isDigit) || (part? digits).isSome
  | none => false

/-- The address of four octets that a host stands for, as one number. -/
def four? (host : List Char) : Option Nat := do
  let parts := host.splitOn '.'
  let parts := if parts.getLast? == some [] then parts.dropLast else parts
  if 4 < parts.length then none
  else
    let numbers ← parts.mapM part?
    let last ← numbers.getLast?
    let others := numbers.dropLast
    if twoTo (8 * (4 - others.length)) ≤ last || others.any (255 < ·) then none
    else
      pure (others.foldl (fun n part => n * 256 + part) 0 * twoTo (8 * (4 - others.length)) + last)

/-- An address of four octets, written out. -/
def writeFour (n : Nat) : String :=
  ".".intercalate
    [Nat.repr (n / twoTo 24), Nat.repr (n / twoTo 16 % 256), Nat.repr (n / twoTo 8 % 256),
      Nat.repr (n % 256)]

/-- Four decimal numbers below 256 without leading zeros, as two pieces of 16 bits. -/
def embedded? (text : List Char) : Option (List Nat) := do
  let parts := text.splitOn '.'
  if parts.length ≠ 4 then none
  else
    let numbers ← parts.mapM fun part =>
      if part.isEmpty || (part.head? == some '0' && 1 < part.length) then none
      else do
        let n ← Text.Hex.numeral? 10 part
        if n < 256 then some n else none
    match numbers with
    | [a, b, c, d] => some [a * 256 + b, c * 256 + d]
    | _ => none

/-- The pieces of a run of an address of eight pieces.  Only the last run may end in four decimal
numbers. -/
def pieces? (isLast : Bool) (text : List Char) : Option (List Nat) :=
  if text.isEmpty then some []
  else
    let parts := text.splitOn ':'
    let plain (part : List Char) : Option Nat :=
      if part.isEmpty || 4 < part.length then none else Text.Hex.numeral? 16 part
    match parts.getLast? with
    | none => none
    | some last =>
      if isLast && last.contains '.' then do
        let front ← parts.dropLast.mapM plain
        let back ← embedded? last
        pure (front ++ back)
      else parts.mapM plain

/-- A text cut at the first double colon. -/
def cutDouble : List Char → Option (List Char × List Char)
  | [] => none
  | [_] => none
  | a :: b :: rest =>
    if a = ':' ∧ b = ':' then some ([], rest)
    else (cutDouble (b :: rest)).map fun (before, after) => (a :: before, after)

def eight? (text : List Char) : Option (List Nat) :=
  match cutDouble text with
  | none => do
    let pieces ← pieces? true text
    if pieces.length = 8 then some pieces else none
  | some (before, after) => do
    if before.contains '.' then none
    let front ← pieces? false before
    let back ← pieces? true after
    if front.length + back.length ≤ 7 then
      some (front ++ List.replicate (8 - front.length - back.length) 0 ++ back)
    else none

/-- The length of the run of zeros at the beginning. -/
def zeros (pieces : List Nat) : Nat :=
  (pieces.takeWhile (· == 0)).length

/-- The position and length of the first longest run of at least two zeros. -/
def longestZeros (pieces : List Nat) : Option (Nat × Nat) :=
  let runs := (List.range pieces.length).map fun i => (i, zeros (pieces.drop i))
  runs.foldl (fun best (i, n) =>
    match best with
    | some (_, most) => if most < n then some (i, n) else best
    | none => if 1 < n then some (i, n) else none) none

/-- Pieces between colons, in the shortest hexadecimal form. -/
def writePieces (pieces : List Nat) : String :=
  ":".intercalate (pieces.map fun n => String.ofList (Text.Hex.shortest n))

/-- An address of eight pieces, written out with its longest run of zeros left out. -/
def writeEight (pieces : List Nat) : String :=
  match longestZeros pieces with
  | some (start, length) =>
    writePieces (pieces.take start) ++ "::" ++ writePieces (pieces.drop (start + length))
  | none => writePieces pieces

end Address
end Url
end Workbench
