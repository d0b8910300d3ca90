import FleetOperator.Number.Digits
import FleetOperator.Number.Double

/-!
# The shortest decimal text of a binary64 number

Among the decimals that read back as the number, those with the fewest digits are found first, on
ever finer decimal grids; of these the one nearest to the number is taken, and of two equally near
ones the even one. The text is positional for decimal points in a range around the digits, and
scientific outside of it.
-/

namespace FleetOperator.Double

/-- A decimal `digits · 10 ^ exponent`. -/
structure Decimal where
  digits : Nat
  exponent : Int
deriving DecidableEq, Repr

/-- The magnitude of a positive number in units of a quarter of its last place, with the ends of
the interval of the reals that round to it; the unit is `2 ^ scale`. -/
structure Interval where
  low : Nat
  middle : Nat
  high : Nat
  scale : Int
  closed : Bool

/-- The interval of the reals that round to the magnitude. Below a power of two the gap to the
next smaller number is half as wide, and the ends belong to it when the significand is even. -/
def interval (d : Double) : Interval :=
  let m := d.significand
  let gapBelow := if m = Nat.pow 2 52 ∧ -1074 < d.exponent then 1 else 2
  { low := 4 * m - gapBelow, middle := 4 * m, high := 4 * m + 2, scale := d.exponent - 2,
    closed := m % 2 == 0 }

/-- The nearest decimal of the grid of multiples of `10 ^ exponent` that lies in the interval. -/
def Interval.pick (i : Interval) (exponent : Int) : Option Decimal :=
  let unit := Nat.pow 2 i.scale.toNat * Nat.pow 10 (-exponent).toNat
  let grid := Nat.pow 2 (-i.scale).toNat * Nat.pow 10 exponent.toNat
  let inside (n : Nat) : Bool :=
    if i.closed then i.low * unit ≤ n * grid && n * grid ≤ i.high * unit
    else i.low * unit < n * grid && n * grid < i.high * unit
  let value := i.middle * unit
  let below := value / grid
  let twice := 2 * (value % grid)
  let preferBelow := twice < grid || (twice == grid && below % 2 == 0)
  let first := if preferBelow then below else below + 1
  let second := if preferBelow then below + 1 else below
  if inside first then some ⟨first, exponent⟩
  else if inside second then some ⟨second, exponent⟩
  else none

/-- The first decimal found on grids of falling exponent. -/
def Interval.search (i : Interval) : Nat → Int → Decimal
  | 0, exponent => ⟨0, exponent⟩
  | steps + 1, exponent =>
    match i.pick exponent with
    | some found => found
    | none => i.search steps (exponent - 1)

/-- The shortest decimal that reads back as the magnitude of a number other than zero. -/
def shortest (d : Double) : Decimal :=
  let start : Int :=
    (Digits.ofNat d.numerator).length - (Digits.ofNat d.denominator).length + 1
  (interval d).search 20 start

/-- Which decimal points are written positionally, counted from the start of the digits: from
`0.00001` up to below `10 ^ 16`. -/
def isPositional (point : Int) : Bool := -5 < point && point ≤ 16

/-- The shortest text of a number. A point and a digit after it are always written in positional
notation; scientific notation has a point only between two digits. -/
def text (d : Double) : String :=
  let sign := if d.negative then ['-'] else []
  let body :=
    if d.rank = 0 then ['0', '.', '0']
    else
      let decimal := d.shortest
      let digits := Digits.ofNat decimal.digits
      let point : Int := digits.length + decimal.exponent
      if isPositional point then
        if point ≤ 0 then ['0', '.'] ++ List.replicate (-point).toNat '0' ++ digits
        else if digits.length ≤ point.toNat then
          digits ++ List.replicate (point.toNat - digits.length) '0' ++ ['.', '0']
        else digits.take point.toNat ++ ['.'] ++ digits.drop point.toNat
      else
        let scale := point - 1
        let power := (if scale < 0 then ['-'] else []) ++ Digits.ofNat scale.natAbs
        match digits with
        | [] => []
        | [only] => only :: 'e' :: power
        | first :: rest => first :: '.' :: rest ++ ['e'] ++ power
  String.ofList (sign ++ body)

end FleetOperator.Double
