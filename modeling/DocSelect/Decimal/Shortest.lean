/-
# Shortest decimals

A binary floating-point number stands for a whole cell of reals, those that round to it.  Its
shortest decimal is the decimal of fewest digits in that cell and, among those, the one
nearest to the number.  To find it we try finer and finer decimal grids.  If a grid has a point
in the cell, then one of the two points next to the number is in the cell, so two tests per
grid suffice.  All arithmetic is on natural numbers and exact.
-/

namespace DocSelect.Decimal

/-- The decimal `0.d₁d₂… × 10 ^ point` with the given digits. -/
structure Numeral where
  /-- The significant digits, most significant first. -/
  digits : List Char
  /-- The position of the decimal point, counted from before the first digit. -/
  point : Int
deriving DecidableEq

/-- Which of two equally near decimals of the same length is taken. -/
inductive Tie where
  /-- The one with an even last digit. -/
  | toEven
  /-- The greater one. -/
  | up
deriving DecidableEq

/-- The reals that round to a positive number, as fractions over a common denominator. -/
structure Cell where
  /-- Half way to the next smaller number. -/
  lower : Nat
  /-- The number itself. -/
  centre : Nat
  /-- Half way to the next greater number. -/
  upper : Nat
  /-- The common denominator. -/
  denominator : Nat
  /-- Whether the two ends round to the number as well. -/
  closed : Bool

namespace Cell

/-- The cell of `significand * 2 ^ exponent`.  Below a power of two the next smaller number is
only half as far away as the next greater one.  The ends go to the number whose significand is
even. -/
def ofBinary (significand : Nat) (exponent : Int) (powerOfTwo : Bool) : Cell :=
  let scale := Nat.pow 2 (exponent - 2).toNat
  { lower := (4 * significand - if powerOfTwo then 1 else 2) * scale
    centre := 4 * significand * scale
    upper := (4 * significand + 2) * scale
    denominator := Nat.pow 2 (2 - exponent).toNat
    closed := significand % 2 == 0 }

/-- The cell of the number with the given bits, its sign left aside.  Meant for finite numbers
other than zero.  The low 52 bits are the fraction and the next 11 the exponent; a leading one is
left out of the fraction, except at the lowest exponent. -/
def ofBits (bits : UInt64) : Cell :=
  let one := Nat.pow 2 52
  let biased := bits.toNat / one % 2048
  let fraction := bits.toNat % one
  if biased = 0 then ofBinary fraction (-1074) false
  else ofBinary (one + fraction) (Int.ofNat biased - 1075) (fraction == 0 && biased > 1)

/-- The same cell measured in units of `10 ^ unit`. -/
def inUnits (c : Cell) (unit : Int) : Cell :=
  let finer := Nat.pow 10 (-unit).toNat
  { c with
    lower := c.lower * finer
    centre := c.centre * finer
    upper := c.upper * finer
    denominator := c.denominator * Nat.pow 10 unit.toNat }

/-- Whether a whole number of units lies in the cell. -/
def holds (c : Cell) (n : Nat) : Bool :=
  let x := n * c.denominator
  (c.lower < x && x < c.upper) || (c.closed && (x == c.lower || x == c.upper))

/-- The whole number of units in the cell that is nearest to its centre. -/
def nearest? (c : Cell) (tie : Tie) : Option Nat :=
  let below := c.centre / c.denominator
  let above := below + 1
  match c.holds below, c.holds above with
  | true, true =>
    match compare (2 * c.centre) ((below + above) * c.denominator), tie with
    | .lt, _ => some below
    | .gt, _ => some above
    | .eq, .toEven => some (if below % 2 = 0 then below else above)
    | .eq, .up => some above
  | true, false => some below
  | false, true => some above
  | false, false => none

/-- The least `k` such that the centre is below `10 ^ k`. -/
def magnitude (c : Cell) : Int :=
  if c.denominator ≤ c.centre then (Nat.toDigits 10 (c.centre / c.denominator)).length
  else 1 - (Nat.toDigits 10 ((c.denominator - 1) / c.centre)).length

/-- The numeral of a whole number of units of `10 ^ unit`, without zeros at its end. -/
def numeral (n : Nat) (unit : Int) : Numeral :=
  let digits := Nat.toDigits 10 n
  { digits := (digits.reverse.dropWhile (· == '0')).reverse
    point := digits.length + unit }

/-- The first grid on which the cell has a point, from coarse to fine.  Seventeen digits tell
any two numbers apart. -/
def shortest? (c : Cell) (tie : Tie) : Option Numeral :=
  (List.range 17).findSome? fun i =>
    let unit := c.magnitude - Int.ofNat (i + 1)
    ((c.inUnits unit).nearest? tie).map (numeral · unit)

/-- The value at the centre, digit for digit.  The denominator is a power of two. -/
def exactNumeral (c : Cell) : Numeral :=
  let places := c.denominator.log2
  numeral (c.centre * Nat.pow 5 places) (-places)

end Cell

/-- The shortest decimal of the number with the given bits, its sign left aside.  Meant for
finite numbers; zero has no digits. -/
def shortest (bits : UInt64) (tie : Tie) : Numeral :=
  let c := Cell.ofBits bits
  if c.centre = 0 then ⟨[], 0⟩ else (c.shortest? tie).getD c.exactNumeral

end DocSelect.Decimal
