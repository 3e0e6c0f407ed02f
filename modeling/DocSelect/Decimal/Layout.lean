/-
# How decimals are written

Which digits a number gets is settled by `Decimal.shortest`.  How they are laid out is a matter
of the text they appear in, and a `Layout` holds all the decisions: where the decimal point
stands, from which magnitude on an exponent is written, and how the special numbers are called.
-/
import DocSelect.Decimal.Shortest

namespace DocSelect.Decimal

/-- The decisions on how a number is written. -/
structure Layout where
  /-- Which of two equally near shortest decimals is taken. -/
  tie : Tie
  /-- The exponents of the leading digit that are written without an exponent, as a closed
  range; `none` if no exponent is ever written. -/
  plain : Option (Int × Int)
  /-- Whether a whole number ends in a point and a zero. -/
  pointZero : Bool
  /-- Whether the sign of an exponent is written when it is not negative. -/
  exponentPlus : Bool

namespace Layout

/-- A run of zeros. -/
def zeros (n : Nat) : List Char :=
  List.replicate n '0'

/-- The digits with the decimal point in its place. -/
def positional (layout : Layout) (n : Numeral) : List Char :=
  if n.point ≤ 0 then
    ['0', '.'] ++ zeros (-n.point).toNat ++ n.digits
  else
    let whole := n.point.toNat
    if n.digits.length ≤ whole then
      n.digits ++ zeros (whole - n.digits.length) ++ (if layout.pointZero then ['.', '0'] else [])
    else
      n.digits.take whole ++ '.' :: n.digits.drop whole

/-- One digit, the point and the rest of the digits, and the exponent of the first digit. -/
def scientific (layout : Layout) (n : Numeral) : List Char :=
  let exponent := n.point - 1
  let sign := if exponent < 0 then ['-'] else if layout.exponentPlus then ['+'] else []
  let rest := n.digits.drop 1
  n.digits.take 1 ++ (if rest.isEmpty then [] else '.' :: rest) ++ 'e' :: sign ++
    Nat.toDigits 10 exponent.natAbs

/-- The text of a numeral. -/
def numeral (layout : Layout) (n : Numeral) : List Char :=
  let exponent := n.point - 1
  match layout.plain with
  | none => layout.positional n
  | some (least, greatest) =>
    if least ≤ exponent ∧ exponent ≤ greatest then layout.positional n
    else layout.scientific n

/-- The text of a number, its sign left aside. -/
def magnitude (layout : Layout) (bits : UInt64) : List Char :=
  let n := shortest bits layout.tie
  if n.digits.isEmpty then (if layout.pointZero then ['0', '.', '0'] else ['0'])
  else layout.numeral n

/-- The text of a number.  The sign of zero is written; a number that is not a number has no
sign. -/
def text (layout : Layout) (x : Float) : String :=
  if x.isNaN then "NaN"
  else
    let sign := if x.toBits.toNat < Nat.pow 2 63 then [] else ['-']
    let body := if x.isInf then ['i', 'n', 'f'] else layout.magnitude x.toBits
    String.ofList (sign ++ body)

end Layout

/-- Numbers in documents: an exponent, with its sign, only for very small and very large
numbers; whole numbers end in `.0`, which keeps them apart from integers. -/
def documentLayout : Layout :=
  { tie := .toEven, plain := some (-5, 15), pointZero := true, exponentPlus := true }

/-- Numbers in running text: never an exponent, and whole numbers look like integers. -/
def plainLayout : Layout :=
  { tie := .up, plain := none, pointZero := false, exponentPlus := false }

/-- Numbers in inspection texts: like those in documents, with a slightly smaller range
without exponents and no sign on positive ones. -/
def inspectionLayout : Layout :=
  { tie := .up, plain := some (-4, 15), pointZero := true, exponentPlus := false }

end DocSelect.Decimal
