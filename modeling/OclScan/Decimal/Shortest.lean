/-!
# Shortest decimals

The decimal with the fewest digits that reads back as a given binary number (`Shortest.digits`).
The number is a mantissa times a power of two; all that lies nearer to it than to its neighbours,
or halfway where the mantissa is even, reads back as it. Powers of ten are tried from above: the
first with a multiple in that interval gives the digits, of two multiples the nearer, of two
equally near the even one.
-/

namespace OclScan.Decimal

/-- A positive binary number with the interval of what reads back as it: `low`, `mid` and `high`
over `scale`. -/
structure Interval where
  low : Nat
  mid : Nat
  high : Nat
  scale : Nat
  /-- Whether the ends belong to the interval. -/
  closed : Bool
  deriving Repr

namespace Interval

/-- The interval of `mantissa · 2 ^ exponent`. Below a power of two the neighbours are twice as
near (`tight`). -/
def ofBinary (mantissa : Nat) (exponent : Int) (tight : Bool) : Interval :=
  let up := Nat.pow 2 (exponent - 2).toNat
  let down := Nat.pow 2 (2 - exponent).toNat
  let below := if tight then 1 else 2
  ⟨(4 * mantissa - below) * up, 4 * mantissa * up, (4 * mantissa + 2) * up, down,
    mantissa % 2 == 0⟩

/-- Whether `d · 10 ^ power` lies in the interval. -/
def contains (i : Interval) (d : Nat) (power : Int) : Bool :=
  let up := Nat.pow 10 power.toNat
  let down := Nat.pow 10 (-power).toNat
  let x := d * up * i.scale
  if i.closed then i.low * down ≤ x && x ≤ i.high * down
  else i.low * down < x && x < i.high * down

/-- The multiples of `10 ^ power` to both sides of the number: the quotient, the remainder and the
divisor. -/
def divide (i : Interval) (power : Int) : Nat × Nat × Nat :=
  let x := i.mid * Nat.pow 10 (-power).toNat
  let y := i.scale * Nat.pow 10 power.toNat
  (x / y, x % y, y)

/-- The multiple of `10 ^ power` to take, if one lies in the interval. -/
def multiple? (i : Interval) (power : Int) : Option Nat :=
  let (q, r, y) := i.divide power
  let below := 0 < q && i.contains q power
  let above := i.contains (q + 1) power
  if below && above then
    some (if 2 * r < y || (2 * r == y && q % 2 == 0) then q else q + 1)
  else if below then some q
  else if above then some (q + 1)
  else none

/-- The digits and the power of ten, trying `n` powers from `power` down. -/
def search (i : Interval) : Nat → Int → Nat × Int
  | 0, power => (0, power)
  | n + 1, power =>
    match i.multiple? power with
    | some d => (d, power)
    | none => search i n (power - 1)

end Interval

/-- A power of ten above all doubles, from where the search goes down. -/
def firstPower : Int := 309

/-- How many powers of ten are tried at most: the least double is a multiple of one of them. -/
def powers : Nat := 650

/-- The leading bit of a mantissa, which is not stored. -/
def implicitBit : Nat := 0x10000000000000

/-- The fewest digits, and their power of ten, that read back as the double with the given bits,
sign apart. Zero has no digits. -/
def shortest (bits : UInt64) : Nat × Int :=
  let field : Nat := (bits.toNat / implicitBit) % 2048
  let fraction : Nat := bits.toNat % implicitBit
  if field = 0 ∧ fraction = 0 then (0, 0)
  else
    let i :=
      if field = 0 then Interval.ofBinary fraction (-1074) false
      else .ofBinary (implicitBit + fraction) (Int.ofNat field - 1075) (fraction == 0 && 1 < field)
    i.search powers firstPower

end OclScan.Decimal
