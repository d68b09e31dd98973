import OclScan.Decimal.Shortest

/-!
# JSON numbers

Integers between -2^63 and 2^64 - 1 are kept exactly, all other numbers as doubles
(`Number.read?`). Doubles are written with the fewest digits that read back, positional where the
decimal point lies within or near the digits (`Number.write`).
-/

namespace OclScan.Json

/-- A number. -/
inductive Number
  | integer (i : Int)
  | double (x : Float)
  deriving Repr

namespace Number

/-- The greatest significand. -/
def greatestSignificand : Nat := 0xffffffffffffffff

/-- The greatest exponent that is written. -/
def greatestExponent : Nat := 0x7fffffff

/-- Collects digits while they fit into a significand; the rest follows. -/
def collect (n : Nat) : List Char → Nat × List Char
  | [] => (n, [])
  | c :: cs =>
    let next := 10 * n + (c.toNat - '0'.toNat)
    if next ≤ greatestSignificand then collect next cs else (n, c :: cs)

/-- A power of ten as a double. -/
def powerOfTen (n : Nat) : Float := Float.ofScientific 1 false n

/-- A significand times a power of ten, none if it is too great. Below the range of doubles the
significand is divided in parts. -/
def scale? : Nat → Float → Int → Option Float
  | 0, x, _ => some x
  | n + 1, x, e =>
    if e.natAbs ≤ 308 then
      if 0 ≤ e then
        let y := x * powerOfTen e.natAbs
        if y.isInf then none else some y
      else some (x / powerOfTen e.natAbs)
    else if x == 0 then some x
    else if 0 ≤ e then none
    else scale? n (x / powerOfTen 308) (e + 308)

/-- The number of parts in which a significand is divided at most. -/
def parts : Nat := 8

/-- A double from its significand and exponent. -/
def ofParts? (negative : Bool) (significand : Nat) (e : Int) : Option Number :=
  (scale? parts significand.toUInt64.toFloat e).map fun x => double (if negative then -x else x)

/-- A number without fraction and exponent. -/
def ofDigits? (negative : Bool) (digits : List Char) : Option Number :=
  match collect 0 digits with
  | (n, []) =>
    if !negative then some (integer n)
    else if 0 < n ∧ n ≤ 0x8000000000000000 then some (integer (-n))
    else ofParts? true n 0
  | (n, rest) => ofParts? negative n rest.length

/-- Splits off leading digits. -/
def digits (cs : List Char) : List Char × List Char := cs.span Char.isDigit

/-- Reads the sign of an exponent. -/
def exponentSign : List Char → Bool × List Char
  | '+' :: cs => (false, cs)
  | '-' :: cs => (true, cs)
  | cs => (false, cs)

/-- Reads the exponent, if there is one, after a significand with its own exponent. -/
def readExponent? (negative : Bool) (significand : Nat) (e : Int) (cs : List Char) :
    Option (Number × List Char) :=
  match cs with
  | c :: cs' =>
    if c == 'e' || c == 'E' then
      let (down, cs') := exponentSign cs'
      let (ds, rest) := digits cs'
      let n := Nat.ofDigitChars 10 ds 0
      if ds.isEmpty then none
      else if greatestExponent < n then
        if significand ≠ 0 ∧ !down then none
        else some (double (if negative then -0.0 else 0.0), rest)
      else (ofParts? negative significand (if down then e - n else e + n)).map (·, rest)
    else (ofParts? negative significand e).map (·, cs)
  | [] => (ofParts? negative significand e).map (·, [])

/-- Reads what follows the digits before the decimal point. -/
def readRest? (negative : Bool) (whole : List Char) (cs : List Char) :
    Option (Number × List Char) :=
  let (n, dropped) := collect 0 whole
  match cs with
  | '.' :: cs =>
    let (ds, rest) := digits cs
    if ds.isEmpty then none
    else
      let (m, unread) := collect n ds
      let e : Int := dropped.length - (ds.length - unread.length)
      readExponent? negative m e rest
  | 'e' :: _ => readExponent? negative n dropped.length cs
  | 'E' :: _ => readExponent? negative n dropped.length cs
  | _ => (ofDigits? negative whole).map (·, cs)

/-- Reads a number. A zero in front stands alone. -/
def read? (cs : List Char) : Option (Number × List Char) :=
  let (negative, cs) := match cs with | '-' :: cs => (true, cs) | _ => (false, cs)
  match cs with
  | '0' :: rest => if (digits rest).1.isEmpty then readRest? negative ['0'] rest else none
  | _ =>
    let (ds, rest) := digits cs
    if ds.isEmpty then none else readRest? negative ds rest

/-- Writes digits times a power of ten. -/
def writeDecimal (d : Nat) (power : Int) : String :=
  let ds := Nat.toDigits 10 d
  let point := ds.length + power
  if d = 0 then "0.0"
  else if 0 ≤ power ∧ point ≤ 16 then
    String.ofList (ds ++ List.replicate power.toNat '0' ++ ['.', '0'])
  else if 0 < point ∧ point ≤ 16 then
    String.ofList (ds.take point.toNat ++ '.' :: ds.drop point.toNat)
  else if -5 < point ∧ point ≤ 0 then
    String.ofList ('0' :: '.' :: (List.replicate (-point).toNat '0' ++ ds))
  else
    let fraction := if ds.length = 1 then [] else '.' :: ds.drop 1
    String.ofList (ds.take 1 ++ fraction) ++ "e" ++ toString (point - 1)

/-- Writes a number. -/
def write : Number → String
  | integer i => toString i
  | double x =>
    let (d, power) := Decimal.shortest x.toBits
    (if x.toBits.toNat.testBit 63 then "-" else "") ++ writeDecimal d power

end Number

end OclScan.Json
