/-!
# Hexadecimal digits
-/

namespace OclScan.Text

/-- The value of a hexadecimal digit, in either case. -/
def hexValue? (c : Char) : Option Nat :=
  if '0' ≤ c ∧ c ≤ '9' then some (c.toNat - '0'.toNat)
  else if 'a' ≤ c ∧ c ≤ 'f' then some (c.toNat - 'a'.toNat + 10)
  else if 'A' ≤ c ∧ c ≤ 'F' then some (c.toNat - 'A'.toNat + 10)
  else none

/-- The value of a row of hexadecimal digits. -/
def hexNumber? (cs : List Char) : Option Nat :=
  cs.foldlM (fun n c => (hexValue? c).map (16 * n + ·)) 0

/-- The character whose code point `cs` writes in hexadecimal. -/
def hexChar? (cs : List Char) : Option Char :=
  if cs.isEmpty then none
  else (hexNumber? cs).bind fun n => if n.isValidChar then some (Char.ofNat n) else none

end OclScan.Text
