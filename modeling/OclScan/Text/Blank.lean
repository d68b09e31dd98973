import OclScan.Text.Runs

/-!
# White space

The characters with the property White_Space in Unicode 16.
-/

namespace OclScan.Text

/-- The runs of white space. -/
def blankRuns : List (Nat × Nat) := [
  (0x9, 0xd), (0x20, 0x20), (0x85, 0x85), (0xa0, 0xa0), (0x1680, 0x1680), (0x2000, 0x200a),
  (0x2028, 0x2029), (0x202f, 0x202f), (0x205f, 0x205f), (0x3000, 0x3000)]

/-- Whether `c` is white space. -/
def isBlank (c : Char) : Bool := inRuns c.toNat blankRuns

end OclScan.Text
