import OclScan.Proofs.Cursor

/-!
# The bytes of a text

A text is determined by its bytes (`bytes_inj`). The byte of a line feed is the byte of no other
character, and not a part of one (`lineFeed_mem_utf8EncodeChar`), so a text without line feeds has
no such byte (`lineFeed_notMem_bytes`).
-/

namespace OclScan.Text

/-- The bytes of a text. -/
def bytes (s : String) : List UInt8 := s.toUTF8.data.toList

/-- The byte of a line feed. -/
def lineFeed : UInt8 := 10

theorem bytes_ofList (cs : List Char) :
    bytes (String.ofList cs) = cs.flatMap String.utf8EncodeChar := by
  rw [bytes, String.toUTF8_eq_toByteArray, String.toByteArray_ofList, List.utf8Encode,
    List.toList_data_toByteArray]

theorem bytes_ofList_append (u v : List Char) :
    bytes (String.ofList (u ++ v)) = bytes (String.ofList u) ++ bytes (String.ofList v) := by
  simp only [bytes_ofList, List.flatMap_append]

theorem length_bytes (s : String) : (bytes s).length = s.utf8ByteSize := by
  rw [bytes, Array.length_toList]
  rfl

theorem bytes_inj {s t : String} (h : bytes s = bytes t) : s = t := by
  have hdata : s.toUTF8.data = t.toUTF8.data := Array.toList_inj.mp h
  exact String.toByteArray_inj.mp (ByteArray.ext hdata)

/-- A line feed has one byte, and every byte of a longer character is 128 or more. -/
theorem lineFeed_mem_utf8EncodeChar {c : Char} (h : lineFeed ∈ String.utf8EncodeChar c) :
    c = '\n' := by
  have hbyte {n : Nat} (hn : n < 256) (e : lineFeed = UInt8.ofNat n) : n = 10 := by
    have hmod := congrArg UInt8.toNat e
    rw [UInt8.toNat_ofNat', Nat.mod_eq_of_lt hn] at hmod
    exact hmod.symm
  simp only [String.utf8EncodeChar] at h
  split at h
  · have hv := hbyte (by omega) (List.mem_singleton.mp h)
    exact Char.ext (UInt32.toNat_inj.mp hv)
  · exfalso
    split at h
    · simp only [List.mem_cons, List.not_mem_nil, or_false] at h
      rcases h with h | h <;> have := hbyte (by omega) h <;> omega
    · split at h
      · simp only [List.mem_cons, List.not_mem_nil, or_false] at h
        rcases h with h | h | h <;> have := hbyte (by omega) h <;> omega
      · simp only [List.mem_cons, List.not_mem_nil, or_false] at h
        rcases h with h | h | h | h <;> have := hbyte (by omega) h <;> omega

theorem lineFeed_notMem_bytes {cs : List Char} (h : '\n' ∉ cs) :
    lineFeed ∉ bytes (String.ofList cs) := by
  rw [bytes_ofList, List.mem_flatMap]
  rintro ⟨c, hc, hmem⟩
  rw [lineFeed_mem_utf8EncodeChar hmem] at hc
  exact h hc

theorem bytes_newline : bytes (String.ofList ['\n']) = [lineFeed] := by
  rw [bytes_ofList]
  rfl

end OclScan.Text
