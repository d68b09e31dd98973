import Mathlib.Data.List.DropRight
import OclScan.Proofs.Line
import OclScan.Proofs.Text.Bytes

/-!
# The line of a position

A text is the row of its lines (`flatten_lines`), each of which ends with its line feed, except
perhaps the last (`isLines_lines`). Looking up a position goes along the lines to the one in which
it lies (`placeIn?_eq_some`). The bytes of the text tell the same line: it starts after the last
line feed before the position (`lineStart`) and stops after the first one from there on
(`lineStop`), and its number counts the line feeds before the position (`lineAt?_exact`).
-/

namespace OclScan

open Text (bytes lineFeed)

/-! ## Texts and their lines -/

/-- Lines of a text. Only the last may lack its line feed. -/
inductive IsLines : List (List Char) → Prop
  | nil : IsLines []
  | last {u} : u ≠ [] → '\n' ∉ u → IsLines [u]
  | cons {l ls} : IsLine l → IsLines ls → IsLines (l :: ls)

/-- By induction on the text; `line` is what the current line has before it. -/
theorem isLines_splitLines {line : List Char} (h : '\n' ∉ line) (cs : List Char) :
    IsLines (splitLines line cs) ∧ (splitLines line cs).flatten = line.reverse ++ cs := by
  induction cs generalizing line with
  | nil =>
    cases line with
    | nil => exact ⟨.nil, rfl⟩
    | cons c line =>
      refine ⟨.last (by simp) (by rwa [List.mem_reverse]), ?_⟩
      simp [splitLines]
  | cons c cs ih =>
    rw [splitLines]
    split
    · rename_i hc
      subst hc
      obtain ⟨hlines, hflatten⟩ := ih List.not_mem_nil
      have hline : IsLine ('\n' :: line).reverse :=
        ⟨line.reverse, by rwa [List.mem_reverse], List.reverse_cons⟩
      refine ⟨.cons hline hlines, ?_⟩
      rw [List.flatten_cons, hflatten]
      simp
    · rename_i hc
      have hline : '\n' ∉ c :: line := by simp [h, Ne.symm hc]
      obtain ⟨hlines, hflatten⟩ := ih hline
      refine ⟨hlines, ?_⟩
      rw [hflatten]
      simp

theorem isLines_lines (cs : List Char) : IsLines (lines cs) :=
  (isLines_splitLines List.not_mem_nil cs).1

/-- A text is the row of its lines. -/
theorem flatten_lines (cs : List Char) : (lines cs).flatten = cs :=
  (isLines_splitLines List.not_mem_nil cs).2

/-- All lines before a line have their line feed. -/
theorem IsLines.split {xs ys : List (List Char)} {l : List Char} (h : IsLines (xs ++ l :: ys)) :
    (∀ x ∈ xs, IsLine x) ∧ (IsLine l ∨ '\n' ∉ l ∧ ys = []) := by
  induction xs with
  | nil =>
    refine ⟨nofun, ?_⟩
    cases h with
    | last _ hl => exact .inr ⟨hl, rfl⟩
    | cons hl _ => exact .inl hl
  | cons x xs ih =>
    generalize hrest : xs ++ l :: ys = rest at h ih
    rw [List.cons_append, hrest] at h
    cases h with
    | last _ _ => simp at hrest
    | cons hx h =>
      obtain ⟨hxs, hl⟩ := ih h
      exact ⟨List.forall_mem_cons.mpr ⟨hx, hxs⟩, hl⟩

/-! ## The lookup -/

/-- The number of bytes of all the lines. -/
def sizeOfLines : List (List Char) → Nat
  | [] => 0
  | l :: ls => (String.ofList l).utf8ByteSize + sizeOfLines ls

theorem sizeOfLines_eq (ls : List (List Char)) :
    sizeOfLines ls = (bytes (String.ofList ls.flatten)).length := by
  induction ls with
  | nil => rfl
  | cons l ls ih =>
    rw [sizeOfLines, ih, List.flatten_cons, Text.bytes_ofList_append, List.length_append,
      Text.length_bytes (String.ofList l)]

/-- The place is in the first line that stops after the position. -/
theorem placeIn?_eq_some {p number start : Nat} {ls : List (List Char)} {place : LinePlace}
    (h : placeIn? p number start ls = some place) :
    ∃ xs l ys, ls = xs ++ l :: ys ∧ start + sizeOfLines xs ≤ p ∧
      p < start + sizeOfLines xs + (String.ofList l).utf8ByteSize ∧
      place = ⟨number + xs.length, String.ofList l, p - (start + sizeOfLines xs)⟩ := by
  induction ls generalizing number start with
  | nil => cases h
  | cons l ls ih =>
    rw [placeIn?] at h
    split at h
    · rename_i hin
      cases h
      exact ⟨[], l, ls, rfl, hin.1, hin.2, rfl⟩
    · obtain ⟨xs, l', ys, rfl, hlow, hhigh, rfl⟩ := ih h
      refine ⟨l :: xs, l', ys, rfl, ?_⟩
      simp only [sizeOfLines, ← Nat.add_assoc, List.length_cons]
      refine ⟨hlow, hhigh, ?_⟩
      rw [Nat.add_assoc number 1, Nat.add_comm 1]
      rfl

/-- A position has a place if it lies before the end of the last line. -/
theorem placeIn?_isSome {p number start : Nat} {ls : List (List Char)} (h : start ≤ p) :
    (placeIn? p number start ls).isSome ↔ p < start + sizeOfLines ls := by
  induction ls generalizing number start with
  | nil =>
    have hsizes : sizeOfLines [] = 0 := rfl
    simp only [placeIn?, Option.isSome_none, Bool.false_eq_true, false_iff, hsizes]
    omega
  | cons l ls ih =>
    rw [placeIn?, sizeOfLines]
    split
    · simp only [Option.isSome_some, true_iff]
      omega
    · rw [ih (by omega), Nat.add_assoc]

/-! ## Lines in bytes -/

/-- Where the line of the position `p` starts: after the last line feed before `p`, or at the
start. -/
def lineStart (bs : List UInt8) (p : Nat) : Nat := ((bs.take p).rdropWhile (· != lineFeed)).length

/-- Where the line of the position `p` stops: after the first line feed from `p` on, or at the
end. -/
def lineStop (bs : List UInt8) (p : Nat) : Nat :=
  min (p + ((bs.drop p).takeWhile (· != lineFeed)).length + 1) bs.length

/-- The bytes of a line, and those after it. -/
def IsByteLine (l after : List UInt8) : Prop :=
  (∃ u, lineFeed ∉ u ∧ l = u ++ [lineFeed]) ∨ lineFeed ∉ l ∧ after = []

section

variable {a l b : List UInt8} {q : Nat}

theorem take_append_line (hq : q ≤ l.length) :
    (a ++ l ++ b).take (a.length + q) = a ++ l.take q := by
  rw [List.append_assoc, List.take_length_add_append, List.take_append_of_le_length hq]

/-- Only the last byte of a line may be a line feed. -/
theorem IsByteLine.notMem_take (h : IsByteLine l b) (hq : q < l.length) : lineFeed ∉ l.take q := by
  rcases h with ⟨u, hu, rfl⟩ | ⟨hl, -⟩
  · rw [List.length_append, List.length_singleton] at hq
    rw [List.take_append_of_le_length (by omega)]
    exact fun hmem => hu (List.mem_of_mem_take hmem)
  · exact fun hmem => hl (List.mem_of_mem_take hmem)

theorem IsByteLine.lineStart_eq (h : IsByteLine l b) (hq : q < l.length)
    (ha : ∀ x ∈ a.getLast?, x = lineFeed) : lineStart (a ++ l ++ b) (a.length + q) = a.length := by
  have hfeed : ∀ x ∈ (l.take q).reverse, (x != lineFeed) = true :=
    bne_of_notMem fun hmem => h.notMem_take hq (List.mem_reverse.mp hmem)
  rw [lineStart, take_append_line hq.le, List.rdropWhile, List.reverse_append,
    List.dropWhile_append_of_pos hfeed, List.length_reverse]
  cases hr : a.reverse with
  | nil =>
    rw [List.reverse_eq_nil_iff.mp hr]
    rfl
  | cons x r =>
    have hx : x = lineFeed := ha x (by rw [List.getLast?_eq_head?_reverse, hr]; rfl)
    rw [List.dropWhile_cons_of_neg (by simp [hx]), ← hr, List.length_reverse]

theorem IsByteLine.lineStop_eq (h : IsByteLine l b) (hq : q < l.length) :
    lineStop (a ++ l ++ b) (a.length + q) = a.length + l.length := by
  have hdrop : (a ++ l ++ b).drop (a.length + q) = l.drop q ++ b := by
    rw [List.append_assoc, List.drop_length_add_append, List.drop_append_of_le_length hq.le]
  rw [lineStop, hdrop]
  simp only [List.length_append]
  rcases h with ⟨u, hu, rfl⟩ | ⟨hl, rfl⟩
  · rw [List.length_append, List.length_singleton] at hq ⊢
    have hfeed : ∀ x ∈ u.drop q, (x != lineFeed) = true :=
      bne_of_notMem fun hmem => hu (List.mem_of_mem_drop hmem)
    rw [List.drop_append_of_le_length (by omega), List.append_assoc,
      List.takeWhile_append_of_pos hfeed, List.singleton_append,
      List.takeWhile_cons_of_neg (by simp), List.append_nil, List.length_drop]
    omega
  · have hfeed : ∀ x ∈ l.drop q, (x != lineFeed) = true :=
      bne_of_notMem fun hmem => hl (List.mem_of_mem_drop hmem)
    rw [List.append_nil, List.takeWhile_eq_self_iff.mpr hfeed, List.length_drop, List.length_nil]
    omega

end

theorem IsLine.isByteLine {l : List Char} (h : IsLine l) (b : List UInt8) :
    IsByteLine (bytes (String.ofList l)) b := by
  obtain ⟨u, hu, rfl⟩ := h
  refine .inl ⟨_, Text.lineFeed_notMem_bytes hu, ?_⟩
  rw [Text.bytes_ofList_append, Text.bytes_newline]

theorem IsLine.count_bytes {l : List Char} (h : IsLine l) :
    (bytes (String.ofList l)).count lineFeed = 1 := by
  obtain ⟨u, hu, rfl⟩ := h
  rw [Text.bytes_ofList_append, Text.bytes_newline, List.count_append,
    List.count_eq_zero_of_not_mem (Text.lineFeed_notMem_bytes hu), List.count_singleton_self]

/-- Lines have as many line feeds as there are lines, and the last byte is one. -/
theorem lineFeeds_of_lines {ls : List (List Char)} (h : ∀ l ∈ ls, IsLine l) :
    (bytes (String.ofList ls.flatten)).count lineFeed = ls.length ∧
      ∀ x ∈ (bytes (String.ofList ls.flatten)).getLast?, x = lineFeed := by
  induction ls using List.reverseRecOn with
  | nil => exact ⟨rfl, nofun⟩
  | append_singleton ls l ih =>
    have hl : IsLine l := h l (by simp)
    obtain ⟨hcount, -⟩ := ih fun l hl => h l (List.mem_append_left _ hl)
    rw [List.flatten_append, List.flatten_singleton, Text.bytes_ofList_append]
    refine ⟨?_, ?_⟩
    · rw [List.count_append, hcount, hl.count_bytes, List.length_append, List.length_singleton]
    · obtain ⟨u, -, rfl⟩ := hl
      rw [Text.bytes_ofList_append, Text.bytes_newline, ← List.append_assoc,
        List.getLast?_concat]
      intro x hx
      exact (Option.some.inj hx).symm

/-- The place of the position, as the bytes of the text tell it. -/
structure LinePlace.IsAt (place : LinePlace) (source : String) (p : Nat) : Prop where
  number : place.number = 1 + ((bytes source).take p).count lineFeed
  text : bytes place.text =
    ((bytes source).take (lineStop (bytes source) p)).drop (lineStart (bytes source) p)
  column : place.column = p - lineStart (bytes source) p

/-- The bytes determine the place. -/
theorem LinePlace.IsAt.unique {place place' : LinePlace} {source : String} {p : Nat}
    (h : place.IsAt source p) (h' : place'.IsAt source p) : place' = place := by
  have htext : place'.text = place.text := Text.bytes_inj (h'.text.trans h.text.symm)
  obtain ⟨number, text, column⟩ := place
  obtain ⟨number', text', column'⟩ := place'
  obtain rfl : text' = text := htext
  obtain rfl : number' = number := h'.number.trans h.number.symm
  obtain rfl : column' = column := h'.column.trans h.column.symm
  rfl

/-- The position lies in the line, and the lines before it come before the position. -/
structure LinePlace.InLine (place : LinePlace) (source : String) (p : Nat) : Prop where
  line : (lines source.toList)[place.number - 1]? = some place.text.toList
  before : sizeOfLines ((lines source.toList).take (place.number - 1)) + place.column = p
  column_lt : place.column < place.text.utf8ByteSize

theorem inLine_of_lineAt? {source : String} {p : Nat} {place : LinePlace}
    (h : lineAt? source p = some place) : place.InLine source p := by
  obtain ⟨xs, l, ys, hlines, hlow, hhigh, rfl⟩ := placeIn?_eq_some h
  rw [Nat.zero_add] at hlow hhigh ⊢
  refine ⟨?_, ?_, ?_⟩
  · show (lines source.toList)[1 + xs.length - 1]? = _
    rw [Nat.add_sub_cancel_left, hlines, List.getElem?_append_right (Nat.le_refl _),
      Nat.sub_self, String.toList_ofList]
    rfl
  · show sizeOfLines ((lines source.toList).take (1 + xs.length - 1)) + (p - sizeOfLines xs) = _
    rw [Nat.add_sub_cancel_left, hlines, List.take_left, Nat.add_sub_cancel' hlow]
  · show p - sizeOfLines xs < (String.ofList l).utf8ByteSize
    omega

/-- The bytes of a text around one of its lines. -/
theorem bytes_of_lines {source : String} {xs ys : List (List Char)} {l : List Char}
    (h : lines source.toList = xs ++ l :: ys) :
    bytes source = bytes (String.ofList xs.flatten) ++ bytes (String.ofList l) ++
      bytes (String.ofList ys.flatten) := by
  have hsource := flatten_lines source.toList
  rw [h, List.flatten_append, List.flatten_cons, ← List.append_assoc] at hsource
  rw [← Text.bytes_ofList_append, ← Text.bytes_ofList_append, hsource, String.ofList_toList]

theorem isAt_of_lineAt? {source : String} {p : Nat} {place : LinePlace}
    (h : lineAt? source p = some place) : place.IsAt source p := by
  obtain ⟨xs, l, ys, hlines, hlow, hhigh, rfl⟩ := placeIn?_eq_some h
  rw [Nat.zero_add] at hlow hhigh ⊢
  obtain ⟨q, rfl⟩ := Nat.exists_eq_add_of_le hlow
  have hq : q < (bytes (String.ofList l)).length := by
    rw [Text.length_bytes]
    omega
  obtain ⟨hxs, hl⟩ := (hlines ▸ isLines_lines source.toList).split
  obtain ⟨hcount, hlast⟩ := lineFeeds_of_lines hxs
  have hline : IsByteLine (bytes (String.ofList l)) (bytes (String.ofList ys.flatten)) := by
    rcases hl with hl | ⟨hl, rfl⟩
    · exact hl.isByteLine _
    · exact .inr ⟨Text.lineFeed_notMem_bytes hl, rfl⟩
  have hbytes := bytes_of_lines hlines
  have hsizes := sizeOfLines_eq xs
  have hstart := hline.lineStart_eq hq hlast
  have hstop := hline.lineStop_eq (a := bytes (String.ofList xs.flatten)) hq
  have htake := take_append_line (a := bytes (String.ofList xs.flatten))
    (b := bytes (String.ofList ys.flatten)) hq.le
  rw [← hbytes, ← hsizes] at hstart hstop htake
  refine ⟨?_, ?_, ?_⟩
  · rw [htake, List.count_append, hcount, List.count_eq_zero_of_not_mem (hline.notMem_take hq)]
    rfl
  · rw [hstart, hstop, hbytes, hsizes, List.take_left' (by rw [List.length_append]),
      List.drop_left]
  · rw [hstart]

/-- A position has a line exactly if it lies before the end of the text. The number of the line
counts the line feeds before the position, the line goes from the last of them to the first from
the position on, and the column counts the bytes from its start; so the sizes of the lines before
and the column add up to the position. Positions and sizes count bytes. -/
theorem lineAt?_exact (source : String) (p : Nat) :
    ((lineAt? source p).isSome ↔ p < source.utf8ByteSize) ∧
      ∀ place, (lineAt? source p = some place ↔ p < source.utf8ByteSize ∧ place.IsAt source p) ∧
        (lineAt? source p = some place → place.InLine source p) := by
  have hsome : (lineAt? source p).isSome ↔ p < source.utf8ByteSize := by
    rw [lineAt?, placeIn?_isSome (Nat.zero_le p), sizeOfLines_eq, flatten_lines,
      String.ofList_toList, Text.length_bytes, Nat.zero_add]
  refine ⟨hsome, fun place => ⟨⟨fun h => ?_, ?_⟩, inLine_of_lineAt?⟩⟩
  · exact ⟨hsome.mp (by rw [h]; rfl), isAt_of_lineAt? h⟩
  · rintro ⟨hlt, hat⟩
    obtain ⟨place', hplace'⟩ := Option.isSome_iff_exists.mp (hsome.mpr hlt)
    rw [hplace', hat.unique (isAt_of_lineAt? hplace')]

/-- A position within a character of two bytes, on a line feed, on an empty line and on a last line
without a line feed. -/
theorem lineAt?_exact_places :
    let source := "aβ\n\nc"
    lineAt? source 2 = some ⟨1, "aβ\n", 2⟩ ∧ (LinePlace.mk 1 "aβ\n" 2).InLine source 2 ∧
      lineAt? source 3 = some ⟨1, "aβ\n", 3⟩ ∧ (LinePlace.mk 1 "aβ\n" 3).IsAt source 3 ∧
      lineAt? source 4 = some ⟨2, "\n", 0⟩ ∧ (LinePlace.mk 2 "\n" 0).InLine source 4 ∧
      lineAt? source 5 = some ⟨3, "c", 0⟩ ∧ (LinePlace.mk 3 "c" 0).InLine source 5 ∧
      lineAt? source 6 = none := by
  intro source
  have h2 : lineAt? source 2 = some ⟨1, "aβ\n", 2⟩ := by decide
  have h3 : lineAt? source 3 = some ⟨1, "aβ\n", 3⟩ := by decide
  have h4 : lineAt? source 4 = some ⟨2, "\n", 0⟩ := by decide
  have h5 : lineAt? source 5 = some ⟨3, "c", 0⟩ := by decide
  have h6 : lineAt? source 6 = none := by decide
  exact ⟨h2, ((lineAt?_exact source 2).2 _).2 h2, h3, (((lineAt?_exact source 3).2 _).1.mp h3).2,
    h4, ((lineAt?_exact source 4).2 _).2 h4, h5, ((lineAt?_exact source 5).2 _).2 h5, h6⟩

end OclScan
