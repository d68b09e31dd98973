import OclScan.Cursor

/-!
# Moving a cursor

Where `Cursor.advance` leads: the text that is left (`Cursor.rest_advance`), the character before it
(`Cursor.before_advance`) and the offset, which counts the bytes of the characters passed
(`Cursor.offset_advance`).
-/

namespace OclScan

theorem utf8ByteSize_ofList_cons (x : Char) (xs : List Char) :
    (String.ofList (x :: xs)).utf8ByteSize = x.utf8Size + (String.ofList xs).utf8ByteSize := by
  rw [← List.singleton_append, String.ofList_append, String.utf8ByteSize_append,
    ← String.singleton_eq_ofList, String.utf8ByteSize_singleton]

theorem utf8ByteSize_ofList_pos {xs : List Char} (h : xs ≠ []) :
    0 < (String.ofList xs).utf8ByteSize := by
  cases xs with
  | nil => exact absurd rfl h
  | cons x xs =>
    rw [utf8ByteSize_ofList_cons]
    have := x.utf8Size_pos
    omega

namespace Cursor

variable {c : Cursor} {m n : Nat}

@[simp] theorem advance_zero (c : Cursor) : c.advance 0 = c := rfl

theorem advance_of_rest_nil (h : c.rest = []) (n : Nat) : c.advance n = c := by
  cases n with
  | zero => rfl
  | succ n => rw [advance, h]

theorem advance_cons (b : Option Char) (o : Nat) (x : Char) (xs : List Char) (n : Nat) :
    (Cursor.mk b o (x :: xs)).advance (n + 1) =
      (Cursor.mk (some x) (o + x.utf8Size) xs).advance n := rfl

/-- By induction on `n`, as all that follows. -/
theorem advance_add (c : Cursor) (m n : Nat) : c.advance (m + n) = (c.advance m).advance n := by
  induction m generalizing c with
  | zero => rw [Nat.zero_add, advance_zero]
  | succ m ih =>
    obtain ⟨b, o, rest⟩ := c
    cases rest with
    | nil => rw [advance_of_rest_nil rfl, advance_of_rest_nil rfl, advance_of_rest_nil rfl]
    | cons x xs => rw [Nat.add_right_comm, advance_cons, advance_cons, ih]

@[simp] theorem rest_advance (c : Cursor) (n : Nat) : (c.advance n).rest = c.rest.drop n := by
  induction n generalizing c with
  | zero => rfl
  | succ n ih =>
    obtain ⟨b, o, rest⟩ := c
    cases rest with
    | nil => rw [advance_of_rest_nil rfl, List.drop_nil]
    | cons x xs => rw [advance_cons, ih, List.drop_succ_cons]

theorem offset_advance (c : Cursor) (n : Nat) :
    (c.advance n).offset = c.offset + (c.take n).utf8ByteSize := by
  induction n generalizing c with
  | zero => rfl
  | succ n ih =>
    obtain ⟨b, o, rest⟩ := c
    cases rest with
    | nil => rfl
    | cons x xs =>
      rw [advance_cons, ih, take, take, List.take_succ_cons, utf8ByteSize_ofList_cons]
      exact Nat.add_assoc o _ _

theorem toList_take (c : Cursor) (n : Nat) : (c.take n).toList = c.rest.take n :=
  String.toList_ofList

theorem take_add (c : Cursor) (m n : Nat) : c.take (m + n) = c.take m ++ (c.advance m).take n := by
  rw [take, List.take_add, String.ofList_append, take, take, rest_advance]

theorem take_ne_empty (h : c.rest ≠ []) (hn : 0 < n) : c.take n ≠ "" := by
  intro e
  have hnil := congrArg String.toList e
  rw [toList_take, String.toList_empty, List.take_eq_nil_iff] at hnil
  exact hnil.elim (Nat.ne_of_gt hn) h

theorem offset_lt_offset_advance (h : c.rest ≠ []) (hn : 0 < n) :
    c.offset < (c.advance n).offset := by
  have hne : c.rest.take n ≠ [] := by
    rw [Ne, List.take_eq_nil_iff, not_or]
    exact ⟨Nat.ne_of_gt hn, h⟩
  have := utf8ByteSize_ofList_pos hne
  rw [offset_advance, take]
  omega

theorem offset_advance_lt (hmn : m < n) (hm : m < c.rest.length) :
    (c.advance m).offset < (c.advance n).offset := by
  obtain ⟨k, rfl⟩ := Nat.exists_eq_add_of_lt hmn
  rw [Nat.add_assoc, advance_add]
  refine offset_lt_offset_advance ?_ (by omega)
  rw [rest_advance, Ne, List.drop_eq_nil_iff]
  omega

theorem offset_advance_inj (hm : m ≤ c.rest.length) (hn : n ≤ c.rest.length)
    (h : (c.advance m).offset = (c.advance n).offset) : m = n := by
  rcases Nat.lt_trichotomy m n with hlt | rfl | hlt
  · have := offset_advance_lt hlt (Nat.lt_of_lt_of_le hlt hn)
    omega
  · rfl
  · have := offset_advance_lt hlt (Nat.lt_of_lt_of_le hlt hm)
    omega

theorem before_advance (h : n < c.rest.length) : (c.advance (n + 1)).before = c.rest[n]? := by
  induction n generalizing c with
  | zero =>
    obtain ⟨b, o, _ | ⟨x, xs⟩⟩ := c
    · exact absurd h (Nat.not_lt_zero 0)
    · rfl
  | succ n ih =>
    obtain ⟨b, o, _ | ⟨x, xs⟩⟩ := c
    · exact absurd h (Nat.not_lt_zero _)
    · rw [advance_cons, ih (Nat.lt_of_succ_lt_succ h), List.getElem?_cons_succ]

end Cursor

end OclScan
