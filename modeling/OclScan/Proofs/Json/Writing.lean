import OclScan.Proofs.Json.Reading

/-!
# What is written spells the value

A value that has only integers is spelled by what is written for it, whatever follows that does not
go on with a number (`spells_write`): each part of the text by the rule of the grammar for the part
of the value that it was written for.
-/

namespace OclScan.Json

open Value (write writeItems writeMembers)

variable {v : Value} {vs : List Value} {ms : List (String × Value)} {rest : List Char}

theorem writeItems_eq (vs : List Value) : writeItems vs = vs.map write := by
  induction vs with
  | nil => rfl
  | cons v vs ih => rw [writeItems, ih, List.map_cons]

/-- The text of a member. -/
def writeMember (m : String × Value) : String := encodeString m.1 ++ ":" ++ m.2.write

theorem writeMembers_eq (ms : List (String × Value)) : writeMembers ms = ms.map writeMember := by
  induction ms with
  | nil => rfl
  | cons m ms ih =>
    rw [writeMembers, ih, List.map_cons]
    rfl

/-! ## Lists of parts -/

/-- By induction on the other items; each but the last is followed by a comma. -/
theorem spellsItems_intercalate (v : Value) (vs : List Value)
    (h : ∀ u ∈ v :: vs, ∀ rest, Number.stops rest = true → Spells (u.write.toList ++ rest) u rest) :
    SpellsItems ((",".intercalate ((v :: vs).map write)).toList ++ ']' :: rest) (v :: vs) rest := by
  induction vs generalizing v with
  | nil => exact .last (h v List.mem_cons_self _ rfl) (skip_cons rfl)
  | cons u vs ih =>
    obtain ⟨hv, hvs⟩ := List.forall_mem_cons.mp h
    rw [List.map_cons, List.map_cons, String.intercalate_cons_cons, ← List.map_cons,
      String.toList_append, String.toList_append, List.append_assoc, List.append_assoc]
    exact .cons (hv _ rfl) (skip_cons rfl) (ih u hvs)

theorem spellsMember_writeMember {m : String × Value}
    (h : Spells (m.2.write.toList ++ rest) m.2 rest) :
    SpellsMember ((writeMember m).toList ++ rest) m rest := by
  obtain ⟨cs, hquote, hkey⟩ :=
    exists_spellsString_encodeString m.1 (':' :: (m.2.write.toList ++ rest))
  have htext : (writeMember m).toList ++ rest =
      (encodeString m.1).toList ++ ':' :: (m.2.write.toList ++ rest) := by
    simp [writeMember]
  rw [htext]
  exact .intro ((skip_encodeString _ _).trans hquote) hkey (skip_cons rfl) h

theorem spellsMembers_intercalate (m : String × Value) (ms : List (String × Value))
    (h : ∀ u ∈ m :: ms, ∀ rest, Number.stops rest = true →
      Spells (u.2.write.toList ++ rest) u.2 rest) :
    SpellsMembers ((",".intercalate ((m :: ms).map writeMember)).toList ++ '\x7d' :: rest) (m :: ms)
      rest := by
  induction ms generalizing m with
  | nil => exact .last (spellsMember_writeMember (h m List.mem_cons_self _ rfl)) (skip_cons rfl)
  | cons u ms ih =>
    obtain ⟨hm, hms⟩ := List.forall_mem_cons.mp h
    rw [List.map_cons, List.map_cons, String.intercalate_cons_cons, ← List.map_cons,
      String.toList_append, String.toList_append, List.append_assoc, List.append_assoc]
    exact .cons (spellsMember_writeMember (hm _ rfl)) (skip_cons rfl) (ih u hms)

/-! ## Values -/

/-- By induction on the value. -/
theorem spells_write (h : v.Integral) (hrest : Number.stops rest = true) :
    Spells (v.write.toList ++ rest) v rest := by
  induction v using Value.inductionOn generalizing rest with
  | null => exact .null (skip_cons rfl)
  | bool b =>
    cases b with
    | false => exact .no (skip_cons rfl)
    | true => exact .yes (skip_cons rfl)
  | number n =>
    obtain ⟨i, rfl, hlow, hhigh⟩ := Value.integral_number_iff.mp h
    have hread := Number.read?_toString hlow hhigh hrest
    exact .number ((congrArg Number.read? (skip_eq_of_read? hread)).trans hread)
  | string s =>
    obtain ⟨cs, hquote, hs⟩ := exists_spellsString_encodeString s rest
    exact .string ((skip_encodeString s rest).trans hquote) hs
  | array vs ih =>
    have hvs : ∀ v ∈ vs, ∀ rest, Number.stops rest = true →
        Spells (v.write.toList ++ rest) v rest :=
      fun v hv rest => ih v hv (Value.integral_array_iff.mp h v hv)
    rw [write, writeItems_eq, String.toList_append, String.toList_append, List.append_assoc,
      List.append_assoc]
    cases vs with
    | nil => exact .emptyArray (skip_cons rfl) (skip_cons rfl)
    | cons v vs => exact .array (skip_cons rfl) (spellsItems_intercalate v vs hvs)
  | object ms ih =>
    have hms : ∀ m ∈ ms, ∀ rest, Number.stops rest = true →
        Spells (m.2.write.toList ++ rest) m.2 rest :=
      fun m hm rest => ih m hm (Value.integral_object_iff.mp h m hm)
    rw [write, writeMembers_eq, String.toList_append, String.toList_append, List.append_assoc,
      List.append_assoc]
    cases ms with
    | nil => exact .emptyObject (skip_cons rfl) (skip_cons rfl)
    | cons m ms => exact .object (skip_cons rfl) (spellsMembers_intercalate m ms hms)

theorem spellsText_write (h : v.Integral) : SpellsText v.write v := by
  refine ⟨[], ?_, rfl⟩
  have hspells : Spells _ v [] := spells_write h rfl
  rwa [List.append_nil] at hspells

end OclScan.Json
