import OclScan.Proofs.Json.Reader
import OclScan.Proofs.Json.Settled
import OclScan.Proofs.Json.Spelling

/-!
# Reading follows the grammar

What is read is spelled (`readsAsSpelled`): each step of the reader applies a rule of the grammar.
What is spelled is read, with fuel for twice its length (`Spells.readValue?`). So a text is read as
a value exactly if it spells a value, not too deep, that is settled to this value (`read?_iff`).
-/

namespace OclScan.Json

variable {fuel depth : Nat} {cs rest : List Char} {v w : Value}

/-! ## Words -/

theorem readWord?_append (word : String) (v : Value) (rest : List Char) :
    readWord? word v (word.toList ++ rest) = some (v, rest) := by
  rw [readWord?, if_pos (List.isPrefixOf_iff_prefix.mpr (List.prefix_append _ _)),
    ← String.length_toList, List.drop_left]

theorem readWord?_eq_some {word : String} (h : readWord? word v cs = some (w, rest)) :
    w = v ∧ cs = word.toList ++ rest := by
  unfold readWord? at h
  split at h
  · rename_i hprefix
    obtain ⟨rest', rfl⟩ := List.isPrefixOf_iff_prefix.mp hprefix
    rw [← String.length_toList, List.drop_left] at h
    cases h
    exact ⟨rfl, rfl⟩
  · cases h

/-! ## What is read is spelled -/

/-- What is read with `fuel` is what the text spells, settled. -/
structure ReadsAsSpelled (fuel : Nat) : Prop where
  value : ∀ {depth cs v rest}, readValue? fuel depth cs = some (v, rest) →
    ∃ u, Spells cs u rest ∧ u.depth ≤ depth ∧ u.settled = v
  items : ∀ {depth cs vs rest}, readItems? fuel depth cs = some (vs, rest) →
    ∃ us, SpellsItems cs us rest ∧ (∀ u ∈ us, u.depth ≤ depth) ∧ us.map Value.settled = vs
  members : ∀ {depth ms cs ns rest}, readMembers? fuel depth ms cs = some (ns, rest) →
    ∃ us, SpellsMembers cs us rest ∧ (∀ u ∈ us, u.2.depth ≤ depth) ∧
      setMembers ms (us.map fun m => (m.1, m.2.settled)) = ns

namespace ReadsAsSpelled

theorem value_succ (hf : ReadsAsSpelled fuel)
    (h : readValue? (fuel + 1) depth cs = some (v, rest)) :
    ∃ u, Spells cs u rest ∧ u.depth ≤ depth ∧ u.settled = v := by
  unfold readValue? at h
  split at h
  case h_1 => cases h
  case h_2 heq =>
    obtain ⟨rfl, hword⟩ := readWord?_eq_some h
    exact ⟨.null, .null (heq.trans hword), Nat.zero_le _, rfl⟩
  case h_3 heq =>
    obtain ⟨rfl, hword⟩ := readWord?_eq_some h
    exact ⟨.bool true, .yes (heq.trans hword), Nat.zero_le _, rfl⟩
  case h_4 heq =>
    obtain ⟨rfl, hword⟩ := readWord?_eq_some h
    exact ⟨.bool false, .no (heq.trans hword), Nat.zero_le _, rfl⟩
  case h_5 heq =>
    obtain ⟨⟨s, rest'⟩, hs, h⟩ := Option.map_eq_some_iff.mp h
    cases h
    exact ⟨.string s, .string heq (readString?_iff.mp hs), Nat.zero_le _, rfl⟩
  case h_6 heq =>
    split at h
    · cases h
    · rename_i hdepth
      obtain ⟨depth, rfl⟩ := Nat.exists_eq_add_one_of_ne_zero hdepth
      split at h
      · rename_i hend
        cases h
        exact ⟨.array [], .emptyArray heq hend,
          Value.depth_array_le.mpr (List.forall_mem_nil _), rfl⟩
      · obtain ⟨⟨vs, rest'⟩, hvs, h⟩ := Option.map_eq_some_iff.mp h
        cases h
        obtain ⟨us, hus, hle, rfl⟩ := hf.items hvs
        exact ⟨.array us, .array heq hus, Value.depth_array_le.mpr hle, Value.settled_array us⟩
  case h_7 heq =>
    split at h
    · cases h
    · rename_i hdepth
      obtain ⟨depth, rfl⟩ := Nat.exists_eq_add_one_of_ne_zero hdepth
      split at h
      · rename_i hend
        cases h
        exact ⟨.object [], .emptyObject heq hend,
          Value.depth_object_le.mpr (List.forall_mem_nil _), rfl⟩
      · obtain ⟨⟨ms, rest'⟩, hms, h⟩ := Option.map_eq_some_iff.mp h
        cases h
        obtain ⟨us, hus, hle, rfl⟩ := hf.members hms
        exact ⟨.object us, .object heq hus, Value.depth_object_le.mpr hle,
          Value.settled_object us⟩
  case h_8 =>
    obtain ⟨⟨n, rest'⟩, hn, h⟩ := Option.map_eq_some_iff.mp h
    cases h
    exact ⟨.number n, .number hn, Nat.zero_le _, rfl⟩

theorem items_succ (hf : ReadsAsSpelled fuel) {vs : List Value}
    (h : readItems? (fuel + 1) depth cs = some (vs, rest)) :
    ∃ us, SpellsItems cs us rest ∧ (∀ u ∈ us, u.depth ≤ depth) ∧ us.map Value.settled = vs := by
  unfold readItems? at h
  obtain ⟨⟨v, cs'⟩, hv, h⟩ := Option.bind_eq_some_iff.mp h
  obtain ⟨u, hu, hle, rfl⟩ := hf.value hv
  dsimp only at h
  split at h
  · rename_i hnext
    obtain ⟨⟨vs', rest'⟩, hvs, h⟩ := Option.bind_eq_some_iff.mp h
    cases h
    obtain ⟨us, hus, hles, rfl⟩ := hf.items hvs
    exact ⟨u :: us, .cons hu hnext hus, List.forall_mem_cons.mpr ⟨hle, hles⟩, rfl⟩
  · rename_i hend
    cases h
    exact ⟨[u], .last hu hend, List.forall_mem_singleton.mpr hle, rfl⟩
  · cases h

theorem members_succ (hf : ReadsAsSpelled fuel) {ms ns : List (String × Value)}
    (h : readMembers? (fuel + 1) depth ms cs = some (ns, rest)) :
    ∃ us, SpellsMembers cs us rest ∧ (∀ u ∈ us, u.2.depth ≤ depth) ∧
      setMembers ms (us.map fun m => (m.1, m.2.settled)) = ns := by
  unfold readMembers? at h
  split at h
  · rename_i hquote
    obtain ⟨⟨key, colon⟩, hkey, h⟩ := Option.bind_eq_some_iff.mp h
    dsimp only at h
    split at h
    · rename_i hcolon
      obtain ⟨⟨v, cs'⟩, hv, h⟩ := Option.bind_eq_some_iff.mp h
      obtain ⟨u, hu, hle, rfl⟩ := hf.value hv
      have hm : SpellsMember cs (key, u) cs' := .intro hquote (readString?_iff.mp hkey) hcolon hu
      dsimp only at h
      split at h
      · rename_i hnext
        obtain ⟨us, hus, hles, rfl⟩ := hf.members h
        exact ⟨(key, u) :: us, .cons hm hnext hus, List.forall_mem_cons.mpr ⟨hle, hles⟩, rfl⟩
      · rename_i hend
        cases h
        exact ⟨[(key, u)], .last hm hend, List.forall_mem_singleton.mpr hle, rfl⟩
      · cases h
    · cases h
  · cases h

end ReadsAsSpelled

theorem readsAsSpelled (fuel : Nat) : ReadsAsSpelled fuel := by
  induction fuel with
  | zero => exact ⟨nofun, nofun, nofun⟩
  | succ fuel ih => exact ⟨ih.value_succ, ih.items_succ, ih.members_succ⟩

/-! ## What is spelled is read -/

mutual

/-- By induction on the rules of the grammar. -/
theorem Spells.readValue? {cs v rest} : Spells cs v rest →
    ∀ {fuel depth}, 2 * cs.length < fuel → v.depth ≤ depth →
      Json.readValue? fuel depth cs = some (v.settled, rest)
  | .null h, fuel + 1, depth, hfuel, hdepth => by
    rw [Json.readValue?, h]
    exact readWord?_append "null" .null _
  | .yes h, fuel + 1, depth, hfuel, hdepth => by
    rw [Json.readValue?, h]
    exact readWord?_append "true" (.bool true) _
  | .no h, fuel + 1, depth, hfuel, hdepth => by
    rw [Json.readValue?, h]
    exact readWord?_append "false" (.bool false) _
  | .number h, fuel + 1, depth, hfuel, hdepth => readValue?_number h
  | .string h hs, fuel + 1, depth, hfuel, hdepth =>
    readValue?_string h (readString?_iff.mpr hs)
  | .emptyArray h hend, fuel + 1, depth + 1, hfuel, hdepth => by
    simp only [Json.readValue?, h, if_neg (Nat.succ_ne_zero depth), hend]
    rfl
  | .array h hvs, fuel + 1, depth + 1, hfuel, hdepth => by
    have hlength := length_lt_of_skip h
    have hread : Json.readItems? fuel depth _ = _ :=
      hvs.readItems? (by omega) (Value.depth_array_le.mp hdepth)
    rw [readValue?_array h (fun _ => hvs.skip_ne) hread, Value.settled_array]
  | .emptyObject h hend, fuel + 1, depth + 1, hfuel, hdepth => by
    simp only [Json.readValue?, h, if_neg (Nat.succ_ne_zero depth), hend]
    rfl
  | .object h hms, fuel + 1, depth + 1, hfuel, hdepth => by
    have hlength := length_lt_of_skip h
    have hread : Json.readMembers? fuel depth [] _ = _ :=
      hms.readMembers? (by omega) (Value.depth_object_le.mp hdepth) []
    rw [readValue?_object h (fun _ => hms.skip_ne) hread, Value.settled_object]
termination_by structural h => h

theorem SpellsItems.readItems? {cs vs rest} : SpellsItems cs vs rest →
    ∀ {fuel depth}, 2 * cs.length + 1 < fuel → (∀ v ∈ vs, v.depth ≤ depth) →
      Json.readItems? fuel depth cs = some (vs.map Value.settled, rest)
  | .last hv hend, fuel + 1, depth, hfuel, hdepth => by
    have hread : Json.readValue? fuel depth _ = _ :=
      hv.readValue? (by omega) (hdepth _ (List.mem_singleton_self _))
    exact readItems?_last hread hend
  | .cons hv hnext hvs, fuel + 1, depth, hfuel, hdepth => by
    obtain ⟨hle, hles⟩ := List.forall_mem_cons.mp hdepth
    have hlength := hv.length_lt
    have hlength' := length_lt_of_skip hnext
    have hread : Json.readValue? fuel depth _ = _ := hv.readValue? (by omega) hle
    exact readItems?_cons hread hnext (hvs.readItems? (by omega) hles)
termination_by structural h => h

theorem SpellsMembers.readMembers? {cs ms rest} : SpellsMembers cs ms rest →
    ∀ {fuel depth}, 2 * cs.length + 1 < fuel → (∀ m ∈ ms, m.2.depth ≤ depth) → ∀ ns,
      Json.readMembers? fuel depth ns cs =
        some (setMembers ns (ms.map fun m => (m.1, m.2.settled)), rest)
  | .last (.intro h hk hcolon hv) hend, fuel + 1, depth, hfuel, hdepth, ns => by
    have hlength := length_lt_of_skip h
    have hlength' := hk.length_lt
    have hlength'' := length_lt_of_skip hcolon
    have hread : Json.readValue? fuel depth _ = _ :=
      hv.readValue? (by omega) (hdepth _ (List.mem_singleton_self _))
    exact readMembers?_last h (readString?_iff.mpr hk) hcolon hread hend
  | .cons (.intro h hk hcolon hv) hnext hms, fuel + 1, depth, hfuel, hdepth, ns => by
    obtain ⟨hle, hles⟩ := List.forall_mem_cons.mp hdepth
    have hlength := length_lt_of_skip h
    have hlength' := hk.length_lt
    have hlength'' := length_lt_of_skip hcolon
    have hvalue := hv.length_lt
    have hafter := length_lt_of_skip hnext
    have hread : Json.readValue? fuel depth _ = _ := hv.readValue? (by omega) hle
    rw [readMembers?_cons h (readString?_iff.mpr hk) hcolon hread hnext,
      hms.readMembers? (by omega) hles]
    rfl
termination_by structural h => h

end

/-! ## Whole texts -/

/-- A text is read as a value exactly if it spells a value, not too deep, that is settled to it. -/
theorem read?_iff {text : String} :
    Value.read? text = some v ↔
      ∃ u, SpellsText text u ∧ u.depth ≤ greatestDepth ∧ u.settled = v := by
  constructor
  · intro h
    unfold Value.read? at h
    dsimp only at h
    split at h
    · rename_i v' rest hread
      split at h
      · rename_i hrest
        cases h
        obtain ⟨u, hu, hle, rfl⟩ := (readsAsSpelled _).value hread
        exact ⟨u, ⟨rest, hu, List.isEmpty_iff.mp hrest⟩, hle, rfl⟩
      · cases h
    · cases h
  · rintro ⟨u, ⟨rest, hu, hrest⟩, hle, rfl⟩
    rw [Value.read?, hu.readValue? (by omega) hle]
    exact if_pos (List.isEmpty_iff.mpr hrest)

end OclScan.Json
