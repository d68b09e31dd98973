import OclScan.Options
import OclScan.Proofs.Json.Numeral
import OclScan.Proofs.Json.Writing

/-!
# The canonical form of options

Options are read from the texts of objects (`read?_eq_some_iff`). Where all numbers are integers
that 64 bits hold, what is written for options is read back as the options, so it is their canonical
form: in it the keys of all objects stand in ascending order, and texts that differ in white space,
in the order of members with distinct keys, or in members that later ones override have the same one
(`canonical_form`).
-/

namespace OclScan.Options

open Json (SpellsText Value greatestDepth)

variable {text : String} {o : Options}

theorem read?_eq_some_iff :
    read? text = some o ↔
      ∃ u, SpellsText text u ∧ u.depth ≤ greatestDepth ∧ u.settled = .object o.members := by
  rw [← Json.read?_iff, read?]
  split
  · rename_i members h
    rw [h, Option.some.injEq, Option.some.injEq, Value.object.injEq]
    exact ⟨fun ho => by rw [← ho], fun hmembers => by rw [hmembers]⟩
  · rename_i h
    exact ⟨nofun, fun hread => absurd hread (h o.members)⟩

/-- Options are read from a text exactly if it spells a value, not too deep, that is settled to an
object: of members with one key the last counts. Numbers are integers that 64 bits hold exactly if
they are spelled by the digits of one. If all numbers are, what is written for the options is read
back as the options, and so written again as the same text; this text spells one value, with the
keys of every object in ascending order. Texts of values that differ only in the order of members
with distinct keys, and in members that later ones override, are read as the same options, and so
written as the same text; white space is no part of a value. -/
theorem canonical_form :
    (∀ text o, read? text = some o ↔
      ∃ u, SpellsText text u ∧ u.depth ≤ greatestDepth ∧ u.settled = .object o.members) ∧
    (∀ cs i, Json.Number.read? cs = some (.integer i, []) ↔
      cs = (toString i).toList ∧ -2 ^ 63 ≤ i ∧ i < 2 ^ 64) ∧
    (∀ text u o, SpellsText text u → u.Integral → read? text = some o →
      read? o.write = some o ∧ (read? o.write).map write = some o.write ∧
      ∃ w, SpellsText o.write w ∧ w.Ordered ∧ ∀ w', SpellsText o.write w' → w' = w) ∧
    ∀ text text' u u' o, SpellsText text u → SpellsText text' u' → u.Alike u' →
      read? text = some o →
      (u'.depth ≤ greatestDepth → read? text' = some o) ∧
        ∀ o', read? text' = some o' → o'.write = o.write := by
  refine ⟨fun text o => read?_eq_some_iff, fun cs i => Json.Number.read?_eq_integer_iff,
    fun text u o hu hintegral hread => ?_, fun text text' u u' o hu hu' halike hread => ?_⟩
  · obtain ⟨v, hv, hdepth, hsettled⟩ := read?_eq_some_iff.mp hread
    obtain rfl := hu.unique hv
    have hordered : (Value.object o.members).Ordered := hsettled ▸ Value.ordered_settled u
    have hwritten : SpellsText o.write (.object o.members) :=
      Json.spellsText_write (hsettled ▸ Value.integral_settled hintegral)
    have hle : (Value.object o.members).depth ≤ greatestDepth :=
      hsettled ▸ Value.depth_settled_le hdepth
    have hback : read? o.write = some o :=
      read?_eq_some_iff.mpr ⟨_, hwritten, hle, hordered.settled_eq⟩
    exact ⟨hback, by rw [hback, Option.map_some], _, hwritten, hordered,
      fun w hw => hw.unique hwritten⟩
  · obtain ⟨v, hv, hdepth, hsettled⟩ := read?_eq_some_iff.mp hread
    obtain rfl := hu.unique hv
    have hread' : u'.depth ≤ greatestDepth → read? text' = some o := fun hle =>
      read?_eq_some_iff.mpr ⟨u', hu', hle, halike.settled_eq.symm.trans hsettled⟩
    refine ⟨hread', fun o' ho' => ?_⟩
    obtain ⟨v', hv', hdepth', -⟩ := read?_eq_some_iff.mp ho'
    obtain rfl := hu'.unique hv'
    rw [hread' hdepth'] at ho'
    rw [Option.some.inj ho']

/-- A text with two members of one key, and one without the first of them, with the others in the
other order, white space and other escapes. -/
theorem canonical_form_duplicate :
    let text := "\x7b\"b\":-1,\"a\":[18446744073709551615,\x7b\x7d],\"b\":\"é\\n\"\x7d"
    let text' := " \x7b\"b\" : \"\\u00e9\\n\",\n \"a\":[18446744073709551615,\x7b \x7d]\x7d"
    let items : Value := .array [.number (.integer 18446744073709551615), .object []]
    let u : Value := .object [("b", .number (.integer (-1))), ("a", items), ("b", .string "é\n")]
    let u' : Value := .object [("b", .string "é\n"), ("a", items)]
    let o : Options := ⟨[("a", items), ("b", .string "é\n")]⟩
    SpellsText text u ∧ SpellsText text' u' ∧ u.Integral ∧ u.Alike u' ∧ read? text = some o ∧
      u'.depth ≤ greatestDepth ∧ read? text' = some o ∧
      o.write = "\x7b\"a\":[18446744073709551615,\x7b\x7d],\"b\":\"é\\n\"\x7d" ∧
      read? o.write = some o := by
  intro text text' items u u' o
  have hu : SpellsText text u := by
    dsimp only [text, items, u]
    exact ⟨[], .object rfl (.cons (.intro rfl (Json.readString?_iff.mp rfl) rfl (.number rfl)) rfl
      (.cons (.intro rfl (Json.readString?_iff.mp rfl) rfl
        (.array rfl (.cons (.number rfl) rfl (.last (.emptyObject rfl rfl) rfl)))) rfl
      (.last (.intro rfl (Json.readString?_iff.mp rfl) rfl
        (.string rfl (Json.readString?_iff.mp rfl))) rfl))), rfl⟩
  have hu' : SpellsText text' u' := by
    dsimp only [text', items, u']
    exact ⟨[], .object rfl (.cons (.intro rfl (Json.readString?_iff.mp rfl) rfl
        (.string rfl (Json.readString?_iff.mp rfl))) rfl
      (.last (.intro rfl (Json.readString?_iff.mp rfl) rfl
        (.array rfl (.cons (.number rfl) rfl (.last (.emptyObject rfl rfl) rfl)))) rfl)), rfl⟩
  have hintegral : u.Integral := by
    simp [u, items, Value.integral_object_iff, Value.integral_array_iff, Value.integral_number_iff,
      Value.integral_string, Json.Number.IsInteger]
  have hdrop : u.Alike (.object [("a", items), ("b", .string "é\n")]) :=
    @Value.Alike.drop "b" _ [] [("a", items), ("b", .string "é\n")] (by decide)
  have halike : u.Alike u' := hdrop.trans (@Value.Alike.swap "a" "b" _ _ [] [] (by decide))
  obtain ⟨hreads, -, hback, hsame⟩ := canonical_form
  have hsettled : u.settled = .object o.members := by
    dsimp only [u, items, o]
    rfl
  have hread : read? text = some o := (hreads text o).mpr ⟨u, hu, by decide, hsettled⟩
  have hdepth : u'.depth ≤ greatestDepth := by decide
  exact ⟨hu, hu', hintegral, halike, hread, hdepth,
    (hsame text text' u u' o hu hu' halike hread).1 hdepth, by decide +kernel,
    (hback text u o hu hintegral hread).1⟩

end OclScan.Options
