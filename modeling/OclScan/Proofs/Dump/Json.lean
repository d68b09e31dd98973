import OclScan.Dump.Json
import OclScan.Proofs.Grammar.Tokens
import OclScan.Proofs.Json.Reader
import OclScan.Proofs.Kind

/-!
# The JSON dump reads back

The object of a token reads back as the value with its kind, its text and its start
(`readValue?_jsonObject`), and a dump as the array of these values (`read?_json`). So a dump tells
its tokens, and the tokens of a source give the source (`json_lossless`).
-/

namespace OclScan

namespace Json.Value

/-- The member of an object with the given key. -/
def field? (key : String) : Value → Option Value
  | .object ms => (ms.find? fun m => m.1 == key).map Prod.snd
  | _ => none

/-- The characters of a string. -/
def string? : Value → Option String
  | .string s => some s
  | _ => none

end Json.Value

namespace Dump

open Json (encodeString readItems? readMembers? readValue? setMember skip)

/-- The value of a token. The members of an object are in ascending order of their keys. -/
def tokenValue (t : Token) : Json.Value :=
  .object [("kind", .string t.kind.dotted), ("start", .number (.integer t.start)),
    ("text", .string t.text)]

theorem fields_tokenValue (t : Token) :
    (tokenValue t).field? "kind" = some (.string t.kind.dotted) ∧
      (tokenValue t).field? "text" = some (.string t.text) ∧
      (tokenValue t).field? "start" = some (.number (.integer t.start)) :=
  ⟨rfl, rfl, rfl⟩

theorem tokenValue_inj {t u : Token} (h : tokenValue t = tokenValue u) : t = u := by
  obtain ⟨k, s, i⟩ := t
  obtain ⟨k', s', i'⟩ := u
  simp only [tokenValue, Json.Value.object.injEq, List.cons.injEq, Prod.mk.injEq, true_and,
    and_true, Json.Value.string.injEq, Json.Value.number.injEq, Json.Number.integer.injEq,
    Int.natCast_inj] at h
  obtain ⟨hkind, rfl, rfl⟩ := h
  rw [Kind.dotted_inj hkind]

theorem setMember_tokenValue (t : Token) :
    .object (setMember "start" (.number (.integer t.start))
      (setMember "text" (.string t.text) [("kind", .string t.kind.dotted)])) = tokenValue t := by
  rfl

/-! ## The object of a token -/

variable {fuel depth : Nat} {rest : List Char} {key value : String} {v : Json.Value}
  {ms : List (String × Json.Value)}

/-- A field begins with its key, after white space. -/
theorem skip_jsonField (key value : String) (rest : List Char) :
    skip ('\n' :: ((jsonField key value).toList ++ rest)) =
      (encodeString key).toList ++ ':' :: ' ' :: (value.toList ++ rest) := by
  have hfield : (jsonField key value).toList ++ rest = ' ' :: ' ' :: ' ' :: ' ' ::
      ((encodeString key).toList ++ ':' :: ' ' :: (value.toList ++ rest)) := by
    simp [jsonField]
  rw [hfield, Json.skip_space rfl, Json.skip_space rfl, Json.skip_space rfl, Json.skip_space rfl,
    Json.skip_space rfl, Json.skip_encodeString]

/-- A field that is followed by another one. -/
theorem readMembers?_field_cons
    (hv : readValue? fuel depth (' ' :: (value.toList ++ ',' :: rest)) = some (v, ',' :: rest)) :
    readMembers? (fuel + 1) depth ms ('\n' :: ((jsonField key value).toList ++ ',' :: rest)) =
      readMembers? fuel depth (setMember key v ms) rest := by
  obtain ⟨cs, hquote, hkey⟩ := Json.readString?_encodeString key (':' :: ' ' :: (value.toList ++ _))
  exact Json.readMembers?_cons ((skip_jsonField key value _).trans hquote) hkey rfl hv rfl

/-- The last field of an object. -/
theorem readMembers?_field_last
    (hv : readValue? fuel depth (' ' :: (value.toList ++ '\n' :: ' ' :: ' ' :: '\x7d' :: rest)) =
      some (v, '\n' :: ' ' :: ' ' :: '\x7d' :: rest)) :
    readMembers? (fuel + 1) depth ms
        ('\n' :: ((jsonField key value).toList ++ '\n' :: ' ' :: ' ' :: '\x7d' :: rest)) =
      some (setMember key v ms, rest) := by
  obtain ⟨cs, hquote, hkey⟩ := Json.readString?_encodeString key (':' :: ' ' :: (value.toList ++ _))
  exact Json.readMembers?_last ((skip_jsonField key value _).trans hquote) hkey rfl hv rfl

theorem toList_jsonObject_append (t : Token) (rest : List Char) :
    (jsonObject t).toList ++ rest =
      ' ' :: ' ' :: '\x7b' :: '\n' ::
        ((jsonField "kind" (encodeString t.kind.dotted)).toList ++ ',' :: '\n' ::
        ((jsonField "text" (encodeString t.text)).toList ++ ',' :: '\n' ::
        ((jsonField "start" (toString t.start)).toList ++ '\n' :: ' ' :: ' ' :: '\x7d' ::
          rest))) := by
  simp [jsonObject]

theorem readValue?_jsonObject {t : Token} (ht : t.start < UInt64.size) (hfuel : 5 ≤ fuel)
    (hdepth : 0 < depth) (rest : List Char) :
    readValue? fuel depth ('\n' :: ((jsonObject t).toList ++ rest)) =
      some (tokenValue t, rest) := by
  obtain ⟨fuel, rfl⟩ := Nat.exists_eq_add_of_le' hfuel
  obtain ⟨depth, rfl⟩ := Nat.exists_eq_add_of_le' hdepth
  have hstring : ∀ n s rest, readValue? (n + 1) depth (' ' :: ((encodeString s).toList ++ rest)) =
      some (.string s, rest) := by
    intro n s rest
    obtain ⟨cs, hquote, hread⟩ := Json.readString?_encodeString s rest
    refine Json.readValue?_string ?_ hread
    rw [Json.skip_space rfl, Json.skip_encodeString, hquote]
  have hstart : readValue? (fuel + 1) depth
      (' ' :: ((toString t.start).toList ++ '\n' :: ' ' :: ' ' :: '\x7d' :: rest)) =
        some (.number (.integer t.start), '\n' :: ' ' :: ' ' :: '\x7d' :: rest) := by
    have hread := Json.Number.read?_toDigits (Nat.le_sub_one_of_lt ht)
      (show Json.Number.stops ('\n' :: ' ' :: ' ' :: '\x7d' :: rest) = true from rfl)
    rw [Nat.toString_eq_ofList_toDigits, String.toList_ofList]
    refine Json.readValue?_number ?_
    rw [Json.skip_space rfl, Json.skip_eq_of_read? hread, hread]
  rw [toList_jsonObject_append, ← setMember_tokenValue]
  refine Json.readValue?_object rfl ?_ ?_
  · rw [skip_jsonField, Json.toList_encodeString]
    exact fun r h => absurd (List.cons.inj h).1 (by decide)
  · rw [readMembers?_field_cons (hstring _ _ _), readMembers?_field_cons (hstring _ _ _),
      readMembers?_field_last hstart]
    rfl

/-! ## The array of tokens -/

/-- What follows an item: the other items, each after a comma, and the closing bracket. -/
def itemsAfter : List Token → List Char
  | [] => ['\n', ']']
  | t :: ts => ',' :: '\n' :: ((jsonObject t).toList ++ itemsAfter ts)

theorem toList_json_cons (t : Token) (ts : List Token) :
    (json (t :: ts)).toList = '[' :: '\n' :: ((jsonObject t).toList ++ itemsAfter ts) := by
  have hitems : ∀ ts t, (",\n".intercalate ((t :: ts).map jsonObject)).toList ++ ['\n', ']'] =
      (jsonObject t).toList ++ itemsAfter ts := by
    intro ts
    induction ts with
    | nil => intro t; rfl
    | cons u ts ih =>
      intro t
      have hsep : ",\n".toList = [',', '\n'] := rfl
      rw [List.map_cons, List.map_cons, String.intercalate_cons_cons, ← List.map_cons,
        String.toList_append, String.toList_append, List.append_assoc, ih, List.append_assoc, hsep,
        itemsAfter, List.cons_append, List.singleton_append]
  rw [json, ← hitems]
  · simp
  · nofun

theorem length_le_length_itemsAfter (ts : List Token) : ts.length ≤ (itemsAfter ts).length := by
  induction ts with
  | nil => exact Nat.zero_le _
  | cons t ts ih =>
    rw [itemsAfter, List.length_cons, List.length_cons, List.length_cons, List.length_append]
    omega

/-- By induction on the other tokens. -/
theorem readItems?_itemsAfter {ts : List Token} {t : Token}
    (h : ∀ u ∈ t :: ts, u.start < UInt64.size) (hfuel : ts.length + 6 ≤ fuel) (hdepth : 0 < depth) :
    readItems? fuel depth ('\n' :: ((jsonObject t).toList ++ itemsAfter ts)) =
      some ((t :: ts).map tokenValue, []) := by
  induction ts generalizing t fuel with
  | nil =>
    obtain ⟨fuel, rfl⟩ := Nat.exists_eq_add_one_of_ne_zero (show fuel ≠ 0 by omega)
    have hv := readValue?_jsonObject (h t List.mem_cons_self) (Nat.le_of_succ_le_succ hfuel) hdepth
      (itemsAfter [])
    rw [Json.readItems?_last hv rfl]
    rfl
  | cons u ts ih =>
    rw [List.length_cons] at hfuel
    obtain ⟨fuel, rfl⟩ := Nat.exists_eq_add_one_of_ne_zero (show fuel ≠ 0 by omega)
    have hv := readValue?_jsonObject (h t List.mem_cons_self) (show 5 ≤ fuel by omega) hdepth
      (itemsAfter (u :: ts))
    have hvs := ih (fun w hw => h w (List.mem_cons_of_mem t hw)) (show ts.length + 6 ≤ fuel by omega)
    rw [Json.readItems?_cons hv rfl hvs]
    rfl

/-- A dump is an array of the values of its tokens. -/
theorem read?_json {ts : List Token} (h : ∀ t ∈ ts, t.start < UInt64.size) :
    Json.Value.read? (json ts) = some (.array (ts.map tokenValue)) := by
  cases ts with
  | nil => rfl
  | cons t ts =>
    have hobject : (jsonObject t).toList ≠ [] := by
      rw [← List.append_nil (jsonObject t).toList, toList_jsonObject_append]
      exact List.cons_ne_nil _ _
    have hlength := length_le_length_itemsAfter ts
    have hread : readValue? (2 * (json (t :: ts)).toList.length + 2) Json.greatestDepth
        (json (t :: ts)).toList = some (.array ((t :: ts).map tokenValue), []) := by
      rw [toList_json_cons]
      refine Json.readValue?_array rfl ?_ (readItems?_itemsAfter h ?_ (by decide))
      · rw [toList_jsonObject_append]
        exact fun r h => absurd (List.cons.inj h).1 (by decide)
      · rw [List.length_cons, List.length_cons, List.length_append]
        have hpos := List.length_pos_iff.mpr hobject
        omega
    rw [Json.Value.read?, hread]
    rfl

theorem texts_tokenValue (ts : List Token) :
    (ts.map tokenValue).mapM (fun v : Json.Value => (v.field? "text").bind Json.Value.string?) =
      some (ts.map Token.text) := by
  induction ts with
  | nil => rfl
  | cons t ts ih =>
    rw [List.map_cons, List.mapM_cons, ih]
    rfl

/-- A JSON dump is read as an array with one object for each token, in order: its kind is the dotted
name, its text and its start are those of the token. So a dump tells its tokens; and the texts in
the dump of the tokens of a source are the source. Starts are words of 64 bits. -/
theorem json_lossless :
    (∀ ts : List Token, (∀ t ∈ ts, t.start < UInt64.size) →
      Json.Value.read? (json ts) = some (.array (ts.map tokenValue))) ∧
    (∀ t, (tokenValue t).field? "kind" = some (.string t.kind.dotted) ∧
      (tokenValue t).field? "text" = some (.string t.text) ∧
      (tokenValue t).field? "start" = some (.number (.integer t.start))) ∧
    (∀ ts us : List Token, (∀ t ∈ ts, t.start < UInt64.size) → (∀ t ∈ us, t.start < UInt64.size) →
      json ts = json us → ts = us) ∧
    ∃ l, Lexer.standard = .ok l ∧ ∀ source : String, source.utf8ByteSize < UInt64.size →
      ∃ vs : List Json.Value, Json.Value.read? (json (l.tokenize source)) = some (.array vs) ∧
        (vs.mapM fun v : Json.Value => (v.field? "text").bind Json.Value.string?).map String.join =
          some source := by
  refine ⟨fun _ => read?_json, fields_tokenValue, fun ts us hts hus h => ?_, _, Lexer.standard_eq,
    fun source hsource => ?_⟩
  · have hread := read?_json hts
    rw [h, read?_json hus] at hread
    injection hread with harray
    injection harray with hmap
    exact ((List.map_inj_right fun _ _ => tokenValue_inj).mp hmap).symm
  · rw [Lexer.tokenize_eq_scan]
    have hcovers := covers_scan Grammar.covering (.start source.toList)
    have hrest : String.ofList (Cursor.start source.toList).rest = source := String.ofList_toList
    refine ⟨_, read?_json fun t ht => ?_, ?_⟩
    · have hlt := hcovers.start_lt_stop ht
      have hle := hcovers.stop_le ht
      rw [hrest] at hle
      show t.start < UInt64.size
      have hzero : (Cursor.start source.toList).offset = 0 := rfl
      omega
    · rw [texts_tokenValue, Option.map_some, hcovers.join, hrest]

/-- Characters that are escaped, a mark, an escape as text and the greatest start; and a source with
some of these. -/
theorem json_lossless_escapes :
    let ts : List Token := [⟨.string, "\"\\n\n\x01\u0301é😀", 0⟩, ⟨.text, "", UInt64.size - 1⟩]
    let source := "x\t\"é\\\" \x01"
    (∀ t ∈ ts, t.start < UInt64.size) ∧
      Json.Value.read? (json ts) = some (.array (ts.map tokenValue)) ∧
      source.utf8ByteSize < UInt64.size ∧
      ∃ l, Lexer.standard = .ok l ∧ ∃ vs : List Json.Value,
        Json.Value.read? (json (l.tokenize source)) = some (.array vs) := by
  intro ts source
  have hts : ∀ t ∈ ts, t.start < UInt64.size := by decide
  have hsource : source.utf8ByteSize < UInt64.size := by decide
  obtain ⟨hread, -, -, l, hl, htokens⟩ := json_lossless
  obtain ⟨vs, hvs, -⟩ := htokens source hsource
  exact ⟨hts, hread ts hts, hsource, l, hl, vs, hvs⟩

end Dump

end OclScan
