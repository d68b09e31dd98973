import OclScan.Dump.Raw
import OclScan.Proofs.Grammar.Tokens
import OclScan.Proofs.Kind
import OclScan.Proofs.Line
import OclScan.Proofs.Text.Quoted

/-!
# The raw dump reads back

A raw dump has a line for each token (`lines_raw`), whose kind and text are read back from it
(`readRawLine?_rawBody`). So a dump is read back as the kinds and texts of its tokens
(`readRaw?_raw`), and a source from the dump of its tokens (`raw_lossless`).
-/

namespace OclScan.Dump

open Text (isPlain not_mem_of_plain quote)

/-- The kind and the text that a line gives, without its line feed: what comes before the first tab
names the kind, and what comes after it is the text in quotes. -/
def readRawLine? (line : List Char) : Option (Kind × String) := do
  let kind ← Kind.ofDotted? (String.ofList (line.takeWhile (· != '\t')))
  let text ← Text.unquote? (String.ofList ((line.dropWhile (· != '\t')).drop 1))
  return (kind, text)

/-- The kinds and texts that a raw dump gives, line by line. -/
def readRaw? (dump : String) : Option (List (Kind × String)) :=
  (lines dump.toList).mapM fun line => readRawLine? (line.takeWhile (· != '\n'))

/-- The line of a token, without its line feed. -/
def rawBody (t : Token) : List Char := t.kind.dotted.toList ++ '\t' :: (quote t.text).toList

theorem plain_dotted (k : Kind) : k.dotted.toList.all isPlain = true := by
  cases k <;> decide

theorem toList_rawLine (t : Token) : (rawLine t).toList = rawBody t ++ ['\n'] := by
  simp [rawLine, rawBody]

theorem newline_not_mem_rawBody (t : Token) : '\n' ∉ rawBody t := by
  have hname := (not_mem_of_plain (plain_dotted t.kind)).2.1
  have htext := (not_mem_of_plain (Text.plain_quote t.text)).2.1
  rw [rawBody, List.mem_append, List.mem_cons]
  rintro (h | h | h)
  · exact hname h
  · exact absurd h (by decide)
  · exact htext h

theorem isLine_rawLine (t : Token) : IsLine (rawLine t).toList :=
  ⟨rawBody t, newline_not_mem_rawBody t, toList_rawLine t⟩

theorem isLine_of_mem_raw (ts : List Token) : ∀ l ∈ ts.map rawLine, IsLine l.toList := by
  intro l hl
  obtain ⟨t, -, rfl⟩ := List.mem_map.mp hl
  exact isLine_rawLine t

theorem lines_raw (ts : List Token) :
    lines (raw ts).toList = ts.map fun t => rawBody t ++ ['\n'] := by
  rw [raw, lines_join (isLine_of_mem_raw ts), List.map_map]
  exact List.map_congr_left fun t _ => toList_rawLine t

theorem count_raw (ts : List Token) : (raw ts).toList.count '\n' = ts.length := by
  rw [raw, count_join (isLine_of_mem_raw ts), List.length_map]

/-- The first tab is the one after the name of the kind. -/
theorem readRawLine?_rawBody (t : Token) : readRawLine? (rawBody t) = some (t.kind, t.text) := by
  have hname : ∀ c ∈ t.kind.dotted.toList, (c != '\t') = true :=
    bne_of_notMem (not_mem_of_plain (plain_dotted t.kind)).1
  have htake : (rawBody t).takeWhile (· != '\t') = t.kind.dotted.toList := by
    rw [rawBody, List.takeWhile_append_of_pos hname, List.takeWhile_cons_of_neg (by decide),
      List.append_nil]
  have hdrop : (rawBody t).dropWhile (· != '\t') = '\t' :: (quote t.text).toList := by
    rw [rawBody, List.dropWhile_append_of_pos hname, List.dropWhile_cons_of_neg (by decide)]
  rw [readRawLine?, htake, hdrop, List.drop_succ_cons, List.drop_zero, String.ofList_toList,
    String.ofList_toList, Kind.ofDotted?_dotted, Text.unquote?_quote]
  rfl

theorem readRaw?_raw (ts : List Token) :
    readRaw? (raw ts) = some (ts.map fun t => (t.kind, t.text)) := by
  rw [readRaw?, lines_raw]
  induction ts with
  | nil => rfl
  | cons t ts ih =>
    rw [List.map_cons, List.mapM_cons, takeWhile_line (newline_not_mem_rawBody t),
      readRawLine?_rawBody, ih]
    rfl

/-- A raw dump has one line for each token: the dotted name of the kind, a tab and the text in
quotes, neither of which has a tab, a line feed or a carriage return in it. The kinds and texts are
read back from it, so it tells them apart; and from the tokens of a source the source is read. -/
theorem raw_lossless :
    (∀ ts, (raw ts).toList.count '\n' = ts.length ∧
      lines (raw ts).toList =
        ts.map (fun t => t.kind.dotted.toList ++ '\t' :: (quote t.text).toList ++ ['\n']) ∧
      readRaw? (raw ts) = some (ts.map fun t => (t.kind, t.text))) ∧
    (∀ k : Kind, '\t' ∉ k.dotted.toList ∧ '\n' ∉ k.dotted.toList ∧ '\r' ∉ k.dotted.toList) ∧
    (∀ s, '\t' ∉ (quote s).toList ∧ '\n' ∉ (quote s).toList ∧ '\r' ∉ (quote s).toList) ∧
    (∀ ts us, raw ts = raw us ↔
      (ts.map fun t => (t.kind, t.text)) = us.map fun t => (t.kind, t.text)) ∧
    ∃ l, Lexer.standard = .ok l ∧ ∀ source,
      (readRaw? (raw (l.tokenize source))).map (fun rs => String.join (rs.map Prod.snd)) =
        some source := by
  refine ⟨fun ts => ⟨count_raw ts, lines_raw ts, readRaw?_raw ts⟩,
    fun k => not_mem_of_plain (plain_dotted k), fun s => not_mem_of_plain (Text.plain_quote s),
    fun ts us => ⟨fun h => ?_, fun h => ?_⟩, _, Lexer.standard_eq, fun source => ?_⟩
  · have hts := readRaw?_raw ts
    rw [h, readRaw?_raw us] at hts
    exact (Option.some.inj hts).symm
  · have hline : ∀ vs : List Token, raw vs = String.join
        ((vs.map fun t => (t.kind, t.text)).map fun r =>
          r.1.dotted ++ "\t" ++ quote r.2 ++ "\n") := by
      intro vs
      rw [List.map_map]
      rfl
    rw [hline, hline, h]
  · rw [readRaw?_raw, Lexer.tokenize_eq_scan, Option.map_some, List.map_map]
    have hcovers := covers_scan Grammar.covering (.start source.toList)
    have hjoin := hcovers.join
    rw [show (Cursor.start source.toList).rest = source.toList from rfl,
      String.ofList_toList] at hjoin
    exact congrArg some hjoin

end OclScan.Dump
