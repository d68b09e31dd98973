import Mathlib.Data.List.TakeDrop
import OclScan.Proofs.Dump.Counts
import OclScan.Proofs.Dump.Located
import OclScan.Proofs.Json.Number

/-!
# The summary reads back

A line of the summary is a name, some spaces and a number. Where the name has no space in it, both
are read back from the line, whatever the width (`readSummaryLine?_entryLine`), so a summary is read
back as the entries that it was written for (`readSummary?_join`). These are the counts of the kinds
and the sum of the counts (`summary_accounts`).
-/

namespace OclScan.Dump

/-- The number that decimal digits spell. -/
def readDecimal? (ds : List Char) : Option Nat :=
  if ds.isEmpty || !ds.all Char.isDigit then none else some (Nat.ofDigitChars 10 ds 0)

/-- The name and the number that a line gives, without its line feed: the name comes before the
first space, and the number after the spaces. -/
def readSummaryLine? (line : List Char) : Option (String × Nat) := do
  let n ← readDecimal? ((line.dropWhile (· != ' ')).dropWhile (· == ' '))
  return (String.ofList (line.takeWhile (· != ' ')), n)

/-- The names and numbers that a summary gives, line by line. -/
def readSummary? (dump : String) : Option (List (String × Nat)) :=
  (lines dump.toList).mapM fun line => readSummaryLine? (line.takeWhile (· != '\n'))

/-- A line of the summary, without its line feed. -/
def entryLine (width : Nat) (e : String × Nat) : List Char :=
  e.1.toList ++ List.replicate (width - e.1.length + 2) ' ' ++ (toString e.2).toList

/-- Whether a name may stand in a line: it has neither a space nor a line feed in it. -/
def IsName (name : String) : Prop := ' ' ∉ name.toList ∧ '\n' ∉ name.toList

/-! ## One line -/

theorem readDecimal?_toString (n : Nat) : readDecimal? (toString n).toList = some n := by
  have hdigits : (Nat.toDigits 10 n).all Char.isDigit = true :=
    List.all_eq_true.mpr (Json.Number.isDigit_toDigits n)
  rw [Nat.toString_eq_ofList_toDigits, String.toList_ofList, readDecimal?, hdigits,
    List.isEmpty_eq_false_iff.mpr Nat.toDigits_ne_nil, Nat.ofDigitChars_ten_toDigits]
  rfl

variable {e : String × Nat}

theorem toList_summaryLine (width : Nat) (e : String × Nat) :
    (summaryLine width e.1 e.2).toList = entryLine width e ++ ['\n'] := by
  have hspaces : [' ', ' '] = List.replicate 2 ' ' := rfl
  simp [summaryLine, padded, entryLine, List.replicate_add, hspaces]

theorem newline_not_mem_entryLine (h : IsName e.1) (width : Nat) : '\n' ∉ entryLine width e := by
  rw [entryLine, List.mem_append, List.mem_append]
  rintro ((hname | hspace) | hdigit)
  · exact h.2 hname
  · exact absurd (List.eq_of_mem_replicate hspace) (by decide)
  · exact newline_not_mem_toString e.2 hdigit

/-- The name ends at the first space. -/
theorem takeWhile_entryLine (h : IsName e.1) (width : Nat) :
    (entryLine width e).takeWhile (· != ' ') = e.1.toList := by
  have hname : ∀ c ∈ e.1.toList, (c != ' ') = true := bne_of_notMem h.1
  rw [entryLine, List.append_assoc, List.takeWhile_append_of_pos hname, List.replicate_succ,
    List.cons_append, List.takeWhile_cons_of_neg (by decide), List.append_nil]

theorem dropWhile_entryLine (h : IsName e.1) (width : Nat) :
    (entryLine width e).dropWhile (· != ' ') =
      List.replicate (width - e.1.length + 2) ' ' ++ (toString e.2).toList := by
  have hname : ∀ c ∈ e.1.toList, (c != ' ') = true := bne_of_notMem h.1
  rw [entryLine, List.append_assoc, List.dropWhile_append_of_pos hname, List.replicate_succ,
    List.cons_append, List.dropWhile_cons_of_neg (by decide)]

theorem eq_space_of_mem_replicate (n : Nat) : ∀ c ∈ List.replicate n ' ', (c == ' ') = true :=
  fun _ hc => beq_iff_eq.mpr (List.eq_of_mem_replicate hc)

/-- The spaces end at the first digit. -/
theorem exists_toString_cons (n : Nat) :
    ∃ d ds, (toString n).toList = d :: ds ∧ ¬ (d == ' ') = true := by
  obtain ⟨d, ds, hds, hd⟩ := Json.Number.exists_toDigits n
  refine ⟨d, ds, ?_, ?_⟩
  · rw [Nat.toString_eq_ofList_toDigits, String.toList_ofList, hds]
  · rw [beq_iff_eq]
    rintro rfl
    exact absurd hd (by decide)

theorem readSummaryLine?_entryLine (h : IsName e.1) (width : Nat) :
    readSummaryLine? (entryLine width e) = some e := by
  have hdigits : (toString e.2).toList.dropWhile (· == ' ') = (toString e.2).toList := by
    obtain ⟨d, ds, hds, hd⟩ := exists_toString_cons e.2
    rw [hds]
    exact List.dropWhile_cons_of_neg hd
  rw [readSummaryLine?, takeWhile_entryLine h, dropWhile_entryLine h,
    List.dropWhile_append_of_pos (eq_space_of_mem_replicate _), hdigits, readDecimal?_toString,
    String.ofList_toList]
  rfl

/-! ## All lines -/

variable {es : List (String × Nat)}

theorem lines_join_summaryLine (h : ∀ e ∈ es, IsName e.1) (width : Nat) :
    lines (String.join (es.map fun e => summaryLine width e.1 e.2)).toList =
      es.map fun e => entryLine width e ++ ['\n'] := by
  have hline : ∀ l ∈ es.map fun e => summaryLine width e.1 e.2, IsLine l.toList := by
    intro l hl
    obtain ⟨e, he, rfl⟩ := List.mem_map.mp hl
    exact ⟨_, newline_not_mem_entryLine (h e he) width, toList_summaryLine width e⟩
  rw [lines_join hline, List.map_map]
  exact List.map_congr_left fun e _ => toList_summaryLine width e

/-- A text of lines with names and numbers is read back. By induction on the lines. -/
theorem readSummary?_join (h : ∀ e ∈ es, IsName e.1) (width : Nat) :
    readSummary? (.join (es.map fun e => summaryLine width e.1 e.2)) = some es := by
  rw [readSummary?, lines_join_summaryLine h]
  induction es with
  | nil => rfl
  | cons e es ih =>
    obtain ⟨he, hes⟩ := List.forall_mem_cons.mp h
    rw [List.map_cons, List.mapM_cons, takeWhile_line (newline_not_mem_entryLine he width),
      readSummaryLine?_entryLine he, ih hes]
    rfl

/-- The names and numbers that a summary is written for: those of the kinds, and the sum. -/
def entries (counts : List (Kind × Nat)) : List (String × Nat) :=
  counts.map (fun (k, n) => (k.dotted, n)) ++ [("total", total counts)]

theorem isName_dotted (k : Kind) : IsName k.dotted := by
  cases k <;> exact ⟨by decide, by decide⟩

theorem isName_total : IsName "total" := ⟨by decide, by decide⟩

theorem isName_of_mem_entries {counts : List (Kind × Nat)} : ∀ e ∈ entries counts, IsName e.1 := by
  intro e he
  obtain hcount | htotal := List.mem_append.mp he
  · obtain ⟨⟨k, n⟩, -, rfl⟩ := List.mem_map.mp hcount
    exact isName_dotted k
  · rw [List.mem_singleton.mp htotal]
    exact isName_total

theorem summary_eq_join (ts : List Token) :
    summary ts = .join ((entries (countKinds ts)).map fun e =>
      summaryLine (nameWidth (countKinds ts)) e.1 e.2) := by
  rw [← String.toList_inj, entries, List.map_append, List.map_map]
  simp [summary, String.toList_join, Function.comp_def]

theorem readSummary?_summary (ts : List Token) :
    readSummary? (summary ts) = some (entries (countKinds ts)) := by
  rw [summary_eq_join]
  exact readSummary?_join isName_of_mem_entries _

/-- Counts have an entry for each kind that occurs and no other, in the order of kinds, which gives
the number of its tokens; so they sum up to the number of tokens, do not depend on the order of
tokens, and are added kind by kind where lists are joined. The summary is read back line by line as
these entries, each under the dotted name of its kind, and the number of tokens at the end. -/
theorem summary_accounts :
    (∀ ts, (∀ k n, (k, n) ∈ countKinds ts ↔
        k ∈ ts.map Token.kind ∧ (ts.map Token.kind).count k = n) ∧
      (countKinds ts).Pairwise (fun e e' => e.1.rank < e'.1.rank) ∧
      total (countKinds ts) = ts.length) ∧
    (∀ ts us, ts.Perm us → countKinds ts = countKinds us) ∧
    (∀ ts us k, countFor k (countKinds (ts ++ us)) =
      countFor k (countKinds ts) + countFor k (countKinds us)) ∧
    (∀ ts, readSummary? (summary ts) =
      some ((countKinds ts).map (fun (k, n) => (k.dotted, n)) ++ [("total", ts.length)])) ∧
    (∀ k k' : Kind, k.dotted = k'.dotted → k = k') ∧ ∀ k : Kind, k.dotted ≠ "total" := by
  refine ⟨fun ts => ⟨fun k n => mem_countKinds, (isTally_countKinds ts).ordered,
      total_countKinds ts⟩,
    fun ts us => countKinds_perm, fun ts us k => countFor_countKinds_append k ts us, fun ts => ?_,
    fun k k' => Kind.dotted_inj, fun k => ?_⟩
  · rw [readSummary?_summary, entries, total_countKinds]
  · cases k <;> decide

/-- A list of tokens in two orders; their summary is padded to the longer name. -/
theorem summary_accounts_words :
    let ts : List Token := [⟨.name, "a", 0⟩, ⟨.numberInteger, "1", 1⟩, ⟨.name, "b", 2⟩]
    let us : List Token := [⟨.numberInteger, "1", 1⟩, ⟨.name, "b", 2⟩, ⟨.name, "a", 0⟩]
    ts.Perm us ∧ countKinds ts = countKinds us ∧
      countKinds us = [(.name, 2), (.numberInteger, 1)] ∧
      summary us = "Name            2\nNumber.Integer  1\ntotal           3\n" ∧
      readSummary? (summary us) = some [("Name", 2), ("Number.Integer", 1), ("total", 3)] := by
  intro ts us
  have hperm : ts.Perm us := by decide
  exact ⟨hperm, summary_accounts.2.1 ts us hperm, by decide, by decide,
    summary_accounts.2.2.2.1 us⟩

end OclScan.Dump
