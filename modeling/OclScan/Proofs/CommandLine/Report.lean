import OclScan.Proofs.CommandLine.Arguments
import OclScan.Proofs.Grammar.Rules

/-!
# What the program prints

The program prints what the lexer for constraints finds in its input, in the format that is asked
for, or nothing at all (`run_agrees`). Of the settings only the format and, in the raw format, the
locations matter; of the input only its bytes do.
-/

namespace OclScan.CommandLine

/-- What is printed for tokens in a format. Locations are asked for in the raw format. -/
def printed : OutputFormat → Bool → List Token → String
  | .raw, true, ts => Dump.located ts
  | .raw, false, ts => Dump.raw ts
  | .summary, _, ts => Dump.summary ts
  | .json, _, ts => Dump.json ts ++ "\n"

/-- The code the program ends with, and what it prints. -/
def Report.outcome (r : Report) : Nat × String := (r.code, r.stdout)

/-- The outcome for a source that cannot be read. -/
def unread : Nat × String := (1, "")

theorem Invocation.render_eq_printed (i : Invocation) (ts : List Token) :
    i.render ts = printed i.format i.locate ts := by
  unfold render dump
  cases i.format with
  | raw => cases i.locate <;> exact String.append_empty
  | json => rfl
  | summary => exact String.append_empty

section

variable {i j : Invocation} {bytes : ByteArray}

theorem outcome_report_source (i : Invocation) (source : String) :
    (i.report (.ok source.toUTF8)).outcome =
      (0, printed i.format i.locate (Lexer.tokenize ⟨Grammar.rules⟩ source)) := by
  have hread : String.fromUTF8? source.toUTF8 = some source := dif_pos source.isValidUTF8
  have hreport : i.report (.ok source.toUTF8) =
      ⟨0, i.render (Lexer.tokenize ⟨Grammar.rules⟩ source), ""⟩ := by
    rw [Invocation.report, hread]
    simp only [Lexer.standard_eq]
  rw [hreport, ← i.render_eq_printed]
  rfl

theorem outcome_report_invalid (i : Invocation) (h : ¬ bytes.IsValidUTF8) :
    (i.report (.ok bytes)).outcome = unread := by
  have hread : String.fromUTF8? bytes = none := dif_neg h
  rw [Invocation.report, hread]
  rfl

/-- What matters of the settings. -/
theorem outcome_report_congr (hformat : j.format = i.format)
    (hlocate : i.format = .raw → j.locate = i.locate) (bytes : ByteArray) :
    (j.report (.ok bytes)).outcome = (i.report (.ok bytes)).outcome := by
  by_cases h : bytes.IsValidUTF8
  · obtain ⟨source, rfl⟩ : ∃ source : String, bytes = source.toUTF8 := ⟨.fromUTF8 bytes h, rfl⟩
    have hprinted (ts : List Token) :
        printed j.format j.locate ts = printed i.format i.locate ts := by
      rw [hformat]
      cases hraw : i.format with
      | raw => rw [hlocate hraw]
      | json => rfl
      | summary => rfl
    rw [outcome_report_source, outcome_report_source, hprinted]
  · rw [outcome_report_invalid j h, outcome_report_invalid i h]

end

/-- The program agrees with the lexer. Arguments that spell consistent settings, and no others, are
accepted. Where the input that they name holds a text, the program succeeds and prints what the lexer
finds in it; where it holds no text or cannot be read, the program fails and prints nothing. It does
not matter how the settings are spelled, and with the same bytes not where these come from. -/
theorem run_agrees :
    (∀ args, (∃ i, Invocation.read args = .ok i) ↔ ∃ ss, Spells args ss ∧ Consistent ss) ∧
    ∃ l, Lexer.standard = .ok l ∧
      ∀ args ss, Spells args ss → Consistent ss → ∀ fetch : Input → Except ReadFault ByteArray,
        (∀ source : String, fetch (asked ss).input = .ok source.toUTF8 →
          (run args fetch).outcome =
            (0, printed (asked ss).format (asked ss).locate (l.tokenize source))) ∧
        (∀ bytes, fetch (asked ss).input = .ok bytes → ¬ bytes.IsValidUTF8 →
          (run args fetch).outcome = unread) ∧
        (∀ e, fetch (asked ss).input = .error e → (run args fetch).outcome = unread) ∧
        ∀ args' ss', Spells args' ss' → Consistent ss' →
          (asked ss').format = (asked ss).format →
          ((asked ss).format = .raw → (asked ss').locate = (asked ss).locate) →
          ∀ fetch' bytes, fetch (asked ss).input = .ok bytes →
            fetch' (asked ss').input = .ok bytes →
            (run args' fetch').outcome = (run args fetch).outcome := by
  have hrun {args ss} (hs : Spells args ss) (hc : Consistent ss)
      (fetch : Input → Except ReadFault ByteArray) :
      run args fetch = (asked ss).report (fetch (asked ss).input) := by
    rw [run, Invocation.read_eq_ok_iff.mpr ⟨ss, hs, hc, rfl⟩]
  refine ⟨fun args => ⟨?_, ?_⟩, _, Lexer.standard_eq, fun args ss hs hc fetch => ⟨?_, ?_, ?_, ?_⟩⟩
  · rintro ⟨i, hi⟩
    obtain ⟨ss, hs, hc, -⟩ := Invocation.read_eq_ok_iff.mp hi
    exact ⟨ss, hs, hc⟩
  · rintro ⟨ss, hs, hc⟩
    exact ⟨_, Invocation.read_eq_ok_iff.mpr ⟨ss, hs, hc, rfl⟩⟩
  · intro source hfetch
    rw [hrun hs hc, hfetch]
    exact outcome_report_source _ source
  · intro bytes hfetch hbytes
    rw [hrun hs hc, hfetch]
    exact outcome_report_invalid _ hbytes
  · intro e hfetch
    rw [hrun hs hc, hfetch]
    rfl
  · intro args' ss' hs' hc' hformat hlocate fetch' bytes hfetch hfetch'
    rw [hrun hs hc, hrun hs' hc', hfetch, hfetch']
    exact outcome_report_congr hformat hlocate bytes

/-- A file and the standard input, once with settings that do not matter; bytes that are no text; and
a file that is not there. -/
theorem run_agrees_json :
    let args := ["-vf", "json", "--locate", "--", "a.ocl"]
    let ss : List Setting := [.flag .verbose, .format .json, .flag .locate, .input "a.ocl"]
    let text := "[\n  \x7b\n    \"kind\": \"Name\",\n    \"text\": \"x\",\n    \"start\": 0\n  \x7d\n]\n"
    let source := "x".toUTF8
    Spells args ss ∧ Consistent ss ∧
      (run args (fetchFrom .empty (.ofFiles [("a.ocl", source)]))).outcome = (0, text) ∧
      (run ["-fjson"] (fetchFrom source ⟨[]⟩)).outcome = (0, text) ∧
      (run args (fetchFrom .empty (.ofFiles [("a.ocl", ⟨#[0x78, 0xff]⟩)]))).outcome = unread ∧
      (run args (fetchFrom source ⟨[]⟩)).outcome = unread := by
  intro args ss text source
  have hs : Spells args ss :=
    .append (.next [.verbose] .json) (.append (.longFlag .locate) (.inputs ["a.ocl"]))
  have hc : Consistent ss := by decide
  have hs' : Spells ["-fjson"] [.format .json] := .append (.attached [] .json) .nil
  have hc' : Consistent [.format .json] := by decide
  obtain ⟨-, l, hl, h⟩ := run_agrees
  have hfile := h args ss hs hc (fetchFrom .empty (.ofFiles [("a.ocl", source)]))
  have hdump : printed (asked ss).format (asked ss).locate (l.tokenize "x") = text := by
    cases Lexer.standard_eq.symm.trans hl
    decide +kernel
  have houtcome := (hfile.1 "x" rfl).trans (congrArg _ hdump)
  refine ⟨hs, hc, houtcome, ?_, ?_, ?_⟩
  · have hsame := hfile.2.2.2 ["-fjson"] _ hs' hc' rfl nofun (fetchFrom source ⟨[]⟩) source rfl rfl
    exact hsame.trans houtcome
  · exact (h args ss hs hc _).2.1 ⟨#[0x78, 0xff]⟩ rfl (by decide)
  · exact (h args ss hs hc _).2.2.1 .notFound rfl

end OclScan.CommandLine
