import OclScan.Proofs.Grammar.Winner
import OclScan.Proofs.Stream.Partition

/-!
# What a step makes

A step of the stream of a source is that of the first rule that wins at its cursor
(`Lexer.step_of_mem_states`), and a token of the source is one of such a step
(`Lexer.mem_tokenize_iff`). In the grammar of constraints a step makes a single token, unless a text
in triple quotes is read (`Grammar.stepAt_eq_single`, `Grammar.stepAt_of_winner?_eq_none`), and a
token that is neither plain text nor text in triple quotes is all that a rule makes of its match
(`Grammar.exists_winner_of_mem`).
-/

namespace OclScan

variable {c : Cursor} {n : Nat} {k : Kind} {t : Token}

/-- The step that makes one token of the next `n` characters. -/
def Step.single (c : Cursor) (n : Nat) (k : Kind) : Step := ⟨c, n, [⟨k, c.take n, c.offset⟩]⟩

/-- A stream makes its next step in the state in which it is. -/
theorem Stream.mem_states {s : Stream} (h : s.cursor.rest ≠ []) : s ∈ s.states := by
  obtain ⟨x, t, hc⟩ := List.exists_cons_of_ne_nil h
  rw [states, hc, List.length_cons, statesUpTo, hc, List.isEmpty_cons, if_neg Bool.false_ne_true]
  exact List.mem_cons_self

namespace Lexer

variable {rules : List Rule} {source : String} {s : Stream}

theorem step_of_mem_states (h : s ∈ ((mk rules).stream source).states) :
    s.step = stepAt rules s.cursor ∧ s.cursor.rest ≠ [] := by
  have hsound := Stream.sound_start rules source.toList
  obtain ⟨hs, hrules, hne⟩ := Stream.mem_statesUpTo hsound s h
  rw [Stream.rules_start] at hrules
  rw [Stream.step_eq hs, hrules]
  exact ⟨rfl, hne⟩

theorem mem_tokenize_iff : t ∈ (mk rules).tokenize source ↔
    ∃ s ∈ ((mk rules).stream source).states, t ∈ s.step.tokens := by
  have hsound := Stream.sound_start rules source.toList
  have htokens : (mk rules).tokenize source =
      ((mk rules).stream source).states.flatMap fun s => s.step.tokens :=
    (Stream.toList_eq hsound).trans (Stream.remaining_eq hsound)
  rw [htokens, List.mem_flatMap]

end Lexer

namespace Grammar

variable {r : Rule}

theorem stepAt_eq_single (h : winner? rules c = some (r, n)) (hk : r.action = .token k) :
    stepAt rules c = .single c n k := by
  rw [stepAt, h, Step.make, Rule.tokens, hk]
  rfl

theorem stepAt_of_winner?_eq_none (h : winner? rules c = none) :
    stepAt rules c = .single c 1 .text := by
  rw [stepAt, h]
  rfl

theorem exists_winner_of_mem (ht : t ∈ (stepAt rules c).tokens) (htext : t.kind ≠ .text)
    (hdoc : t.kind ≠ .stringDoc) : ∃ r n, winner? rules c = some (r, n) ∧ r ∈ rules ∧
      r.action = .token t.kind ∧ (stepAt rules c).tokens = [t] := by
  cases madeAt_of_mem ht with
  | single _ => exact absurd rfl htext
  | gap _ _ _ => exact absurd rfl htext
  | doc _ _ => exact absurd rfl hdoc
  | @whole r n k h _ hk =>
    refine ⟨r, n, h, (winner?_eq_some h).1, hk, ?_⟩
    rw [stepAt_eq_single h hk]
    rfl

end Grammar

end OclScan
