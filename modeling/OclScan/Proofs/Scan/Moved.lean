import OclScan.Proofs.Pattern.Cut
import OclScan.Proofs.Scan.Steps

/-!
# Scanning the same text elsewhere

Where no pattern looks back further than to the start of a line, what is made of a text depends on
the text before it only by whether a line starts there: the tokens are the same, moved to where the
text stands (`scan_moved`).
-/

namespace OclScan

/-- The place after a line feed, or at the start of the text. -/
def startsLine (before : Option Char) : Bool := Assertion.lineStart.holds before none

/-- The token, `d` bytes further on. -/
def Token.shift (d : Nat) (t : Token) : Token := { t with start := d + t.start }

/-- Each round of a loop reads, and the only condition is the start of a line. -/
structure Rule.ByLine (r : Rule) : Prop where
  steady : r.pattern.plan.Steady = true
  conditions : ∀ a ∈ r.pattern.plan.conditions, a = .lineStart

namespace Cursor

/-- The same text stands at `c'` as at `c`, `d` bytes further on. -/
structure Moved (d : Nat) (c c' : Cursor) : Prop where
  rest : c'.rest = c.rest
  offset : c'.offset = d + c.offset
  before : startsLine c'.before = startsLine c.before

variable {d : Nat} {c c' : Cursor}

theorem Moved.take (h : c.Moved d c') (n : Nat) : c'.take n = c.take n := by
  rw [Cursor.take, h.rest, Cursor.take]

/-- After a character, both places have the same one before them. -/
theorem Moved.advance (h : c.Moved d c') (n : Nat) : (c.advance n).Moved d (c'.advance n) := by
  induction n generalizing c c' with
  | zero => exact h
  | succ n ih =>
    obtain ⟨b, o, rest⟩ := c
    obtain ⟨b', o', rest'⟩ := c'
    obtain ⟨hrest, hoffset, hbefore⟩ := h
    simp only at hrest hoffset hbefore
    subst hrest
    cases rest' with
    | nil => exact ⟨rfl, hoffset, hbefore⟩
    | cons x xs =>
      rw [advance_cons, advance_cons]
      exact ih ⟨rfl, by simp only [hoffset, Nat.add_assoc], rfl⟩

end Cursor

variable {d : Nat} {c c' : Cursor} {r : Rule}

namespace Rule

theorem ByLine.agreeOn (hr : r.ByLine) {b b' : Option Char} (h : startsLine b' = startsLine b) :
    AgreeOn r.pattern.plan.conditions b b' := by
  intro a ha
  rw [hr.conditions a ha]
  exact ⟨rfl, h⟩

theorem matchAt?_moved (hr : r.ByLine) (h : c.Moved d c') :
    r.pattern.matchAt? c' = r.pattern.matchAt? c := by
  rw [Pattern.matchAt?, h.rest]
  exact Plan.matchAt?_congr hr.steady _ (hr.agreeOn h.before) c.rest

theorem wins?_moved (hr : r.ByLine) (h : c.Moved d c') : r.wins? c' = r.wins? c := by
  simp only [wins?, matchAt?_moved hr h, h.take]

theorem groupToken?_moved (h : c.Moved d c') (m : Match) (k : Kind) (i : Nat) :
    groupToken? c' m k i = (groupToken? c m k i).map (Token.shift d) := by
  simp only [groupToken?]
  cases m.group? i with
  | none => rfl
  | some g =>
    obtain ⟨i, j⟩ := g
    simp only
    split
    · simp only [(h.advance i).take, (h.advance i).offset, Option.map_some, Token.shift]
    · rfl

theorem tokens_moved (hr : r.ByLine) (h : c.Moved d c') (n : Nat) :
    r.tokens c' n = (r.tokens c n).map (Token.shift d) := by
  simp only [tokens, matchAt?_moved hr h]
  cases r.action with
  | token k => simp only [h.take, h.offset, List.map_cons, List.map_nil, Token.shift]
  | byGroups ks =>
    cases r.pattern.matchAt? c with
    | none => rfl
    | some m => simp only [groupToken?_moved h, List.map_filterMap]

end Rule

variable {rules : List Rule}

theorem winner?_moved (hr : ∀ r ∈ rules, r.ByLine) (h : c.Moved d c') :
    winner? rules c' = winner? rules c := by
  induction rules with
  | nil => rfl
  | cons r rs ih =>
    obtain ⟨hr, hrs⟩ := List.forall_mem_cons.mp hr
    have ih := ih hrs
    rw [winner?, winner?] at ih ⊢
    rw [List.findSome?_cons, List.findSome?_cons, r.wins?_moved hr h, ih]

theorem stepAt_moved (hr : ∀ r ∈ rules, r.ByLine) (h : c.Moved d c') :
    (stepAt rules c').length = (stepAt rules c).length ∧
      (stepAt rules c').tokens = (stepAt rules c).tokens.map (Token.shift d) := by
  simp only [stepAt, winner?_moved hr h]
  cases hw : winner? rules c with
  | none =>
    simp only [Step.make, h.take, h.offset, List.map_cons, List.map_nil, Token.shift, and_self]
  | some w => exact ⟨rfl, w.1.tokens_moved (hr _ (winner?_eq_some hw).1) h w.2⟩

/-- The same text gives the same tokens. -/
theorem scan_moved (hr : ∀ r ∈ rules, r.ByLine) (h : c.Moved d c') :
    scan rules c' = (scan rules c).map (Token.shift d) := by
  induction c using scan_induction rules generalizing c' with
  | stop c hc =>
    rw [scan_of_rest_nil rules hc, scan_of_rest_nil rules (h.rest.trans hc), List.map_nil]
  | step c hc ih =>
    obtain ⟨hlength, htokens⟩ := stepAt_moved hr h
    have hstop : (stepAt rules c).stop.Moved d (stepAt rules c').stop := by
      rw [stepAt_stop, stepAt_stop, hlength]
      exact h.advance _
    rw [scan_cons rules hc, scan_cons rules (h.rest ▸ hc), htokens, List.map_append, ih hstop]

end OclScan
