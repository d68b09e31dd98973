import OclScan.Proofs.Grammar.Rules
import OclScan.Proofs.Pattern.Runs

/-!
# Where names start

Where a name starts, only the rule for names and those for words can start
(`Grammar.isName_of_starts`): the other rules start with white space (`Text.isLetter_of_isBlank`),
with a digit or with one of a few symbols.
-/

namespace OclScan

namespace Text

/-- The code points of white space. -/
def blanks : List Nat := [
  0x9, 0xa, 0xb, 0xc, 0xd, 0x20, 0x85, 0xa0, 0x1680, 0x2000, 0x2001, 0x2002, 0x2003, 0x2004,
  0x2005, 0x2006, 0x2007, 0x2008, 0x2009, 0x200a, 0x2028, 0x2029, 0x202f, 0x205f, 0x3000]

theorem mem_blanks {n : Nat} (h : inRuns n blankRuns = true) : n ∈ blanks := by
  simp only [blankRuns, inRuns, Bool.if_false_left, Bool.and_eq_true, Bool.or_eq_true,
    decide_eq_true_eq, Bool.not_eq_true', decide_eq_false_iff_not, Bool.or_false] at h
  simp only [blanks, List.mem_cons, List.not_mem_nil]
  omega

theorem not_letter_of_mem_blanks : ∀ n ∈ blanks, inRuns n letterRuns = false := by decide +kernel

/-- White space is no letter. -/
theorem isLetter_of_isBlank {c : Char} (h : isBlank c = true) : isLetter c = false :=
  not_letter_of_mem_blanks _ (mem_blanks h)

end Text

theorem CharSet.contains_ofChars (cs : List Char) (x : Char) :
    (CharSet.ofChars cs).contains x = cs.contains x := by
  have h : ∀ s : CharSet, (cs.foldl CharSet.insert s).contains x =
      (s.contains x || cs.contains x) := by
    induction cs with
    | nil => simp
    | cons d cs ih =>
      intro s
      rw [List.foldl_cons, ih]
      simp [CharSet.insert, CharSet.contains, Bool.or_assoc]
  exact h .none

namespace Grammar

open Plan

variable {x : Char}

/-- The rule reads names. -/
structure IsName (r : Rule) : Prop where
  plan : r.pattern.plan = identifier
  groups : r.pattern.groups = 0

theorem isName_of_words : ∀ r ∈ rules, r.words ≠ none → IsName r := by
  have h : ∀ r ∈ rules, r.words ≠ none → r.pattern.plan = identifier ∧ r.pattern.groups = 0 := by
    decide
  exact fun r hr hw => ⟨(h r hr hw).1, (h r hr hw).2⟩

theorem nameRule_mem : nameRule ∈ rules := by simp [rules, laterRules]

/-- What rules start with that are not for names, digits and gaps apart. -/
def symbols : List Char :=
  punctuationChars ++ operatorChars ++ ['\n', '#', '/', '\\', '<', '!', '=', '-', '>', '@', '0'] ++
    quotes

/-- The sets that these rules start with. -/
def otherHeads : List CharSet :=
  [gap, digits, .ofChars punctuationChars, .ofChars operatorChars] ++ symbols.map .char

theorem heads_of_mem : ∀ r ∈ rules, (r.pattern.plan = identifier ∧ r.pattern.groups = 0) ∨
    ∀ s ∈ r.pattern.plan.heads, s ∈ otherHeads := by decide

theorem nameStart_symbols {y : Char} (hy : y ∈ symbols) : nameStart.contains y = false := by
  have h : symbols.all (fun y => !nameStart.contains y) = true := by decide
  simpa using List.all_eq_true.mp h y hy

theorem letter_of_nameStart (hx : nameStart.contains x = true) :
    Text.isLetter x = true ∨ x = '$' ∨ x = '_' := by
  simpa [nameStart, CharSet.insert, CharSet.contains, CharProperty.holds, or_assoc] using hx

theorem gap_of_nameStart (hx : nameStart.contains x = true) : gap.contains x = false := by
  have hblank : Text.isBlank x = false := by
    rcases letter_of_nameStart hx with h | rfl | rfl
    · rw [← Bool.not_eq_true]
      intro hb
      rw [Text.isLetter_of_isBlank hb] at h
      cases h
    · decide
    · decide
  simp [gap, CharSet.contains, CharProperty.holds, hblank]

/-- The first letter comes after the digits. -/
theorem digits_of_nameStart (hx : nameStart.contains x = true) : digits.contains x = false := by
  rcases letter_of_nameStart hx with h | rfl | rfl
  · rw [← Bool.not_eq_true]
    intro hd
    have hlt : x.toNat < 0x41 := by
      simp [digits, CharSet.ofRanges, CharSet.contains, UInt32.le_iff_toNat_le] at hd
      have : x.toNat = x.val.toNat := rfl
      omega
    rw [Text.isLetter, Text.letterRuns, Text.inRuns, if_pos hlt] at h
    cases h
  · decide
  · decide

/-- What is in no gap, and is neither a digit nor a symbol, is in none of the sets. -/
theorem not_mem_otherHeads (hgap : gap.contains x = false) (hdigit : digits.contains x = false)
    (hne : ∀ y ∈ symbols, x ≠ y) : ∀ s ∈ otherHeads, s.contains x = false := by
  intro s hs
  simp only [otherHeads, List.mem_append, List.mem_cons, List.not_mem_nil, or_false,
    List.mem_map] at hs
  rcases hs with (rfl | rfl | rfl | rfl) | ⟨y, hy, rfl⟩
  · exact hgap
  · exact hdigit
  · rw [CharSet.contains_ofChars, ← Bool.not_eq_true, List.contains_iff_mem]
    exact fun hmem => hne x (by simp [symbols, hmem]) rfl
  · rw [CharSet.contains_ofChars, ← Bool.not_eq_true, List.contains_iff_mem]
    exact fun hmem => hne x (by simp [symbols, hmem]) rfl
  · rw [CharSet.contains_char, decide_eq_false (hne y hy)]

/-- No other rule starts with what a name starts with. -/
theorem otherHeads_of_nameStart (hx : nameStart.contains x = true) :
    ∀ s ∈ otherHeads, s.contains x = false := by
  refine not_mem_otherHeads (gap_of_nameStart hx) (digits_of_nameStart hx) fun y hy e => ?_
  rw [e, nameStart_symbols hy] at hx
  cases hx

theorem starts_identifier (x : Char) : identifier.starts x = nameStart.contains x := by
  simp [identifier, starts, heads, Reads]

/-- Where a name starts, only the rules that read names can start. -/
theorem isName_of_starts (hx : nameStart.contains x = true) {r : Rule} (hr : r ∈ rules)
    (h : r.pattern.plan.starts x = true) : IsName r := by
  rcases heads_of_mem r hr with hname | hs
  · exact ⟨hname.1, hname.2⟩
  · obtain ⟨s, hmem, hc⟩ := List.any_eq_true.mp h
    rw [otherHeads_of_nameStart hx s (hs s hmem)] at hc
    cases hc

end Grammar

end OclScan
