import OclScan.Proofs.Grammar.Lexeme

/-!
# Gaps are whole

No lexeme ends within a gap (`Lexeme.outsideGap`): each ends with a character that is no white space
within a line, or goes on as far as there is any. So no step starts within a gap
(`Lexer.outsideGap_of_mem_states`).
-/

namespace OclScan

namespace Text

theorem not_number_of_mem_blanks : ∀ n ∈ blanks, inRuns n numberRuns = false := by decide +kernel

/-- White space is no number. -/
theorem isNumber_of_isBlank {c : Char} (h : isBlank c = true) : isNumber c = false :=
  not_number_of_mem_blanks _ (mem_blanks h)

/-- What is printed is no white space. -/
theorem isBlank_of_printed {c : Char} (h : 0x20 < c.toNat) (h' : c.toNat < 0x7f) :
    isBlank c = false := by
  have hblanks : ∀ n ∈ blanks, ¬ (0x20 < n ∧ n < 0x7f) := by decide
  rw [← Bool.not_eq_true]
  exact fun hblank => hblanks _ (mem_blanks hblank) ⟨h, h'⟩

end Text

variable {c : Char} {k : Kind} {u v w : List Char}

theorem isBlank_of_inName (h : inName c = true) : Text.isBlank c = false := by
  rw [← Bool.not_eq_true]
  intro hblank
  rw [inName, Text.isLetter_of_isBlank hblank, Text.isNumber_of_isBlank hblank] at h
  have hsign : ∀ d ∈ ['$', '_'], Text.isBlank d = false := by decide
  rw [hsign c (by simpa using h)] at hblank
  cases hblank

theorem isBlank_of_inDecorator (h : inDecorator c = true) : Text.isBlank c = false := by
  rcases Bool.or_eq_true_iff.mp h with h | h
  · exact isBlank_of_inName h
  · rw [of_decide_eq_true h]
    decide

theorem isBlank_of_isDigit (h : c.isDigit = true) : Text.isBlank c = false := by
  obtain ⟨hlow, hhigh⟩ := Char.isDigit_iff_toNat.mp h
  exact Text.isBlank_of_printed (Nat.lt_of_lt_of_le (by decide) hlow)
    (Nat.lt_of_le_of_lt hhigh (by decide))

theorem isBlank_of_isHexDigit (h : isHexDigit c = true) : Text.isBlank c = false := by
  rw [← Grammar.contains_hexDigits] at h
  simp only [CharSet.ofRanges, List.foldl, CharSet.contains, Bool.false_or, Bool.or_eq_true,
    Bool.and_eq_true, decide_eq_true_eq, UInt32.le_iff_toNat_le] at h
  have hbounds : 0x30 ≤ c.toNat ∧ c.toNat ≤ 0x66 := by
    rcases h with (⟨hlow, hhigh⟩ | ⟨hlow, hhigh⟩) | ⟨hlow, hhigh⟩
    · exact ⟨hlow, Nat.le_trans hhigh (by decide)⟩
    · exact ⟨Nat.le_trans (by decide) hlow, hhigh⟩
    · exact ⟨Nat.le_trans (by decide) hlow, Nat.le_trans hhigh (by decide)⟩
  exact Text.isBlank_of_printed (by omega) (by omega)

/-! ## Numbers -/

section

variable {p q : Char → Bool} {L M : CharLanguage}

theorem mul_le_allOf (hL : L ≤ allOf p) (hM : M ≤ allOf p) : L * M ≤ allOf p := by
  intro w hw
  obtain ⟨u, hu, v, hv, rfl⟩ := Language.mem_mul.mp hw
  exact List.forall_mem_append.mpr ⟨hL hu, hM hv⟩

theorem add_le_allOf (hL : L ≤ allOf p) (hM : M ≤ allOf p) : L + M ≤ allOf p :=
  fun _ hw => hw.elim (hL ·) (hM ·)

theorem one_le_allOf : 1 ≤ allOf p := fun w hw => by
  rw [(Language.mem_one w).mp hw]
  exact nofun

theorem oneOf_le_allOf {cs : List Char} (h : ∀ c ∈ cs, p c = true) : oneOf cs ≤ allOf p := by
  rintro _ ⟨c, hc, rfl⟩
  exact List.forall_mem_singleton.mpr (h c (List.contains_iff_mem.mp hc))

theorem rowOf_le_allOf (h : ∀ c, q c = true → p c = true) : rowOf q ≤ allOf p :=
  fun _ hw c hc => h c (hw.2 c hc)

end

/-- There is no white space in numbers. -/
theorem numerals_le (k : Kind) : numerals k ≤ allOf fun c => !Text.isBlank c := by
  have hdigits : rowOf Char.isDigit ≤ allOf fun c => !Text.isBlank c :=
    rowOf_le_allOf fun c hc => by rw [isBlank_of_isDigit hc, Bool.not_false]
  have hhex : rowOf isHexDigit ≤ allOf fun c => !Text.isBlank c :=
    rowOf_le_allOf fun c hc => by rw [isBlank_of_isHexDigit hc, Bool.not_false]
  cases k with
  | numberFloat =>
    refine mul_le_allOf (mul_le_allOf (mul_le_allOf (mul_le_allOf hdigits ?_) hdigits) ?_) ?_
    · exact oneOf_le_allOf (by decide)
    · refine add_le_allOf one_le_allOf (mul_le_allOf (mul_le_allOf ?_ ?_) hdigits)
      · exact oneOf_le_allOf (by decide)
      · exact add_le_allOf one_le_allOf (oneOf_le_allOf (by decide))
    · exact add_le_allOf one_le_allOf (oneOf_le_allOf (by decide))
  | numberHex =>
    refine mul_le_allOf (mul_le_allOf ?_ ?_) hhex
    · exact oneOf_le_allOf (by decide)
    · exact oneOf_le_allOf (by decide)
  | numberInteger =>
    exact mul_le_allOf hdigits (add_le_allOf one_le_allOf (oneOf_le_allOf (by decide)))
  | _ => exact fun w hw => absurd hw (Language.notMem_zero w)

/-! ## Lexemes -/

/-- No gap goes on across the place. -/
def Cursor.OutsideGap (c : Cursor) : Prop :=
  ∀ x ∈ c.before, inGap x = true → ∀ y ∈ c.rest.head?, inGap y = false

theorem inGap_of_isBlank (h : Text.isBlank c = false) : inGap c = false := by
  rw [inGap, h]
  rfl

theorem outsideGap_of_last {x : Char} (h : inGap x = false) (u w v : List Char) :
    (Cursor.between (u ++ (w ++ [x])) v).OutsideGap := by
  intro y hy hgap
  rw [Cursor.before_between, ← List.append_assoc, List.getLast?_concat, Option.mem_some] at hy
  rw [← hy, h] at hgap
  cases hgap

/-- Behind a text without white space no gap goes on. -/
theorem outsideGap_of_forall (hw : w ≠ []) (h : ∀ x ∈ w, Text.isBlank x = false) (u v : List Char) :
    (Cursor.between (u ++ w) v).OutsideGap := by
  obtain ⟨w, x, rfl⟩ : ∃ w' x, w = w' ++ [x] := ⟨_, _, (List.dropLast_append_getLast hw).symm⟩
  exact outsideGap_of_last (inGap_of_isBlank (h x List.mem_concat_self)) u w v

theorem isBlank_of_isOther (h : isOther c = true) : Text.isBlank c = false := by
  simp only [isOther, Bool.and_eq_true, Bool.not_eq_true'] at h
  exact h.1.1.1

theorem inName_of_startsName (h : startsName c = true) : inName c = true := by
  rw [← Grammar.contains_nameStart] at h
  rw [← Grammar.contains_namePart]
  exact Grammar.namePart_of_nameStart h

/-- No lexeme ends within a gap. -/
theorem Lexeme.outsideGap (h : Lexeme k w v) (u : List Char) :
    (Cursor.between (u ++ w) v).OutsideGap := by
  cases h with
  | newline => exact outsideGap_of_last (x := '\n') (by decide) u [] v
  | gap _ _ hv => exact fun _ _ _ => hv
  | hashComment _ hv => exact fun _ _ _ y hy => hv y hy ▸ by decide
  | @lineComment w _ _ => exact outsideGap_of_last (x := '\n') (by decide) u ('/' :: '/' :: w) v
  | lastComment _ => exact fun _ _ _ => nofun
  | @blockComment t body _ _ =>
    have hbody : '/' :: '*' :: (body ++ commentEnd) = '/' :: '*' :: (body ++ ['*']) ++ ['/'] := by
      rw [commentEnd, List.cons_append, List.cons_append, List.append_assoc, List.singleton_append]
    rw [hbody]
    exact outsideGap_of_last (by decide) u _ v
  | punctuation hc =>
    have hpunctuation : ∀ c ∈ Grammar.punctuationChars, inGap c = false := by decide
    exact outsideGap_of_last (hpunctuation _ hc) u [] v
  | lineJoin => exact outsideGap_of_last (x := '\n') (by decide) u ['\\'] v
  | backslash _ => exact outsideGap_of_last (x := '\\') (by decide) u [] v
  | name hc hw _ =>
    have hstart := isBlank_of_inName (inName_of_startsName hc)
    have hrest := fun x hx => isBlank_of_inName (hw x hx)
    exact outsideGap_of_forall (List.cons_ne_nil _ _) (List.forall_mem_cons.mpr ⟨hstart, hrest⟩) u v
  | decorator _ hw _ =>
    have hrest := fun x hx => isBlank_of_inDecorator (hw x hx)
    exact outsideGap_of_forall (List.cons_ne_nil _ _)
      (List.forall_mem_cons.mpr ⟨by decide, hrest⟩) u v
  | operator hlongest _ =>
    have hoperator : ∀ w ∈ operatorSpellings, w ≠ [] ∧ ∀ x ∈ w, Text.isBlank x = false := by decide
    obtain ⟨hne, hw⟩ := hoperator w hlongest.isWord
    exact outsideGap_of_forall hne hw u v
  | number hnumber _ =>
    have hw := fun x hx => Bool.not_eq_true' _ ▸ numerals_le k hnumber x hx
    exact outsideGap_of_forall (fun e => Grammar.nil_notMem_numerals k (e ▸ hnumber)) hw u v
  | @string q s _ hq _ => exact outsideGap_of_last (Grammar.inGap_of_quote hq) u (q :: s) v
  | quote hq _ => exact outsideGap_of_last (Grammar.inGap_of_quote hq) u [] v
  | atSign _ => exact outsideGap_of_last (x := '@') (by decide) u [] v
  | other hc => exact outsideGap_of_last (inGap_of_isBlank (isBlank_of_isOther hc)) u [] v

/-- No step ends within a gap. -/
theorem Grammar.outsideGap_stop (hv : v ≠ []) :
    (stepAt rules (.between u v)).stop.OutsideGap := by
  rcases stepAt_cases u hv with
    ⟨w, q, t, body, after, hdoc, hup, hstep⟩ | ⟨k, w, v', rfl, hlexeme, hstep⟩
  · have hlast : w ++ (triple q ++ body ++ triple q) =
        w ++ (triple q ++ body ++ [q, q]) ++ [q] := by
      simp only [List.append_assoc, triple, List.cons_append, List.nil_append]
    rw [hstep, Step.stop, hdoc.eq_append hup, Cursor.advance_between, hlast]
    exact outsideGap_of_last (inGap_of_quote hdoc.quote) u _ after
  · rw [hstep, Step.stop, Step.single, Cursor.advance_between]
    exact hlexeme.outsideGap u

/-- No step starts within a gap. -/
theorem Lexer.outsideGap_of_mem_states {source : String} {s : Stream}
    (h : s ∈ ((mk Grammar.rules).stream source).states) : s.cursor.OutsideGap := by
  let P (c : Cursor) : Prop := (∃ u v, c = .between u v) ∧ c.OutsideGap
  have start : P (.start source.toList) := ⟨⟨[], source.toList, rfl⟩, nofun⟩
  refine (Stream.forall_mem_states start (fun c hc ⟨⟨u, v, hplace⟩, _⟩ => ?_) s h).2
  subst hplace
  obtain ⟨u', v', -, hstop⟩ := stepAt_stop_between Grammar.rules u hc
  exact ⟨⟨u', v', hstop⟩, Grammar.outsideGap_stop hc⟩

end OclScan
