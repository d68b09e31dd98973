import OclScan.Proofs.Scan.Steps

/-!
# Tokens that cover a text

Tokens cover a text if they cut it into pieces, one after the other, none of them empty
(`Covers`). Where the tokens of every rule cover its match, those of a scan cover the text that is
scanned (`covers_scan`).
-/

namespace OclScan

/-- The tokens cut the text, which starts at the offset, into pieces that are not empty. -/
inductive Covers : Nat → List Token → List Char → Prop
  | nil {o} : Covers o [] []
  | cons {o k v ts u} : v ≠ [] → Covers (o + (String.ofList v).utf8ByteSize) ts u →
      Covers o (⟨k, String.ofList v, o⟩ :: ts) (v ++ u)

/-- The tokens cut the source into pieces, from its start to its end. -/
structure Tiles (source : String) (ts : List Token) : Prop where
  /-- The first token starts at the start of the source. -/
  first : ∀ t, ts.head? = some t → t.start = 0
  /-- Each token starts where the one before it stops. -/
  next : ∀ (i : Nat) t u, ts[i]? = some t → ts[i + 1]? = some u → u.start = t.stop
  /-- The last token stops at the end of the source. -/
  last : ∀ t, ts.getLast? = some t → t.stop = source.utf8ByteSize
  nonempty : ∀ t ∈ ts, t.text ≠ ""
  /-- The text of a token is the part of the source from its start to its stop. -/
  slice : ∀ t ∈ ts, ∃ before after, source = before ++ t.text ++ after ∧
    before.utf8ByteSize = t.start ∧ (before ++ t.text).utf8ByteSize = t.stop
  join : String.join (ts.map Token.text) = source
  length_le : ts.length ≤ source.length

theorem utf8ByteSize_ofList_append (u v : List Char) : (String.ofList (u ++ v)).utf8ByteSize =
    (String.ofList u).utf8ByteSize + (String.ofList v).utf8ByteSize := by
  rw [String.ofList_append, String.utf8ByteSize_append]

theorem ofList_ne_empty {u : List Char} (h : u ≠ []) : String.ofList u ≠ "" := by
  intro e
  have := congrArg String.toList e
  rw [String.toList_ofList, String.toList_empty] at this
  exact h this

namespace Covers

variable {o : Nat} {ts ts' : List Token} {u v : List Char}

theorem single (k : Kind) (o : Nat) (hu : u ≠ []) : Covers o [⟨k, String.ofList u, o⟩] u := by
  have h := Covers.cons (k := k) (o := o) hu .nil
  rwa [List.append_nil] at h

theorem append (h : Covers o ts u)
    (h' : Covers (o + (String.ofList u).utf8ByteSize) ts' v) : Covers o (ts ++ ts') (u ++ v) := by
  induction h with
  | nil => simpa using h'
  | cons hne _ ih =>
    rw [List.cons_append, List.append_assoc]
    refine .cons hne (ih ?_)
    rwa [utf8ByteSize_ofList_append, ← Nat.add_assoc] at h'

/-- The tokens after the first go on where it stops. -/
theorem tail {t : Token} (h : Covers o (t :: ts) u) : ∃ v, Covers t.stop ts v := by
  cases h with
  | cons _ h => exact ⟨_, h⟩

theorem first (h : Covers o ts u) : ∀ t, ts.head? = some t → t.start = o := by
  cases h with
  | nil => simp
  | cons _ _ =>
    intro t ht
    cases ht
    rfl

theorem next (h : Covers o ts u) : ∀ (i : Nat) t t', ts[i]? = some t → ts[i + 1]? = some t' →
    t'.start = t.stop := by
  induction h with
  | nil => simp
  | cons _ h ih =>
    intro i t t' ht ht'
    cases i with
    | zero =>
      cases ht
      rw [List.getElem?_cons_succ, ← List.head?_eq_getElem?] at ht'
      exact h.first t' ht'
    | succ i => exact ih i t t' ht ht'

theorem last (h : Covers o ts u) :
    ∀ t, ts.getLast? = some t → t.stop = o + (String.ofList u).utf8ByteSize := by
  induction h with
  | nil => simp
  | @cons o k v ts u _ h ih =>
    intro t ht
    rw [utf8ByteSize_ofList_append, ← Nat.add_assoc]
    cases h with
    | nil =>
      cases ht
      rfl
    | cons hne h => exact ih t (by rwa [List.getLast?_cons_cons] at ht)

theorem slice (h : Covers o ts u) : ∀ t ∈ ts, ∃ a b, u = a ++ t.text.toList ++ b ∧
    t.text ≠ "" ∧ t.start = o + (String.ofList a).utf8ByteSize := by
  induction h with
  | nil => simp
  | @cons o k v ts u hne _ ih =>
    intro t ht
    rcases List.mem_cons.mp ht with rfl | ht
    · exact ⟨[], u, by simp, ofList_ne_empty hne, by simp⟩
    · obtain ⟨a, b, hab, hne, hs⟩ := ih t ht
      refine ⟨v ++ a, b, ?_, hne, ?_⟩
      · rw [hab, List.append_assoc, List.append_assoc, List.append_assoc]
      · rw [hs, utf8ByteSize_ofList_append, Nat.add_assoc]

theorem le_start (h : Covers o ts u) {t : Token} (ht : t ∈ ts) : o ≤ t.start := by
  obtain ⟨a, b, -, -, hs⟩ := h.slice t ht
  omega

/-- Each token stops before those that follow it start. -/
theorem pairwise (h : Covers o ts u) : ts.Pairwise fun t t' => t.stop ≤ t'.start := by
  induction h with
  | nil => exact .nil
  | cons _ h ih => exact .cons (fun t ht => h.le_start ht) ih

/-- A token is not empty. -/
theorem start_lt_stop (h : Covers o ts u) {t : Token} (ht : t ∈ ts) : t.start < t.stop := by
  obtain ⟨a, b, -, hne, -⟩ := h.slice t ht
  have hpos := utf8ByteSize_ofList_pos fun e => hne (String.toList_eq_nil_iff.mp e)
  rw [String.ofList_toList] at hpos
  rw [Token.stop]
  omega

/-- A token stops by the end of the text. -/
theorem stop_le (h : Covers o ts u) {t : Token} (ht : t ∈ ts) :
    t.stop ≤ o + (String.ofList u).utf8ByteSize := by
  obtain ⟨a, b, hab, -, hs⟩ := h.slice t ht
  rw [Token.stop, hs, hab, utf8ByteSize_ofList_append, utf8ByteSize_ofList_append,
    String.ofList_toList]
  omega

/-- No token starts within another. By induction on the tokens before both. -/
theorem not_within {t t' : Token} (h : Covers o ts u) (ht : t ∈ ts) (ht' : t' ∈ ts) :
    ¬ (t'.start < t.start ∧ t.start < t'.stop) := by
  rintro ⟨hlow, hhigh⟩
  have hstop := h.start_lt_stop ht
  have hpairwise := h.pairwise
  clear h
  induction hpairwise with
  | nil => cases ht
  | cons hfirst _ ih =>
    rcases List.mem_cons.mp ht with e | hmem
    · rcases List.mem_cons.mp ht' with e' | hmem'
      · rw [e, e'] at hlow
        omega
      · have := hfirst t' hmem'
        rw [e] at hlow hstop
        omega
    · rcases List.mem_cons.mp ht' with e' | hmem'
      · have := hfirst t hmem
        rw [e'] at hhigh
        omega
      · exact ih hmem hmem'

theorem join (h : Covers o ts u) : String.join (ts.map Token.text) = String.ofList u := by
  induction h with
  | nil => exact String.join_nil
  | cons _ _ ih => rw [List.map_cons, String.join_cons, ih, String.ofList_append]

theorem length_le (h : Covers o ts u) : ts.length ≤ u.length := by
  induction h with
  | nil => exact Nat.le_refl _
  | @cons o k v ts u hne _ ih =>
    have := List.length_pos_iff.mpr hne
    rw [List.length_cons, List.length_append]
    omega

theorem tiles {source : String} (h : Covers 0 ts source.toList) : Tiles source ts where
  first := h.first
  next := h.next
  last t ht := by rw [h.last t ht, String.ofList_toList, Nat.zero_add]
  nonempty t ht := by
    obtain ⟨a, b, -, hne, -⟩ := h.slice t ht
    exact hne
  slice t ht := by
    obtain ⟨a, b, hab, -, hs⟩ := h.slice t ht
    refine ⟨String.ofList a, String.ofList b, ?_, by omega, ?_⟩
    · rw [← String.ofList_toList (s := source), hab, String.ofList_append, String.ofList_append,
        String.ofList_toList]
    · rw [String.utf8ByteSize_append, Token.stop, hs, Nat.zero_add]
  join := by rw [h.join, String.ofList_toList]
  length_le := by
    rw [← String.length_toList]
    exact h.length_le

end Covers

/-! ## Scanning -/

/-- The tokens of the rule cover its match. -/
def Rule.Covering (r : Rule) : Prop :=
  ∀ c n, r.wins? c = some n → Covers c.offset (r.tokens c n) (c.rest.take n)

/-- A rule that makes one token covers its match. -/
theorem Rule.covering_of_token {r : Rule} {k : Kind} (h : r.action = .token k) : r.Covering := by
  intro c n hn
  have hpos := wins?_pos hn
  have hle := wins?_le hn
  rw [Rule.tokens, h]
  refine .single k c.offset fun e => ?_
  rw [List.take_eq_nil_iff] at e
  rcases e with e | e
  · omega
  · rw [e] at hle
    exact absurd hle (Nat.not_le_of_lt hpos)

variable {rules : List Rule} {c : Cursor}

theorem covers_stepAt (hr : ∀ r ∈ rules, r.Covering) (h : c.rest ≠ []) :
    Covers c.offset (stepAt rules c).tokens (c.rest.take (stepAt rules c).length) := by
  rw [stepAt]
  cases hw : winner? rules c with
  | none =>
    refine .single .text c.offset fun e => ?_
    rw [List.take_eq_nil_iff] at e
    exact e.elim Nat.one_ne_zero h
  | some w =>
    obtain ⟨hmem, hwin⟩ := winner?_eq_some hw
    exact hr _ hmem c _ hwin

theorem covers_scan (hr : ∀ r ∈ rules, r.Covering) (c : Cursor) :
    Covers c.offset (scan rules c) c.rest := by
  induction c using scan_induction rules with
  | stop c h =>
    rw [scan_of_rest_nil rules h, h]
    exact .nil
  | step c h ih =>
    rw [stepAt_stop, Cursor.offset_advance, Cursor.rest_advance] at ih
    have hc := (covers_stepAt hr h).append ih
    rwa [List.take_append_drop, ← stepAt_stop, ← scan_cons rules h] at hc

end OclScan
