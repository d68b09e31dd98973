import OclScan.Pattern.Tree
import OclScan.Proofs.Pattern.CharSet
import OclScan.Proofs.Pattern.Condition

/-!
# What trees read

A tree can be read from a place so that a condition holds where it ends (`Tree.Then`). Nothing is
said of preference. The rules that are settled where trees are built keep what can be read: parts in
a row (`Tree.then_sequence`), alternatives as a set (`Tree.then_choice`) and with a beginning that
they share (`Tree.then_alternatives`), and repetitions of what reads nothing
(`Tree.then_repeated`).
-/

namespace OclScan

open Condition (Pointwise)

namespace Tree

/-- Whether a repetition from `least` to `most` times may be made `n` times. A greatest count below
the least one counts as the least one. -/
def Allows (least : Nat) (most : Option Nat) (n : Nat) : Prop :=
  least ≤ n ∧ ∀ m, most = some m → n ≤ max least m

/-- The tree can be read so that `k` holds where it ends. -/
def Then : Tree → Condition → Condition
  | empty, k => k
  | set s, k => fun _ x => ∃ c y, x = c :: y ∧ s.contains c = true ∧ k (some c) y
  | assertion a, k => fun b x => a.holds b x.head? = true ∧ k b x
  | group _ t, k => t.Then k
  | seq t u, k => t.Then (u.Then k)
  | alt t u, k => fun b x => t.Then k b x ∨ u.Then k b x
  | times t least most _, k => Condition.sometimes (fun k => t.Then k) (Allows least most) k

variable {t u : Tree} {ts : List Tree} {k : Condition} {b : Option Char} {x : List Char}

/-- By induction on the tree. -/
theorem pointwise_then (t : Tree) : Pointwise t.Then := by
  induction t with
  | empty => exact .id
  | set s =>
    refine ⟨fun hk => ?_, ?_⟩
    · rintro b x ⟨c, y, rfl, hc, h⟩
      exact ⟨c, y, rfl, hc, hk _ _ h⟩
    · rintro α K b x ⟨c, y, rfl, hc, i, h⟩
      exact ⟨i, c, y, rfl, hc, h⟩
  | assertion a => exact ⟨fun hk => And.imp_right (hk _ _), fun ⟨ha, i, h⟩ => ⟨i, ha, h⟩⟩
  | group i t ih => exact ih
  | seq t u iht ihu => exact iht.comp ihu
  | alt t u iht ihu => exact iht.or ihu
  | times t least most greedy ih => exact ih.sometimes _

/-! ## Parts in a row -/

/-- The trees one after the other can be read so that `k` holds where the last ends. -/
def ThenAll (ts : List Tree) (k : Condition) : Condition := ts.foldr Then k

theorem thenAll_append (ts us : List Tree) (k : Condition) :
    ThenAll (ts ++ us) k = ThenAll ts (ThenAll us k) := List.foldr_append

theorem thenAll_items (t : Tree) (k : Condition) : ThenAll t.items k = t.Then k := by
  induction t generalizing k with
  | seq t u iht ihu => rw [items, thenAll_append, ihu, iht, Then]
  | _ => rfl

theorem then_row : ∀ ts k, (sequence.row ts).Then k = ThenAll ts k
  | [], _ => rfl
  | [_], _ => rfl
  | t :: u :: ts, k => congrArg t.Then (then_row (u :: ts) k)

/-- Trees in a row are read one after the other. -/
theorem then_sequence (ts : List Tree) (k : Condition) :
    (sequence ts).Then k = ThenAll ts k := by
  rw [sequence, then_row]
  induction ts with
  | nil => rfl
  | cons t ts ih => rw [List.flatMap_cons, thenAll_append, ih, thenAll_items]; rfl

/-! ## Alternatives -/

theorem then_choices (t : Tree) : (∃ u ∈ t.choices, u.Then k b x) ↔ t.Then k b x := by
  induction t with
  | alt t u iht ihu =>
    simp only [choices, List.mem_append, or_and_right, exists_or, iht, ihu]
    rfl
  | _ => simp [choices]

theorem choices_ne_nil (t : Tree) : t.choices ≠ [] := by
  induction t with
  | alt t u iht _ => simp [choices, iht]
  | _ => simp [choices]

theorem then_flatMap_choices (ts : List Tree) :
    (∃ u ∈ ts.flatMap choices, u.Then k b x) ↔ ∃ t ∈ ts, t.Then k b x := by
  simp only [List.mem_flatMap]
  constructor
  · rintro ⟨u, ⟨t, ht, hu⟩, h⟩
    exact ⟨t, ht, (then_choices t).mp ⟨u, hu, h⟩⟩
  · rintro ⟨t, ht, h⟩
    obtain ⟨u, hu, h⟩ := (then_choices t).mpr h
    exact ⟨u, ⟨t, ht, hu⟩, h⟩

theorem then_column (h : ts ≠ []) : (choice.column ts).Then k b x ↔ ∃ t ∈ ts, t.Then k b x := by
  induction ts with
  | nil => exact absurd rfl h
  | cons t ts ih =>
    cases ts with
    | nil => simp [choice.column]
    | cons u ts => simp [choice.column, Then, ih]

theorem contains_foldl_union (s : CharSet) (ss : List CharSet) (c : Char) :
    (ss.foldl CharSet.union s).contains c = true ↔ ∃ r ∈ s :: ss, r.contains c = true := by
  induction ss generalizing s with
  | nil => simp
  | cons r ss ih =>
    rw [List.foldl_cons, ih]
    simp [CharSet.contains, or_assoc]

/-- One set for sets. -/
theorem then_set_union (s : CharSet) (ss : List CharSet) :
    (set (ss.foldl .union s)).Then k b x ↔ ∃ t ∈ (s :: ss).map set, t.Then k b x := by
  simp only [Then, contains_foldl_union, List.mem_map]
  constructor
  · rintro ⟨c, y, rfl, ⟨r, hr, hc⟩, h⟩
    exact ⟨set r, ⟨r, hr, rfl⟩, c, y, rfl, hc, h⟩
  · rintro ⟨_, ⟨r, hr, rfl⟩, c, y, rfl, hc, h⟩
    exact ⟨c, y, rfl, ⟨r, hr, hc⟩, h⟩

theorem eq_map_of_mapM_set? {ss : List CharSet} (h : ts.mapM set? = some ss) : ts = ss.map set := by
  induction ts generalizing ss with
  | nil => cases h; rfl
  | cons t ts ih =>
    simp only [List.mapM_cons, Option.bind_eq_bind, Option.bind_eq_some_iff] at h
    obtain ⟨s, hs, ss', hss, h⟩ := h
    cases h
    rw [ih hss]
    cases t <;> cases hs
    rfl

/-- One tree for alternatives reads what some alternative reads. -/
theorem then_choice (h : ts ≠ []) : (choice ts).Then k b x ↔ ∃ t ∈ ts, t.Then k b x := by
  rw [← then_flatMap_choices]
  have hne : ts.flatMap choices ≠ [] := by
    obtain ⟨t, ts, rfl⟩ := List.exists_cons_of_ne_nil h
    simp [choices_ne_nil]
  simp only [choice]
  split
  · rename_i s s' ss hss
    split
    · rw [eq_map_of_mapM_set? hss]
      exact then_set_union s (s' :: ss)
    · exact then_column hne
  · exact then_column hne

/-! ## Shared beginnings -/

/-- Trees that are built alike are read alike. -/
theorem then_eq_of_alike (h : t.alike u = true) : t.Then = u.Then := by
  fun_induction alike t u with
  | case1 => rfl
  | case2 s s' =>
    funext k b x
    simp only [Then, CharSet.same_iff.mp h]
  | case3 a a' => rw [eq_of_beq h]
  | case4 i t i' t' ih =>
    obtain ⟨-, ht⟩ := Bool.and_eq_true_iff.mp h
    exact ih ht
  | case5 t u t' u' iht ihu =>
    obtain ⟨ht, hu⟩ := Bool.and_eq_true_iff.mp h
    funext k
    rw [Then, Then, iht ht, ihu hu]
  | case6 t u t' u' iht ihu =>
    obtain ⟨ht, hu⟩ := Bool.and_eq_true_iff.mp h
    funext k
    rw [Then, Then, iht ht, ihu hu]
  | case7 t least most greedy t' least' most' greedy' ih =>
    simp only [Bool.and_eq_true, beq_iff_eq] at h
    obtain ⟨⟨⟨rfl, rfl⟩, rfl⟩, ht⟩ := h
    funext k
    rw [Then, Then, ih ht]
  | case8 => cases h

/-- The second list has parts at its start that are read like those of the first. -/
def Begins : List Tree → List Tree → Prop
  | [], _ => True
  | t :: ts, u :: us => t.Then = u.Then ∧ Begins ts us
  | _ :: _, [] => False

theorem begins_refl : ∀ ts, Begins ts ts
  | [] => trivial
  | _ :: ts => ⟨rfl, begins_refl ts⟩

theorem begins_shared (ts us : List Tree) : Begins (shared ts us) us := by
  fun_induction shared ts us with
  | case1 t ts u us h ih => exact ⟨then_eq_of_alike h, ih⟩
  | case2 => trivial
  | case3 => trivial

theorem Begins.shared {ts us row : List Tree} (h : Begins ts row) :
    Begins (shared ts us) row := by
  fun_induction Tree.shared ts us generalizing row with
  | case1 t ts u us _ ih =>
    cases row with
    | nil => exact h
    | cons v row => exact ⟨h.1, ih h.2⟩
  | case2 => trivial
  | case3 => trivial

theorem begins_foldl_shared {rows : List (List Tree)} {start row : List Tree}
    (h : Begins start row ∨ row ∈ rows) : Begins (rows.foldl shared start) row := by
  induction rows generalizing start with
  | nil => exact h.resolve_right (List.not_mem_nil)
  | cons r rows ih =>
    refine ih ?_
    rcases h with h | h
    · exact .inl h.shared
    rcases List.mem_cons.mp h with rfl | h
    · exact .inl (begins_shared _ _)
    · exact .inr h

theorem begins_sharedByAll {rows : List (List Tree)} {row : List Tree} (h : row ∈ rows) :
    Begins (sharedByAll rows) row := by
  cases rows with
  | nil => cases h
  | cons r rows =>
    refine begins_foldl_shared ((List.mem_cons.mp h).imp_left ?_)
    rintro rfl
    exact begins_refl row

/-- The rest of a row is read after what is read like its start. -/
theorem thenAll_of_begins {start row : List Tree} (h : Begins start row) (k : Condition) :
    ThenAll start (ThenAll (row.drop start.length) k) = ThenAll row k := by
  induction start generalizing row with
  | nil => rfl
  | cons t ts ih =>
    cases row with
    | nil => cases h
    | cons u row =>
      obtain ⟨e, h⟩ := h
      rw [ThenAll, List.foldr_cons, e]
      exact congrArg _ (ih h)

theorem pointwise_thenAll (ts : List Tree) : Pointwise (ThenAll ts) := by
  induction ts with
  | nil => exact .id
  | cons t ts ih => exact (pointwise_then t).comp ih

/-- Alternatives read what some alternative reads, with a beginning of its own or a shared one. -/
theorem then_alternatives (h : ts ≠ []) :
    (alternatives ts).Then k b x ↔ ∃ t ∈ ts, t.Then k b x := by
  simp only [alternatives]
  generalize hrows : (ts.flatMap choices).map items = rows
  split
  · rename_i hshare
    have hne : rows ≠ [] := List.ne_nil_of_length_pos (by omega)
    generalize hstart : sharedByAll rows = start
    have hrow {row} (hr : row ∈ rows) :
        ThenAll start (ThenAll (row.drop start.length) k) = ThenAll row k :=
      thenAll_of_begins (hstart ▸ begins_sharedByAll hr) k
    have hrest : (choice (rows.map fun row => sequence (row.drop start.length))).Then k =
        fun b x => ∃ row ∈ rows, ThenAll (row.drop start.length) k b x := by
      funext b x
      rw [eq_iff_iff, then_choice (by simpa using hne)]
      simp [then_sequence]
    calc (sequence (start ++ [choice (rows.map fun row => sequence (row.drop start.length))])).Then
            k b x
        ↔ ThenAll start (fun b x => ∃ row ∈ rows, ThenAll (row.drop start.length) k b x) b x := by
          rw [then_sequence, thenAll_append, ← hrest]
          rfl
      _ ↔ ∃ row ∈ rows, ThenAll start (ThenAll (row.drop start.length) k) b x :=
          (pointwise_thenAll start).exists_and
      _ ↔ ∃ row ∈ rows, ThenAll row k b x := by
          exact exists_congr fun row => and_congr_right fun hr => by rw [hrow hr]
      _ ↔ ∃ t ∈ ts, t.Then k b x := by
          rw [← hrows, ← then_flatMap_choices]
          simp [thenAll_items]
  · exact then_choice h

/-! ## Repetitions -/

theorem stays_times {A : Condition} (h : Condition.Stays t.Then A) (least : Nat)
    (most : Option Nat) (greedy : Bool) :
    Condition.Stays (t.times least most greedy).Then fun b x => least = 0 ∨ A b x := by
  refine ⟨fun {k b x} => ?_⟩
  simp only [Then, Condition.sometimes, (h.times _).iff]
  constructor
  · rintro ⟨n, ⟨hleast, -⟩, hn, hk⟩
    exact ⟨hn.imp_left fun hn => by omega, hk⟩
  · rintro ⟨hn, hk⟩
    exact ⟨least, ⟨Nat.le_refl _, fun m _ => Nat.le_max_left _ _⟩, hn, hk⟩

/-- By induction on the tree. -/
theorem exists_stays (h : t.readsNothing = true) : ∃ P, Condition.Stays t.Then P := by
  induction t with
  | empty => exact ⟨fun _ _ => True, ⟨by simp [Then]⟩⟩
  | set s => cases h
  | assertion a => exact ⟨fun b x => a.holds b x.head? = true, ⟨.rfl⟩⟩
  | group i t ih => exact ih h
  | seq t u iht ihu =>
    obtain ⟨ht, hu⟩ := Bool.and_eq_true_iff.mp h
    obtain ⟨P, hP⟩ := iht ht
    obtain ⟨Q, hQ⟩ := ihu hu
    refine ⟨fun b x => P b x ∧ Q b x, ⟨fun {k b x} => ?_⟩⟩
    simp only [Then, hP.iff, hQ.iff, and_assoc]
  | alt t u iht ihu =>
    obtain ⟨ht, hu⟩ := Bool.and_eq_true_iff.mp h
    obtain ⟨P, hP⟩ := iht ht
    obtain ⟨Q, hQ⟩ := ihu hu
    refine ⟨fun b x => P b x ∨ Q b x, ⟨fun {k b x} => ?_⟩⟩
    simp only [Then, hP.iff, hQ.iff, or_and_right]
  | times t least most greedy ih =>
    obtain ⟨P, hP⟩ := ih h
    exact ⟨_, stays_times hP least most greedy⟩

/-- A repetition that may be made `n` times only. -/
theorem then_times_exactly (n : Nat) (greedy : Bool) :
    (t.times n (some n) greedy).Then k b x ↔ Condition.times t.Then n k b x := by
  constructor
  · rintro ⟨m, ⟨hleast, hmost⟩, h⟩
    obtain rfl : m = n := Nat.le_antisymm (by simpa using hmost n rfl) hleast
    exact h
  · exact fun h => ⟨n, ⟨Nat.le_refl _, fun _ _ => Nat.le_max_left _ _⟩, h⟩

/-- To repeat what reads nothing is to need it or not. -/
theorem then_times_of_readsNothing (h : t.readsNothing = true) {least least' : Nat}
    (hleast : least = 0 ↔ least' = 0) (most most' : Option Nat) (greedy : Bool) :
    (t.times least most greedy).Then k b x ↔ (t.times least' most' greedy).Then k b x := by
  obtain ⟨P, hP⟩ := exists_stays h
  rw [(stays_times hP _ _ _).iff, (stays_times hP _ _ _).iff, hleast]

/-- What is built for a repetition reads what the repetition says. -/
theorem then_repeated {least : Nat} {most : Option Nat} (h : ∀ m, most = some m → least ≤ m)
    (greedy : Bool) :
    (t.repeated least most greedy).Then k b x ↔ (t.times least most greedy).Then k b x := by
  have shortened {least : Nat} {most : Option Nat} (h : ∀ m, most = some m → least ≤ m) :
      (if most = some 0 then empty else if least = 1 ∧ most = some 1 then t
        else times t least most greedy).Then k b x ↔ (t.times least most greedy).Then k b x := by
    split
    · rename_i h0
      obtain rfl : least = 0 := Nat.le_zero.mp (h 0 h0)
      exact h0 ▸ (then_times_exactly 0 greedy).symm
    split
    · rename_i h1
      obtain ⟨rfl, rfl⟩ := h1
      exact (then_times_exactly 1 greedy).symm
    · exact .rfl
  simp only [repeated]
  split
  · rename_i ht
    have hone : ∀ m, some (min (most.getD 1) 1) = some m → min least 1 ≤ m := by
      rintro m ⟨⟩
      cases most with
      | none => exact Nat.min_le_right _ _
      | some m =>
        have := h m rfl
        simp only [Option.getD_some]
        omega
    rw [shortened hone]
    exact then_times_of_readsNothing ht (by omega) _ _ _
  · exact shortened h

end Tree

end OclScan
