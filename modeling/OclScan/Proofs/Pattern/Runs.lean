import OclScan.Proofs.Pattern.CharSet
import OclScan.Proofs.Pattern.Passage

/-!
# Words and runs

What plans of the common shapes read: a word (`Plan.Spells`), as many characters of a set as there
are (`Plan.first_run`), and any characters up to the first place where a word stands
(`Plan.first_upto`).
-/

namespace OclScan

theorem append_prefix_iff {u v t : List Char} :
    u ++ v <+: t ↔ u <+: t ∧ v <+: t.drop u.length := by
  induction u generalizing t with
  | nil => simp
  | cons c u ih =>
    cases t with
    | nil => simp
    | cons d t => simp [ih, and_assoc]

/-- The number of characters of the set at the start of a text. -/
def CharSet.run (s : CharSet) (t : List Char) : Nat := (t.takeWhile s.contains).length

/-- The number of characters of the set at the next place: one or none. -/
def CharSet.next (s : CharSet) (t : List Char) : Nat := s.run (t.take 1)

namespace CharSet

variable {s : CharSet} {c : Char} {t : List Char}

theorem run_of_mem (hc : s.contains c = true) (t : List Char) : s.run (c :: t) = s.run t + 1 := by
  rw [run, List.takeWhile_cons, if_pos hc, List.length_cons, run]

theorem run_of_not_mem (hc : s.contains c = false) (t : List Char) : s.run (c :: t) = 0 := by
  rw [run, List.takeWhile_cons, if_neg (by rw [hc]; exact Bool.false_ne_true), List.length_nil]

theorem run_le (s : CharSet) (t : List Char) : s.run t ≤ t.length :=
  (List.takeWhile_sublist _).length_le

/-- Each character of the run is in the set. -/
theorem contains_of_mem_run (h : c ∈ t.take (s.run t)) : s.contains c = true := by
  induction t with
  | nil => cases h
  | cons d t ih =>
    by_cases hd : s.contains d = true
    · rw [run_of_mem hd, List.take_succ_cons, List.mem_cons] at h
      exact h.elim (fun e => e ▸ hd) ih
    · rw [Bool.not_eq_true] at hd
      rw [run_of_not_mem hd] at h
      cases h

/-- A run goes on behind characters of the set. -/
theorem run_append {u : List Char} (h : ∀ c ∈ u, s.contains c = true) (v : List Char) :
    s.run (u ++ v) = u.length + s.run v := by
  rw [run, List.takeWhile_append_of_pos h, List.length_append, run]

/-- A text is split where its run ends. -/
theorem exists_run (s : CharSet) (t : List Char) : ∃ u v, t = u ++ v ∧ u.length = s.run t ∧
    (∀ c ∈ u, s.contains c = true) ∧ ∀ c ∈ v.head?, s.contains c = false := by
  refine ⟨t.takeWhile s.contains, t.dropWhile s.contains, List.takeWhile_append_dropWhile.symm, rfl,
    List.all_eq_true.mp List.all_takeWhile, fun c hc => ?_⟩
  have hnot := List.head?_dropWhile_not s.contains t
  rw [Option.mem_def.mp hc] at hnot
  simpa using hnot

theorem run_eq_length (h : ∀ c ∈ t, s.contains c = true) : s.run t = t.length := by
  induction t with
  | nil => rfl
  | cons c t ih =>
    rw [run_of_mem (h c List.mem_cons_self), ih fun d hd => h d (List.mem_cons_of_mem c hd)]
    rfl

theorem next_of_mem (hc : s.contains c = true) (t : List Char) : s.next (c :: t) = 1 := by
  rw [next, List.take_succ_cons, List.take_zero, run_of_mem hc]
  rfl

theorem next_of_not_mem (hc : s.contains c = false) (t : List Char) : s.next (c :: t) = 0 :=
  run_of_not_mem hc _

theorem next_le (s : CharSet) (t : List Char) : s.next t ≤ t.length :=
  Nat.le_trans (s.run_le _) (List.length_take_le' 1 t)

end CharSet

/-- The number of characters before the first place of a text at which the word stands. -/
def findWord? (word : List Char) : List Char → Option Nat
  | [] => if word = [] then some 0 else none
  | c :: t => if word <+: c :: t then some 0 else (findWord? word t).map (· + 1)

theorem findWord?_eq_some {word t : List Char} {j : Nat} (h : findWord? word t = some j) :
    word <+: t.drop j ∧ ∀ i < j, ¬ word <+: t.drop i := by
  induction t generalizing j with
  | nil =>
    rw [findWord?] at h
    split at h
    · rename_i hw
      cases h
      exact ⟨hw ▸ List.nil_prefix, fun i hi => by omega⟩
    · cases h
  | cons c t ih =>
    rw [findWord?] at h
    split at h
    · rename_i hw
      cases h
      exact ⟨hw, fun i hi => by omega⟩
    · rename_i hw
      obtain ⟨j, hj, rfl⟩ := Option.map_eq_some_iff.mp h
      refine ⟨(ih hj).1, fun i hi => ?_⟩
      cases i with
      | zero => exact hw
      | succ i => exact (ih hj).2 i (by omega)

theorem findWord?_isSome_iff {word t : List Char} : (findWord? word t).isSome ↔ word <:+: t := by
  induction t with
  | nil =>
    rw [findWord?, List.infix_nil]
    split <;> simp_all
  | cons c t ih =>
    rw [findWord?, List.infix_cons_iff]
    split <;> simp_all

/-- `body` is the text `t` up to the first place where the word stands, and `after` the text after
the word. -/
structure UpTo (word t body after : List Char) : Prop where
  eq : t = body ++ word ++ after
  first : ∀ i < body.length, ¬ word <+: t.drop i

theorem upTo_of_findWord? {word t : List Char} {j : Nat} (h : findWord? word t = some j) :
    UpTo word t (t.take j) (t.drop (j + word.length)) := by
  obtain ⟨⟨v, hv⟩, hfirst⟩ := findWord?_eq_some h
  refine ⟨?_, fun i hi => hfirst i (Nat.lt_of_lt_of_le hi (List.length_take_le j t))⟩
  rw [← List.drop_drop, ← hv, List.drop_left, List.append_assoc, hv, List.take_append_drop]

theorem exists_upTo {word t : List Char} (h : word <:+: t) :
    ∃ body after, UpTo word t body after := by
  obtain ⟨j, hj⟩ := Option.isSome_iff_exists.mp (findWord?_isSome_iff.mpr h)
  exact ⟨_, _, upTo_of_findWord? hj⟩

/-- There is only one first place. -/
theorem UpTo.findWord?_eq {word t body after : List Char} (h : UpTo word t body after) :
    findWord? word t = some body.length := by
  have hinfix : word <:+: t := ⟨body, after, h.eq.symm⟩
  obtain ⟨j, hj⟩ := Option.isSome_iff_exists.mp (findWord?_isSome_iff.mpr hinfix)
  obtain ⟨hword, hfirst⟩ := findWord?_eq_some hj
  have hbody : word <+: t.drop body.length := by
    rw [h.eq, List.append_assoc, List.drop_left]
    exact List.prefix_append word after
  rcases Nat.lt_trichotomy j body.length with hlt | rfl | hlt
  · exact absurd hword (h.first j hlt)
  · exact hj
  · exact absurd hbody (hfirst _ hlt)

/-- `w` is the longest of the words that stand at the start of the text. -/
structure Longest (IsWord : List Char → Prop) (w t : List Char) : Prop where
  isWord : IsWord w
  start : w <+: t
  longest : ∀ u, IsWord u → u <+: t → u.length ≤ w.length

namespace Plan

variable {k : Goal} {σ : Slots} {p q : Plan} {u v : List Char}

theorem first_set_of_mem {s : CharSet} {c : Char} (hc : s.contains c = true) (n : Nat) (k : Goal)
    (σ : Slots) (b : Option Char) (i : Nat) (t : List Char) :
    (set n s).first k σ ⟨b, i, c :: t⟩ = k σ ⟨some c, i + 1, t⟩ := by
  simp only [first, hc, if_true]

/-- The plan reads the word `w`, and nothing else. -/
def Spells (p : Plan) (w : List Char) : Prop :=
  ∀ k σ x, p.first k σ x = if w <+: x.rest then k σ (x.skip w.length) else none

theorem Spells.char (n : Nat) (c : Char) : (set n (.char c)).Spells [c] := by
  rintro k σ ⟨b, i, _ | ⟨d, t⟩⟩
  · rfl
  · simp only [first, CharSet.contains_char, decide_eq_true_eq, List.cons_prefix_cons,
      List.nil_prefix, and_true, @eq_comm _ d c]
    split
    · rename_i hc
      rw [hc]
      rfl
    · rfl

theorem Spells.seq (hp : p.Spells u) (hq : q.Spells v) : (seq p q).Spells (u ++ v) := by
  intro k σ x
  rw [first, hp, hq, Place.rest_skip, List.length_append]
  by_cases hu : u <+: x.rest
  · rw [if_pos hu, Place.skip_add hu.length_le]
    by_cases hv : v <+: x.rest.drop u.length
    · rw [if_pos hv, if_pos (append_prefix_iff.mpr ⟨hu, hv⟩)]
    · rw [if_neg hv, if_neg fun h => hv (append_prefix_iff.mp h).2]
  · rw [if_neg hu, if_neg fun h => hu (append_prefix_iff.mp h).1]

/-- A greedy loop over a set reads the whole run, if leaving it earlier cannot do better. -/
theorem first_run (n j : Nat) (s : CharSet) (k : Goal) (σ : Slots) : ∀ x : Place,
    (∀ i < s.run x.rest, k σ (x.skip (s.run x.rest)) = none → k σ (x.skip i) = none) →
    (loop n true (set j s)).first k σ x = k σ (x.skip (s.run x.rest)) := by
  rintro ⟨b, i, t⟩ h
  induction t generalizing b i with
  | nil => rw [first_loop rfl]; rfl
  | cons c t ih =>
    rw [first_loop rfl, if_pos rfl]
    by_cases hc : s.contains c = true
    · simp only [CharSet.run_of_mem hc, Place.skip_cons] at h ⊢
      have step : (set j s).first ((loop n true (set j s)).first k) σ ⟨b, i, c :: t⟩ =
          k σ ((Place.mk (some c) (i + 1) t).skip (s.run t)) := by
        rw [first_set_of_mem hc]
        exact ih (some c) (i + 1) fun m hm => h (m + 1) (Nat.succ_lt_succ hm)
      rw [step]
      cases e : k σ ((Place.mk (some c) (i + 1) t).skip (s.run t)) with
      | none => exact h 0 (by omega) e
      | some m => rfl
    · simp only [first, hc, if_false, Option.none_or, Bool.false_eq_true]
      rw [Bool.not_eq_true] at hc
      rw [CharSet.run_of_not_mem hc]
      rfl

/-- A loop over all characters that prefers to be left ends where the word that follows it stands
for the first time. -/
theorem first_upto (n j : Nat) {k : Goal} {σ : Slots} {word : List Char} (hw : word ≠ [])
    {f : Place → Match} (hk : ∀ y, k σ y = if word <+: y.rest then some (f y) else none)
    (x : Place) : (loop n false (set j .all)).first k σ x =
      (findWord? word x.rest).map fun i => f (x.skip i) := by
  obtain ⟨b, i, t⟩ := x
  induction t generalizing b i with
  | nil =>
    rw [first_loop rfl, hk]
    simp only [List.prefix_nil, findWord?, hw, if_false]
    rfl
  | cons c t ih =>
    rw [first_loop rfl, hk]
    by_cases h : word <+: c :: t
    · simp only [h, findWord?, if_true]
      rfl
    · simp only [h, findWord?, if_false, Bool.false_eq_true, Option.none_or, first,
        CharSet.contains_all, if_true, Option.map_map]
      exact ih (some c) (i + 1)

end Plan

end OclScan
