/-!
# Conditions on places

A condition says something of a place of the text. Reading is described backwards: what reads from
one place to another makes of each condition on the place where it ends a condition on the place
where it starts. Parts read one after the other are then composed, and a part is repeated by
repeated composition (`Condition.times`).
-/

namespace OclScan

/-- A condition on a place of the text: on the character before it and the text after it. -/
abbrev Condition := Option Char → List Char → Prop

namespace Condition

/-- What `T` makes of a condition, `n` times. -/
def times (T : Condition → Condition) : Nat → Condition → Condition
  | 0, k => k
  | n + 1, k => T (times T n k)

/-- What `T` makes of a condition, a number of times that `P` allows. -/
def sometimes (T : Condition → Condition) (P : Nat → Prop) (k : Condition) : Condition :=
  fun b x => ∃ n, P n ∧ times T n k b x

/-- `T` goes by places: what it makes of a condition it makes of one of the places where the
condition holds. -/
structure Pointwise (T : Condition → Condition) : Prop where
  mono : ∀ {k k' : Condition}, (∀ b x, k b x → k' b x) → ∀ {b x}, T k b x → T k' b x
  split : ∀ {α : Type} {K : α → Condition} {b x}, T (fun b x => ∃ i, K i b x) b x →
    ∃ i, T (K i) b x

/-- `T` reads nothing: what it makes of a condition is that `P` holds at the same place. -/
structure Stays (T : Condition → Condition) (P : Condition) : Prop where
  iff : ∀ {k b x}, T k b x ↔ P b x ∧ k b x

variable {T U : Condition → Condition} {P Q : Nat → Prop} {k : Condition} {b : Option Char}
  {x : List Char}

theorem Pointwise.id : Pointwise fun k => k := ⟨fun h => h _ _, fun h => h⟩

theorem Pointwise.comp (hT : Pointwise T) (hU : Pointwise U) : Pointwise fun k => T (U k) :=
  ⟨fun hk => hT.mono fun _ _ => hU.mono hk, fun hK => hT.split (hT.mono (fun _ _ => hU.split) hK)⟩

theorem Pointwise.or (hT : Pointwise T) (hU : Pointwise U) :
    Pointwise fun k b x => T k b x ∨ U k b x := by
  refine ⟨fun hk => Or.imp (hT.mono hk) (hU.mono hk), ?_⟩
  rintro α K b x (h | h)
  · exact (hT.split h).imp fun _ => .inl
  · exact (hU.split h).imp fun _ => .inr

theorem Pointwise.times (h : Pointwise T) (n : Nat) : Pointwise (times T n) := by
  induction n with
  | zero => exact .id
  | succ n ih => exact h.comp ih

theorem Pointwise.sometimes (h : Pointwise T) (P : Nat → Prop) : Pointwise (sometimes T P) := by
  refine ⟨fun hk => ?_, ?_⟩
  · rintro b x ⟨n, hn, ht⟩
    exact ⟨n, hn, (h.times n).mono hk ht⟩
  · rintro α K b x ⟨n, hn, ht⟩
    exact ((h.times n).split ht).imp fun i hi => ⟨n, hn, hi⟩

theorem Pointwise.exists_and (h : Pointwise T) {α : Type} {A : α → Prop} {K : α → Condition} :
    T (fun b x => ∃ i, A i ∧ K i b x) b x ↔ ∃ i, A i ∧ T (K i) b x := by
  constructor
  · intro hK
    obtain ⟨⟨i, hi⟩, h⟩ := h.split (K := fun i : {i // A i} => K i)
      (h.mono (fun b x ⟨i, hi, h⟩ => ⟨⟨i, hi⟩, h⟩) hK)
    exact ⟨i, hi, h⟩
  · rintro ⟨i, hi, hK⟩
    exact h.mono (fun b x h => ⟨i, hi, h⟩) hK

theorem times_add (m n : Nat) (k : Condition) : times T (m + n) k = times T m (times T n k) := by
  induction m with
  | zero => rw [Nat.zero_add, times]
  | succ m ih => rw [Nat.succ_add, times, ih, times]

/-- A number of times after `m` times is a number of times. -/
theorem times_sometimes (h : Pointwise T) (m : Nat) :
    times T m (sometimes T P k) b x ↔ sometimes T (fun n => m ≤ n ∧ P (n - m)) k b x := by
  refine (h.times m).exists_and.trans ?_
  simp only [← times_add]
  constructor
  · rintro ⟨i, hi, ht⟩
    exact ⟨m + i, ⟨Nat.le_add_right m i, by simpa using hi⟩, ht⟩
  · rintro ⟨n, ⟨hm, hn⟩, ht⟩
    exact ⟨n - m, hn, by rwa [Nat.add_sub_of_le hm]⟩

/-- None of the times, or the first and then further ones. -/
theorem sometimes_iff (h : Pointwise T) : sometimes T P k b x ↔
    P 0 ∧ k b x ∨ T (sometimes T (fun n => P (n + 1)) k) b x := by
  constructor
  · rintro ⟨_ | n, hn, ht⟩
    · exact .inl ⟨hn, ht⟩
    · exact .inr (h.exists_and.mpr ⟨n, hn, ht⟩)
  · rintro (⟨hn, hk⟩ | ht)
    · exact ⟨0, hn, hk⟩
    · obtain ⟨n, hn, ht⟩ := h.exists_and.mp ht
      exact ⟨n + 1, hn, ht⟩

theorem sometimes_congr (h : ∀ n, P n ↔ Q n) : sometimes T P k b x ↔ sometimes T Q k b x :=
  exists_congr fun n => and_congr_left fun _ => h n

theorem Stays.times {A : Condition} (h : Stays T A) (n : Nat) :
    Stays (times T n) fun b x => n = 0 ∨ A b x := by
  refine ⟨fun {k b x} => ?_⟩
  induction n with
  | zero => simp [Condition.times]
  | succ n ih =>
    rw [Condition.times, h.iff, ih]
    simp +contextual

end Condition

end OclScan
