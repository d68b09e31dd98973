import OclScan.Proofs.Pattern.PreferredMatch

/-!
# Where a match goes on

What follows a plan goes on at the same place or further on (`Plan.first_passes`), and a plan that
reads cannot match a text whose first character it cannot start with
(`Plan.matchAt?_of_not_starts`).
-/

namespace OclScan

namespace Place

/-- The place `n` characters on, or the end of the text. -/
def skip : Nat → Place → Place
  | 0, x => x
  | n + 1, x =>
    match x.rest with
    | [] => x
    | c :: t => skip n ⟨some c, x.index + 1, t⟩

variable {x : Place} {m n : Nat}

@[simp] theorem skip_zero (x : Place) : x.skip 0 = x := rfl

theorem skip_cons (b : Option Char) (i : Nat) (c : Char) (t : List Char) (n : Nat) :
    (Place.mk b i (c :: t)).skip (n + 1) = (Place.mk (some c) (i + 1) t).skip n := rfl

/-- By induction on the number of characters, as all that follows. -/
theorem skip_add (h : m ≤ x.rest.length) (n : Nat) : x.skip (m + n) = (x.skip m).skip n := by
  induction m generalizing x with
  | zero => rw [Nat.zero_add, skip_zero]
  | succ m ih =>
    obtain ⟨b, i, _ | ⟨c, t⟩⟩ := x
    · exact absurd h (Nat.not_succ_le_zero m)
    · rw [Nat.add_right_comm, skip_cons, skip_cons]
      exact ih (Nat.le_of_succ_le_succ h)

@[simp] theorem rest_skip (x : Place) (n : Nat) : (x.skip n).rest = x.rest.drop n := by
  induction n generalizing x with
  | zero => rfl
  | succ n ih =>
    obtain ⟨b, i, _ | ⟨c, t⟩⟩ := x
    · rfl
    · rw [skip_cons, ih, List.drop_succ_cons]

theorem index_skip (h : n ≤ x.rest.length) : (x.skip n).index = x.index + n := by
  induction n generalizing x with
  | zero => rfl
  | succ n ih =>
    obtain ⟨b, i, _ | ⟨c, t⟩⟩ := x
    · exact absurd h (Nat.not_succ_le_zero n)
    · rw [skip_cons, ih (Nat.le_of_succ_le_succ h), Nat.add_right_comm]
      rfl

end Place

namespace Plan

variable {k k' : Goal} {σ : Slots} {x : Place} {m : Match}

/-- The match `m` is what `k` ends in from a place that comes after `x`, or from `x`. -/
def Passes (k : Goal) (x : Place) (m : Match) : Prop :=
  ∃ σ n, n ≤ x.rest.length ∧ k σ (x.skip n) = some m

theorem Passes.here (h : k σ x = some m) : Passes k x m := ⟨σ, 0, Nat.zero_le _, h⟩

theorem Passes.trans (h : Passes k x m) (hk : ∀ σ y, k σ y = some m → Passes k' y m) :
    Passes k' x m := by
  obtain ⟨σ, n, hn, h⟩ := h
  obtain ⟨σ', n', hn', h'⟩ := hk σ _ h
  rw [Place.rest_skip, List.length_drop] at hn'
  exact ⟨σ', n + n', by omega, by rw [Place.skip_add hn]; exact h'⟩

/-- The rounds of a loop lead on if its body does. -/
theorem rounds_passes {p : Plan} (greedy : Bool)
    (hp : ∀ {k : Goal} {σ x}, p.first k σ x = some m → Passes k x m) :
    ∀ n σ x, rounds p.first greedy k n σ x = some m → Passes k x m := by
  intro n
  induction n with
  | zero => exact fun σ x h => .here h
  | succ n ih =>
    intro σ x h
    have again (h : p.first (fun σ y =>
        if y.rest.length < x.rest.length then rounds p.first greedy k n σ y else none) σ x =
        some m) : Passes k x m := by
      refine (hp h).trans fun σ y hy => ih σ y ?_
      split at hy
      · exact hy
      · cases hy
    rw [rounds] at h
    cases greedy with
    | true => exact (Option.or_eq_some_iff.mp h).elim again fun h => .here h.2
    | false => exact (Option.or_eq_some_iff.mp h).elim .here fun h => again h.2

/-- What a plan and `k` end in is what `k` ends in at the same place or further on. -/
theorem first_passes (p : Plan) : ∀ {k : Goal} {σ : Slots} {x : Place},
    p.first k σ x = some m → Passes k x m := by
  induction p with
  | empty => exact .here
  | set n s =>
    intro k σ x h
    obtain ⟨b, i, _ | ⟨c, t⟩⟩ := x
    · cases h
    · simp only [first] at h
      split at h
      · exact ⟨σ, 1, Nat.succ_le_succ (Nat.zero_le _), h⟩
      · cases h
  | assertion a =>
    intro k σ x h
    rw [first] at h
    split at h
    · exact .here h
    · cases h
  | slot j => exact fun h => ⟨_, 0, Nat.zero_le _, h⟩
  | seq p q ihp ihq => exact fun h => (ihp h).trans fun σ y h => ihq h
  | alt n p q ihp ihq =>
    intro k σ x h
    rcases Option.or_eq_some_iff.mp h with h | ⟨-, h⟩
    · exact ihp h
    · exact ihq h
  | loop n greedy p ih => exact rounds_passes greedy ih _ _ _

/-! ## The first character -/

/-- The sets in which the first character that is read can be. -/
def heads : Plan → List CharSet
  | empty => []
  | set _ s => [s]
  | assertion _ => []
  | slot _ => []
  | seq p q => p.heads ++ if p.Reads then [] else q.heads
  | alt _ p q => p.heads ++ q.heads
  | loop _ _ p => p.heads

/-- Whether a way to read the plan can start with the character. -/
def starts (c : Char) (p : Plan) : Bool := p.heads.any (·.contains c)

theorem starts_set (n : Nat) (s : CharSet) (c : Char) : (set n s).starts c = s.contains c := by
  simp [starts, heads]

theorem starts_seq (p q : Plan) (c : Char) :
    (seq p q).starts c = (p.starts c || (!p.Reads && q.starts c)) := by
  cases h : p.Reads <;> simp [starts, heads, h]

theorem starts_alt (n : Nat) (p q : Plan) (c : Char) :
    (alt n p q).starts c = (p.starts c || q.starts c) := by
  simp [starts, heads]

/-- A plan that cannot start with the next character reads nothing. -/
theorem first_congr_of_not_starts {c : Char} {t : List Char} (hx : x.rest = c :: t) (p : Plan) :
    ∀ {k k' : Goal} {σ : Slots}, p.starts c = false →
    (p.Reads = false → ∀ σ, k σ x = k' σ x) → p.first k σ x = p.first k' σ x := by
  induction p with
  | empty => exact fun _ h => h rfl _
  | set n s =>
    intro k k' σ hc _
    rw [starts_set] at hc
    simp only [first, hx, hc, Bool.false_eq_true, if_false]
  | assertion a =>
    intro k k' σ _ h
    rw [first, first, h rfl]
  | slot j => exact fun _ h => h rfl _
  | seq p q ihp ihq =>
    intro k k' σ hc h
    rw [starts_seq, Bool.or_eq_false_iff] at hc
    refine ihp hc.1 fun hp σ => ihq ?_ fun hq => h (Bool.or_eq_false_iff.mpr ⟨hp, hq⟩)
    rw [hp, Bool.not_false, Bool.true_and] at hc
    exact hc.2
  | alt n p q ihp ihq =>
    intro k k' σ hc h
    rw [starts_alt, Bool.or_eq_false_iff] at hc
    have hp : p.first k σ x = p.first k' σ x :=
      ihp hc.1 fun hp => h (Bool.and_eq_false_imp.mpr fun hr => absurd hr (by simp [hp]))
    have hq : q.first k σ x = q.first k' σ x := ihq hc.2 fun hq => h (by simp [Reads, hq])
    rw [first, first, hp, hq]
  | loop n greedy p ih =>
    intro k k' σ hc h
    -- A round would have to go on from where it starts, and so is not made.
    have stuck (k₁ k₂ : Goal) :
        p.first (fun σ y => if y.rest.length < x.rest.length then
            rounds p.first greedy k₁ t.length σ y else none) σ x =
          p.first (fun σ y => if y.rest.length < x.rest.length then
            rounds p.first greedy k₂ t.length σ y else none) σ x :=
      ih hc fun _ σ => by rw [if_neg (by omega), if_neg (by omega)]
    simp only [first, show x.rest.length = t.length + 1 by rw [hx]; rfl, rounds] at stuck ⊢
    rw [stuck k k', h rfl σ]

/-- What reads does not lead on where it cannot start. -/
theorem first_of_not_starts {p : Plan} (hr : p.Reads = true) {c : Char} {t : List Char}
    (hx : x.rest = c :: t) (hc : p.starts c = false) : p.first k σ x = none := by
  rw [@first_congr_of_not_starts x c t hx p k (fun _ _ => none) σ hc
    (fun h => absurd hr (by simp [h])), first_none]

/-- A loop is left where its body cannot start. -/
theorem first_loop_of_not_starts {p : Plan} (hr : p.Reads = true) {c : Char} {t : List Char}
    (hx : x.rest = c :: t) (hc : p.starts c = false) (n : Nat) (greedy : Bool) :
    (loop n greedy p).first k σ x = k σ x := by
  rw [first_loop hr, first_of_not_starts hr hx hc, Option.none_or, Option.or_none, ite_self]

theorem matchAt?_of_not_starts {p : Plan} (hp : p.Steady = true) (hr : p.Reads = true) {c : Char}
    (hc : p.starts c = false) (slots : Nat) (b : Option Char) (t : List Char) :
    p.matchAt? slots b (c :: t) = none := by
  rw [matchAt?_eq_first hp, first_of_not_starts hr rfl hc]

end Plan

end OclScan
