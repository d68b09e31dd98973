import OclScan.Proofs.Pattern.Preference

/-!
# Matching finds the preferred way

A steady plan matches what trying one choice after the other finds (`Plan.matchAt?_eq_first`).

A front stands for the ways that it holds, tried in order (`Front.outcome`), and following a
remainder adds what the remainder ends in, after all others (`followAll_tries`). A remainder that
has been seen is left out. It leads nowhere, or a preferred way ends in a match, or it is being
followed; and then it is not met again, since rounds read (`Front.Tried`, by `Plan.effort`).
-/

namespace OclScan

open Plan

/-- What the way that waits at index `i` before the text ends in. -/
def Thread.outcome (th : Thread) (i : Nat) : List Char → Option Match
  | [] => none
  | c :: t =>
    if th.set.contains c then firstAll th.start th.rest th.slots ⟨some c, i + 1, t⟩ else none

/-- Whether what remains is steady. -/
def SteadyAll (r : List Plan) : Prop := ∀ p ∈ r, p.Steady = true

/-- How much there is to choose in a plan. -/
def Plan.effort : Plan → Nat
  | empty => 0
  | set _ _ => 1
  | assertion _ => 0
  | slot _ => 0
  | seq p q => p.effort + q.effort
  | alt _ p q => p.effort + q.effort + 1
  | loop _ _ p => p.effort + 1

/-- How much there is to choose before the next character is read. -/
def effortAll : List Plan → Nat
  | [] => 0
  | p :: ps => p.effort + if p.Reads then 0 else effortAll ps

theorem effortAll_seq_le (p q : Plan) (r : List Plan) :
    effortAll (p :: q :: r) ≤ effortAll (.seq p q :: r) := by
  by_cases hp : p.Reads = true <;> by_cases hq : q.Reads = true <;>
  simp [effortAll, effort, Reads, hp, hq, Nat.add_assoc]

theorem effortAll_alt_lt (n : Nat) (p q : Plan) (r : List Plan) :
    effortAll (p :: r) < effortAll (.alt n p q :: r) ∧
      effortAll (q :: r) < effortAll (.alt n p q :: r) := by
  by_cases hp : p.Reads = true <;> by_cases hq : q.Reads = true <;>
  simp only [effortAll, effort, Reads, hp, hq, Bool.and_self, Bool.and_true, Bool.true_and,
    Bool.false_eq_true, if_true, if_false] <;>
  omega

namespace Front

/-- What the ways that the front holds end in. -/
def outcome (f : Front) (x : Place) : Option Match :=
  (f.threads.reverse.findSome? fun th => th.outcome x.index x.rest).or f.done

/-- All that has been seen leads nowhere or is no better than what the front holds, or there is
more to choose in it than `effort`. -/
def Tried (x : Place) (effort : Nat) (f : Front) : Prop :=
  ∀ r ∈ f.seen, (f.outcome x).isSome ∨ (∀ start σ, firstAll start r σ x = none) ∨
    effort < effortAll r

/-- `go` adds the match `m`, if any, after those that a front holds, where nothing is being followed
in which there is as little as `n` to choose. -/
structure Tries (x : Place) (n : Nat) (m : Option Match) (go : Front → Front) : Prop where
  outcome : ∀ e f, n ≤ e → f.Tried x e → (go f).outcome x = (f.outcome x).or m
  seen : ∀ e f, n ≤ e → f.Tried x e → ∀ s ∈ (go f).seen, s ∈ f.seen ∨
    ((go f).outcome x).isSome ∨ ∀ start σ, firstAll start s σ x = none
  steady : ∀ f : Front, (∀ th ∈ f.threads, SteadyAll th.rest) →
    ∀ th ∈ (go f).threads, SteadyAll th.rest

variable {x : Place} {r : List Plan} {m m' : Option Match} {go go' : Front → Front} {e n n' : Nat}
  {f : Front} {start : Nat}

theorem Tried.mono (h : f.Tried x e) (he : n ≤ e) : f.Tried x n := fun s hs =>
  (h s hs).imp_right fun h => h.imp_right fun h => Nat.lt_of_le_of_lt he h

theorem Tries.tried (h : Tries x n m go) (he : n ≤ e) (hf : f.Tried x e) : (go f).Tried x e := by
  intro s hs
  rcases h.seen e f he hf s hs with hs | h' | h'
  · rcases hf s hs with h' | h'
    · rw [h.outcome e f he hf, Option.isSome_or, h']
      exact .inl rfl
    · exact .inr h'
  · exact .inl h'
  · exact .inr (.inl h')

theorem Tries.of_le (h : Tries x n m go) (hn : n ≤ n') : Tries x n' m go :=
  ⟨fun e f he => h.outcome e f (by omega), fun e f he => h.seen e f (by omega),
    h.steady⟩

theorem Tries.comp (h : Tries x n m go) (h' : Tries x n m' go') :
    Tries x n (m.or m') fun f => go' (go f) := by
  refine ⟨fun e f he hf => ?_, fun e f he hf s hs => ?_, fun f hf => h'.steady _ (h.steady f hf)⟩
  · rw [h'.outcome e _ he (h.tried he hf), h.outcome e f he hf, Option.or_assoc]
  · rcases h'.seen e _ he (h.tried he hf) s hs with hs | hs
    · refine (h.seen e f he hf s hs).imp_right fun hs => hs.imp_left fun hs => ?_
      rw [h'.outcome e _ he (h.tried he hf), Option.isSome_or, hs, Bool.true_or]
    · exact .inr hs

/-- A visit of `r` adds what `r` ends in if what it goes on with does, where `r` counts among what
has been seen. -/
theorem Tries.visit {σ : Slots} (hpos : 0 < effortAll r)
    (ho : ∀ f : Front, f.done = none → f.Tried x (effortAll r - 1) →
      (go f).outcome x = (f.outcome x).or (firstAll start r σ x))
    (hs : ∀ f : Front, f.Tried x (effortAll r - 1) → ∀ s ∈ (go f).seen, s ∈ f.seen ∨
      ((go f).outcome x).isSome ∨ ∀ start σ, firstAll start s σ x = none)
    (hsteady : ∀ f : Front, (∀ th ∈ f.threads, SteadyAll th.rest) →
      ∀ th ∈ (go f).threads, SteadyAll th.rest) :
    Tries x (effortAll r) (firstAll start r σ x) fun f => f.visit r go := by
  have see : ∀ e (f : Front), effortAll r ≤ e → f.Tried x e →
      ({ f with seen := r :: f.seen } : Front).Tried x (effortAll r - 1) := by
    intro e f hr hf s hs
    rcases List.mem_cons.mp hs with rfl | hs
    · exact .inr (.inr (by omega))
    · exact hf.mono (by omega) s hs
  refine ⟨fun e f hr hf => ?_, fun e f hr hf s hsv => ?_, fun f hf => ?_⟩
  · simp only [Front.visit]
    split
    · rename_i hb
      rcases Bool.or_eq_true_iff.mp hb with hd | hs
      · have hsome : (f.outcome x).isSome := by
          rw [Front.outcome, Option.isSome_or, hd, Bool.or_true]
        rw [Option.or_of_isSome hsome]
      · rcases hf r (List.contains_iff_mem.mp hs) with hsome | hdead | hlt
        · rw [Option.or_of_isSome hsome]
        · rw [hdead, Option.or_none]
        · omega
    · rename_i hb
      simp only [Bool.or_eq_true, not_or, Option.not_isSome_iff_eq_none] at hb
      exact ho { f with seen := r :: f.seen } hb.1 (see e f hr hf)
  · simp only [Front.visit] at hsv ⊢
    split at hsv
    · exact .inl hsv
    rename_i hb
    rw [if_neg hb]
    simp only [Bool.or_eq_true, not_or, Option.not_isSome_iff_eq_none] at hb
    have ho := ho { f with seen := r :: f.seen } hb.1 (see e f hr hf)
    rcases hs _ (see e f hr hf) s hsv with hsv | hsv
    · rcases List.mem_cons.mp hsv with rfl | hsv
      · cases hm : firstAll start s σ x with
        | none => exact .inr (.inr (firstAll_eq_none_congr hm))
        | some m => exact .inr (.inl (by rw [ho, hm, Option.isSome_or, Option.isSome_some,
            Bool.or_true]))
      · exact .inl hsv
    · exact .inr hsv
  · simp only [Front.visit]
    split
    · exact hf
    · exact hsteady _ hf

/-- A visit that goes on with less to choose. -/
theorem Tries.visit_of_lt {σ : Slots} (h : Tries x n (firstAll start r σ x) go)
    (hn : n < effortAll r) :
    Tries x (effortAll r) (firstAll start r σ x) fun f => f.visit r go :=
  .visit (by omega) (fun f _ hf => h.outcome _ f (by omega) hf)
    (fun f hf => h.seen _ f (by omega) hf) h.steady

end Front

open Front

variable {b : Option Char} {t : List Char} {start i : Nat}

/-- By induction on the plan. What comes after it matters only if it may read nothing. -/
theorem Plan.follow_tries (p : Plan) (hp : p.Steady = true) :
    ∀ {r : List Plan} {next : Slots → Front → Front}, SteadyAll r →
    (p.Reads = false → ∀ σ, Tries ⟨b, i, t⟩ (effortAll r) (firstAll start r σ ⟨b, i, t⟩) (next σ)) →
    ∀ σ, Tries ⟨b, i, t⟩ (effortAll (p :: r)) (firstAll start (p :: r) σ ⟨b, i, t⟩)
      (p.follow start ⟨b, t.head?, i⟩ r next σ) := by
  induction p with
  | empty => exact fun _ h σ => (h rfl σ).of_le (by simp [effortAll, effort, Reads])
  | set n s =>
    intro r next hr _ σ
    refine Tries.visit (by simp [effortAll, effort, Reads]) (fun f hd _ => ?_)
      (fun f _ s hs => .inl hs) fun f hf th hth => ?_
    · have e : (Thread.mk start s r σ).outcome i t =
          firstAll start (.set n s :: r) σ ⟨b, i, t⟩ := by
        cases t <;> rfl
      simp only [outcome, wait, hd, Option.or_none, List.reverse_cons, List.findSome?_append,
        List.findSome?_singleton, e]
    · rcases List.mem_cons.mp hth with rfl | hth
      · exact hr
      · exact hf th hth
  | assertion a =>
    intro r next _ h σ
    simp only [follow, firstAll, first]
    split
    · exact (h rfl σ).of_le (by simp [effortAll, effort, Reads])
    · exact ⟨fun _ f _ _ => Option.or_none.symm, fun _ _ _ _ s hs => .inl hs, fun _ hf => hf⟩
  | slot j => exact fun _ h σ => (h rfl _).of_le (by simp [effortAll, effort, Reads])
  | seq p q ihp ihq =>
    intro r next hr h σ
    obtain ⟨hp, hq⟩ := Bool.and_eq_true_iff.mp hp
    have hrq : SteadyAll (q :: r) := List.forall_mem_cons.mpr ⟨hq, hr⟩
    have hpq := ihp hp hrq (fun hpr => ihq hq hr fun hqr => h (by rw [Reads, hpr, hqr]; rfl)) σ
    exact hpq.of_le (effortAll_seq_le p q r)
  | alt n p q ihp ihq =>
    intro r next hr h σ
    obtain ⟨hp, hq⟩ := Bool.and_eq_true_iff.mp hp
    have h₁ := ihp hp hr (fun hpr => h (by rw [Reads, hpr]; rfl)) σ
    have h₂ := ihq hq hr (fun hqr => h (by rw [Reads, hqr, Bool.and_false])) σ
    have hn := effortAll_alt_lt n p q r
    exact Tries.visit_of_lt (n := effortAll (.alt n p q :: r) - 1)
      ((h₁.of_le (by omega)).comp (h₂.of_le (by omega))) (by omega)
  | loop n greedy p ih =>
    intro r next hr h σ
    obtain ⟨hread, hp'⟩ := Bool.and_eq_true_iff.mp hp
    have hrl : SteadyAll (.loop n greedy p :: r) := List.forall_mem_cons.mpr ⟨hp, hr⟩
    have h₁ := @ih hp' (.loop n greedy p :: r) (fun _ f => f) hrl
      (fun hpr => absurd hread (by rw [hpr]; exact Bool.false_ne_true)) σ
    have h₂ := h rfl σ
    have hn : effortAll (p :: .loop n greedy p :: r) < effortAll (.loop n greedy p :: r) ∧
        effortAll r < effortAll (.loop n greedy p :: r) := by
      simp only [effortAll, effort, Reads, hread, if_true, Bool.false_eq_true, if_false]
      omega
    have h₁' := h₁.of_le (Nat.le_sub_one_of_lt hn.1)
    have h₂' := h₂.of_le (Nat.le_sub_one_of_lt hn.2)
    refine Tries.visit_of_lt (n := effortAll (.loop n greedy p :: r) - 1) ?_ (by omega)
    rw [firstAll, first_loop hread]
    cases greedy with
    | true => exact h₁'.comp h₂'
    | false => exact h₂'.comp h₁'

theorem followAll_tries (r : List Plan) (hr : SteadyAll r) : ∀ σ,
    Tries ⟨b, i, t⟩ (effortAll r) (firstAll start r σ ⟨b, i, t⟩)
      (followAll start ⟨b, t.head?, i⟩ r σ) := by
  induction r with
  | nil =>
    refine fun σ => ⟨fun _ f _ _ => ?_, fun _ _ _ _ s hs => .inl hs, fun _ hf => hf⟩
    simp only [followAll, finish, outcome, firstAll, final, Option.or_assoc]
  | cons p ps ih =>
    obtain ⟨hp, hps⟩ := List.forall_mem_cons.mp hr
    exact p.follow_tries hp hps fun _ => ih hps

namespace Front

/-- Nothing is being followed, and what waits is steady. -/
structure Clear (x : Place) (f : Front) : Prop where
  tried : ∀ e, f.Tried x e
  steady : ∀ th ∈ f.threads, SteadyAll th.rest

theorem clear_empty {x : Place} : empty.Clear x :=
  ⟨fun _ _ h => (nomatch h), fun _ h => (nomatch h)⟩

theorem Clear.followAll {f : Front} (h : f.Clear ⟨b, i, t⟩) {r : List Plan} (hr : SteadyAll r)
    (start : Nat) (σ : Slots) : (followAll start ⟨b, t.head?, i⟩ r σ f).Clear ⟨b, i, t⟩ :=
  have ht := followAll_tries r hr σ
  ⟨fun e => (ht.tried (Nat.le_max_right e _) (h.tried _)).mono (Nat.le_max_left e _),
    ht.steady f h.steady⟩

theorem Clear.outcome_followAll {f : Front} (h : f.Clear ⟨b, i, t⟩) {r : List Plan}
    (hr : SteadyAll r) (start : Nat) (σ : Slots) :
    (OclScan.followAll start ⟨b, t.head?, i⟩ r σ f).outcome ⟨b, i, t⟩ =
      (f.outcome ⟨b, i, t⟩).or (firstAll start r σ ⟨b, i, t⟩) :=
  (followAll_tries r hr σ).outcome _ f (Nat.le_refl _) (h.tried _)

/-- By induction on the ways that wait. -/
theorem Clear.read {c : Char} (ts : List Thread) (hts : ∀ th ∈ ts, SteadyAll th.rest) :
    ∀ {f : Front}, f.Clear ⟨some c, i + 1, t⟩ →
    (f.read c ⟨some c, t.head?, i + 1⟩ ts).Clear ⟨some c, i + 1, t⟩ ∧
      (f.read c ⟨some c, t.head?, i + 1⟩ ts).outcome ⟨some c, i + 1, t⟩ =
        (f.outcome ⟨some c, i + 1, t⟩).or (ts.findSome? fun th => th.outcome i (c :: t)) := by
  induction ts with
  | nil => exact fun h => ⟨h, Option.or_none.symm⟩
  | cons th ts ih =>
    intro f h
    obtain ⟨hth, hts⟩ := List.forall_mem_cons.mp hts
    simp only [Front.read, List.findSome?_cons, Thread.outcome]
    split
    · rename_i hd
      have hsome : (f.outcome ⟨some c, i + 1, t⟩).isSome := by
        rw [outcome, Option.isSome_or, hd, Bool.or_true]
      exact ⟨h, (Option.or_of_isSome hsome).symm⟩
    split
    · obtain ⟨h₁, h₂⟩ := ih hts (h.followAll hth th.start th.slots)
      refine ⟨h₁, ?_⟩
      rw [h₂, h.outcome_followAll hth, Option.or_assoc]
      cases firstAll th.start th.rest th.slots ⟨some c, i + 1, t⟩ <;> rfl
    · exact ih hts h

end Front

namespace Plan

theorem runFrom_eq_outcome {f : Front} (best : Option Match)
    (h : ∀ th ∈ f.threads, SteadyAll th.rest) :
    runFrom f best i t = (f.threads.reverse.findSome? fun th => th.outcome i t).or best := by
  induction t generalizing f best i with
  | nil =>
    have e : (f.threads.reverse.findSome? fun th => th.outcome i []) = none :=
      List.findSome?_eq_none_iff.mpr fun _ _ => rfl
    rw [e]
    rfl
  | cons c t ih =>
    have hc := Clear.read (i := i) (t := t) (c := c) f.threads.reverse
      (fun th hth => h th (List.mem_reverse.mp hth)) clear_empty
    have steady : ∀ th ∈ (f.step c ⟨some c, t.head?, i + 1⟩).threads, SteadyAll th.rest :=
      hc.1.steady
    rw [runFrom_cons, ih _ steady, ← Option.or_assoc]
    exact congrArg (Option.or · best) hc.2

theorem matchFrom_eq_first {p : Plan} (hp : p.Steady = true) (slots : Nat) :
    p.matchFrom slots b i t = p.first (final i) (List.replicate slots none) ⟨b, i, t⟩ := by
  have hr : SteadyAll [p] := List.forall_mem_singleton.mpr hp
  have steady : ∀ th ∈ (p.enter slots ⟨b, t.head?, i⟩ .empty).threads, SteadyAll th.rest :=
    (clear_empty.followAll hr i _).steady
  rw [matchFrom, runFrom_eq_outcome _ steady]
  exact clear_empty.outcome_followAll hr i _

/-- A steady plan matches what trying one choice after the other finds. -/
theorem matchAt?_eq_first {p : Plan} (hp : p.Steady = true) (slots : Nat) :
    p.matchAt? slots b t = p.first (final 0) (List.replicate slots none) ⟨b, 0, t⟩ :=
  matchFrom_eq_first hp slots

end Plan

end OclScan
