import OclScan.Proofs.Pattern.Passage

/-!
# Matching a text that is cut

What becomes of a match when the text is cut after it, and the text before it is replaced
(`Plan.matchAt?_cut`): a plan whose conditions look back matches as it did, if its match ends at the
cut or earlier, and does not match if it did not. Of the text before, only what the conditions of
the plan see matters (`Plan.matchAt?_congr`).
-/

namespace OclScan

/-- Whether the condition is on the text before the place only. -/
def Assertion.looksBack : Assertion → Bool
  | textStart => true
  | lineStart => true
  | _ => false

theorem Assertion.holds_congr {a : Assertion} (h : a.looksBack = true) (b x y : Option Char) :
    a.holds b x = a.holds b y := by
  cases a <;> first | rfl | cases h

/-- The conditions in a plan. -/
def Plan.conditions : Plan → List Assertion
  | empty => []
  | set _ _ => []
  | assertion a => [a]
  | slot _ => []
  | seq p q => p.conditions ++ q.conditions
  | alt _ p q => p.conditions ++ q.conditions
  | loop _ _ p => p.conditions

/-- All conditions look back, and see the same after `b` and after `b'`. -/
def AgreeOn (A : List Assertion) (b b' : Option Char) : Prop :=
  ∀ a ∈ A, a.looksBack = true ∧ a.holds b' none = a.holds b none

/-- Every condition of `A` looks back. -/
def LooksBack (A : List Assertion) : Prop := ∀ a ∈ A, a.looksBack = true

theorem AgreeOn.refl {A : List Assertion} (h : LooksBack A) (b : Option Char) : AgreeOn A b b :=
  fun a ha => ⟨h a ha, rfl⟩

theorem AgreeOn.holds {A : List Assertion} {b b' : Option Char} (h : AgreeOn A b b') {a : Assertion}
    (ha : a ∈ A) (x y : Option Char) : a.holds b' y = a.holds b x := by
  obtain ⟨hl, e⟩ := h a ha
  rw [a.holds_congr hl b' y none, e, a.holds_congr hl b none x]

/-- `x'` is `x` in a text that is cut at the index `limit`, as the conditions see it. -/
structure Place.CutAt (A : List Assertion) (limit : Nat) (x x' : Place) : Prop where
  index : x'.index = x.index
  rest : x'.rest = x.rest.take (limit - x.index)
  before : AgreeOn A x.before x'.before

theorem Place.CutAt.length_le {A : List Assertion} {limit : Nat} {x x' : Place}
    (h : x.CutAt A limit x') : x'.rest.length ≤ x.rest.length := by
  rw [h.rest, List.length_take]
  exact Nat.min_le_right _ _

/-- `o'` is what becomes of `o` when the text is cut at the index `limit`. -/
structure CutTo (limit : Nat) (o o' : Option Match) : Prop where
  none : o = none → o' = none
  some : ∀ m, o = some m → m.stop ≤ limit → o' = some m

namespace CutTo

variable {limit : Nat} {o o' p p' : Option Match}

theorem of_eq_none (limit : Nat) (h : o' = Option.none)
    (ho : ∀ m, o = Option.some m → limit < m.stop) : CutTo limit o o' :=
  ⟨fun _ => h, fun m hm hle => absurd hle (Nat.not_le_of_lt (ho m hm))⟩

theorem or (h : CutTo limit o o') (h' : CutTo limit p p') : CutTo limit (o.or p) (o'.or p') := by
  cases o with
  | none => rw [h.none rfl]; exact h'
  | some m =>
    refine ⟨by simp, fun m' hm' hle => ?_⟩
    cases hm'
    rw [h.some m rfl hle]
    rfl

end CutTo

namespace Plan

variable {A : List Assertion} {limit : Nat} {k k' : Goal}

/-- What `k` ends in is not behind the place where `k` goes on. -/
def Onward (k : Goal) : Prop := ∀ σ y m, k σ y = some m → y.index ≤ m.stop

/-- `k'` does in the text that is cut what `k` does. -/
def Cuts (A : List Assertion) (limit : Nat) (k k' : Goal) : Prop :=
  ∀ σ x x', x.CutAt A limit x' → CutTo limit (k σ x) (k' σ x')

theorem Onward.of_passes (hk : Onward k) {x : Place} {m : Match} (h : Passes k x m) :
    x.index ≤ m.stop := by
  obtain ⟨σ, n, hn, h⟩ := h
  have hle := hk σ _ m h
  rw [Place.index_skip hn] at hle
  omega

theorem Onward.first (hk : Onward k) (p : Plan) : Onward (p.first k) :=
  fun _ _ _ h => hk.of_passes (p.first_passes h)

theorem Onward.rounds (hk : Onward k) (p : Plan) (greedy : Bool) (n : Nat) :
    Onward (rounds p.first greedy k n) :=
  fun σ x _ h => hk.of_passes (rounds_passes greedy p.first_passes n σ x h)

theorem onward_final (start : Nat) : Onward (final start) := by
  intro σ y m h
  cases h
  exact Nat.le_refl _

/-- A character before the cut is read as before; one behind it is not there, and a match over it
ends behind the cut. -/
theorem Cuts.set (n : Nat) (s : CharSet) (hA : LooksBack A) (hk : Onward k)
    (h : Cuts A limit k k') : Cuts A limit ((set n s).first k) ((set n s).first k') := by
  rintro σ ⟨b, i, t⟩ ⟨b', i', t'⟩ hx
  have hi : i' = i := hx.index
  have ht : t' = t.take (limit - i) := hx.rest
  subst hi ht
  cases t with
  | nil => exact .of_eq_none limit (by simp [Plan.first]) (by simp [Plan.first])
  | cons c t =>
    by_cases hi : i' < limit
    · rw [show limit - i' = (limit - (i' + 1)) + 1 by omega, List.take_succ_cons]
      by_cases hc : s.contains c = true
      · simp only [Plan.first, hc, if_true]
        exact h σ ⟨some c, i' + 1, t⟩ _ ⟨rfl, rfl, .refl hA _⟩
      · simp only [Plan.first, if_neg hc]
        exact .of_eq_none limit rfl (by simp)
    · rw [Nat.sub_eq_zero_of_le (by omega), List.take_zero]
      refine .of_eq_none limit rfl fun m hm => ?_
      simp only [Plan.first] at hm
      split at hm
      · have hle : i' + 1 ≤ m.stop := hk _ _ m hm
        omega
      · cases hm

/-- By induction on the plan, and over the rounds of a loop. -/
theorem Cuts.first (p : Plan) : ∀ {k k' : Goal}, p.Steady = true → p.conditions ⊆ A →
    LooksBack A → Onward k → Cuts A limit k k' → Cuts A limit (p.first k) (p.first k') := by
  induction p with
  | empty => exact fun _ _ _ _ h => h
  | set n s => exact fun _ _ hA hk h => h.set n s hA hk
  | assertion a =>
    intro k k' _ hp _ _ h σ x x' hx
    rw [Plan.first, Plan.first, hx.before.holds (hp (List.mem_singleton.mpr rfl)) x.rest.head?]
    split
    · exact h σ x x' hx
    · exact .of_eq_none limit rfl (by simp)
  | slot j =>
    intro k k' _ _ _ _ h σ x x' hx
    rw [Plan.first, Plan.first, hx.index]
    exact h _ x x' hx
  | seq p q ihp ihq =>
    intro k k' hs hp hA hk h
    obtain ⟨hsp, hsq⟩ := Bool.and_eq_true_iff.mp hs
    obtain ⟨hcp, hcq⟩ := List.append_subset.mp hp
    exact ihp hsp hcp hA (hk.first q) (ihq hsq hcq hA hk h)
  | alt n p q ihp ihq =>
    intro k k' hs hp hA hk h σ x x' hx
    obtain ⟨hsp, hsq⟩ := Bool.and_eq_true_iff.mp hs
    obtain ⟨hcp, hcq⟩ := List.append_subset.mp hp
    exact (ihp hsp hcp hA hk h σ x x' hx).or (ihq hsq hcq hA hk h σ x x' hx)
  | loop n greedy p ih =>
    intro k k' hs hp hA hk h
    obtain ⟨hr, hs⟩ := Bool.and_eq_true_iff.mp hs
    have hrounds : ∀ N, Cuts A limit (rounds p.first greedy k N) (rounds p.first greedy k' N) := by
      intro N
      induction N with
      | zero => exact h
      | succ N ihN =>
        intro σ x x' hx
        have leave := h σ x x' hx
        have again := ih hs hp hA (hk.rounds p greedy N) ihN σ x x' hx
        rw [rounds_succ hr, rounds_succ hr]
        cases greedy with
        | true => exact again.or leave
        | false => exact leave.or again
    intro σ x x' hx
    rw [Plan.first, Plan.first, rounds_eq hr greedy (by omega) hx.length_le]
    exact hrounds _ σ x x' hx

variable {p : Plan} {b b' : Option Char} {t : List Char}

/-- Cutting the text does not change a match that ends before the cut, and makes none. -/
theorem matchAt?_cut (hp : p.Steady = true) (slots : Nat) (hb : AgreeOn p.conditions b b')
    (t : List Char) (n : Nat) :
    CutTo n (p.matchAt? slots b t) (p.matchAt? slots b' (t.take n)) := by
  rw [matchAt?_eq_first hp, matchAt?_eq_first hp]
  refine Cuts.first p hp (List.Subset.refl _) (fun a ha => (hb a ha).1) (onward_final 0)
    (fun σ x x' hx => ?_) _ _ _ ⟨rfl, rfl, hb⟩
  rw [final, final, hx.index]
  exact ⟨id, fun m hm _ => hm⟩

/-- Of the text before, only what the conditions see matters. -/
theorem matchAt?_congr (hp : p.Steady = true) (slots : Nat) (hb : AgreeOn p.conditions b b')
    (t : List Char) : p.matchAt? slots b' t = p.matchAt? slots b t := by
  have h := matchAt?_cut hp slots hb t t.length
  rw [List.take_length] at h
  cases hm : p.matchAt? slots b t with
  | none => exact h.none hm
  | some m =>
    have hw := matchFrom_within (i := 0) hm
    exact h.some m hm (by have := hw.stop_le; omega)

end Plan

end OclScan
