import OclScan.Proofs.Pattern.Span

/-!
# The preferred way, one choice after the other

How a plan reads when choices are tried one after the other, the preferred one first
(`Plan.first`): what remains is a function from the place reached to the match it ends in, if any,
and a choice that leads to none is taken back. In a steady plan each round of a loop reads
(`Plan.Steady`), so that a loop is a round and the loop again, or what comes after it
(`Plan.first_loop`).
-/

namespace OclScan

/-- A place in the text: the character before it, its index and the text after it. -/
structure Place where
  before : Option Char
  index : Nat
  rest : List Char

/-- What remains: the match that it ends in from a place, if any. -/
abbrev Goal := Slots → Place → Option Match

namespace Plan

/-- At most `n` rounds of a loop, each of which reads, and then `k`. -/
def rounds (body : Goal → Goal) (greedy : Bool) (k : Goal) : Nat → Goal
  | 0, σ, x => k σ x
  | n + 1, σ, x =>
    let again :=
      body (fun σ y => if y.rest.length < x.rest.length then rounds body greedy k n σ y else none)
        σ x
    if greedy then again.or (k σ x) else (k σ x).or again

/-- What reading `p` and then `k` ends in, by the first choices that end in a match. -/
def first : Plan → Goal → Goal
  | empty, k, σ, x => k σ x
  | set _ s, k, σ, x =>
    match x.rest with
    | [] => none
    | c :: t => if s.contains c then k σ ⟨some c, x.index + 1, t⟩ else none
  | assertion a, k, σ, x => if a.holds x.before x.rest.head? then k σ x else none
  | slot j, k, σ, x => k (σ.set j (some x.index)) x
  | seq p q, k, σ, x => p.first (q.first k) σ x
  | alt _ p q, k, σ, x => (p.first k σ x).or (q.first k σ x)
  | loop _ greedy p, k, σ, x => rounds p.first greedy k x.rest.length σ x

/-- The end of the pattern. -/
def final (start : Nat) : Goal := fun σ x => some ⟨start, x.index, σ⟩

/-- What reading the plans one after the other ends in. -/
def firstAll (start : Nat) : List Plan → Goal
  | [] => final start
  | p :: ps => p.first (firstAll start ps)

/-- Whether every way to read the plan reads a character. -/
def Reads : Plan → Bool
  | empty => false
  | set _ _ => true
  | assertion _ => false
  | slot _ => false
  | seq p q => p.Reads || q.Reads
  | alt _ p q => p.Reads && q.Reads
  | loop _ _ _ => false

/-- Whether each round of a loop reads. -/
def Steady : Plan → Bool
  | empty => true
  | set _ _ => true
  | assertion _ => true
  | slot _ => true
  | seq p q => p.Steady && q.Steady
  | alt _ p q => p.Steady && q.Steady
  | loop _ _ p => p.Reads && p.Steady

variable {k k' : Goal} {σ : Slots} {x : Place}

/-! ## Rounds of a loop -/

/-- Only places from here on matter, and only those further on if the plan reads. -/
theorem first_congr (p : Plan) : ∀ {k k' : Goal} {σ : Slots} {x : Place},
    (∀ σ y, y.rest.length ≤ x.rest.length → (p.Reads = true → y.rest.length < x.rest.length) →
      k σ y = k' σ y) → p.first k σ x = p.first k' σ x := by
  induction p with
  | empty => exact fun h => h _ _ (by omega) (nomatch ·)
  | set n s =>
    intro k k' σ x h
    simp only [first]
    split
    · rfl
    · rename_i c t e
      have hlt : t.length < x.rest.length := by rw [e]; exact Nat.lt_succ_self _
      rw [h σ ⟨some c, x.index + 1, t⟩ (Nat.le_of_lt hlt) fun _ => hlt]
  | assertion a =>
    intro k k' σ x h
    simp only [first, h σ x (by omega) (nomatch ·)]
  | slot j => exact fun h => h _ _ (by omega) (nomatch ·)
  | seq p q ihp ihq =>
    intro k k' σ x h
    refine ihp fun σ y hy hpy => ihq fun σ z hz hqz => h σ z (by omega) fun hr => ?_
    rcases Bool.or_eq_true_iff.mp hr with hr | hr
    · exact Nat.lt_of_le_of_lt hz (hpy hr)
    · exact Nat.lt_of_lt_of_le (hqz hr) hy
  | alt n p q ihp ihq =>
    intro k k' σ x h
    have hp := ihp (σ := σ) fun σ y hy hpy => h σ y hy fun hr => hpy (Bool.and_eq_true_iff.mp hr).1
    have hq := ihq (σ := σ) fun σ y hy hqy => h σ y hy fun hr => hqy (Bool.and_eq_true_iff.mp hr).2
    simp only [first, hp, hq]
  | loop n greedy p ih =>
    intro k k' σ x h
    have rounds_congr : ∀ m σ z, z.rest.length ≤ x.rest.length →
        rounds p.first greedy k m σ z = rounds p.first greedy k' m σ z := by
      intro m
      induction m with
      | zero => exact fun σ z hz => h σ z hz (nomatch ·)
      | succ m ihm =>
        intro σ z hz
        have again := @ih
          (fun σ y =>
            if y.rest.length < z.rest.length then rounds p.first greedy k m σ y else none)
          (fun σ y =>
            if y.rest.length < z.rest.length then rounds p.first greedy k' m σ y else none)
          σ z fun σ y hy _ => by rw [ihm σ y (by omega)]
        simp only [rounds, again, h σ z hz (nomatch ·)]
    exact rounds_congr _ σ x (by omega)

theorem first_none (p : Plan) : ∀ σ x, p.first (fun _ _ => none) σ x = none := by
  induction p with
  | empty => exact fun _ _ => rfl
  | set n s =>
    intro σ x
    simp only [first]
    split
    · rfl
    · exact ite_self _
  | assertion a => exact fun σ x => ite_self _
  | slot j => exact fun _ _ => rfl
  | seq p q ihp ihq =>
    intro σ x
    rw [first, funext fun σ => funext (ihq σ), ihp]
  | alt n p q ihp ihq =>
    intro σ x
    rw [first, ihp, ihq]
    rfl
  | loop n greedy p ih =>
    intro σ x
    have rounds_none : ∀ m σ x, rounds p.first greedy (fun _ _ => none) m σ x = none := by
      intro m
      induction m with
      | zero => exact fun _ _ => rfl
      | succ m ihm =>
        intro σ x
        simp only [rounds, ihm, ite_self, ih, Option.or_none]
    exact rounds_none _ σ x

theorem first_of_rest_nil {p : Plan} (hp : p.Reads = true) (h : x.rest = []) :
    p.first k σ x = none := by
  rw [@first_congr p k (fun _ _ => none) σ x, first_none]
  intro σ y _ hy
  rw [h] at hy
  exact absurd (hy hp) (Nat.not_lt_zero _)

/-- Where a round reads, the loop may go on after any round. -/
theorem rounds_succ {p : Plan} (hp : p.Reads = true) (greedy : Bool) (k : Goal) (n : Nat)
    (σ : Slots) (x : Place) : rounds p.first greedy k (n + 1) σ x =
      if greedy then (p.first (rounds p.first greedy k n) σ x).or (k σ x)
      else (k σ x).or (p.first (rounds p.first greedy k n) σ x) := by
  have again : p.first (fun σ y =>
      if y.rest.length < x.rest.length then rounds p.first greedy k n σ y else none) σ x =
      p.first (rounds p.first greedy k n) σ x :=
    p.first_congr fun σ y _ hy => if_pos (hy hp)
  simp only [rounds, again]

/-- More rounds than characters are not needed. -/
theorem rounds_eq {p : Plan} (hp : p.Reads = true) (greedy : Bool) : ∀ {m n : Nat} {σ : Slots}
    {x : Place}, x.rest.length ≤ m → x.rest.length ≤ n →
    rounds p.first greedy k m σ x = rounds p.first greedy k n σ x := by
  have at_end : ∀ n σ (x : Place), x.rest = [] → rounds p.first greedy k n σ x = k σ x := by
    intro n σ x h
    cases n with
    | zero => rfl
    | succ n => simp only [rounds, first_of_rest_nil hp h, Option.none_or, Option.or_none, ite_self]
  intro m
  induction m with
  | zero =>
    intro n σ x hm _
    have h := List.length_eq_zero_iff.mp (Nat.le_zero.mp hm)
    rw [at_end 0 σ x h, at_end n σ x h]
  | succ m ih =>
    intro n σ x hm hn
    cases n with
    | zero =>
      have h := List.length_eq_zero_iff.mp (Nat.le_zero.mp hn)
      rw [at_end _ σ x h, at_end _ σ x h]
    | succ n =>
      have again : p.first (rounds p.first greedy k m) σ x =
          p.first (rounds p.first greedy k n) σ x := by
        refine p.first_congr fun σ y _ hy => ih ?_ ?_
        · have := hy hp
          omega
        · have := hy hp
          omega
      rw [rounds_succ hp, rounds_succ hp, again]

/-- A loop is a round and the loop again, or what comes after it. -/
theorem first_loop {p : Plan} (hp : p.Reads = true) (n : Nat) (greedy : Bool) :
    (loop n greedy p).first k σ x =
      if greedy then (p.first ((loop n greedy p).first k) σ x).or (k σ x)
      else (k σ x).or (p.first ((loop n greedy p).first k) σ x) := by
  have again : p.first ((loop n greedy p).first k) σ x =
      p.first (rounds p.first greedy k x.rest.length) σ x :=
    p.first_congr fun σ y _ hy =>
      rounds_eq hp greedy (by omega) (Nat.le_of_lt (hy hp))
  rw [again, first, rounds_eq hp greedy (by omega) (Nat.le_succ _), rounds_succ hp]

/-- Whether there is a match does not depend on the places recorded. -/
theorem isSome_first_congr (p : Plan) : ∀ {k k' : Goal},
    (∀ σ σ' y, (k σ y).isSome = (k' σ' y).isSome) →
    ∀ σ σ' x, (p.first k σ x).isSome = (p.first k' σ' x).isSome := by
  induction p with
  | empty => exact fun h => h
  | set n s =>
    intro k k' h σ σ' x
    simp only [first]
    split
    · rfl
    · split
      · exact h _ _ _
      · rfl
  | assertion a =>
    intro k k' h σ σ' x
    simp only [first]
    split
    · exact h _ _ _
    · rfl
  | slot j => exact fun h σ σ' x => h _ _ _
  | seq p q ihp ihq => exact fun h => ihp (ihq h)
  | alt n p q ihp ihq =>
    intro k k' h σ σ' x
    simp only [first, Option.isSome_or, ihp h σ σ' x, ihq h σ σ' x]
  | loop n greedy p ih =>
    intro k k' h σ σ' x
    have rounds_congr : ∀ m σ σ' z, (rounds p.first greedy k m σ z).isSome =
        (rounds p.first greedy k' m σ' z).isSome := by
      intro m
      induction m with
      | zero => exact h
      | succ m ihm =>
        intro σ σ' z
        have again := @ih
          (fun σ y =>
            if y.rest.length < z.rest.length then rounds p.first greedy k m σ y else none)
          (fun σ y =>
            if y.rest.length < z.rest.length then rounds p.first greedy k' m σ y else none)
          (fun σ σ' y => by split; exact ihm σ σ' y; rfl) σ σ' z
        simp only [rounds]
        split
        · rw [Option.isSome_or, Option.isSome_or, again, h σ σ' z]
        · rw [Option.isSome_or, Option.isSome_or, again, h σ σ' z]
    exact rounds_congr _ σ σ' x

theorem firstAll_eq_none_congr {r : List Plan} {start : Nat} (h : firstAll start r σ x = none)
    (start' : Nat) (σ' : Slots) : firstAll start' r σ' x = none := by
  have congr : ∀ (r : List Plan) σ σ' y,
      (firstAll start r σ y).isSome = (firstAll start' r σ' y).isSome := by
    intro r
    induction r with
    | nil => exact fun _ _ _ => rfl
    | cons p ps ih => exact p.isSome_first_congr ih
  rw [← Option.not_isSome_iff_eq_none, ← congr r σ σ' x, h]
  exact Bool.false_ne_true

end Plan

end OclScan
