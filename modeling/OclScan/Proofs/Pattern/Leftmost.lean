import OclScan.Proofs.Pattern.Completeness

/-!
# A search finds the first place

A search lets ways start at every place until one is done. It finds what matching from the first
place finds at which there is a match (`Plan.find?_eq_leftmost`): until then nothing that has been
entered can be read, and after that, ways that start later give way to those before them
(`runFrom_of_suffix`).
-/

namespace OclScan

variable {b : Option Char} {t : List Char} {start i : Nat}

/-! ## Following only adds ways -/

theorem Front.visit_threads {f : Front} {r : List Plan} {go : Front → Front}
    (h : ∀ f : Front, f.threads <:+ (go f).threads) : f.threads <:+ (f.visit r go).threads := by
  simp only [Front.visit]
  split
  · exact List.suffix_refl _
  · exact h { f with seen := r :: f.seen }

theorem Plan.follow_threads {spot : Spot} (p : Plan) :
    ∀ {r : List Plan} {next : Slots → Front → Front},
    (∀ σ f, f.threads <:+ (next σ f).threads) →
    ∀ σ f, f.threads <:+ (p.follow start spot r next σ f).threads := by
  induction p with
  | empty => exact fun h => h
  | set n s => exact fun _ σ f => Front.visit_threads fun f => List.suffix_cons _ _
  | assertion a =>
    intro r next h σ f
    simp only [follow]
    split
    · exact h σ f
    · exact List.suffix_refl _
  | slot k => exact fun h σ => h _
  | seq p q ihp ihq => exact fun h => ihp (ihq h)
  | alt n p q ihp ihq =>
    exact fun h σ f => Front.visit_threads fun f => (ihp h σ f).trans (ihq h σ _)
  | loop n greedy p ih =>
    intro r next h σ f
    have round := @ih (loop n greedy p :: r) (fun _ f => f) fun _ _ => List.suffix_refl _
    refine Front.visit_threads fun f => ?_
    cases greedy with
    | true => exact (round σ f).trans (h σ _)
    | false => exact (h σ f).trans (round σ _)

theorem followAll_threads {spot : Spot} (r : List Plan) :
    ∀ σ f, f.threads <:+ (followAll start spot r σ f).threads := by
  induction r with
  | nil => exact fun σ f => List.suffix_refl _
  | cons p ps ih => exact p.follow_threads ih

namespace Front

variable {c : Char} {spot : Spot}

theorem read_threads (ts : List Thread) :
    ∀ f : Front, f.threads <:+ (f.read c spot ts).threads := by
  induction ts with
  | nil => exact fun f => List.suffix_refl _
  | cons th ts ih =>
    intro f
    simp only [read]
    split
    · exact List.suffix_refl _
    split
    · exact (followAll_threads th.rest th.slots f).trans (ih _)
    · exact ih f

theorem read_append (ts us : List Thread) :
    ∀ f : Front, f.read c spot (ts ++ us) = (f.read c spot ts).read c spot us := by
  induction ts with
  | nil => exact fun f => rfl
  | cons th ts ih =>
    intro f
    simp only [List.cons_append, read]
    split
    · rename_i hd
      exact (read_of_done hd us).symm
    split
    · exact ih _
    · exact ih f

/-- Ways that are less preferred are read last, and only if no other way is done. -/
theorem step_of_suffix {f g : Front} (h : f.threads <:+ g.threads) :
    (f.step c spot).done.isSome ∧ g.step c spot = f.step c spot ∨
      (f.step c spot).done = none ∧ (f.step c spot).threads <:+ (g.step c spot).threads := by
  obtain ⟨low, h⟩ := h
  have e : g.step c spot = (f.step c spot).read c spot low.reverse := by
    rw [step, ← h, List.reverse_append, read_append]
    rfl
  cases hd : (f.step c spot).done with
  | some m => exact .inl ⟨rfl, by rw [e, read_of_done (by rw [hd]; rfl)]⟩
  | none => exact .inr ⟨rfl, e ▸ read_threads _ _⟩

end Front

/-! ## Reading to the end -/

namespace Plan

open Front

theorem runFrom_of_threads_nil {f : Front} (h : f.threads = []) (best : Option Match) :
    runFrom f best i t = best := by
  cases t with
  | nil => rfl
  | cons c t => simp only [runFrom, h, List.isEmpty_nil, if_true]

theorem runFrom_cons (f : Front) (best : Option Match) (c : Char) :
    runFrom f best i (c :: t) =
      runFrom (f.step c ⟨some c, t.head?, i + 1⟩)
        ((f.step c ⟨some c, t.head?, i + 1⟩).done.or best) (i + 1) t := by
  cases h : f.threads with
  | nil =>
    have e : f.step c ⟨some c, t.head?, i + 1⟩ = .empty := by
      rw [Front.step, h]; rfl
    rw [runFrom_of_threads_nil h, e, runFrom_of_threads_nil rfl]
    rfl
  | cons th ts => simp only [runFrom, h, List.isEmpty_cons, Bool.false_eq_true, if_false]

theorem runFrom_alike {f g : Front} (h : Alike b t f g) (best : Option Match) :
    runFrom f best i t = runFrom g best i t := by
  induction t generalizing b f g best i with
  | nil => rfl
  | cons c t ih =>
    have h' := h.step (i := i + 1)
    rw [runFrom_cons, runFrom_cons, ih h', h'.done]

/-- A way that can read the text to its end leads to a match. -/
theorem runFrom_isSome {f : Front} {best : Option Match}
    (h : best.isSome ∨ ∃ th ∈ f.threads, th.Open t) : (runFrom f best i t).isSome := by
  induction t generalizing f best i with
  | nil => exact h.elim (fun h => h) fun ⟨_, _, ho⟩ => ho.elim
  | cons c t ih =>
    rw [runFrom_cons]
    rcases h with h | h
    · refine ih (.inl ?_)
      rw [Option.isSome_or, h, Bool.or_true]
    · refine ih ((Hopeful.step h).imp_left fun hd => ?_)
      rw [Option.isSome_or, hd, Bool.true_or]

/-- What preferred ways lead to counts, whatever other ways lead to. -/
theorem runFrom_of_suffix {f g : Front} {m : Match} (h : f.threads <:+ g.threads)
    (hm : runFrom f none i t = some m) (best : Option Match) : runFrom g best i t = some m := by
  induction t generalizing f g best i with
  | nil => cases hm
  | cons c t ih =>
    rw [runFrom_cons] at hm ⊢
    rcases @step_of_suffix c ⟨some c, t.head?, i + 1⟩ f g h with ⟨hd, e⟩ | ⟨hd, hs⟩
    · rw [e]
      obtain ⟨d, hd⟩ := Option.isSome_iff_exists.mp hd
      rw [hd] at hm ⊢
      exact hm
    · rw [hd] at hm
      exact ih hs hm _

variable (p : Plan) (slots : Nat)

theorem enter_threads (spot : Spot) (f : Front) : f.threads <:+ (p.enter slots spot f).threads :=
  followAll_threads _ _ f

theorem enter_plain : Plain b t [p] (p.enter slots ⟨b, t.head?, i⟩) := followAll_plain _ _

/-- The preferred way to read `t` from its start, where the place has the index `i`. -/
def matchFrom (b : Option Char) (i : Nat) (t : List Char) : Option Match :=
  let f := p.enter slots ⟨b, t.head?, i⟩ .empty
  runFrom f f.done i t

theorem matchFrom_zero : p.matchFrom slots b 0 t = p.matchAt? slots b t := rfl

theorem matchFrom_eq_none_iff : p.matchFrom slots b i t = none ↔ ¬ CanRead [p] b t := by
  constructor
  · intro h hr
    have hope : (p.enter slots ⟨b, t.head?, i⟩ .empty).Hopeful t :=
      settled_empty.hopeful_followAll hr _
    have hs := runFrom_isSome (i := i) hope
    rw [← matchFrom, h] at hs
    cases hs
  · intro hr
    have h := (p.enter_plain slots (i := i)).dead hr .empty
    rw [matchFrom, ← h.done, ← runFrom_alike h]
    exact runFrom_of_threads_nil rfl _

/-- The match from the first place at which there is one. -/
def leftmost (b : Option Char) (i : Nat) : List Char → Option Match
  | [] => p.matchFrom slots b i []
  | c :: t => (p.matchFrom slots b i (c :: t)).or (leftmost (some c) (i + 1) t)

/-- Later starts do not change what has been entered before leads to. -/
theorem searchFrom_of_runFrom {f : Front} {m : Match} (hm : runFrom f none i t = some m) :
    p.searchFrom slots f i t = some m := by
  induction t generalizing f i with
  | nil => cases hm
  | cons c t ih =>
    rw [runFrom_cons] at hm
    simp only [searchFrom]
    generalize hf : f.step c ⟨some c, t.head?, i + 1⟩ = f₁ at hm ⊢
    cases hd : f₁.done with
    | some d =>
      rw [hd] at hm
      simp only [Option.isSome_some, if_true, hd]
      exact hm
    | none =>
      rw [hd] at hm
      have h₂ := fun best =>
        runFrom_of_suffix (p.enter_threads slots ⟨some c, t.head?, i + 1⟩ f₁) hm best
      simp only [Option.isSome_none, Bool.false_eq_true, if_false]
      split
      · exact h₂ _
      · exact ih (h₂ _)

/-- By induction on the text: while no way has been entered that can be read, the front is like one
at which only the last start has been entered. -/
theorem search_eq_leftmost {f : Front}
    (h : Alike b t f (p.enter slots ⟨b, t.head?, i⟩ .empty)) :
    (if f.done.isSome then runFrom f f.done i t else p.searchFrom slots f i t) =
      p.leftmost slots b i t := by
  induction t generalizing b f i with
  | nil =>
    rw [leftmost, matchFrom, ← h.done]
    cases hd : f.done with
    | none => rfl
    | some d => rfl
  | cons c t ih =>
    rw [leftmost]
    by_cases hd : f.done.isSome
    · have hs := runFrom_isSome (f := f) (i := i) (t := c :: t) (.inl hd)
      obtain ⟨m, hm⟩ := Option.isSome_iff_exists.mp hs
      have e : p.matchFrom slots b i (c :: t) = some m := by
        rw [matchFrom, ← h.done, ← runFrom_alike h, hm]
      rw [if_pos hd, hm, e]
      rfl
    rw [if_neg hd]
    have hnone : f.done = none := by simpa using hd
    cases hm : p.matchFrom slots b i (c :: t) with
    | some m =>
      rw [matchFrom, ← h.done, ← runFrom_alike h, hnone] at hm
      rw [p.searchFrom_of_runFrom slots hm]
      rfl
    | none =>
      have dead := (p.enter_plain slots (i := i)).dead
        ((p.matchFrom_eq_none_iff slots).mp hm) .empty
      have h₁ := (h.trans dead.symm).step (i := i + 1)
      have e : Front.empty.step c ⟨some c, t.head?, i + 1⟩ = .empty := rfl
      rw [e] at h₁
      have hd₁ : (f.step c ⟨some c, t.head?, i + 1⟩).done = none := h₁.done
      simp only [searchFrom, hd₁, Option.isSome_none, Bool.false_eq_true, if_false, Option.none_or]
      exact ih ((p.enter_plain slots).alike _ _ h₁)

theorem find?_eq_leftmost : p.find? slots b t = p.leftmost slots b 0 t :=
  p.search_eq_leftmost slots (.refl _)

end Plan

end OclScan
