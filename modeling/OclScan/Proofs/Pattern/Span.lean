import OclScan.Proofs.Pattern.Leftmost

/-!
# Where a match lies

Counting places from elsewhere shifts them all (`Plan.matchFrom_shift`). What every way keeps,
whatever it chooses, holds of a match (`Plan.matchFrom_keeps`): so a match lies within the text, and
the places it records lie within the match (`Plan.matchFrom_within`).
-/

namespace OclScan

/-! ## Shifting places -/

/-- The places recorded, counted from `k` places before. -/
def Slots.shift (k : Nat) (σ : Slots) : Slots := σ.map (Option.map (· + k))

/-- The match, counted from `k` places before. -/
def Match.shift (k : Nat) (m : Match) : Match := ⟨m.start + k, m.stop + k, Slots.shift k m.slots⟩

theorem Match.shift_zero (m : Match) : m.shift 0 = m := by
  simp [Match.shift, Slots.shift]

/-- The way that waits, counted from `k` places before. -/
def Thread.shift (k : Nat) (th : Thread) : Thread :=
  { th with start := th.start + k, slots := Slots.shift k th.slots }

namespace Front

/-- The front, counted from `k` places before. -/
def shift (k : Nat) (f : Front) : Front :=
  ⟨f.threads.map (Thread.shift k), f.seen, f.done.map (Match.shift k)⟩

variable {k : Nat}

theorem isSome_done_shift (f : Front) : (f.shift k).done.isSome = f.done.isSome :=
  Option.isSome_map

theorem visit_shift {r : List Plan} {go go' : Front → Front}
    (h : ∀ f : Front, go' (f.shift k) = (go f).shift k) (f : Front) :
    (f.shift k).visit r go' = (f.visit r go).shift k := by
  have e : (f.shift k).seen = f.seen := rfl
  simp only [visit, isSome_done_shift, e]
  split
  · rfl
  · exact h { f with seen := r :: f.seen }

theorem finish_shift (f : Front) (m : Match) :
    (f.shift k).finish (m.shift k) = (f.finish m).shift k := by
  cases h : f.done <;> simp [finish, shift, h]

end Front

variable {k start i : Nat} {b a : Option Char} {t : List Char}

theorem Plan.follow_shift (p : Plan) : ∀ {r : List Plan} {next next' : Slots → Front → Front},
    (∀ σ f, next' (Slots.shift k σ) (f.shift k) = (next σ f).shift k) →
    ∀ σ f, p.follow (start + k) ⟨b, a, i + k⟩ r next' (Slots.shift k σ) (f.shift k) =
      (p.follow start ⟨b, a, i⟩ r next σ f).shift k := by
  induction p with
  | empty => exact fun h σ f => h σ f
  | set n s =>
    intro r next next' _ σ f
    have wait : ∀ f : Front, (f.shift k).wait ⟨start + k, s, r, Slots.shift k σ⟩ =
        (f.wait ⟨start, s, r, σ⟩).shift k := fun f => rfl
    exact Front.visit_shift wait f
  | assertion e =>
    intro r next next' h σ f
    simp only [follow]
    split
    · exact h σ f
    · rfl
  | slot j =>
    intro r next next' h σ f
    simp only [follow, ← h, Slots.shift, List.map_set, Option.map_some]
  | seq p q ihp ihq => exact fun h => ihp (ihq h)
  | alt n p q ihp ihq =>
    intro r next next' h σ f
    exact Front.visit_shift (fun f => by rw [ihp h σ f, ihq h σ]) f
  | loop n greedy p ih =>
    intro r next next' h σ f
    have round := @ih (loop n greedy p :: r) (fun _ f => f) (fun _ f => f) fun _ _ => rfl
    refine Front.visit_shift (fun f => ?_) f
    cases greedy with
    | true =>
      show next' _ _ = _
      rw [round, h]
      rfl
    | false =>
      show Plan.follow _ _ _ _ _ _ _ = _
      rw [h, round]
      rfl

theorem followAll_shift (r : List Plan) : ∀ σ f,
    followAll (start + k) ⟨b, a, i + k⟩ r (Slots.shift k σ) (f.shift k) =
      (followAll start ⟨b, a, i⟩ r σ f).shift k := by
  induction r with
  | nil => exact fun σ f => f.finish_shift ⟨start, i, σ⟩
  | cons p ps ih => exact fun σ f => p.follow_shift ih σ f

theorem Front.read_shift {c : Char} (ts : List Thread) : ∀ f : Front,
    (f.shift k).read c ⟨b, a, i + k⟩ (ts.map (Thread.shift k)) =
      (f.read c ⟨b, a, i⟩ ts).shift k := by
  induction ts with
  | nil => exact fun f => rfl
  | cons th ts ih =>
    intro f
    simp only [List.map_cons, read, isSome_done_shift]
    split
    · rfl
    have e : (th.shift k).set = th.set := rfl
    rw [e]
    split
    · rw [← ih, ← followAll_shift th.rest th.slots f]
      rfl
    · exact ih f

theorem Front.step_shift {c : Char} (f : Front) :
    (f.shift k).step c ⟨b, a, i + k⟩ = (f.step c ⟨b, a, i⟩).shift k := by
  have e : (f.shift k).threads.reverse = f.threads.reverse.map (Thread.shift k) :=
    List.map_reverse.symm
  rw [step, e]
  exact read_shift f.threads.reverse .empty

namespace Plan

theorem runFrom_shift (f : Front) (best : Option Match) :
    runFrom (f.shift k) (best.map (Match.shift k)) (i + k) t =
      (runFrom f best i t).map (Match.shift k) := by
  induction t generalizing f best i with
  | nil => rfl
  | cons c t ih =>
    have e : (f.shift k).step c ⟨some c, t.head?, i + k + 1⟩ =
        (f.step c ⟨some c, t.head?, i + 1⟩).shift k := by
      rw [Nat.add_right_comm i k 1, Front.step_shift]
    rw [runFrom_cons, runFrom_cons, e, ← ih, Nat.add_right_comm i k 1]
    congr 1
    cases h : (f.step c ⟨some c, t.head?, i + 1⟩).done <;> simp [Front.shift, h]

variable (p : Plan) (slots : Nat)

theorem matchFrom_shift :
    p.matchFrom slots b (i + k) t = (p.matchFrom slots b i t).map (Match.shift k) := by
  have h := @followAll_shift k i i b t.head? [p] (List.replicate slots none) .empty
  have e : Slots.shift k (List.replicate slots none) = List.replicate slots none := by
    simp [Slots.shift]
  rw [e] at h
  have h' : p.enter slots ⟨b, t.head?, i + k⟩ .empty =
      (p.enter slots ⟨b, t.head?, i⟩ .empty).shift k := h
  rw [matchFrom, h']
  exact runFrom_shift _ _

end Plan

/-! ## Invariants -/

/-- What holds of a way that has come to an index, with the places that it has recorded and what it
has left to read, holds wherever it goes on. -/
structure Invariant (I : Nat → Slots → List Plan → Prop) : Prop where
  empty {i σ r} : I i σ (.empty :: r) → I i σ r
  set {i σ n s r} : I i σ (.set n s :: r) → I (i + 1) σ r
  assertion {i σ a r} : I i σ (.assertion a :: r) → I i σ r
  slot {i σ j r} : I i σ (.slot j :: r) → I i (σ.set j (some i)) r
  seq {i σ p q r} : I i σ (.seq p q :: r) → I i σ (p :: q :: r)
  left {i σ n p q r} : I i σ (.alt n p q :: r) → I i σ (p :: r)
  right {i σ n p q r} : I i σ (.alt n p q :: r) → I i σ (q :: r)
  leave {i σ n greedy p r} : I i σ (.loop n greedy p :: r) → I i σ r
  round {i σ n greedy p r} :
    I i σ (.loop n greedy p :: r) → I i σ (p :: .loop n greedy p :: r)

/-- All ways have started at `start` and have come to index `i`, and what is said holds of each: of
those that wait, once they have read. -/
structure Front.Keeps (I : Nat → Slots → List Plan → Prop) (start i : Nat) (f : Front) : Prop where
  threads : ∀ th ∈ f.threads, th.start = start ∧ I (i + 1) th.slots th.rest
  done : ∀ m, f.done = some m → m.start = start ∧ m.stop ≤ i ∧ I m.stop m.slots []

section Invariant

variable {I : Nat → Slots → List Plan → Prop}

theorem Front.keeps_empty : empty.Keeps I start i :=
  ⟨fun _ h => (nomatch h), fun _ h => (nomatch h)⟩

theorem Front.Keeps.visit {r : List Plan} {go : Front → Front} {f : Front}
    (hf : f.Keeps I start i) (h : ∀ f : Front, f.Keeps I start i → (go f).Keeps I start i) :
    (f.visit r go).Keeps I start i := by
  simp only [Front.visit]
  split
  · exact hf
  · exact h _ ⟨hf.threads, hf.done⟩

variable (hI : Invariant I)

include hI

theorem Plan.follow_keeps (p : Plan) : ∀ {r : List Plan} {next : Slots → Front → Front},
    (∀ σ f, I i σ r → f.Keeps I start i → (next σ f).Keeps I start i) →
    ∀ σ f, I i σ (p :: r) → f.Keeps I start i →
      (p.follow start ⟨b, a, i⟩ r next σ f).Keeps I start i := by
  induction p with
  | empty => exact fun h σ f hσ hf => h σ f (hI.empty hσ) hf
  | set n s =>
    intro r next _ σ f hσ hf
    refine hf.visit fun f hf => ⟨fun th hth => ?_, hf.done⟩
    rcases List.mem_cons.mp hth with rfl | hth
    · exact ⟨rfl, hI.set hσ⟩
    · exact hf.threads th hth
  | assertion e =>
    intro r next h σ f hσ hf
    simp only [follow]
    split
    · exact h σ f (hI.assertion hσ) hf
    · exact hf
  | slot n => exact fun h σ f hσ hf => h _ f (hI.slot hσ) hf
  | seq p q ihp ihq => exact fun h σ f hσ hf => ihp (ihq h) σ f (hI.seq hσ) hf
  | alt n p q ihp ihq =>
    exact fun h σ f hσ hf => hf.visit fun f hf =>
      ihq h σ _ (hI.right hσ) (ihp h σ f (hI.left hσ) hf)
  | loop n greedy p ih =>
    intro r next h σ f hσ hf
    have round := @ih (loop n greedy p :: r) (fun _ f => f) fun _ _ _ hf => hf
    refine hf.visit fun f hf => ?_
    cases greedy with
    | true => exact h σ _ (hI.leave hσ) (round σ f (hI.round hσ) hf)
    | false => exact round σ _ (hI.round hσ) (h σ f (hI.leave hσ) hf)

theorem followAll_keeps (r : List Plan) : ∀ σ f, I i σ r → f.Keeps I start i →
    (followAll start ⟨b, a, i⟩ r σ f).Keeps I start i := by
  induction r with
  | nil =>
    intro σ f hσ hf
    refine ⟨hf.threads, fun m hm => ?_⟩
    cases hd : f.done with
    | some d =>
      simp only [followAll, Front.finish, hd, Option.some_or, Option.some.injEq] at hm
      exact hf.done m (hd.trans (congrArg some hm))
    | none =>
      simp only [followAll, Front.finish, hd, Option.none_or, Option.some.injEq] at hm
      exact hm ▸ ⟨rfl, Nat.le_refl i, hσ⟩
  | cons p ps ih => exact p.follow_keeps hI ih

theorem Front.Keeps.read {c : Char} (ts : List Thread)
    (hts : ∀ th ∈ ts, th.start = start ∧ I i th.slots th.rest) :
    ∀ f : Front, f.Keeps I start i → (f.read c ⟨b, a, i⟩ ts).Keeps I start i := by
  induction ts with
  | nil => exact fun f hf => hf
  | cons th ts ih =>
    intro f hf
    obtain ⟨⟨hs, hσ⟩, hts⟩ := List.forall_mem_cons.mp hts
    simp only [Front.read]
    split
    · exact hf
    split
    · exact ih hts _ (hs ▸ followAll_keeps hI _ _ _ hσ (hs ▸ hf))
    · exact ih hts f hf

namespace Plan

/-- By induction on the text. -/
theorem runFrom_keeps {f : Front} {best : Option Match} (hf : f.Keeps I start i)
    (hb : ∀ m, best = some m → m.start = start ∧ m.stop ≤ i ∧ I m.stop m.slots []) {m : Match}
    (hm : runFrom f best i t = some m) :
    m.start = start ∧ m.stop ≤ i + t.length ∧ I m.stop m.slots [] := by
  induction t generalizing f best i with
  | nil => exact hb m hm
  | cons c t ih =>
    rw [runFrom_cons] at hm
    have hf' : (f.step c ⟨some c, t.head?, i + 1⟩).Keeps I start (i + 1) :=
      Front.Keeps.read hI _ (fun th hth => hf.threads th (List.mem_reverse.mp hth)) _
        Front.keeps_empty
    rw [List.length_cons, Nat.add_comm t.length, ← Nat.add_assoc]
    refine ih hf' (fun d hd => ?_) hm
    rcases Option.or_eq_some_iff.mp hd with hd | ⟨-, hd⟩
    · exact hf'.done d hd
    · obtain ⟨hs, hle, hd⟩ := hb d hd
      exact ⟨hs, Nat.le_succ_of_le hle, hd⟩

variable {p : Plan} {slots : Nat} {m : Match}

theorem matchFrom_keeps (hp : I i (List.replicate slots none) [p])
    (h : p.matchFrom slots b i t = some m) :
    m.start = i ∧ m.stop ≤ i + t.length ∧ I m.stop m.slots [] := by
  have hf : (p.enter slots ⟨b, t.head?, i⟩ .empty).Keeps I i i :=
    followAll_keeps hI _ _ _ hp Front.keeps_empty
  exact runFrom_keeps hI hf hf.done h

end Plan

end Invariant

/-! ## Bounds -/

/-- The places recorded lie between `start` and `stop`. -/
def Slots.Within (start stop : Nat) (σ : Slots) : Prop :=
  ∀ j, some j ∈ σ → start ≤ j ∧ j ≤ stop

/-- The match starts at `start` and stops by `limit`, and the places it records lie within it. -/
structure Match.Within (start limit : Nat) (m : Match) : Prop where
  start_eq : m.start = start
  start_le : start ≤ m.stop
  stop_le : m.stop ≤ limit
  slots : Slots.Within start m.stop m.slots

theorem Slots.within_replicate (slots : Nat) :
    Slots.Within start i (List.replicate slots none) := fun _ hj =>
  nomatch List.eq_of_mem_replicate hj

theorem Slots.Within.succ {σ : Slots} (h : Slots.Within start i σ) :
    Slots.Within start (i + 1) σ := fun l hl => ⟨(h l hl).1, Nat.le_succ_of_le (h l hl).2⟩

theorem Slots.Within.set {σ : Slots} (h : Slots.Within start i σ) (hi : start ≤ i) (n : Nat) :
    Slots.Within start i (σ.set n (some i)) := by
  intro j hj
  rcases List.mem_or_eq_of_mem_set hj with hj | hj
  · exact h j hj
  · cases hj
    exact ⟨hi, by omega⟩

theorem invariant_within (start : Nat) :
    Invariant fun i σ _ => start ≤ i ∧ Slots.Within start i σ where
  empty h := h
  set h := ⟨Nat.le_succ_of_le h.1, h.2.succ⟩
  assertion h := h
  slot h := ⟨h.1, h.2.set h.1 _⟩
  seq h := h
  left h := h
  right h := h
  leave h := h
  round h := h

theorem Plan.matchFrom_within {p : Plan} {slots : Nat} {m : Match}
    (h : p.matchFrom slots b i t = some m) : m.Within i (i + t.length) := by
  have hp : i ≤ i ∧ Slots.Within i i (List.replicate slots none) :=
    ⟨Nat.le_refl i, Slots.within_replicate slots⟩
  obtain ⟨hs, hle, hstop, hσ⟩ := matchFrom_keeps (invariant_within i) hp h
  exact ⟨hs, hstop, hle, hσ⟩

theorem Match.group?_eq_some_iff {m : Match} {g first last : Nat} :
    m.group? g = some (first, last) ↔
      m.slots[2 * (g - 1)]?.join = some first ∧ m.slots[2 * (g - 1) + 1]?.join = some last := by
  simp only [group?]
  cases m.slots[2 * (g - 1)]?.join <;> cases m.slots[2 * (g - 1) + 1]?.join <;> simp

/-- A group lies within the match. -/
theorem Match.Within.group? {m : Match} (h : m.Within start i) {g first last : Nat}
    (hg : m.group? g = some (first, last)) : start ≤ first ∧ last ≤ m.stop := by
  obtain ⟨hfirst, hlast⟩ := group?_eq_some_iff.mp hg
  rw [Option.join_eq_some_iff] at hfirst hlast
  exact ⟨(h.slots first (List.mem_of_getElem? hfirst)).1,
    (h.slots last (List.mem_of_getElem? hlast)).2⟩

end OclScan
