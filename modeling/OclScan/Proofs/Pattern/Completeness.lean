import OclScan.Proofs.Pattern.Reading

/-!
# What can be read is found

A front is hopeful if a way is done or some way that waits can read the text to its end
(`Front.Hopeful`). Following a remainder that can be read makes a front hopeful
(`Front.Settled.followAll`), and a hopeful front stays so when it reads (`Front.Hopeful.step`).

A remainder that is still being followed blocks others that lead back to it. So what following a
remainder owes is said relative to the remainders seen before (`Owed`): a front is hopeful, or one
of those needs no more choices. The debt is paid when no remainder is being followed.
-/

namespace OclScan

variable {b : Option Char} {t : List Char} {start i : Nat}

namespace Front

/-- A way is done, or waits and can read the text to its end. -/
def Hopeful (t : List Char) (f : Front) : Prop := f.done.isSome ∨ ∃ th ∈ f.threads, th.Open t

/-- If `r` can be read, then `f` is hopeful, unless a remainder in `seen` needs no more choices. -/
def Owed (b : Option Char) (t : List Char) (seen : List (List Plan)) (f : Front)
    (r : List Plan) : Prop :=
  ∀ n, Leads n r b t → f.Hopeful t ∨ ∃ o ∈ seen, ∃ m ≤ n, Leads m o b t

theorem Owed.of_mem {seen : List (List Plan)} {f : Front} {r : List Plan} (h : r ∈ seen) :
    Owed b t seen f r := fun n hn => .inr ⟨r, h, n, by omega, hn⟩

theorem Owed.of_hopeful {seen : List (List Plan)} {f : Front} {r : List Plan} (h : f.Hopeful t) :
    Owed b t seen f r := fun _ _ => .inl h

/-- `f'` comes from `f` by following remainders. -/
structure Extends (b : Option Char) (t : List Char) (f f' : Front) : Prop where
  hope : f.Hopeful t → f'.Hopeful t
  seen : f.seen ⊆ f'.seen
  owed : ∀ s ∈ f'.seen, Owed b t f.seen f' s

variable {f f' f'' : Front} {r : List Plan}

theorem Extends.refl (f : Front) : Extends b t f f := ⟨fun h => h, fun _ h => h, fun _ => .of_mem⟩

/-- What a later front owes relative to `f'` it owes relative to `f`. -/
theorem Owed.trans (h : Extends b t f f') (hope : f'.Hopeful t → f''.Hopeful t)
    (ho : Owed b t f'.seen f'' r) : Owed b t f.seen f'' r := by
  intro n hn
  rcases ho n hn with h' | ⟨o, hof, m, hm, hl⟩
  · exact .inl h'
  rcases h.owed o hof m hl with h' | ⟨o', hof', m', hm', hl'⟩
  · exact .inl (hope h')
  · exact .inr ⟨o', hof', m', by omega, hl'⟩

theorem Owed.mono (hope : f'.Hopeful t → f''.Hopeful t) {seen : List (List Plan)}
    (ho : Owed b t seen f' r) : Owed b t seen f'' r := fun n hn => (ho n hn).imp_left hope

theorem Owed.lt {seen : List (List Plan)} {n : Nat} (ho : Owed b t seen f r) (hn : Leads n r b t) :
    f.Hopeful t ∨ ∃ o ∈ seen, ∃ m < n + 1, Leads m o b t :=
  (ho n hn).imp_right fun ⟨o, hof, m, hm, hl⟩ => ⟨o, hof, m, by omega, hl⟩

theorem Extends.trans (h : Extends b t f f') (h' : Extends b t f' f'') : Extends b t f f'' :=
  ⟨fun hf => h'.hope (h.hope hf), fun _ hs => h'.seen (h.seen hs),
    fun s hs => .trans h h'.hope (h'.owed s hs)⟩

/-- A visit pays for `r` if each way to read `r` goes on, with fewer choices, to what the visit
pays for. -/
theorem Extends.visit {go : Front → Front}
    (h : Extends b t { f with seen := r :: f.seen } (go { f with seen := r :: f.seen }))
    (hr : ∀ n, Leads n r b t → (go { f with seen := r :: f.seen }).Hopeful t ∨
      ∃ o ∈ r :: f.seen, ∃ m < n, Leads m o b t) :
    Extends b t f (f.visit r go) ∧ Owed b t f.seen (f.visit r go) r := by
  simp only [Front.visit]
  split
  · rename_i hb
    refine ⟨.refl f, ?_⟩
    rcases Bool.or_eq_true_iff.mp hb with hd | hs
    · exact .of_hopeful (.inl hd)
    · exact .of_mem (List.contains_iff_mem.mp hs)
  -- a way from `r` back to `r` can be cut out, so that fewer choices remain
  have paid : Owed b t f.seen (go { f with seen := r :: f.seen }) r := by
    intro n
    induction n using Nat.strongRecOn with
    | ind n ih =>
      intro hn
      rcases hr n hn with h' | ⟨o, ho, m, hm, hl⟩
      · exact .inl h'
      rcases List.mem_cons.mp ho with rfl | ho
      · rcases ih m hm hl with h' | ⟨o', ho', m', hm', hl'⟩
        · exact .inl h'
        · exact .inr ⟨o', ho', m', by omega, hl'⟩
      · exact .inr ⟨o, ho, m, by omega, hl⟩
  refine ⟨⟨h.hope, fun s hs => h.seen (List.mem_cons_of_mem _ hs), fun s hs n hn => ?_⟩, paid⟩
  rcases h.owed s hs n hn with h' | ⟨o, ho, m, hm, hl⟩
  · exact .inl h'
  rcases List.mem_cons.mp ho with rfl | ho
  · rcases paid m hl with h' | ⟨o', ho', m', hm', hl'⟩
    · exact .inl h'
    · exact .inr ⟨o', ho', m', by omega, hl'⟩
  · exact .inr ⟨o, ho, m, hm, hl⟩

end Front

open Front

/-- By induction on the plan. `base` are the loops around the plan, whose rounds end where they come
back to them. -/
theorem Plan.follow_extends (p : Plan) :
    ∀ {base : List (List Plan)} {r : List Plan} {next : Slots → Front → Front},
    (∀ σ f, base ⊆ f.seen → Extends b t f (next σ f) ∧ Owed b t f.seen (next σ f) r) →
    ∀ σ f, base ⊆ f.seen → Extends b t f (p.follow start ⟨b, t.head?, i⟩ r next σ f) ∧
      Owed b t f.seen (p.follow start ⟨b, t.head?, i⟩ r next σ f) (p :: r) := by
  induction p with
  | empty =>
    intro base r next h σ f hf
    refine ⟨(h σ f hf).1, fun n hn => ?_⟩
    cases hn with
    | empty hn => exact (h σ f hf).2 n hn
  | set k s =>
    intro base r next _ σ f _
    have wait : ∀ f : Front, Extends b t f (f.wait ⟨start, s, r, σ⟩) := fun f =>
      ⟨fun h => h.imp_right fun ⟨th, hth, ho⟩ => ⟨th, List.mem_cons_of_mem _ hth, ho⟩,
        fun _ h => h, fun _ => .of_mem⟩
    refine Extends.visit (wait _) fun n hn => .inl (.inr ?_)
    exact ⟨_, List.mem_cons_self, Thread.open_iff_canRead.mpr ⟨n, hn⟩⟩
  | assertion a =>
    intro base r next h σ f hf
    simp only [follow]
    split
    · refine ⟨(h σ f hf).1, fun n hn => ?_⟩
      cases hn with
      | assertion _ hn => exact (h σ f hf).2 n hn
    · rename_i ha
      refine ⟨.refl f, fun n hn => ?_⟩
      cases hn with
      | assertion ha' _ => exact absurd ha' ha
  | slot k =>
    intro base r next h σ f hf
    refine ⟨(h _ f hf).1, fun n hn => ?_⟩
    cases hn with
    | slot hn => exact (h _ f hf).2 n hn
  | seq p q ihp ihq =>
    intro base r next h σ f hf
    have hp := ihp (ihq h) σ f hf
    refine ⟨hp.1, fun n hn => ?_⟩
    cases hn with
    | seq hn => exact hp.2 n hn
  | alt k p q ihp ihq =>
    intro base r next h σ f hf
    have hf₁ : base ⊆ ({ f with seen := (alt k p q :: r) :: f.seen } : Front).seen :=
      fun _ hs => List.mem_cons_of_mem _ (hf hs)
    have h₁ := ihp h σ _ hf₁
    have h₂ := ihq h σ _ fun _ hs => h₁.1.seen (hf₁ hs)
    refine Extends.visit (h₁.1.trans h₂.1) fun n hn => ?_
    cases hn with
    | first hn => exact (Owed.mono h₂.1.hope h₁.2).lt hn
    | second hn => exact (Owed.trans h₁.1 h₂.1.hope h₂.2).lt hn
  | loop k greedy p ih =>
    intro base r next h σ f hf
    have hf₁ : base ⊆ ({ f with seen := (loop k greedy p :: r) :: f.seen } : Front).seen :=
      fun _ hs => List.mem_cons_of_mem _ (hf hs)
    -- the loop counts among what is seen while a round is followed
    have round := @ih ((loop k greedy p :: r) :: base) (loop k greedy p :: r) (fun _ f => f)
      fun _ g hg => ⟨.refl g, .of_mem (hg List.mem_cons_self)⟩
    cases greedy with
    | true =>
      have h₁ := round σ { f with seen := (loop k true p :: r) :: f.seen } (by simpa using hf₁)
      have h₂ := h σ _ fun _ hs => h₁.1.seen (hf₁ hs)
      refine Extends.visit (h₁.1.trans h₂.1) fun n hn => ?_
      cases hn with
      | round hn => exact (Owed.mono h₂.1.hope h₁.2).lt hn
      | leave hn => exact (Owed.trans h₁.1 h₂.1.hope h₂.2).lt hn
    | false =>
      have h₁ := h σ { f with seen := (loop k false p :: r) :: f.seen } hf₁
      have h₂ := round σ _ (by
        simp only [List.cons_subset]
        exact ⟨h₁.1.seen List.mem_cons_self, fun _ hs => h₁.1.seen (hf₁ hs)⟩)
      refine Extends.visit (h₁.1.trans h₂.1) fun n hn => ?_
      cases hn with
      | round hn => exact (Owed.trans h₁.1 h₂.1.hope h₂.2).lt hn
      | leave hn => exact (Owed.mono h₂.1.hope h₁.2).lt hn

theorem followAll_extends (r : List Plan) : ∀ σ f,
    Extends b t f (followAll start ⟨b, t.head?, i⟩ r σ f) ∧
      Owed b t f.seen (followAll start ⟨b, t.head?, i⟩ r σ f) r := by
  induction r with
  | nil =>
    intro σ f
    have hd : (f.finish ⟨start, i, σ⟩).done.isSome := by cases h : f.done <;> simp [finish, h]
    exact ⟨⟨fun _ => .inl hd, fun _ h => h, fun _ => .of_mem⟩, .of_hopeful (.inl hd)⟩
  | cons p ps ih =>
    exact fun σ f =>
      @p.follow_extends b t start i [] ps _ (fun σ f _ => ih σ f) σ f (List.nil_subset _)

namespace Front

/-- No remainder is being followed, and all that were are paid for. -/
def Settled (b : Option Char) (t : List Char) (f : Front) : Prop :=
  ∀ s ∈ f.seen, CanRead s b t → f.Hopeful t

variable {f : Front}

theorem Settled.owed {g : Front} {r : List Plan} (h : f.Settled b t)
    (hope : f.Hopeful t → g.Hopeful t) (ho : Owed b t f.seen g r) (hr : CanRead r b t) :
    g.Hopeful t := by
  obtain ⟨n, hn⟩ := hr
  rcases ho n hn with h' | ⟨o, hof, m, -, hl⟩
  · exact h'
  · exact hope (h o hof ⟨m, hl⟩)

theorem Settled.followAll (h : f.Settled b t) (r : List Plan) (σ : Slots) :
    (followAll start ⟨b, t.head?, i⟩ r σ f).Settled b t := by
  have hx := (@followAll_extends b t start i r σ f).1
  exact fun s hs hr => h.owed hx.hope (hx.owed s hs) hr

theorem Settled.hopeful_followAll (h : f.Settled b t) {r : List Plan} (hr : CanRead r b t)
    (σ : Slots) : (OclScan.followAll start ⟨b, t.head?, i⟩ r σ f).Hopeful t := by
  have hx := @followAll_extends b t start i r σ f
  exact h.owed hx.1.hope hx.2 hr

/-- By induction on the ways that wait. -/
theorem Settled.hopeful_read {c : Char} (ts : List Thread) : ∀ {f : Front}, f.Settled (some c) t →
    (f.Hopeful t ∨ ∃ th ∈ ts, th.Open (c :: t)) →
    (f.read c ⟨some c, t.head?, i⟩ ts).Hopeful t := by
  induction ts with
  | nil => exact fun _ h => h.elim (fun h => h) (by simp)
  | cons th ts ih =>
    intro f hs h
    simp only [read]
    split
    · rename_i hd
      exact .inl hd
    by_cases hc : th.set.contains c = true
    · simp only [hc, if_true]
      refine ih (hs.followAll _ _) ?_
      rcases h with h | ⟨u, hu, ho⟩
      · exact .inl ((followAll_extends th.rest th.slots f).1.hope h)
      rcases List.mem_cons.mp hu with rfl | hu
      · exact .inl (hs.hopeful_followAll ho.2 _)
      · exact .inr ⟨u, hu, ho⟩
    · simp only [hc, Bool.false_eq_true, if_false]
      refine ih hs ?_
      rcases h with h | ⟨u, hu, ho⟩
      · exact .inl h
      rcases List.mem_cons.mp hu with rfl | hu
      · exact absurd ho.1 hc
      · exact .inr ⟨u, hu, ho⟩

theorem settled_empty : empty.Settled b t := fun _ h => nomatch h

theorem Hopeful.step {c : Char} (h : ∃ th ∈ f.threads, th.Open (c :: t)) :
    (f.step c ⟨some c, t.head?, i⟩).Hopeful t := by
  obtain ⟨th, hth, ho⟩ := h
  exact settled_empty.hopeful_read _ (.inr ⟨th, List.mem_reverse.mpr hth, ho⟩)

end Front

end OclScan
