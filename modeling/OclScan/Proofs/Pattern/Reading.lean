import OclScan.Pattern.Match

/-!
# What can be read

A remainder of a plan can be read at a place of the text if some way leads from there to its end
(`CanRead`). Remainders that cannot be read do not matter: two fronts that differ in such remainders
only (`Front.Alike`) stay so when they follow the same remainder (`followAll_plain`) and when they
read a character (`Front.Alike.step`).

A place is the character before it and the text after it.
-/

namespace OclScan

/-- What remains can be read to its end, with `n` choices on the way. -/
inductive Leads : Nat → List Plan → Option Char → List Char → Prop
  | done {n b t} : Leads n [] b t
  | empty {n r b t} : Leads n r b t → Leads n (.empty :: r) b t
  | set {n k s r b c t} : s.contains c = true → Leads n r (some c) t →
      Leads n (.set k s :: r) b (c :: t)
  | assertion {n a r b t} : a.holds b t.head? = true → Leads n r b t →
      Leads n (.assertion a :: r) b t
  | slot {n k r b t} : Leads n r b t → Leads n (.slot k :: r) b t
  | seq {n p q r b t} : Leads n (p :: q :: r) b t → Leads n (.seq p q :: r) b t
  | first {n k p q r b t} : Leads n (p :: r) b t → Leads (n + 1) (.alt k p q :: r) b t
  | second {n k p q r b t} : Leads n (q :: r) b t → Leads (n + 1) (.alt k p q :: r) b t
  | round {n k g p r b t} : Leads n (p :: .loop k g p :: r) b t →
      Leads (n + 1) (.loop k g p :: r) b t
  | leave {n k g p r b t} : Leads n r b t → Leads (n + 1) (.loop k g p :: r) b t

/-- What remains can be read to its end. -/
def CanRead (r : List Plan) (b : Option Char) (t : List Char) : Prop := ∃ n, Leads n r b t

theorem CanRead.nil {b : Option Char} {t : List Char} : CanRead [] b t := ⟨0, .done⟩

/-- A way that waits can read the text to its end. -/
def Thread.Open (th : Thread) : List Char → Prop
  | [] => False
  | c :: t => th.set.contains c = true ∧ CanRead th.rest (some c) t

theorem Thread.open_iff_canRead {start n : Nat} {s : CharSet} {r : List Plan} {σ : Slots}
    {b : Option Char} {t : List Char} :
    (Thread.mk start s r σ).Open t ↔ CanRead (.set n s :: r) b t := by
  cases t with
  | nil => exact ⟨False.elim, fun ⟨_, h⟩ => nomatch h⟩
  | cons c t =>
    constructor
    · rintro ⟨hc, n, h⟩
      exact ⟨n, .set hc h⟩
    · rintro ⟨n, h⟩
      cases h with
      | set hc h => exact ⟨hc, n, h⟩

/-! ## Fronts that differ in dead remainders -/

open Classical in
/-- The ways that wait and can read the text to its end. -/
noncomputable def openThreads (t : List Char) (ts : List Thread) : List Thread :=
  ts.filter fun th => th.Open t

@[simp] theorem openThreads_nil (t : List Char) : openThreads t [] = [] := rfl

theorem openThreads_cons_pos {t : List Char} {th : Thread} (h : th.Open t) (ts : List Thread) :
    openThreads t (th :: ts) = th :: openThreads t ts := by
  simp [openThreads, h]

theorem openThreads_cons_neg {t : List Char} {th : Thread} (h : ¬ th.Open t) (ts : List Thread) :
    openThreads t (th :: ts) = openThreads t ts := by
  simp [openThreads, h]

theorem openThreads_reverse (t : List Char) (ts : List Thread) :
    openThreads t ts.reverse = (openThreads t ts).reverse := by
  simp [openThreads, List.filter_reverse]

namespace Front

/-- Two fronts agree in all that can be read to its end. -/
structure Alike (b : Option Char) (t : List Char) (f g : Front) : Prop where
  threads : openThreads t f.threads = openThreads t g.threads
  seen : ∀ r, CanRead r b t → (r ∈ f.seen ↔ r ∈ g.seen)
  done : f.done = g.done

variable {b : Option Char} {t : List Char} {f g h : Front} {r : List Plan}

namespace Alike

theorem refl (f : Front) : Alike b t f f := ⟨rfl, fun _ _ => Iff.rfl, rfl⟩

theorem symm (h : Alike b t f g) : Alike b t g f :=
  ⟨h.threads.symm, fun r hr => (h.seen r hr).symm, h.done.symm⟩

theorem trans (h₁ : Alike b t f g) (h₂ : Alike b t g h) : Alike b t f h :=
  ⟨h₁.threads.trans h₂.threads, fun r hr => (h₁.seen r hr).trans (h₂.seen r hr),
    h₁.done.trans h₂.done⟩

theorem see (h : Alike b t f g) (r : List Plan) :
    Alike b t { f with seen := r :: f.seen } { g with seen := r :: g.seen } :=
  ⟨h.threads, fun s hs => by simp only [List.mem_cons, h.seen s hs], h.done⟩

theorem of_see (hr : ¬ CanRead r b t) : Alike b t f { f with seen := r :: f.seen } := by
  refine ⟨rfl, fun s hs => ?_, rfl⟩
  have hne : s ≠ r := fun e => hr (e ▸ hs)
  simp only [List.mem_cons, hne, false_or]

theorem wait (h : Alike b t f g) (th : Thread) : Alike b t (f.wait th) (g.wait th) := by
  refine ⟨?_, h.seen, h.done⟩
  by_cases hth : th.Open t
  · simp only [Front.wait, openThreads_cons_pos hth, h.threads]
  · simp only [Front.wait, openThreads_cons_neg hth, h.threads]

theorem of_wait {th : Thread} (hth : ¬ th.Open t) : Alike b t f (f.wait th) :=
  ⟨(openThreads_cons_neg hth _).symm, fun _ _ => Iff.rfl, rfl⟩

theorem finish (h : Alike b t f g) (m : Match) : Alike b t (f.finish m) (g.finish m) :=
  ⟨h.threads, h.seen, by simp only [Front.finish, h.done]⟩

end Alike

/-- `go` follows the remainder `r` and does not tell alike fronts apart. If `r` cannot be read, it
changes nothing that matters. -/
structure Plain (b : Option Char) (t : List Char) (r : List Plan) (go : Front → Front) : Prop where
  dead : ¬ CanRead r b t → ∀ f, Alike b t f (go f)
  alike : ∀ f g, Alike b t f g → Alike b t (go f) (go g)

namespace Plain

variable {go go' : Front → Front} {r' : List Plan}

theorem id (r : List Plan) : Plain b t r fun f => f := ⟨fun _ => .refl, fun _ _ h => h⟩

theorem mono (h : Plain b t r go) (hr : CanRead r b t → CanRead r' b t) : Plain b t r' go :=
  ⟨fun hd => h.dead fun hr' => hd (hr hr'), h.alike⟩

theorem comp (h : Plain b t r go) (h' : Plain b t r go') : Plain b t r fun f => go' (go f) :=
  ⟨fun hd f => (h.dead hd f).trans (h'.dead hd _), fun _ _ hfg => h'.alike _ _ (h.alike _ _ hfg)⟩

theorem visit (h : Plain b t r go) : Plain b t r fun f => f.visit r go := by
  have dead : ¬ CanRead r b t → ∀ f, Alike b t f (f.visit r go) := by
    intro hr f
    simp only [Front.visit]
    split
    · exact .refl f
    · exact (Alike.of_see hr).trans (h.dead hr _)
  refine ⟨dead, fun f g hfg => ?_⟩
  by_cases hr : CanRead r b t
  · have same : (f.done.isSome || f.seen.contains r) = (g.done.isSome || g.seen.contains r) := by
      rw [hfg.done, List.contains_eq_mem, List.contains_eq_mem,
        decide_eq_decide.mpr (hfg.seen r hr)]
    simp only [Front.visit, same]
    split
    · exact hfg
    · exact h.alike _ _ (hfg.see r)
  · exact ((dead hr f).symm.trans hfg).trans (dead hr g)

end Plain

end Front

open Front

variable {b : Option Char} {t : List Char} {start i : Nat}

/-- By induction on the plan: `next` may be any way to follow what remains. -/
theorem Plan.follow_plain (p : Plan) : ∀ {r : List Plan} {next : Slots → Front → Front},
    (∀ σ, Plain b t r (next σ)) →
    ∀ σ, Plain b t (p :: r) (p.follow start ⟨b, t.head?, i⟩ r next σ) := by
  induction p with
  | empty => exact fun h σ => (h σ).mono fun ⟨n, hr⟩ => ⟨n, .empty hr⟩
  | set n s =>
    intro r next _ σ
    have wait : Plain b t (.set n s :: r) (·.wait ⟨start, s, r, σ⟩) :=
      ⟨fun hd f => .of_wait fun ho => hd (Thread.open_iff_canRead.mp ho), fun f g h => h.wait _⟩
    exact wait.visit
  | assertion a =>
    intro r next h σ
    simp only [follow]
    split
    · rename_i ha
      exact (h σ).mono fun ⟨n, hr⟩ => ⟨n, .assertion ha hr⟩
    · exact .id _
  | slot k => exact fun h σ => (h _).mono fun ⟨n, hr⟩ => ⟨n, .slot hr⟩
  | seq p q ihp ihq => exact fun h σ => (ihp (ihq h) σ).mono fun ⟨n, hr⟩ => ⟨n, .seq hr⟩
  | alt n p q ihp ihq =>
    intro r next h σ
    have hp := (ihp h σ).mono fun ⟨m, hr⟩ => ⟨m + 1, Leads.first (k := n) (q := q) hr⟩
    have hq := (ihq h σ).mono fun ⟨m, hr⟩ => ⟨m + 1, Leads.second (k := n) (p := p) hr⟩
    exact (hp.comp hq).visit
  | loop n greedy p ih =>
    intro r next h σ
    have hp := (@ih (.loop n greedy p :: r) (fun _ f => f) (fun _ => .id _) σ).mono
      fun ⟨m, hr⟩ => ⟨m + 1, .round hr⟩
    have hl := (h σ).mono fun ⟨m, hr⟩ => ⟨m + 1, Leads.leave (k := n) (g := greedy) (p := p) hr⟩
    cases greedy with
    | true => exact (hp.comp hl).visit
    | false => exact (hl.comp hp).visit

theorem followAll_plain (r : List Plan) :
    ∀ σ, Plain b t r (followAll start ⟨b, t.head?, i⟩ r σ) := by
  induction r with
  | nil => exact fun σ => ⟨fun hd => absurd .nil hd, fun f g hfg => hfg.finish _⟩
  | cons p ps ih => exact fun σ => p.follow_plain ih σ

/-! ## Reading a character -/

theorem Front.read_of_done {c : Char} {spot : Spot} {f : Front} (h : f.done.isSome)
    (ts : List Thread) : f.read c spot ts = f := by
  cases ts with
  | nil => rfl
  | cons th ts => simp only [Front.read, h, if_true]

/-- Ways that cannot read on may be left out. -/
theorem Front.Alike.read {c : Char} (ts : List Thread) : ∀ {f g : Front}, Alike (some c) t f g →
    Alike (some c) t (f.read c ⟨some c, t.head?, i⟩ ts)
      (g.read c ⟨some c, t.head?, i⟩ (openThreads (c :: t) ts)) := by
  induction ts with
  | nil => exact fun h => h
  | cons th ts ih =>
    intro f g h
    by_cases hd : f.done.isSome
    · have hd' : g.done.isSome := h.done ▸ hd
      rw [Front.read_of_done hd, Front.read_of_done hd']
      exact h
    have hd' : ¬ g.done.isSome := h.done ▸ hd
    have plain : Plain (some c) t th.rest
        (followAll th.start ⟨some c, t.head?, i⟩ th.rest th.slots) := followAll_plain _ _
    by_cases ho : th.Open (c :: t)
    · simp only [openThreads_cons_pos ho, Front.read, hd, hd', ho.1, if_true, Bool.false_eq_true,
        if_false]
      exact ih (plain.alike _ _ h)
    · rw [openThreads_cons_neg ho]
      by_cases hc : th.set.contains c = true
      · have hr : ¬ CanRead th.rest (some c) t := fun hr => ho ⟨hc, hr⟩
        simp only [Front.read, hd, hc, if_true, Bool.false_eq_true, if_false]
        exact ih ((plain.dead hr f).symm.trans h)
      · simp only [Front.read, hd, hc, Bool.false_eq_true, if_false]
        exact ih h

theorem Front.Alike.step {c : Char} {f g : Front} (h : Alike b (c :: t) f g) :
    Alike (some c) t (f.step c ⟨some c, t.head?, i⟩) (g.step c ⟨some c, t.head?, i⟩) := by
  have hf := Alike.read (i := i) f.threads.reverse (Alike.refl (b := some c) (t := t) Front.empty)
  have hg := Alike.read (i := i) g.threads.reverse (Alike.refl (b := some c) (t := t) Front.empty)
  rw [openThreads_reverse, h.threads, ← openThreads_reverse] at hf
  exact hf.trans hg.symm

end OclScan
