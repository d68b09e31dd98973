import OclScan.Proofs.Pattern.Tree
import OclScan.Proofs.Pattern.Search

/-!
# Plans read what their trees do

The plan of a tree can be read, with what remains after it, exactly if the tree can be read so that
what remains can be read where it ends (`Tree.canRead_plan`). So a pattern matches at a place
exactly if the tree that its text spells can be read from there (`Pattern.matchAt?_isSome_iff`).
-/

namespace OclScan

open Condition (Pointwise sometimes times_sometimes sometimes_iff sometimes_congr)

variable {T U : Condition → Condition} {n : Nat} {r : List Plan} {b : Option Char} {x : List Char}

theorem Leads.succ (h : Leads n r b x) : Leads (n + 1) r b x := by
  induction h with
  | done => exact .done
  | empty _ ih => exact .empty ih
  | set hc _ ih => exact .set hc ih
  | assertion ha _ ih => exact .assertion ha ih
  | slot _ ih => exact .slot ih
  | seq _ ih => exact .seq ih
  | first _ ih => exact .first ih
  | second _ ih => exact .second ih
  | round _ ih => exact .round ih
  | leave _ ih => exact .leave ih

namespace Plan

/-- The plan reads what `T` says, and no more choices are left after it than before it. -/
structure ReadsAs (p : Plan) (T : Condition → Condition) : Prop where
  leads : ∀ {n r b x}, Leads n (p :: r) b x → T (Leads n r) b x
  canRead : ∀ {r b x}, T (CanRead r) b x → CanRead (p :: r) b x

namespace ReadsAs

variable {p q : Plan}

theorem congr (hp : p.ReadsAs T) (h : ∀ {k b x}, T k b x ↔ U k b x) : p.ReadsAs U :=
  ⟨fun hl => h.mp (hp.leads hl), fun hk => hp.canRead (h.mpr hk)⟩

theorem canRead_iff (h : p.ReadsAs T) (hT : Pointwise T) :
    CanRead (p :: r) b x ↔ T (CanRead r) b x :=
  ⟨fun ⟨n, hn⟩ => hT.mono (fun _ _ hl => ⟨n, hl⟩) (h.leads hn), h.canRead⟩

theorem empty : Plan.empty.ReadsAs fun k => k where
  leads := by rintro n r b x ⟨⟩; assumption
  canRead := fun ⟨n, h⟩ => ⟨n, .empty h⟩

theorem slot (k : Nat) : (Plan.slot k).ReadsAs fun k => k where
  leads := by rintro n r b x ⟨⟩; assumption
  canRead := fun ⟨n, h⟩ => ⟨n, .slot h⟩

theorem set (number : Nat) (s : CharSet) : (Plan.set number s).ReadsAs (Tree.set s).Then where
  leads := by rintro n r b x ⟨⟩; exact ⟨_, _, rfl, ‹_›, ‹_›⟩
  canRead := by rintro r b x ⟨c, y, rfl, hc, n, h⟩; exact ⟨n, .set hc h⟩

theorem assertion (a : Assertion) : (Plan.assertion a).ReadsAs (Tree.assertion a).Then where
  leads := by rintro n r b x ⟨⟩; exact ⟨‹_›, ‹_›⟩
  canRead := by rintro r b x ⟨ha, n, h⟩; exact ⟨n, .assertion ha h⟩

theorem seq (hp : p.ReadsAs T) (hq : q.ReadsAs U) (hT : Pointwise T) :
    (Plan.seq p q).ReadsAs fun k => T (U k) where
  leads := by
    rintro n r b x ⟨⟩
    exact hT.mono (fun _ _ => hq.leads) (hp.leads ‹_›)
  canRead h := by
    obtain ⟨n, h⟩ := hp.canRead (hT.mono (fun _ _ => hq.canRead) h)
    exact ⟨n, .seq h⟩

theorem alt (number : Nat) (hp : p.ReadsAs T) (hq : q.ReadsAs U) (hT : Pointwise T)
    (hU : Pointwise U) : (Plan.alt number p q).ReadsAs fun k b x => T k b x ∨ U k b x where
  leads := by
    rintro n r b x (_ | _)
    · exact .inl (hT.mono (fun _ _ => .succ) (hp.leads ‹_›))
    · exact .inr (hU.mono (fun _ _ => .succ) (hq.leads ‹_›))
  canRead := by
    rintro r b x (h | h)
    · obtain ⟨n, h⟩ := hp.canRead h
      exact ⟨n + 1, .first h⟩
    · obtain ⟨n, h⟩ := hq.canRead h
      exact ⟨n + 1, .second h⟩

theorem opt (number : Nat) (greedy : Bool) (hp : p.ReadsAs T) (hT : Pointwise T) :
    (Plan.opt number greedy p).ReadsAs fun k b x => T k b x ∨ k b x := by
  cases greedy with
  | true => exact hp.alt number .empty hT .id
  | false => exact (empty.alt number hp .id hT).congr or_comm

/-- By induction on the number of choices that are left: each round leaves fewer. -/
theorem loop (number : Nat) (greedy : Bool) (hp : p.ReadsAs T) (hT : Pointwise T) :
    (Plan.loop number greedy p).ReadsAs (sometimes T fun _ => True) where
  leads := by
    intro n r b x h
    induction n generalizing b x with
    | zero => cases h
    | succ n ih =>
      cases h with
      | round h =>
        have h := (sometimes_iff (P := fun _ => True) hT).mpr
          (.inr (hT.mono (fun _ _ => ih) (hp.leads h)))
        exact (hT.sometimes _).mono (fun _ _ => .succ) h
      | leave h => exact ⟨0, trivial, h.succ⟩
  canRead := by
    rintro r b x ⟨m, -, h⟩
    induction m generalizing b x with
    | zero =>
      obtain ⟨n, h⟩ := h
      exact ⟨n + 1, .leave h⟩
    | succ m ih =>
      obtain ⟨n, h⟩ := hp.canRead (hT.mono (fun _ _ => ih) h)
      exact ⟨n + 1, .round h⟩

end ReadsAs

end Plan

/-! ## Plans being built -/

/-- What is built reads what `T` says, whatever its numbers. -/
def Numbered.ReadsAs (make : Numbered Plan) (T : Condition → Condition) : Prop :=
  ∀ j, (make j).1.ReadsAs T

namespace Plan

variable {make last : Numbered Plan} {P : Nat → Prop}

theorem copies_readsAs (h : make.ReadsAs T) (hlast : last.ReadsAs (sometimes T P))
    (hT : Pointwise T) (n : Nat) :
    (copies make last n).ReadsAs (sometimes T fun m => n ≤ m ∧ P (m - n)) := by
  have hcopies : (copies make last n).ReadsAs fun k => Condition.times T n (sometimes T P k) := by
    induction n with
    | zero => exact hlast
    | succ n ih => exact fun j => (h j).seq (ih _) hT
  exact fun j => (hcopies j).congr (times_sometimes hT n)

theorem upTo_readsAs (greedy : Bool) (h : make.ReadsAs T) (hT : Pointwise T) (n : Nat) :
    (upTo greedy make n).ReadsAs (sometimes T (· ≤ n)) := by
  induction n with
  | zero =>
    refine fun j => ReadsAs.empty.congr fun {k b x} => ?_
    simp [sometimes, Condition.times]
  | succ n ih =>
    intro j
    refine (((h _).seq (ih _) hT).opt j greedy (hT.comp (hT.sometimes _))).congr fun {k b x} => ?_
    rw [sometimes_iff hT]
    simp [or_comm]

theorem oneOrMore_readsAs (greedy : Bool) (h : make.ReadsAs T) (hT : Pointwise T) :
    (oneOrMore greedy make).ReadsAs (sometimes T (0 < ·)) := by
  intro j
  refine ((h _).seq ((h _).loop j greedy hT) hT).congr fun {k b x} => ?_
  rw [sometimes_iff hT]
  simp

theorem anyNumber_readsAs (greedy mayBeEmpty : Bool) (h : make.ReadsAs T) (hT : Pointwise T) :
    (anyNumber greedy mayBeEmpty make).ReadsAs (sometimes T fun _ => True) := by
  intro j
  cases mayBeEmpty with
  | true =>
    refine ((oneOrMore_readsAs greedy h hT _).opt j greedy (hT.sometimes _)).congr fun {k b x} => ?_
    rw [sometimes_iff hT, sometimes_iff hT]
    simp [or_comm]
  | false => exact (h _).loop j greedy hT

theorem times_readsAs (greedy mayBeEmpty : Bool) (h : make.ReadsAs T) (hT : Pointwise T)
    (least : Nat) (most : Option Nat) :
    (times greedy mayBeEmpty make least most).ReadsAs (sometimes T (Tree.Allows least most)) := by
  intro j
  cases most with
  | some most =>
    refine (copies_readsAs h (upTo_readsAs greedy h hT _) hT least j).congr
      (sometimes_congr fun n => ?_)
    simp only [Tree.Allows, Option.some.injEq, forall_eq']
    omega
  | none =>
    cases least with
    | zero =>
      refine (anyNumber_readsAs greedy mayBeEmpty h hT j).congr (sometimes_congr ?_)
      simp [Tree.Allows]
    | succ least =>
      refine (copies_readsAs h (oneOrMore_readsAs greedy h hT) hT least j).congr
        (sometimes_congr fun n => ?_)
      simp only [Tree.Allows, reduceCtorEq, false_implies, implies_true, and_true]
      omega

end Plan

namespace Tree

/-- By induction on the tree. -/
theorem numbered_readsAs (t : Tree) : t.numbered.ReadsAs t.Then := by
  induction t with
  | empty => exact fun _ => .empty
  | set s => exact fun _ => .set _ s
  | assertion a => exact fun _ => .assertion a
  | group i t ih =>
    exact fun _ => (Plan.ReadsAs.slot _).seq ((ih _).seq (.slot _) t.pointwise_then) .id
  | seq t u iht ihu => exact fun _ => (iht _).seq (ihu _) t.pointwise_then
  | alt t u iht ihu => exact fun _ => (iht _).alt _ (ihu _) t.pointwise_then u.pointwise_then
  | times t least most greedy ih =>
    exact Plan.times_readsAs greedy t.mayBeEmpty ih t.pointwise_then least most

/-- The plan of a tree can be read from a place exactly if the tree can. -/
theorem canRead_plan (t : Tree) : CanRead [t.plan] b x ↔ t.Then (fun _ _ => True) b x := by
  have hnil : CanRead [] = fun _ _ => True := by
    funext b x
    exact eq_true .nil
  rw [plan, (t.numbered_readsAs 0).canRead_iff t.pointwise_then, hnil]

end Tree

namespace Pattern

variable {text : String} {p : Pattern}

/-- A pattern matches at a place exactly if the tree that its text spells can be read from there. -/
theorem matchAt?_isSome_iff (h : Pattern.read text = .ok p) : ∃ t, Tree.read text.toList = .ok t ∧
    ∀ c, (p.matchAt? c).isSome ↔ t.Then (fun _ _ => True) c.before c.rest := by
  rw [Pattern.read] at h
  cases ht : Tree.read text.toList with
  | error e =>
    rw [ht] at h
    cases h
  | ok t =>
    rw [ht] at h
    cases h
    refine ⟨t, rfl, fun c => ?_⟩
    rw [matchAt?, ← Plan.matchFrom_zero, Option.isSome_iff_ne_none, ne_eq,
      Plan.matchFrom_eq_none_iff, not_not, Tree.canRead_plan]

end Pattern

end OclScan
