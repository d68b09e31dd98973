import OclScan.Proofs.Pattern.Search

/-!
# Groups start before they end

A group may be entered again before it has ended anew, in a further round of a loop: the places
recorded for it are out of order until then. Reading what a way has left puts them in order
(`Plan.Orders`, `invariant_orders`), because the plan of a tree ends every group that it starts
(`Tree.numbered_orders`). So a group of a match starts no later than it ends
(`Pattern.group?_le`).
-/

namespace OclScan

/-- Group `g`, counted from 0, does not end before it starts. -/
def Slots.Ordered (g : Nat) (σ : Slots) : Prop :=
  ∀ first last, σ[2 * g]?.join = some first → σ[2 * g + 1]?.join = some last → first ≤ last

namespace Plan

/-- Group `g` is in order after `p`, whatever way `p` is read; `b` says that it is before. -/
def Orders (g : Nat) : Plan → Prop → Prop
  | empty, b => b
  | set _ _, b => b
  | assertion _, b => b
  | slot j, b => j = 2 * g + 1 ∨ j ≠ 2 * g ∧ b
  | seq p q, b => q.Orders g (p.Orders g b)
  | alt _ p q, b => p.Orders g b ∧ q.Orders g b
  | loop _ _ p, b => b ∧ p.Orders g b

/-- Group `g` is in order after all that is left to read. -/
def OrdersAll (g : Nat) : List Plan → Prop → Prop
  | [], b => b
  | p :: r, b => OrdersAll g r (p.Orders g b)

variable {g : Nat} {b b' : Prop}

theorem Orders.mono (p : Plan) (h : b → b') : p.Orders g b → p.Orders g b' := by
  induction p generalizing b b' with
  | empty => exact h
  | set n s => exact h
  | assertion a => exact h
  | slot j => exact Or.imp_right (And.imp_right h)
  | seq p q ihp ihq => exact ihq (ihp h)
  | alt n p q ihp ihq => exact And.imp (ihp h) (ihq h)
  | loop n greedy p ih => exact And.imp h (ih h)

theorem OrdersAll.mono {r : List Plan} (h : b → b') : OrdersAll g r b → OrdersAll g r b' := by
  induction r generalizing b b' with
  | nil => exact h
  | cons p r ih => exact ih (Orders.mono p h)

/-- A further round of a loop leaves a group in order that one round leaves so. -/
theorem Orders.round {p : Plan} (h : b ∧ p.Orders g b) :
    p.Orders g b ∧ p.Orders g (p.Orders g b) :=
  ⟨h.2, h.2.mono p fun _ => h.2⟩

end Plan

/-- A group that ends here is in order; other groups keep theirs, unless they start here. -/
theorem Slots.Ordered.set {g i j : Nat} {σ : Slots} (hσ : Slots.Within 0 i σ)
    (h : j = 2 * g + 1 ∨ j ≠ 2 * g ∧ σ.Ordered g) : Slots.Ordered g (σ.set j (some i)) := by
  intro first last hfirst hlast
  by_cases hj : j = 2 * g + 1
  · rw [List.getElem?_set_ne (by omega), Option.join_eq_some_iff] at hfirst
    rw [Option.join_eq_some_iff, hj, List.getElem?_set, if_pos rfl,
      Option.ite_none_right_eq_some] at hlast
    cases hlast.2
    exact (hσ first (List.mem_of_getElem? hfirst)).2
  · obtain ⟨hj', h⟩ := h.resolve_left hj
    rw [List.getElem?_set_ne hj'] at hfirst
    rw [List.getElem?_set_ne hj] at hlast
    exact h first last hfirst hlast

/-- What a way has left to read puts the group in order. -/
theorem invariant_orders (g : Nat) :
    Invariant fun i σ r => Slots.Within 0 i σ ∧ Plan.OrdersAll g r (σ.Ordered g) where
  empty h := h
  set h := ⟨h.1.succ, h.2⟩
  assertion h := h
  slot h := ⟨h.1.set (Nat.zero_le _) _, h.2.mono (Slots.Ordered.set h.1)⟩
  seq h := h
  left {_ _ _ _ _ r} h := ⟨h.1, Plan.OrdersAll.mono (r := r) And.left h.2⟩
  right {_ _ _ _ _ r} h := ⟨h.1, Plan.OrdersAll.mono (r := r) And.right h.2⟩
  leave {_ _ _ _ _ r} h := ⟨h.1, Plan.OrdersAll.mono (r := r) And.left h.2⟩
  round {_ _ _ _ _ r} h := ⟨h.1, Plan.OrdersAll.mono (r := r) Plan.Orders.round h.2⟩

/-! ## Plans of trees -/

/-- What is built leaves every group in order that is so before. -/
def Numbered.Orders (g : Nat) (make : Numbered Plan) : Prop :=
  ∀ n (b : Prop), b → (make n).1.Orders g b

namespace Plan

variable {g : Nat} {make last : Numbered Plan}

theorem copies_orders (h : Numbered.Orders g make) (hlast : Numbered.Orders g last) (n : Nat) :
    Numbered.Orders g (copies make last n) := by
  induction n with
  | zero => exact hlast
  | succ n ih => exact fun k b hb => ih _ _ (h k b hb)

theorem opt_orders {p : Plan} {b : Prop} (number : Nat) (greedy : Bool) (hb : b)
    (hp : p.Orders g b) : (opt number greedy p).Orders g b := by
  cases greedy with
  | true => exact ⟨hp, hb⟩
  | false => exact ⟨hb, hp⟩

theorem upTo_orders (greedy : Bool) (h : Numbered.Orders g make) (n : Nat) :
    Numbered.Orders g (upTo greedy make n) := by
  induction n with
  | zero => exact fun _ _ hb => hb
  | succ n ih => exact fun k b hb => opt_orders _ _ hb (ih _ _ (h _ b hb))

theorem oneOrMore_orders (greedy : Bool) (h : Numbered.Orders g make) :
    Numbered.Orders g (oneOrMore greedy make) := fun k b hb =>
  have hp := h (k + 1) b hb
  ⟨hp, hp.mono _ fun _ => hp⟩

theorem anyNumber_orders (greedy mayBeEmpty : Bool) (h : Numbered.Orders g make) :
    Numbered.Orders g (anyNumber greedy mayBeEmpty make) := by
  intro k b hb
  cases mayBeEmpty with
  | true => exact opt_orders _ _ hb (oneOrMore_orders greedy h _ b hb)
  | false => exact ⟨hb, h _ b hb⟩

theorem times_orders (greedy mayBeEmpty : Bool) (h : Numbered.Orders g make) (least : Nat)
    (most : Option Nat) : Numbered.Orders g (times greedy mayBeEmpty make least most) := by
  cases most with
  | some most => exact copies_orders h (upTo_orders greedy h _) least
  | none =>
    cases least with
    | zero => exact anyNumber_orders greedy mayBeEmpty h
    | succ least => exact copies_orders h (oneOrMore_orders greedy h) least

end Plan

/-- The plan of a tree ends every group that it starts. -/
theorem Tree.numbered_orders (g : Nat) (t : Tree) : Numbered.Orders g t.numbered := by
  induction t with
  | empty => exact fun _ _ hb => hb
  | set s => exact fun _ _ hb => hb
  | assertion a => exact fun _ _ hb => hb
  | group i t ih =>
    intro k b hb
    by_cases hi : i - 1 = g
    · exact .inl (by rw [hi])
    · exact .inr ⟨by omega, ih k _ (.inr ⟨by omega, hb⟩)⟩
  | seq t u iht ihu => exact fun k b hb => ihu _ _ (iht k b hb)
  | alt t u iht ihu => exact fun k b hb => ⟨iht _ b hb, ihu _ b hb⟩
  | times t least most greedy ih => exact Plan.times_orders greedy t.mayBeEmpty ih least most

namespace Pattern

variable {text : String} {p : Pattern}

theorem orders_of_read (h : Pattern.read text = .ok p) (g : Nat) {b : Prop} (hb : b) :
    p.plan.Orders g b := by
  rw [Pattern.read] at h
  cases ht : Tree.read text.toList with
  | error e =>
    rw [ht] at h
    cases h
  | ok t =>
    rw [ht] at h
    cases h
    exact t.numbered_orders g 0 b hb

/-- A group of a match starts no later than it ends. -/
theorem group?_le (h : Pattern.read text = .ok p) {c : Cursor} {m : Match}
    (hm : p.matchAt? c = some m) {g first last : Nat} (hg : m.group? g = some (first, last)) :
    first ≤ last := by
  have hnone : Slots.Ordered (g - 1) (List.replicate (2 * p.groups) none) := by
    intro first last hfirst
    have hmem := List.mem_of_getElem? (Option.join_eq_some_iff.mp hfirst)
    cases List.eq_of_mem_replicate hmem
  obtain ⟨hfirst, hlast⟩ := Match.group?_eq_some_iff.mp hg
  have hkeep := Plan.matchFrom_keeps (i := 0) (invariant_orders (g - 1))
    ⟨Slots.within_replicate _, orders_of_read h (g - 1) hnone⟩ hm
  exact hkeep.2.2.2 first last hfirst hlast

end Pattern

end OclScan
