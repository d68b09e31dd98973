import Mathlib.Data.List.Sort
import Mathlib.Data.String.Basic
import OclScan.Json.Value

/-!
# Members of an object

Members that are set one at a time stay in ascending order of their keys (`ascending_setMember`), so
they are known by which members there are (`Ascending.ext`). Two members with distinct keys may be
set in either order (`setMember_comm`), and of two with one key the later counts
(`setMember_setMember`); so a member changes nothing if its key is set again later
(`setMembers_cons_of_mem`). Members in ascending order are kept as they are
(`Ascending.setMembers_eq`).
-/

namespace OclScan.Json

/-- Members stand in ascending order of their keys, each key once. -/
def Ascending (ms : List (String × Value)) : Prop := ms.Pairwise fun m m' => m.1 < m'.1

/-- Sets members one after another. -/
def setMembers (ms news : List (String × Value)) : List (String × Value) :=
  news.foldl (fun ms m => setMember m.1 m.2 ms) ms

variable {k k' : String} {v w : Value} {ms ns : List (String × Value)}

theorem ascending_cons_iff :
    Ascending ((k, v) :: ms) ↔ (∀ m ∈ ms, k < m.1) ∧ Ascending ms :=
  List.pairwise_cons

/-- Members in ascending order are known by which there are. -/
theorem Ascending.ext (h : Ascending ms) (h' : Ascending ns)
    (heq : ∀ k v, (k, v) ∈ ms ↔ (k, v) ∈ ns) : ms = ns := by
  have : Std.Irrefl fun m m' : String × Value => m.1 < m'.1 := ⟨fun _ => lt_irrefl _⟩
  have : Std.Antisymm fun m m' : String × Value => m.1 < m'.1 :=
    ⟨fun _ _ hlt hgt => absurd hlt hgt.asymm⟩
  exact h.eq_of_mem_iff h' fun (k, v) => heq k v

/-! ## One member -/

theorem not_mem_of_forall_lt (h : ∀ m ∈ ms, k < m.1) : (k, w) ∉ ms :=
  fun hmem => lt_irrefl k (h _ hmem)

theorem mem_setMember (h : Ascending ms) :
    (k', w) ∈ setMember k v ms ↔ if k' = k then w = v else (k', w) ∈ ms := by
  fun_induction setMember k v ms with
  | case1 =>
    rw [List.mem_singleton, Prod.mk.injEq]
    split <;> simp_all
  | case2 k₀ w₀ ms hlt =>
    have hnot : (k, w) ∉ (k₀, w₀) :: ms :=
      not_mem_of_forall_lt (List.forall_mem_cons.mpr
        ⟨hlt, fun m hm => hlt.trans ((ascending_cons_iff.mp h).1 m hm)⟩)
    rw [List.mem_cons, Prod.mk.injEq]
    split
    · subst k'
      exact ⟨fun hmem => (hmem.resolve_right hnot).2, fun hw => .inl ⟨rfl, hw⟩⟩
    · exact or_iff_right fun heq => absurd heq.1 ‹_›
  | case3 w₀ ms hlt =>
    have hnot : (k, w) ∉ ms := not_mem_of_forall_lt (ascending_cons_iff.mp h).1
    rw [List.mem_cons, List.mem_cons, Prod.mk.injEq, Prod.mk.injEq]
    split
    · subst k'
      exact ⟨fun hmem => (hmem.resolve_right hnot).2, fun hw => .inl ⟨rfl, hw⟩⟩
    · rw [or_iff_right fun heq => absurd heq.1 ‹_›, or_iff_right fun heq => absurd heq.1 ‹_›]
  | case4 k₀ w₀ ms hlt hne ih =>
    rw [List.mem_cons, List.mem_cons, Prod.mk.injEq, ih (ascending_cons_iff.mp h).2]
    split
    · subst k'
      exact or_iff_right fun heq => hne heq.1
    · rfl

theorem of_mem_setMember {m : String × Value} (h : m ∈ setMember k v ms) : m = (k, v) ∨ m ∈ ms := by
  fun_induction setMember k v ms with
  | case1 => exact .inl (List.mem_singleton.mp h)
  | case2 => exact List.mem_cons.mp h
  | case3 => exact (List.mem_cons.mp h).imp_right (List.mem_cons_of_mem _)
  | case4 k₀ w₀ ms hlt hne ih =>
    rcases List.mem_cons.mp h with rfl | h
    · exact .inr List.mem_cons_self
    · exact (ih h).imp_right (List.mem_cons_of_mem _)

theorem ascending_setMember (h : Ascending ms) : Ascending (setMember k v ms) := by
  fun_induction setMember k v ms with
  | case1 => exact List.pairwise_singleton _ _
  | case2 k₀ w₀ ms hlt =>
    refine ascending_cons_iff.mpr ⟨List.forall_mem_cons.mpr ⟨hlt, fun m hm => ?_⟩, h⟩
    exact hlt.trans ((ascending_cons_iff.mp h).1 m hm)
  | case3 w₀ ms hlt => exact ascending_cons_iff.mpr (ascending_cons_iff.mp h)
  | case4 k₀ w₀ ms hlt hne ih =>
    obtain ⟨hafter, hms⟩ := ascending_cons_iff.mp h
    refine ascending_cons_iff.mpr ⟨fun m hm => ?_, ih hms⟩
    rcases of_mem_setMember hm with rfl | hm
    · exact lt_of_le_of_ne (not_lt.mp hlt) (Ne.symm hne)
    · exact hafter m hm

theorem setMember_comm (h : Ascending ms) (hne : k ≠ k') :
    setMember k v (setMember k' w ms) = setMember k' w (setMember k v ms) := by
  have hk := ascending_setMember (k := k) (v := v) h
  have hk' := ascending_setMember (k := k') (v := w) h
  refine (ascending_setMember hk').ext (ascending_setMember hk) fun l u => ?_
  rw [mem_setMember hk', mem_setMember hk, mem_setMember h, mem_setMember h]
  split
  · subst l
    rw [if_neg hne]
  · rfl

theorem setMember_setMember (h : Ascending ms) :
    setMember k v (setMember k w ms) = setMember k v ms := by
  have hw := ascending_setMember (k := k) (v := w) h
  refine (ascending_setMember hw).ext (ascending_setMember h) fun l u => ?_
  rw [mem_setMember hw, mem_setMember h, mem_setMember h]
  split <;> rfl

/-- A member whose key comes after all others stands at the end. -/
theorem setMember_eq_append (h : ∀ m ∈ ms, m.1 < k) : setMember k v ms = ms ++ [(k, v)] := by
  induction ms with
  | nil => rfl
  | cons m ms ih =>
    obtain ⟨hm, hms⟩ := List.forall_mem_cons.mp h
    rw [setMember, if_neg hm.asymm, if_neg hm.ne', ih hms]
    rfl

/-! ## All members -/

theorem ascending_setMembers (h : Ascending ms) : Ascending (setMembers ms ns) := by
  induction ns generalizing ms with
  | nil => exact h
  | cons n ns ih => exact ih (ascending_setMember h)

theorem of_mem_setMembers {m : String × Value} (h : m ∈ setMembers ms ns) : m ∈ ms ∨ m ∈ ns := by
  induction ns generalizing ms with
  | nil => exact .inl h
  | cons n ns ih =>
    rcases ih h with h | h
    · rcases of_mem_setMember h with rfl | h
      · exact .inr List.mem_cons_self
      · exact .inl h
    · exact .inr (List.mem_cons_of_mem _ h)

theorem setMembers_append (ms ns ns' : List (String × Value)) :
    setMembers ms (ns ++ ns') = setMembers (setMembers ms ns) ns' :=
  List.foldl_append

/-- Neighbours with distinct keys may change places. -/
theorem setMembers_swap (h : Ascending ms) (hne : k ≠ k') :
    setMembers ms ((k, v) :: (k', w) :: ns) = setMembers ms ((k', w) :: (k, v) :: ns) :=
  congrArg (setMembers · ns) (setMember_comm h hne.symm)

/-- A member is overridden by a later one with its key. By induction on the members up to the later
one, each of which changes places with it. -/
theorem setMembers_cons_of_mem (h : Ascending ms) (hmem : k ∈ ns.map Prod.fst) :
    setMembers ms ((k, v) :: ns) = setMembers ms ns := by
  induction ns generalizing ms with
  | nil => exact absurd hmem List.not_mem_nil
  | cons n ns ih =>
    obtain ⟨k', w⟩ := n
    by_cases hk : k = k'
    · subst k'
      exact congrArg (setMembers · ns) (setMember_setMember h)
    · rw [setMembers_swap h hk]
      exact ih (ascending_setMember h) ((List.mem_cons.mp hmem).resolve_left hk)

/-- Members in ascending order are kept as they are. -/
theorem Ascending.setMembers_eq (h : Ascending (ms ++ ns)) : setMembers ms ns = ms ++ ns := by
  induction ns generalizing ms with
  | nil => exact (List.append_nil ms).symm
  | cons n ns ih =>
    have hlast : setMember n.1 n.2 ms = ms ++ [n] :=
      setMember_eq_append fun m hm => (List.pairwise_append.mp h).2.2 m hm n List.mem_cons_self
    rw [List.append_cons] at h ⊢
    rw [← ih h, ← hlast]
    rfl

end OclScan.Json
