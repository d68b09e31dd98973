import Mathlib.Data.List.Induction
import Mathlib.Data.List.Sort
import OclScan.Dump.Summary

/-!
# Counts of kinds

Counts hold one entry for each kind that has been counted, in the order of kinds (`IsTally`), so
they are known by the number that they give for each kind (`IsTally.ext`). Counting one more token
adds one to the number of its kind (`countFor_countOne`) and one to the sum (`total_countOne`). So
the counts of a list give how often each kind occurs in it (`mem_countKinds`), in whatever order
(`countKinds_perm`).
-/

namespace OclScan

namespace Kind

theorem mem_all (k : Kind) : k ∈ all := by
  cases k <;> decide

theorem rank_inj {k k' : Kind} (h : k.rank = k'.rank) : k = k' :=
  (List.idxOf_inj (mem_all k)).mp h

end Kind

namespace Dump

/-- Entries stand in the order of their kinds. -/
def Before (e e' : Kind × Nat) : Prop := e.1.rank < e'.1.rank

instance : Std.Irrefl Before := ⟨fun _ => Nat.lt_irrefl _⟩

instance : Std.Antisymm Before := ⟨fun _ _ hlt hgt => absurd hlt (Nat.lt_asymm hgt)⟩

/-- Entries in order, none of them zero. -/
structure IsTally (counts : List (Kind × Nat)) : Prop where
  ordered : counts.Pairwise Before
  pos : ∀ e ∈ counts, 0 < e.2

/-- The number that counts give for a kind, which is zero without an entry. -/
def countFor (k : Kind) : List (Kind × Nat) → Nat
  | [] => 0
  | (k', n) :: counts => if k = k' then n else countFor k counts

theorem countFor_eq_zero {k : Kind} {m : List (Kind × Nat)} (h : ∀ e ∈ m, e.1 ≠ k) :
    countFor k m = 0 := by
  induction m with
  | nil => rfl
  | cons e m ih =>
    obtain ⟨he, hm⟩ := List.forall_mem_cons.mp h
    rw [countFor, if_neg (Ne.symm he), ih hm]

namespace IsTally

variable {k k' : Kind} {n : Nat} {m m' : List (Kind × Nat)}

theorem nil : IsTally [] := ⟨.nil, nofun⟩

theorem cons_iff :
    IsTally ((k, n) :: m) ↔ (∀ e ∈ m, k.rank < e.1.rank) ∧ 0 < n ∧ IsTally m :=
  ⟨fun ⟨ho, hp⟩ => ⟨(List.pairwise_cons.mp ho).1, hp _ List.mem_cons_self,
      (List.pairwise_cons.mp ho).2, fun e he => hp e (List.mem_cons_of_mem _ he)⟩,
    fun ⟨hk, hn, ho, hp⟩ => ⟨List.pairwise_cons.mpr ⟨hk, ho⟩, List.forall_mem_cons.mpr ⟨hn, hp⟩⟩⟩

/-- Before the first entry of counts there is nothing. -/
theorem countFor_eq_zero_of_lt (h : ∀ e ∈ m, k.rank < e.1.rank) : countFor k m = 0 := by
  refine countFor_eq_zero fun e he hk => ?_
  have hlt := h e he
  rw [hk] at hlt
  exact Nat.lt_irrefl _ hlt

theorem mem_iff (h : IsTally m) : (k, n) ∈ m ↔ 0 < n ∧ countFor k m = n := by
  induction m with
  | nil =>
    rw [countFor]
    exact ⟨nofun, fun ⟨hn, h0⟩ => absurd h0 (Nat.ne_of_lt hn)⟩
  | cons e m ih =>
    obtain ⟨k', n'⟩ := e
    obtain ⟨hlt, hn', hm⟩ := cons_iff.mp h
    rw [List.mem_cons, Prod.mk.injEq, ih hm, countFor]
    split
    · rename_i hk
      subst hk
      rw [countFor_eq_zero_of_lt hlt]
      constructor
      · rintro (⟨-, rfl⟩ | ⟨hn, hzero⟩)
        · exact ⟨hn', rfl⟩
        · exact absurd hzero (Nat.ne_of_lt hn)
      · exact fun ⟨_, heq⟩ => .inl ⟨rfl, heq.symm⟩
    · rename_i hk
      exact or_iff_right fun hkn => hk hkn.1

/-- Counts that give the same numbers are the same. -/
theorem ext (h : IsTally m) (h' : IsTally m') (heq : ∀ k, countFor k m = countFor k m') :
    m = m' := by
  refine h.ordered.eq_of_mem_iff h'.ordered fun (k, n) => ?_
  rw [h.mem_iff, h'.mem_iff, heq]

end IsTally

/-! ## One more token -/

variable {k k' : Kind} {m : List (Kind × Nat)}

/-- Counting one more token adds no kind but its own. -/
theorem mem_countOne {e : Kind × Nat} (h : e ∈ countOne k m) : e.1 = k ∨ ∃ e' ∈ m, e.1 = e'.1 := by
  fun_induction countOne k m with
  | case1 =>
    rw [List.mem_singleton.mp h]
    exact .inl rfl
  | case2 n counts =>
    rcases List.mem_cons.mp h with rfl | h
    · exact .inl rfl
    · exact .inr ⟨e, List.mem_cons_of_mem _ h, rfl⟩
  | case3 k' n counts hne hlt =>
    rcases List.mem_cons.mp h with rfl | h
    · exact .inl rfl
    · exact .inr ⟨e, h, rfl⟩
  | case4 k' n counts hne hge ih =>
    rcases List.mem_cons.mp h with rfl | h
    · exact .inr ⟨_, List.mem_cons_self, rfl⟩
    · exact (ih h).imp_right fun ⟨e', he', heq⟩ => ⟨e', List.mem_cons_of_mem _ he', heq⟩

theorem isTally_countOne (h : IsTally m) : IsTally (countOne k m) := by
  fun_induction countOne k m with
  | case1 => exact IsTally.cons_iff.mpr ⟨nofun, Nat.one_pos, .nil⟩
  | case2 n counts =>
    obtain ⟨hlt, -, hm⟩ := IsTally.cons_iff.mp h
    exact IsTally.cons_iff.mpr ⟨hlt, Nat.succ_pos n, hm⟩
  | case3 k' n counts hne hlt =>
    obtain ⟨hafter, -, -⟩ := IsTally.cons_iff.mp h
    refine IsTally.cons_iff.mpr ⟨List.forall_mem_cons.mpr ⟨hlt, fun e he => ?_⟩, Nat.one_pos, h⟩
    exact Nat.lt_trans hlt (hafter e he)
  | case4 k' n counts hne hge ih =>
    obtain ⟨hafter, hn, hm⟩ := IsTally.cons_iff.mp h
    have hgt : k'.rank < k.rank :=
      Nat.lt_of_le_of_ne (Nat.le_of_not_lt hge) fun heq => hne (Kind.rank_inj heq).symm
    refine IsTally.cons_iff.mpr ⟨fun e he => ?_, hn, ih hm⟩
    obtain hk | ⟨e', he', hk⟩ := mem_countOne he
    · rwa [hk]
    · rw [hk]
      exact hafter e' he'

theorem countFor_countOne (h : IsTally m) :
    countFor k' (countOne k m) = countFor k' m + if k' = k then 1 else 0 := by
  fun_induction countOne k m with
  | case1 => simp [countFor]
  | case2 n counts =>
    simp only [countFor]
    split <;> rfl
  | case3 k₀ n counts hne hlt =>
    obtain ⟨hafter, -, -⟩ := IsTally.cons_iff.mp h
    rw [countFor]
    split
    · rename_i hk
      subst hk
      rw [IsTally.countFor_eq_zero_of_lt (List.forall_mem_cons.mpr
        ⟨hlt, fun e he => Nat.lt_trans hlt (hafter e he)⟩)]
    · rfl
  | case4 k₀ n counts hne hge ih =>
    rw [countFor, countFor, ih (IsTally.cons_iff.mp h).2.2]
    split
    · rename_i hk
      rw [hk, if_neg (Ne.symm hne), Nat.add_zero]
    · rfl

theorem total_countOne (k : Kind) (m : List (Kind × Nat)) :
    total (countOne k m) = total m + 1 := by
  fun_induction countOne k m with
  | case1 => rfl
  | case2 n counts =>
    show n + 1 + total counts = n + total counts + 1
    omega
  | case3 k' n counts hne hlt => exact Nat.add_comm _ _
  | case4 k' n counts hne hge ih =>
    show n + total (countOne k counts) = n + total counts + 1
    rw [ih, Nat.add_assoc]

/-! ## Lists of tokens -/

variable {ts us : List Token}

theorem countKinds_concat (ts : List Token) (t : Token) :
    countKinds (ts ++ [t]) = countOne t.kind (countKinds ts) := by
  rw [countKinds, List.foldl_append]
  rfl

theorem isTally_countKinds (ts : List Token) : IsTally (countKinds ts) := by
  induction ts using List.reverseRecOn with
  | nil => exact .nil
  | append_singleton ts t ih =>
    rw [countKinds_concat]
    exact isTally_countOne ih

theorem countFor_countKinds (k : Kind) (ts : List Token) :
    countFor k (countKinds ts) = (ts.map Token.kind).count k := by
  induction ts using List.reverseRecOn with
  | nil => rfl
  | append_singleton ts t ih =>
    rw [countKinds_concat, countFor_countOne (isTally_countKinds ts), ih, List.map_append,
      List.count_append, List.map_singleton, List.count_singleton]
    simp only [beq_iff_eq, eq_comm (a := k)]

theorem total_countKinds (ts : List Token) : total (countKinds ts) = ts.length := by
  induction ts using List.reverseRecOn with
  | nil => rfl
  | append_singleton ts t ih =>
    rw [countKinds_concat, total_countOne, ih, List.length_append, List.length_singleton]

/-- The entries of the counts are the kinds that occur, each with the number of its tokens. -/
theorem mem_countKinds {n : Nat} :
    (k, n) ∈ countKinds ts ↔ k ∈ ts.map Token.kind ∧ (ts.map Token.kind).count k = n := by
  rw [(isTally_countKinds ts).mem_iff, countFor_countKinds, ← List.count_pos_iff]
  exact and_congr_left fun h => by rw [h]

theorem countKinds_perm (h : ts.Perm us) : countKinds ts = countKinds us := by
  refine (isTally_countKinds ts).ext (isTally_countKinds us) fun k => ?_
  rw [countFor_countKinds, countFor_countKinds]
  exact (h.map Token.kind).count_eq k

theorem countFor_countKinds_append (k : Kind) (ts us : List Token) :
    countFor k (countKinds (ts ++ us)) =
      countFor k (countKinds ts) + countFor k (countKinds us) := by
  simp only [countFor_countKinds, List.map_append, List.count_append]

end Dump

end OclScan
