import OclScan.Proofs.Json.Members
import OclScan.Proofs.Json.Number

/-!
# Values with members in any order

A value whose members stand in any order, and where a key may stand more than once, is settled by
setting the members of each object one after another (`Value.settled`). In what is settled the
members of every object are in ascending order (`ordered_settled`), and it holds no other numbers
and is no deeper (`integral_settled`, `depth_settled_le`); where the members are in ascending order,
nothing changes (`settled_eq`). Two values that differ in the order of members with distinct keys,
or in members that later ones override, are settled to the same value (`Alike.settled_eq`).
-/

namespace OclScan.Json.Value

/-- Induction on the items and members of a value. -/
@[elab_as_elim]
theorem inductionOn {motive : Value → Prop} (v : Value) (null : motive .null)
    (bool : ∀ b, motive (.bool b)) (number : ∀ n, motive (.number n))
    (string : ∀ s, motive (.string s))
    (array : ∀ vs, (∀ v ∈ vs, motive v) → motive (.array vs))
    (object : ∀ ms, (∀ m ∈ ms, motive m.2) → motive (.object ms)) : motive v :=
  match v with
  | .null => null
  | .bool b => bool b
  | .number n => number n
  | .string s => string s
  | .array vs => array vs fun v _ => inductionOn v null bool number string array object
  | .object ms => object ms fun m _ => inductionOn m.2 null bool number string array object
termination_by sizeOf v
decreasing_by
  · rename_i hv
    have := List.sizeOf_lt_of_mem hv
    simp only [Value.array.sizeOf_spec]
    omega
  · rename_i hm
    obtain ⟨k, v⟩ := m
    have := List.sizeOf_lt_of_mem hm
    simp only [Value.object.sizeOf_spec, Prod.mk.sizeOf_spec] at this ⊢
    omega

/-! ## Parts of a value -/

/-- `u.Occurs v`: `u` is `v` or a part of it, at whatever depth. -/
inductive Occurs : Value → Value → Prop
  | self {v} : Occurs v v
  | item {u v vs} (hv : v ∈ vs) (h : Occurs u v) : Occurs u (.array vs)
  | member {u m ms} (hm : m ∈ ms) (h : Occurs u m.2) : Occurs u (.object ms)

/-- `Alike u v`: `u` and `v` differ, at whatever depth, in the order of members with distinct keys
and in members that later ones override. -/
inductive Alike : Value → Value → Prop
  | refl (v : Value) : Alike v v
  | symm {u v} (h : Alike u v) : Alike v u
  | trans {u v w} (h : Alike u v) (h' : Alike v w) : Alike u w
  | item {u v vs ws} (h : Alike u v) : Alike (.array (vs ++ u :: ws)) (.array (vs ++ v :: ws))
  | member {k u v ms ns} (h : Alike u v) :
    Alike (.object (ms ++ (k, u) :: ns)) (.object (ms ++ (k, v) :: ns))
  /-- Neighbours with distinct keys change places. -/
  | swap {k k' u v ms ns} (hne : k ≠ k') :
    Alike (.object (ms ++ (k, u) :: (k', v) :: ns)) (.object (ms ++ (k', v) :: (k, u) :: ns))
  /-- A member is dropped whose key a later one has. -/
  | drop {k u ms ns} (hmem : k ∈ ns.map Prod.fst) :
    Alike (.object (ms ++ (k, u) :: ns)) (.object (ms ++ ns))

/-- Whether the members of every object stand in ascending order of their keys, each key once. -/
def Ordered (v : Value) : Prop := ∀ ms, Occurs (.object ms) v → Ascending ms

/-- Whether all numbers are integers that 64 bits hold, with a sign or without. -/
def Integral (v : Value) : Prop := ∀ n, Occurs (.number n) v → n.IsInteger

mutual

/-- How deep arrays and objects nest. -/
def depth : Value → Nat
  | array vs => depthOfItems vs + 1
  | object ms => depthOfMembers ms + 1
  | _ => 0

/-- How deep items nest. -/
def depthOfItems : List Value → Nat
  | [] => 0
  | v :: vs => max v.depth (depthOfItems vs)

/-- How deep members nest. -/
def depthOfMembers : List (String × Value) → Nat
  | [] => 0
  | (_, v) :: ms => max v.depth (depthOfMembers ms)

end

mutual

/-- The value with the members of each object set one after another. -/
def settled : Value → Value
  | array vs => array (settledItems vs)
  | object ms => object (setMembers [] (settledMembers ms))
  | v => v

/-- Items, settled. -/
def settledItems : List Value → List Value
  | [] => []
  | v :: vs => v.settled :: settledItems vs

/-- Members with their values settled. -/
def settledMembers : List (String × Value) → List (String × Value)
  | [] => []
  | (k, v) :: ms => (k, v.settled) :: settledMembers ms

end

variable {u v : Value} {vs : List Value} {ms : List (String × Value)} {d : Nat}

theorem integral_number_iff {n : Number} : (number n).Integral ↔ n.IsInteger := by
  refine ⟨fun h => h n .self, fun h m hm => ?_⟩
  cases hm
  exact h

theorem integral_string (s : String) : (string s).Integral := by
  intro n hn
  cases hn

theorem integral_array_iff : (array vs).Integral ↔ ∀ v ∈ vs, v.Integral := by
  refine ⟨fun h v hv n hn => h n (.item hv hn), fun h n hn => ?_⟩
  cases hn with
  | item hv hn => exact h _ hv n hn

theorem integral_object_iff : (object ms).Integral ↔ ∀ m ∈ ms, m.2.Integral := by
  refine ⟨fun h m hm n hn => h n (.member hm hn), fun h n hn => ?_⟩
  cases hn with
  | member hm hn => exact h _ hm n hn

theorem settledItems_eq (vs : List Value) : settledItems vs = vs.map settled := by
  induction vs with
  | nil => rfl
  | cons v vs ih => rw [settledItems, ih, List.map_cons]

theorem settledMembers_eq (ms : List (String × Value)) :
    settledMembers ms = ms.map fun m => (m.1, m.2.settled) := by
  induction ms with
  | nil => rfl
  | cons m ms ih =>
    obtain ⟨k, v⟩ := m
    rw [settledMembers, ih, List.map_cons]

theorem settled_array (vs : List Value) : (array vs).settled = array (vs.map settled) := by
  rw [settled, settledItems_eq]

theorem settled_object (ms : List (String × Value)) :
    (object ms).settled = object (setMembers [] (ms.map fun m => (m.1, m.2.settled))) := by
  rw [settled, settledMembers_eq]

theorem depth_array_le : (array vs).depth ≤ d + 1 ↔ ∀ v ∈ vs, v.depth ≤ d := by
  rw [depth, Nat.add_le_add_iff_right]
  induction vs with
  | nil => exact iff_of_true (Nat.zero_le d) nofun
  | cons v vs ih => rw [depthOfItems, Nat.max_le, ih, List.forall_mem_cons]

theorem depth_object_le : (object ms).depth ≤ d + 1 ↔ ∀ m ∈ ms, m.2.depth ≤ d := by
  rw [depth, Nat.add_le_add_iff_right]
  induction ms with
  | nil => exact iff_of_true (Nat.zero_le d) nofun
  | cons m ms ih => rw [depthOfMembers, Nat.max_le, ih, List.forall_mem_cons]

/-! ## What is settled -/

/-- A member of what is settled is a member that is settled. -/
theorem exists_of_mem_setMembers {m : String × Value}
    (h : m ∈ setMembers [] (ms.map fun m => (m.1, m.2.settled))) :
    ∃ n ∈ ms, m = (n.1, n.2.settled) := by
  obtain ⟨n, hn, rfl⟩ := List.mem_map.mp ((of_mem_setMembers h).resolve_left List.not_mem_nil)
  exact ⟨n, hn, rfl⟩

/-- A part of what is settled is a part that is settled. -/
theorem exists_of_occurs_settled (h : Occurs u v.settled) : ∃ w, Occurs w v ∧ w.settled = u := by
  induction v using inductionOn with
  | null => exact ⟨_, .self, by cases h; rfl⟩
  | bool b => exact ⟨_, .self, by cases h; rfl⟩
  | number n => exact ⟨_, .self, by cases h; rfl⟩
  | string s => exact ⟨_, .self, by cases h; rfl⟩
  | array vs ih =>
    rw [settled_array] at h
    cases h with
    | self => exact ⟨_, .self, settled_array vs⟩
    | item hitem h =>
      obtain ⟨v, hv, rfl⟩ := List.mem_map.mp hitem
      obtain ⟨w, hw, heq⟩ := ih v hv h
      exact ⟨w, .item hv hw, heq⟩
  | object ms ih =>
    rw [settled_object] at h
    cases h with
    | self => exact ⟨_, .self, settled_object ms⟩
    | member hmember h =>
      obtain ⟨m, hm, rfl⟩ := exists_of_mem_setMembers hmember
      obtain ⟨w, hw, heq⟩ := ih m hm h
      exact ⟨w, .member hm hw, heq⟩

theorem ordered_settled (v : Value) : v.settled.Ordered := by
  intro ms h
  obtain ⟨w, -, hw⟩ := exists_of_occurs_settled h
  cases w with
  | object ns =>
    rw [settled_object] at hw
    obtain rfl := object.inj hw
    exact ascending_setMembers .nil
  | _ => cases hw

theorem integral_settled (h : v.Integral) : v.settled.Integral := by
  intro n hn
  obtain ⟨w, hw, heq⟩ := exists_of_occurs_settled hn
  cases w with
  | number n' =>
    obtain rfl := number.inj heq
    exact h n' hw
  | _ => cases heq

theorem depth_settled_le (h : v.depth ≤ d) : v.settled.depth ≤ d := by
  induction v using inductionOn generalizing d with
  | null => exact h
  | bool b => exact h
  | number n => exact h
  | string s => exact h
  | array vs ih =>
    obtain ⟨d, rfl⟩ := Nat.exists_eq_add_one.mpr (Nat.lt_of_lt_of_le (Nat.succ_pos _) h)
    rw [settled_array, depth_array_le, List.forall_mem_map]
    exact fun v hv => ih v hv (depth_array_le.mp h v hv)
  | object ms ih =>
    obtain ⟨d, rfl⟩ := Nat.exists_eq_add_one.mpr (Nat.lt_of_lt_of_le (Nat.succ_pos _) h)
    rw [settled_object, depth_object_le]
    intro m hm
    obtain ⟨n, hn, rfl⟩ := exists_of_mem_setMembers hm
    exact ih n hn (depth_object_le.mp h n hn)

/-- What has its members in ascending order is settled. -/
theorem Ordered.settled_eq (h : v.Ordered) : v.settled = v := by
  induction v using inductionOn with
  | null => rfl
  | bool b => rfl
  | number n => rfl
  | string s => rfl
  | array vs ih =>
    have hvs : vs.map settled = vs.map id :=
      List.map_congr_left fun v hv => ih v hv fun ms hms => h ms (.item hv hms)
    rw [settled_array, hvs, List.map_id]
  | object ms ih =>
    have hms : ms.map (fun m => (m.1, m.2.settled)) = ms.map id :=
      List.map_congr_left fun m hm => Prod.ext rfl (ih m hm fun ns hns => h ns (.member hm hns))
    have hself : setMembers [] ms = ms := Ascending.setMembers_eq (h ms .self)
    rw [settled_object, hms, List.map_id, hself]

/-- Values that are alike are settled to the same value. -/
theorem Alike.settled_eq (h : Alike u v) : u.settled = v.settled := by
  induction h with
  | refl v => rfl
  | symm h ih => exact ih.symm
  | trans h h' ih ih' => exact ih.trans ih'
  | item h ih => simp only [settled_array, List.map_append, List.map_cons, ih]
  | member h ih => simp only [settled_object, List.map_append, List.map_cons, ih]
  | swap hne =>
    rw [settled_object, settled_object, List.map_append, List.map_append, setMembers_append,
      setMembers_append]
    exact congrArg object (setMembers_swap (ascending_setMembers .nil) hne)
  | drop hmem =>
    rw [settled_object, settled_object, List.map_append, List.map_append, setMembers_append,
      setMembers_append]
    refine congrArg object (setMembers_cons_of_mem (ascending_setMembers .nil) ?_)
    rwa [List.map_map]

end OclScan.Json.Value
