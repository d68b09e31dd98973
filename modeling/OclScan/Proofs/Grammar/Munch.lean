import Mathlib.Computability.Language
import Mathlib.Order.CompletePartialOrder
import OclScan.Proofs.Grammar.Winner

/-!
# The longest word of a language

What plans without escapes read is the longest word of a language that stands at a place
(`Goal.Munches`). The language of a plan is that of its parts, one after the other: a character of a
set (`Goal.Munches.set`), a row of characters (`Goal.Munches.run`) or a part that may be left out
(`Goal.Munches.maybe`). What follows a row, or stands in place of a part left out, must not start
with the same characters (`Apart`), or the longest word would not be the one that is preferred.
-/

/-- Sets of words over characters. -/
abbrev CharLanguage : Type := Language Char

namespace OclScan

/-- One character with the property. -/
def anyOf (p : Char → Bool) : CharLanguage := {w | ∃ c, p c = true ∧ w = [c]}

/-- Characters with the property, or none. -/
def allOf (p : Char → Bool) : CharLanguage := {w | ∀ c ∈ w, p c = true}

/-- One character with the property, or more. -/
def rowOf (p : Char → Bool) : CharLanguage := {w | w ≠ [] ∧ ∀ c ∈ w, p c = true}

/-- One character of the list. -/
def oneOf (cs : List Char) : CharLanguage := anyOf cs.contains

/-- No word of the language starts with a character with the property. -/
def Apart (p : Char → Bool) (L : CharLanguage) : Prop := ∀ c w, c :: w ∈ L → p c = false

section

variable {p q : Char → Bool} {L M : CharLanguage} {u v w t : List Char} {c : Char}

theorem mem_anyOf_mul : w ∈ anyOf p * L ↔ ∃ c v, p c = true ∧ v ∈ L ∧ w = c :: v := by
  rw [Language.mem_mul]
  constructor
  · rintro ⟨_, ⟨c, hc, rfl⟩, v, hv, rfl⟩
    exact ⟨c, v, hc, hv, rfl⟩
  · rintro ⟨c, v, hc, hv, rfl⟩
    exact ⟨[c], ⟨c, hc, rfl⟩, v, hv, rfl⟩

theorem cons_mem_anyOf_mul : c :: w ∈ anyOf p * L ↔ p c = true ∧ w ∈ L := by
  rw [mem_anyOf_mul]
  constructor
  · rintro ⟨d, v, hd, hv, e⟩
    cases e
    exact ⟨hd, hv⟩
  · exact fun ⟨hc, hw⟩ => ⟨c, w, hc, hw, rfl⟩

/-- A row is a character and then characters. -/
theorem rowOf_eq (p : Char → Bool) : rowOf p = anyOf p * allOf p := by
  refine Language.ext fun w => ?_
  rw [mem_anyOf_mul]
  constructor
  · rintro ⟨hne, hw⟩
    obtain ⟨c, v, rfl⟩ := List.exists_cons_of_ne_nil hne
    obtain ⟨hc, hv⟩ := List.forall_mem_cons.mp hw
    exact ⟨c, v, hc, hv, rfl⟩
  · rintro ⟨c, v, hc, hv, rfl⟩
    exact ⟨List.cons_ne_nil c v, List.forall_mem_cons.mpr ⟨hc, hv⟩⟩

namespace Apart

theorem one (p : Char → Bool) : Apart p 1 := fun _ _ h => nomatch (Language.mem_one _).mp h

theorem add (hL : Apart p L) (hM : Apart p M) : Apart p (L + M) := fun c w h =>
  ((Language.mem_add L M _).mp h).elim (hL c w) (hM c w)

theorem anyOf_mul (h : ∀ c, q c = true → p c = false) : Apart p (anyOf q * L) := fun c _ hw =>
  h c (cons_mem_anyOf_mul.mp hw).1

theorem rowOf_mul (h : ∀ c, q c = true → p c = false) : Apart p (rowOf q * L) := by
  rw [rowOf_eq, mul_assoc]
  exact anyOf_mul h

theorem oneOf_mul {cs : List Char} (h : ∀ c ∈ cs, p c = false) : Apart p (oneOf cs * L) :=
  anyOf_mul fun c hc => h c (List.contains_iff_mem.mp hc)

end Apart

/-- What follows a row that stands at the start of a text stands behind the longest such row. -/
theorem Apart.prefix_drop_run {s : CharSet} (hL : Apart s.contains L)
    (hu : ∀ c ∈ u, s.contains c = true) (hv : v ∈ L) (h : u ++ v <+: t) :
    v <+: t.drop (s.run t) ∧ u.length ≤ s.run t := by
  obtain ⟨r, rfl⟩ := h
  rw [List.append_assoc, CharSet.run_append hu]
  refine ⟨?_, Nat.le_add_right _ _⟩
  cases v with
  | nil => exact List.nil_prefix
  | cons c v =>
    have hrun : s.run (c :: v ++ r) = 0 := CharSet.run_of_not_mem (hL c v hv) _
    rw [hrun, Nat.add_zero, List.drop_left]
    exact List.prefix_append _ _

end

/-- From a place at which words of the language stand, the goal ends behind the longest of them, and
from other places it does not end. -/
def Goal.Munches (k : Goal) (L : CharLanguage) : Prop := ∀ σ x,
  (∃ w, Longest (· ∈ L) w x.rest ∧ k σ x = some ⟨0, x.index + w.length, σ⟩) ∨
    (∀ w ∈ L, ¬ w <+: x.rest) ∧ k σ x = none

namespace Goal.Munches

open Plan Grammar

variable {k : Goal} {s : CharSet} {L M : CharLanguage} {q : Char → Bool} {p : Plan}

theorem final : (Plan.final 0).Munches 1 := by
  intro σ x
  refine .inl ⟨[], ⟨rfl, List.nil_prefix, fun u hu _ => ?_⟩, rfl⟩
  rw [(Language.mem_one u).mp hu]

theorem set (h : k.Munches L) (hs : s.contains = q) (n : Nat) :
    ((Plan.set n s).first k).Munches (anyOf q * L) := by
  subst hs
  rintro σ ⟨b, i, _ | ⟨c, t⟩⟩
  · refine .inr ⟨fun w hw hstart => ?_, rfl⟩
    obtain ⟨c, v, -, -, rfl⟩ := mem_anyOf_mul.mp hw
    exact absurd (List.prefix_nil.mp hstart) (List.cons_ne_nil c v)
  · by_cases hc : s.contains c = true
    · rw [first_set_of_mem hc]
      rcases h σ ⟨some c, i + 1, t⟩ with ⟨v, hv, hk⟩ | ⟨hnone, hk⟩
      · have hword : c :: v ∈ anyOf s.contains * L := cons_mem_anyOf_mul.mpr ⟨hc, hv.isWord⟩
        refine .inl ⟨c :: v, ⟨hword, ?_, fun u hu hstart => ?_⟩, ?_⟩
        · exact List.cons_prefix_cons.mpr ⟨rfl, hv.start⟩
        · obtain ⟨d, u', -, hu', rfl⟩ := mem_anyOf_mul.mp hu
          exact Nat.succ_le_succ (hv.longest u' hu' (List.cons_prefix_cons.mp hstart).2)
        · rw [hk, List.length_cons, Nat.add_right_comm, Nat.add_assoc]
      · refine .inr ⟨fun w hw hstart => ?_, hk⟩
        obtain ⟨d, u, -, hu, rfl⟩ := mem_anyOf_mul.mp hw
        exact hnone u hu (List.cons_prefix_cons.mp hstart).2
    · refine .inr ⟨fun w hw hstart => ?_, by simp only [first, hc, Bool.false_eq_true, if_false]⟩
      obtain ⟨d, u, hd, -, rfl⟩ := mem_anyOf_mul.mp hw
      rw [(List.cons_prefix_cons.mp hstart).1] at hd
      exact hc hd

/-- A loop over a set reads the whole row: what follows stands behind it, if anywhere. -/
theorem loop (h : k.Munches L) (hL : Apart s.contains L) (n j : Nat) :
    ((Plan.loop n true (.set j s)).first k).Munches (allOf s.contains * L) := by
  intro σ x
  have hrow : ∀ i ≤ s.run x.rest, ∀ c ∈ x.rest.take i, s.contains c = true := fun i hi c hc =>
    CharSet.contains_of_mem_run (List.take_subset_take_left _ hi hc)
  have hbehind : ∀ i ≤ s.run x.rest, ∀ v ∈ L, v <+: x.rest.drop i →
      v <+: x.rest.drop (s.run x.rest) := fun i hi v hv hstart => by
    obtain ⟨r, hr⟩ := hstart
    have hwhole : x.rest.take i ++ v <+: x.rest :=
      ⟨r, by rw [List.append_assoc, hr, List.take_append_drop]⟩
    exact (hL.prefix_drop_run (hrow i hi) hv hwhole).1
  have hpast := h σ (x.skip (s.run x.rest))
  have hindex := Place.index_skip (s.run_le x.rest)
  rw [Place.rest_skip] at hpast
  rw [first_run n j s k σ x fun i hi hnone => ?_]
  · rcases hpast with ⟨v, hv, hk⟩ | ⟨hnone, hk⟩
    · refine .inl ⟨x.rest.take (s.run x.rest) ++ v, ⟨?_, ?_, fun u hu hstart => ?_⟩, ?_⟩
      · exact Language.mem_mul.mpr ⟨_, hrow _ (Nat.le_refl _), v, hv.isWord, rfl⟩
      · obtain ⟨r, hr⟩ := hv.start
        exact ⟨r, by rw [List.append_assoc, hr, List.take_append_drop]⟩
      · obtain ⟨row, hrow, u', hu', rfl⟩ := Language.mem_mul.mp hu
        obtain ⟨hstart', hle⟩ := hL.prefix_drop_run hrow hu' hstart
        rw [List.length_append, List.length_append, List.length_take_of_le (s.run_le x.rest)]
        exact Nat.add_le_add hle (hv.longest u' hu' hstart')
      · rw [hk, hindex, List.length_append, List.length_take_of_le (s.run_le x.rest), Nat.add_assoc]
    · refine .inr ⟨fun w hw hstart => ?_, hk⟩
      obtain ⟨u, hu, v, hv, rfl⟩ := Language.mem_mul.mp hw
      exact hnone v hv (hL.prefix_drop_run hu hv hstart).1
  · rcases hpast with ⟨v, -, hk⟩ | ⟨hword, -⟩
    · cases hk.symm.trans hnone
    · rcases h σ (x.skip i) with ⟨v, hv, -⟩ | ⟨-, hk⟩
      · rw [Place.rest_skip] at hv
        exact absurd (hbehind i (Nat.le_of_lt hi) v hv.isWord hv.start) (hword v hv.isWord)
      · exact hk

theorem run (h : k.Munches L) (hs : s.contains = q) (hL : Apart q L) (n j : Nat) :
    ((Grammar.run n j s).first k).Munches (rowOf q * L) := by
  subst hs
  rw [rowOf_eq, mul_assoc]
  exact (h.loop hL n j).set rfl j

/-- A part that may be left out is read where it stands, since nothing else starts as it does. -/
theorem maybe (hp : (p.first k).Munches (anyOf q * M)) (h : k.Munches L) (hL : Apart q L)
    (n : Nat) : ((Grammar.maybe n p).first k).Munches (L + anyOf q * M) := by
  intro σ x
  have hfirst : (Grammar.maybe n p).first k σ x = (p.first k σ x).or (k σ x) := rfl
  rw [hfirst]
  rcases hp σ x with ⟨w, hw, hk⟩ | ⟨hnone, hk⟩
  · refine .inl ⟨w, ⟨.inr hw.isWord, hw.start, fun u hu hstart => ?_⟩, by rw [hk, Option.some_or]⟩
    rcases hu with hu | hu
    · obtain ⟨c, v, hc, -, rfl⟩ := mem_anyOf_mul.mp hw.isWord
      obtain ⟨r, hr⟩ := hw.start
      cases u with
      | nil => exact Nat.zero_le _
      | cons d u =>
        rw [← hr] at hstart
        rw [← (List.cons_prefix_cons.mp hstart).1, hL d u hu] at hc
        cases hc
    · exact hw.longest u hu hstart
  · rw [hk, Option.none_or]
    rcases h σ x with ⟨w, hw, hk⟩ | ⟨hnone', hk⟩
    · refine .inl ⟨w, ⟨.inl hw.isWord, hw.start, fun u hu hstart => ?_⟩, hk⟩
      exact hu.elim (fun hu => hw.longest u hu hstart) fun hu => absurd hstart (hnone u hu)
    · exact .inr ⟨fun w hw => hw.elim (hnone' w) (hnone w), hk⟩

theorem matchAt? (h : (p.first (Plan.final 0)).Munches L) (hp : p.Steady = true) (b : Option Char)
    (t : List Char) :
    (∃ w, Longest (· ∈ L) w t ∧ p.matchAt? 0 b t = some ⟨0, w.length, []⟩) ∨
      (∀ w ∈ L, ¬ w <+: t) ∧ p.matchAt? 0 b t = none := by
  rw [matchAt?_eq_first hp]
  rcases h [] ⟨b, 0, t⟩ with ⟨w, hw, hk⟩ | h
  · exact .inl ⟨w, hw, by rw [List.replicate_zero, hk, Nat.zero_add]⟩
  · exact .inr h

end Goal.Munches

namespace Grammar

open Plan

/-- A rule that reads the longest word of a language, none of which is empty. -/
theorem wins?_of_munches {p : Plan} {L : CharLanguage} (h : (p.first (final 0)).Munches L)
    (hp : p.Steady = true) (hne : [] ∉ L) (text : String) (k : Kind) (origin : String)
    (c : Cursor) :
    (∃ w, Longest (· ∈ L) w c.rest ∧ (tokenRule text p k origin).wins? c = some w.length) ∨
      (∀ w ∈ L, ¬ w <+: c.rest) ∧ (tokenRule text p k origin).wins? c = none := by
  rcases h.matchAt? hp c.before c.rest with ⟨w, hw, hm⟩ | ⟨hnone, hm⟩
  · refine .inl ⟨w, hw, wins?_tokenRule hm (List.length_pos_iff.mpr fun e => hne ?_)⟩
    exact e ▸ hw.isWord
  · exact .inr ⟨hnone, wins?_tokenRule_eq_none hm⟩

end Grammar

end OclScan
