import OclScan.Proofs.Stream.Lookahead

/-!
# Taking tokens from a stream

However tokens are taken, one (`Stream.next_gives`), some (`Stream.take_gives`) or all
(`Stream.drain_gives`), the stream gives the first of those that remain, and the others remain
(`Stream.Gives`).
-/

namespace OclScan.Stream

/-- From `s` the tokens `ts` are taken, which leads to `s'`. -/
structure Gives (s : Stream) (ts : List Token) (s' : Stream) : Prop where
  remaining : s.remaining = ts ++ s'.remaining
  rules : s'.rules = s.rules
  sound : s'.Sound

variable {s s' s'' : Stream} {ts us : List Token}

theorem Gives.refl (h : s.Sound) : s.Gives [] s := ⟨rfl, rfl, h⟩

theorem Gives.trans (h : s.Gives ts s') (h' : s'.Gives us s'') : s.Gives (ts ++ us) s'' where
  remaining := by rw [h.remaining, h'.remaining, List.append_assoc]
  rules := h'.rules.trans h.rules
  sound := h'.sound

theorem Takes.gives {t : Option Token} (h : s.Takes t s') : s.Gives t.toList s' where
  remaining := by
    rw [h.token, h.remaining]
    cases s.remaining <;> rfl
  rules := h.rules
  sound := h.sound

theorem next_gives (h : s.Sound) : s.Gives s.next.1.toList s.next.2 := (next_takes h).gives

theorem take_gives (h : s.Sound) (n : Nat) : s.Gives (s.take n).1 (s.take n).2 := by
  induction n generalizing s with
  | zero => exact .refl h
  | succ n ih =>
    have hnext := next_gives h
    unfold take
    split
    · rename_i t s' e
      rw [e] at hnext
      exact hnext.trans (ih hnext.sound)
    · rename_i s' e
      rw [e] at hnext
      exact hnext

theorem remaining_take (h : s.Sound) (n : Nat) :
    (s.take n).2.remaining = s.remaining.drop n := by
  have hgives := (take_gives h n).remaining
  rw [take_eq h n] at hgives
  exact List.append_cancel_left (hgives.symm.trans (List.take_append_drop n s.remaining).symm)

/-- The tokens that have been made are given, and the rest is given without them. -/
theorem gives_pending (h : s.Sound) : s.Gives s.pending { s with pending := [] } := ⟨rfl, rfl, h⟩

theorem advance_gives (h : s.Sound) (hr : s.cursor.rest ≠ []) : s.Gives [] s.advance where
  remaining := (remaining_advance h hr).symm
  rules := rules_advance h
  sound := h.advance hr

/-- By induction on the number of steps that may be made. -/
theorem drainWithin_gives {n : Nat} (h : s.Sound) (hn : s.cursor.rest.length ≤ n) :
    s.Gives (s.drainWithin n).1 (s.drainWithin n).2 ∧ (s.drainWithin n).2.remaining = [] := by
  have hmade := gives_pending h
  induction n generalizing s with
  | zero =>
    have hr : s.cursor.rest = [] := List.length_eq_zero_iff.mp (Nat.le_zero.mp hn)
    exact ⟨hmade, remaining_of_end rfl hr⟩
  | succ n ih =>
    unfold drainWithin
    simp only [List.isEmpty_iff]
    split
    · rename_i hr
      exact ⟨hmade, remaining_of_end rfl hr⟩
    · rename_i hr
      have hstep := advance_gives hmade.sound hr
      have hlt := rest_advance_lt hmade.sound hr
      have hle : ({ s with pending := [] } : Stream).advance.cursor.rest.length ≤ n := by
        simp only at hlt
        omega
      obtain ⟨hrest, hend⟩ := ih hstep.sound hle (gives_pending hstep.sound)
      exact ⟨hmade.trans (hstep.trans hrest), hend⟩

theorem drain_gives (h : s.Sound) : s.Gives s.drain.1 s.drain.2 ∧ s.drain.2.remaining = [] :=
  drainWithin_gives h (Nat.le_refl _)

end OclScan.Stream
