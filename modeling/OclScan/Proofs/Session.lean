import OclScan.Session
import OclScan.Proofs.Stream.Taking

/-!
# Sessions as indices into lists of tokens

What is asked and answered so far tells the history of each stream: its source, and how many tokens
have been taken from it, or from a stream that it is a copy of (`Session.histories`). A stream is
described by its history (`Session.Follows`), which every step keeps (`Session.Follows.step`): the
tokens that remain are those of its source without the ones that have been taken. So a session can
be read as one of indices into lists of tokens (`Session.run_indexes`).
-/

namespace OclScan

/-- What has happened to a stream. -/
structure History where
  source : String
  /-- The number of tokens that have been taken, before it was copied or since. -/
  taken : Nat
  deriving DecidableEq, Repr

/-- The history after `n` more tokens. -/
def History.take (h : History) (n : Nat) : History := { h with taken := h.taken + n }

/-- The tokens that have not been taken. -/
def History.left (l : Lexer) (h : History) : List Token := (l.tokenize h.source).drop h.taken

/-- The stream from which a command takes tokens. -/
def Command.moves? : Command → Option Nat
  | .next i | .take i _ | .drain i => some i
  | .start _ | .copy _ | .peek _ => none

/-- The tokens of an answer. -/
def Answer.tokenList : Answer → List Token
  | .token t => t.toList
  | .tokens ts => ts
  | .stream _ => []

namespace Session

/-- The histories of streams after a command and its answer. -/
def note (sources : List String) (hs : List History) (c : Command) (a : Answer) : List History :=
  match c with
  | .start i => hs ++ (sources[i]?.map (⟨·, 0⟩)).toList
  | .copy i => hs ++ hs[i]?.toList
  | .next i | .take i _ | .drain i => hs.modify i (·.take a.tokenList.length)
  | .peek _ => hs

/-- The histories of streams after commands and their answers. -/
def histories (sources : List String) (log : List (Command × Answer)) : List History :=
  log.foldl (fun hs x => note sources hs x.1 x.2) []

theorem note_of_moves? {c : Command} {i : Nat} (h : c.moves? = some i) (sources : List String)
    (hs : List History) (a : Answer) :
    note sources hs c a = hs.modify i (·.take a.tokenList.length) := by
  cases c <;> cases h <;> rfl

/-! ## What a step does -/

/-- What the command does, with what answer. -/
inductive Does (s : Session) : Command → Answer → Session → Prop
  | start {i : Nat} {source : String} : s.sources[i]? = some source →
      Does s (.start i) (.stream s.streams.length)
        { s with streams := s.streams ++ [s.lexer.stream source] }
  | copy {i : Nat} {stream : Stream} : s.streams[i]? = some stream →
      Does s (.copy i) (.stream s.streams.length) { s with streams := s.streams ++ [stream] }
  | move {c : Command} {a : Answer} {i : Nat} {stream stream' : Stream} : c.moves? = some i →
      s.streams[i]? = some stream → (stream.Sound → stream.Gives a.tokenList stream') →
      Does s c a (s.put i stream')
  | peek {i : Nat} {stream : Stream} : s.streams[i]? = some stream →
      Does s (.peek i) (.tokens stream.toList) s

variable {s s' : Session} {c : Command} {a : Answer}

theorem does_of_step (h : s.step c = some (a, s')) : s.Does c a s' := by
  cases c with
  | start i =>
    obtain ⟨source, hi, e⟩ := Option.map_eq_some_iff.mp h
    cases e
    exact .start hi
  | copy i =>
    obtain ⟨stream, hi, e⟩ := Option.map_eq_some_iff.mp h
    cases e
    exact .copy hi
  | next i =>
    obtain ⟨stream, hi, e⟩ := Option.map_eq_some_iff.mp h
    cases e
    exact .move rfl hi Stream.next_gives
  | take i n =>
    obtain ⟨stream, hi, e⟩ := Option.map_eq_some_iff.mp h
    cases e
    exact .move rfl hi fun hs => Stream.take_gives hs n
  | drain i =>
    obtain ⟨stream, hi, e⟩ := Option.map_eq_some_iff.mp h
    cases e
    exact .move rfl hi fun hs => (Stream.drain_gives hs).1
  | peek i =>
    obtain ⟨stream, hi, e⟩ := Option.map_eq_some_iff.mp h
    cases e
    exact .peek hi

/-- A command changes no other stream than the one from which it takes tokens. -/
theorem Does.keeps (h : s.Does c a s') {j : Nat} {stream : Stream} (hj : c.moves? ≠ some j)
    (hstream : s.streams[j]? = some stream) : s'.streams[j]? = some stream := by
  have hlt := (List.getElem?_eq_some_iff.mp hstream).1
  cases h with
  | start _ => rw [List.getElem?_append_left hlt, hstream]
  | copy _ => rw [List.getElem?_append_left hlt, hstream]
  | move hm _ _ =>
    have hne : _ ≠ j := fun e => hj (hm.trans (congrArg some e))
    rw [put, List.getElem?_set_ne hne, hstream]
  | peek _ => exact hstream

end Session

/-! ## Streams and their histories -/

/-- The stream is at the place that its history tells. -/
structure Stream.Follows (l : Lexer) (h : History) (stream : Stream) : Prop where
  sound : stream.Sound
  rules : stream.rules = l.rules
  taken_le : h.taken ≤ (l.tokenize h.source).length
  remaining : stream.remaining = h.left l

namespace Stream

variable {l : Lexer} {h : History} {stream stream' : Stream} {ts : List Token}

theorem follows_start (l : Lexer) (source : String) :
    (l.stream source).Follows l ⟨source, 0⟩ where
  sound := sound_start l.rules source.toList
  rules := rules_start l.rules source.toList
  taken_le := Nat.zero_le _
  remaining := (toList_eq (sound_start l.rules source.toList)).symm

theorem Follows.gives (hf : stream.Follows l h) (hg : stream.Gives ts stream') :
    stream'.Follows l (h.take ts.length) := by
  have hleft : h.left l = ts ++ stream'.remaining := hf.remaining.symm.trans hg.remaining
  have hlen := congrArg List.length hleft
  have hle := hf.taken_le
  rw [History.left, List.length_drop, List.length_append] at hlen
  refine ⟨hg.sound, hg.rules.trans hf.rules, ?_, ?_⟩
  · show h.taken + ts.length ≤ (l.tokenize h.source).length
    omega
  · show stream'.remaining = (l.tokenize h.source).drop (h.taken + ts.length)
    rw [← List.drop_drop]
    show _ = (h.left l).drop ts.length
    rw [hleft, List.drop_left]

theorem Follows.toList_eq (hf : stream.Follows l h) : stream.toList = h.left l :=
  (Stream.toList_eq hf.sound).trans hf.remaining

end Stream

namespace Session

/-- Every stream is at the place that its history tells. -/
structure Follows (s : Session) (hs : List History) : Prop where
  length : hs.length = s.streams.length
  stream : ∀ (i : Nat) h stream, hs[i]? = some h → s.streams[i]? = some stream →
    stream.Follows s.lexer h

variable {s s' : Session} {c : Command} {a : Answer} {hs : List History}

theorem follows_initial (l : Lexer) (sources : List String) : (initial l sources).Follows [] :=
  ⟨rfl, nofun⟩

theorem Follows.exists_stream (hf : s.Follows hs) {i : Nat} {h : History} (hi : hs[i]? = some h) :
    ∃ stream, s.streams[i]? = some stream ∧ stream.Follows s.lexer h := by
  have hlt : i < s.streams.length := hf.length ▸ (List.getElem?_eq_some_iff.mp hi).1
  have hstream := List.getElem?_eq_getElem hlt
  exact ⟨_, hstream, hf.stream i h _ hi hstream⟩

theorem Follows.exists_history (hf : s.Follows hs) {i : Nat} {stream : Stream}
    (hi : s.streams[i]? = some stream) : ∃ h, hs[i]? = some h ∧ stream.Follows s.lexer h := by
  have hlt : i < hs.length := hf.length ▸ (List.getElem?_eq_some_iff.mp hi).1
  have hh := List.getElem?_eq_getElem hlt
  exact ⟨_, hh, hf.stream i _ stream hh hi⟩

theorem Follows.add (hf : s.Follows hs) {h : History} {stream : Stream}
    (hnew : stream.Follows s.lexer h) :
    Follows { s with streams := s.streams ++ [stream] } (hs ++ [h]) where
  length := by simp [hf.length]
  stream i h' stream' hi hstream := by
    rcases Nat.lt_or_ge i hs.length with hlt | hge
    · rw [List.getElem?_append_left hlt] at hi
      rw [List.getElem?_append_left (hf.length ▸ hlt)] at hstream
      exact hf.stream i h' stream' hi hstream
    · rw [List.getElem?_append_right hge] at hi
      rw [List.getElem?_append_right (hf.length ▸ hge), ← hf.length] at hstream
      cases hk : i - hs.length with
      | zero =>
        rw [hk] at hi hstream
        cases hi
        cases hstream
        exact hnew
      | succ k =>
        rw [hk] at hi
        cases hi

theorem Follows.put (hf : s.Follows hs) {i : Nat} {h : History} {stream : Stream} {n : Nat}
    (hi : hs[i]? = some h) (hnew : stream.Follows s.lexer (h.take n)) :
    (s.put i stream).Follows (hs.modify i (·.take n)) where
  length := by simp [Session.put, hf.length]
  stream j h' stream' hj hstream := by
    rw [Session.put] at hstream
    by_cases e : i = j
    · subst e
      rw [List.getElem?_modify_eq, hi] at hj
      cases hj
      rw [List.getElem?_set_self'] at hstream
      obtain ⟨_, -, rfl⟩ := Option.map_eq_some_iff.mp hstream
      exact hnew
    · rw [List.getElem?_modify_ne _ _ e] at hj
      rw [List.getElem?_set_ne e] at hstream
      exact hf.stream j h' stream' hj hstream

/-- A step keeps every stream at the place that its history tells. -/
theorem Follows.step (hf : s.Follows hs) (hstep : s.step c = some (a, s')) :
    s'.Follows (note s.sources hs c a) ∧ s'.lexer = s.lexer ∧ s'.sources = s.sources := by
  cases does_of_step hstep with
  | start hi =>
    refine ⟨?_, rfl, rfl⟩
    rw [note, hi]
    exact hf.add (Stream.follows_start s.lexer _)
  | copy hi =>
    obtain ⟨h, hh, hfollows⟩ := hf.exists_history hi
    refine ⟨?_, rfl, rfl⟩
    rw [note, hh]
    exact hf.add hfollows
  | move hm hi hgives =>
    obtain ⟨h, hh, hfollows⟩ := hf.exists_history hi
    refine ⟨?_, rfl, rfl⟩
    rw [note_of_moves? hm]
    exact hf.put hh (hfollows.gives (hgives hfollows.sound))
  | peek hi => exact ⟨hf, rfl, rfl⟩

/-- The commands go one after the other. -/
theorem run_cons_eq_some {cs : List Command} {answers : List Answer}
    (h : s.run (c :: cs) = some (answers, s')) :
    ∃ a t answers', s.step c = some (a, t) ∧ t.run cs = some (answers', s') ∧
      answers = a :: answers' := by
  obtain ⟨⟨a, t⟩, hstep, h⟩ := Option.bind_eq_some_iff.mp h
  obtain ⟨⟨answers', u⟩, hrun, h⟩ := Option.bind_eq_some_iff.mp h
  cases h
  exact ⟨a, t, answers', hstep, hrun, rfl⟩

/-- By induction on the commands, from one step. -/
theorem Follows.run {cs : List Command} {answers : List Answer} (hf : s.Follows hs)
    (hrun : s.run cs = some (answers, s')) :
    s'.Follows ((cs.zip answers).foldl (fun hs x => note s.sources hs x.1 x.2) hs) ∧
      s'.lexer = s.lexer ∧ s'.sources = s.sources := by
  induction cs generalizing s hs answers with
  | nil =>
    cases hrun
    exact ⟨hf, rfl, rfl⟩
  | cons c cs ih =>
    obtain ⟨a, t, answers, hstep, hrest, rfl⟩ := run_cons_eq_some hrun
    obtain ⟨hf', hl, hs'⟩ := hf.step hstep
    obtain ⟨hend, hl', hs''⟩ := ih hf' hrest
    rw [hs'] at hend
    exact ⟨hend, hl'.trans hl, hs''.trans hs'⟩

/-! ## The end of a stream -/

/-- At the end of its source a stream gives no token, and stays there. -/
theorem Follows.step_end (hf : s.Follows hs) (hstep : s.step c = some (a, s')) {i : Nat}
    {h : History} (hi : hs[i]? = some h) (hend : h.left s.lexer = []) :
    (note s.sources hs c a)[i]? = some h ∧ (c = .next i → a = .token none) := by
  have hlt := (List.getElem?_eq_some_iff.mp hi).1
  cases does_of_step hstep with
  | start _ => exact ⟨by rw [note, List.getElem?_append_left hlt, hi], nofun⟩
  | copy _ => exact ⟨by rw [note, List.getElem?_append_left hlt, hi], nofun⟩
  | peek _ => exact ⟨hi, nofun⟩
  | @move _ _ j stream stream' hm hj hgives =>
    rw [note_of_moves? hm]
    by_cases e : j = i
    · subst e
      have hfollows := hf.stream j h stream hi hj
      have hnone : a.tokenList = [] := by
        have hrest := (hgives hfollows.sound).remaining
        rw [hfollows.remaining, hend] at hrest
        exact (List.append_eq_nil_iff.mp hrest.symm).1
      refine ⟨?_, ?_⟩
      · rw [List.getElem?_modify_eq, hi, hnone]
        rfl
      · rintro rfl
        obtain ⟨stream, -, e⟩ := Option.map_eq_some_iff.mp hstep
        rw [← (Prod.mk.inj e).1] at hnone ⊢
        exact congrArg Answer.token (Option.toList_eq_nil_iff.mp hnone)
    · refine ⟨by rw [List.getElem?_modify_ne _ _ e, hi], ?_⟩
      rintro rfl
      exact absurd (Option.some.inj hm).symm e

/-- By induction on the commands. -/
theorem Follows.run_end {cs : List Command} {answers : List Answer} (hf : s.Follows hs)
    (hrun : s.run cs = some (answers, s')) {i : Nat} {h : History} (hi : hs[i]? = some h)
    (hend : h.left s.lexer = []) : ∀ a, (Command.next i, a) ∈ cs.zip answers → a = .token none := by
  induction cs generalizing s hs answers with
  | nil => exact nofun
  | cons c cs ih =>
    obtain ⟨b, t, answers, hstep, hrest, rfl⟩ := run_cons_eq_some hrun
    obtain ⟨hf', hl, -⟩ := hf.step hstep
    obtain ⟨hi', hnone⟩ := hf.step_end hstep hi hend
    intro a ha
    rw [List.zip_cons_cons, List.mem_cons] at ha
    rcases ha with e | ha
    · cases e
      exact hnone rfl
    · exact ih hf' hrest hi' (hl ▸ hend) a ha

/-! ## Streams as indices -/

/-- The stream with the number `i` is an index into the tokens of its source: it has come as far
as its history tells. -/
structure Indexes (s : Session) (i : Nat) (h : History) : Prop where
  taken_le : h.taken ≤ (s.lexer.tokenize h.source).length
  remaining : ∃ stream, s.streams[i]? = some stream ∧
    stream.toList = (s.lexer.tokenize h.source).drop h.taken
  next : ∃ stream, stream.toList = (s.lexer.tokenize h.source).drop (h.taken + 1) ∧
    s.step (.next i) = some (.token (s.lexer.tokenize h.source)[h.taken]?, s.put i stream)
  next_none : (s.lexer.tokenize h.source)[h.taken]? = none ↔
    h.taken = (s.lexer.tokenize h.source).length
  /-- After the last token there is none, whatever is done. -/
  ended : h.taken = (s.lexer.tokenize h.source).length →
    ∀ cs answers s', s.run cs = some (answers, s') →
      ∀ a, (Command.next i, a) ∈ cs.zip answers → a = .token none
  take : ∀ n, ∃ stream, stream.toList = (s.lexer.tokenize h.source).drop (h.taken + n) ∧
    s.step (.take i n) =
      some (.tokens (((s.lexer.tokenize h.source).drop h.taken).take n), s.put i stream)
  drain : ∃ stream, stream.toList = [] ∧
    s.step (.drain i) =
      some (.tokens ((s.lexer.tokenize h.source).drop h.taken), s.put i stream)
  peek : s.step (.peek i) = some (.tokens ((s.lexer.tokenize h.source).drop h.taken), s)
  copy : ∃ stream, stream.toList = (s.lexer.tokenize h.source).drop h.taken ∧
    s.step (.copy i) =
      some (.stream s.streams.length, { s with streams := s.streams ++ [stream] })

theorem Follows.indexes (hf : s.Follows hs) {i : Nat} {h : History} (hi : hs[i]? = some h) :
    s.Indexes i h := by
  obtain ⟨stream, hstream, hfollows⟩ := hf.exists_stream hi
  have hsound := hfollows.sound
  have hremaining : stream.remaining = (s.lexer.tokenize h.source).drop h.taken :=
    hfollows.remaining
  have htoList := hfollows.toList_eq
  have htakes := Stream.next_takes hsound
  obtain ⟨hdrain, hdrained⟩ := Stream.drain_gives hsound
  refine ⟨hfollows.taken_le, ⟨stream, hstream, htoList⟩, ⟨stream.next.2, ?_, ?_⟩, ?_, ?_,
    fun n => ⟨(stream.take n).2, ?_, ?_⟩, ⟨stream.drain.2, ?_, ?_⟩, ?_, ⟨stream, htoList, ?_⟩⟩
  · rw [Stream.toList_eq htakes.sound, htakes.remaining, hremaining, List.tail_drop]
  · rw [Session.step, hstream, ← List.head?_drop, ← hremaining, ← htakes.token]
    rfl
  · have hle := hfollows.taken_le
    rw [List.getElem?_eq_none_iff]
    omega
  · intro htaken cs answers s' hrun
    refine hf.run_end hrun hi ?_
    rw [History.left, htaken, List.drop_length]
  · rw [Stream.toList_eq (Stream.take_gives hsound n).sound, Stream.remaining_take hsound,
      hremaining, List.drop_drop]
  · rw [Session.step, hstream, ← hremaining, ← Stream.take_eq hsound]
    rfl
  · rw [Stream.toList_eq hdrain.sound, hdrained]
  · have hall := hdrain.remaining
    rw [hdrained, List.append_nil] at hall
    rw [Session.step, hstream, ← hremaining, hall]
    rfl
  · rw [Session.step, hstream]
    exact congrArg (fun ts => some (Answer.tokens ts, s)) htoList
  · rw [Session.step, hstream]
    rfl

/-- After any commands every stream is an index into the tokens of its source, and has come as far
as the commands and answers tell. A command changes no stream but the one from which it takes
tokens, and a new stream can be made of every source. -/
theorem run_indexes {l : Lexer} {sources : List String} {cs : List Command}
    {answers : List Answer} (hrun : (initial l sources).run cs = some (answers, s)) :
    let hs := histories sources (cs.zip answers)
    s.lexer = l ∧ hs.length = s.streams.length ∧
      (∀ (i : Nat) h, hs[i]? = some h → s.Indexes i h) ∧
      (∀ (i : Nat) source, sources[i]? = some source →
        s.step (.start i) = some (.stream s.streams.length,
          { s with streams := s.streams ++ [l.stream source] })) ∧
      ∀ c a s', s.step c = some (a, s') → ∀ (j : Nat) stream, c.moves? ≠ some j →
        s.streams[j]? = some stream → s'.streams[j]? = some stream := by
  intro hs
  obtain ⟨hf, hlexer, hsources⟩ := (follows_initial l sources).run hrun
  refine ⟨hlexer, hf.length, fun i h hi => hf.indexes hi, fun i source hi => ?_,
    fun c a s' hstep j stream hj hstream => (does_of_step hstep).keeps hj hstream⟩
  have hi' : s.sources[i]? = some source := by
    rw [hsources]
    exact hi
  rw [Session.step, hi', show l = s.lexer from hlexer.symm]
  rfl

/-- A copy is made between two tokens of one match, and goes on to the end of the source. -/
theorem run_indexes_copy :
    let t : Table := [⟨"root", [.pattern "(a)(b)" (.byGroups [.name, .text])]⟩]
    let cs : List Command := [.start 0, .next 0, .copy 0, .next 1, .peek 0, .next 1, .next 1]
    ∃ l answers s, Lexer.ofTable t "root" = .ok l ∧
      (initial l ["abx"]).run cs = some (answers, s) ∧
      histories ["abx"] (cs.zip answers) = [⟨"abx", 1⟩, ⟨"abx", 3⟩] ∧
      s.Indexes 0 ⟨"abx", 1⟩ ∧ s.Indexes 1 ⟨"abx", 3⟩ := by
  intro t cs
  have hlog : ((Lexer.ofTable t "root").toOption.bind fun l =>
      ((initial l ["abx"]).run cs).map fun r => histories ["abx"] (cs.zip r.1)) =
        some [⟨"abx", 1⟩, ⟨"abx", 3⟩] := by decide +kernel
  cases hl : Lexer.ofTable t "root" with
  | error e =>
    rw [hl] at hlog
    cases hlog
  | ok l =>
    rw [hl] at hlog
    change ((initial l ["abx"]).run cs).map (fun r => histories ["abx"] (cs.zip r.1)) = _ at hlog
    obtain ⟨⟨answers, s⟩, hrun, hhistories⟩ := Option.map_eq_some_iff.mp hlog
    obtain ⟨-, -, hindexes, -⟩ := run_indexes hrun
    rw [hhistories] at hindexes
    exact ⟨l, answers, s, rfl, hrun, hhistories, hindexes 0 _ rfl, hindexes 1 _ rfl⟩

end Session

end OclScan
