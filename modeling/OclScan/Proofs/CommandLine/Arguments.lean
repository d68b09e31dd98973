import OclScan.Proofs.CommandLine.Spelling
import OclScan.Proofs.Except

/-!
# Arguments that are read

The arguments that are read are those that spell consistent settings, and what they ask for is what
these settings ask for (`Invocation.read_eq_ok_iff`). Settings are noted one after the other
(`foldlM_note_knowing`); what is spelled is noted (`readAll_spells`), and what is read is spelled
(`spells_of_readAll`).
-/

namespace OclScan.CommandLine

/-- A format is known by its name. -/
theorem OutputFormat.ofName?_eq_some {v : String} {f : OutputFormat} :
    OutputFormat.ofName? v = some f ↔ v = f.name := by
  constructor
  · intro h
    unfold ofName? at h
    split at h <;> cases h <;> rfl
  · rintro rfl
    cases f <;> rfl

namespace Progress

/-- Notes a setting. -/
def note (p : Progress) : Setting → Except Stop Progress
  | .flag .locate => p.setLocate
  | .flag .verbose => p.setVerbose
  | .format f => p.setFormat f.name
  | .input path => p.setInput path

/-- What is known once the settings have been read. -/
def knowing (ss : List Setting) : Progress where
  input := ss.findSome? Setting.input?
  format := ss.findSome? Setting.format?
  locate := ss.contains (.flag .locate)
  verbose := ss.contains (.flag .verbose)
  waiting := false

variable {p q : Progress} {ss ss' : List Setting} {s : Setting} {args : List String}

theorem knowing_append_singleton (ss : List Setting) (s : Setting) : knowing (ss ++ [s]) =
    { input := (ss.findSome? Setting.input?).or s.input?
      format := (ss.findSome? Setting.format?).or s.format?
      locate := ss.contains (.flag .locate) || .flag .locate == s
      verbose := ss.contains (.flag .verbose) || .flag .verbose == s
      waiting := false } := by
  simp only [knowing, List.findSome?_append, List.findSome?_singleton, List.contains_append,
    List.contains_cons, List.contains_nil, Bool.or_false]

/-- A setting that is new and no empty text is noted. -/
theorem note_knowing (ss : List Setting) (s : Setting) : (knowing ss).note s =
    if s.topic ∈ ss.map Setting.topic ∨ s = .input "" then .error .usage
    else .ok (knowing (ss ++ [s])) := by
  rw [knowing_append_singleton]
  cases s with
  | flag f =>
    simp only [Setting.topic, mem_topics_flag]
    cases f with
    | locate =>
      by_cases h : Setting.flag .locate ∈ ss <;>
        simp [note, setLocate, knowing, h, Setting.input?, Setting.format?]
    | verbose =>
      by_cases h : Setting.flag .verbose ∈ ss <;>
        simp [note, setVerbose, knowing, h, Setting.input?, Setting.format?]
  | format f =>
    simp only [Setting.topic, mem_topics_format]
    have hname : OutputFormat.ofName? f.name = some f := OutputFormat.ofName?_eq_some.mpr rfl
    cases h : ss.findSome? Setting.format? <;>
      simp [note, setFormat, knowing, h, hname, Setting.input?, Setting.format?]
  | input path =>
    simp only [Setting.topic, mem_topics_input]
    cases h : ss.findSome? Setting.input? with
    | some g => simp [note, setInput, knowing, h]
    | none =>
      by_cases hp : path = "" <;>
        simp [note, setInput, knowing, h, hp, Setting.input?, Setting.format?, Input.ofPath]

/-- Settings are noted one after the other if they are consistent with what is known. -/
theorem foldlM_note_knowing (h : Consistent ss) :
    ss'.foldlM note (knowing ss) = .ok p ↔ Consistent (ss ++ ss') ∧ p = knowing (ss ++ ss') := by
  induction ss' generalizing ss with
  | nil =>
    rw [List.foldlM_nil, List.append_nil]
    exact ⟨fun e => ⟨h, (Except.ok.inj e).symm⟩, fun e => congrArg _ e.2.symm⟩
  | cons s ss' ih =>
    have hcons : ss ++ s :: ss' = (ss ++ [s]) ++ ss' := List.append_cons ss s ss'
    rw [List.foldlM_cons, note_knowing, hcons]
    split
    · rename_i hold
      refine ⟨nofun, fun ⟨hc, _⟩ => ?_⟩
      exact absurd hold (consistent_append_singleton.mp hc.of_append).2
    · rename_i hnew
      exact ih (consistent_append_singleton.mpr ⟨h, hnew⟩)

/-! ## Reading what is spelled -/

theorem waiting_note (h : p.note s = .ok q) (hp : p.waiting = false) : q.waiting = false := by
  unfold note at h
  split at h
  · unfold setLocate at h
    split at h <;> cases h
    exact hp
  · unfold setVerbose at h
    split at h <;> cases h
    exact hp
  · unfold setFormat at h
    split at h <;> cases h
    rfl
  · unfold setInput at h
    split at h <;> cases h
    exact hp

theorem waiting_foldlM_note (h : ss.foldlM note p = .ok q) (hp : p.waiting = false) :
    q.waiting = false := by
  induction ss generalizing p with
  | nil => exact Except.ok.inj h ▸ hp
  | cons s ss ih =>
    rw [List.foldlM_cons] at h
    obtain ⟨p', hp', h⟩ := bind_eq_ok h
    exact ih h (waiting_note hp' hp)

theorem readLetters_flag (f : Flag) (cs : List Char) (p : Progress) :
    p.readLetters (f.letter :: cs) = p.note (.flag f) >>= fun p => p.readLetters cs := by
  cases f <;> rfl

theorem readLetters_flags (fs : List Flag) (cs : List Char) (p : Progress) :
    p.readLetters (fs.map Flag.letter ++ cs) =
      (fs.map Setting.flag).foldlM note p >>= fun p => p.readLetters cs := by
  induction fs generalizing p with
  | nil => rfl
  | cons f fs ih =>
    rw [List.map_cons, List.map_cons, List.cons_append, readLetters_flag, List.foldlM_cons,
      bind_assoc]
    simp only [ih]

theorem readLetters_format (f : OutputFormat) (p : Progress) :
    p.readLetters ('f' :: f.name.toList) = p.note (.format f) ∧
      p.readLetters ('f' :: '=' :: f.name.toList) = p.note (.format f) := by
  cases f <;> exact ⟨rfl, rfl⟩

theorem readAll_cons {arg : String} (h : arg ≠ "--") (p : Progress) (args : List String) :
    p.readAll (arg :: args) = p.readArgument arg >>= fun p => p.readAll args := by
  rw [readAll]
  exact h

theorem readArgument_bundle {c : Char} {cs : List Char} (hc : c ≠ '-') (hp : p.waiting = false) :
    p.readArgument (bundle (c :: cs)) = p.readLetters (c :: cs) := by
  unfold readArgument bundle
  rw [String.toList_ofList]
  split
  · rename_i h
    injection h with _ h
    injection h with h _
    exact absurd h hc
  · rename_i h
    injection h with _ h
    rw [hp, h]
    rfl
  · rename_i h
    exact absurd rfl (h _ _)

/-- Letters are read one after the other. -/
theorem readAll_bundle {cs : List Char} (hne : cs ≠ []) (hhead : cs.head? ≠ some '-')
    (hp : p.waiting = false) (args : List String) :
    p.readAll (bundle cs :: args) = p.readLetters cs >>= fun p => p.readAll args := by
  obtain ⟨c, cs, rfl⟩ := List.exists_cons_of_ne_nil hne
  have hc : c ≠ '-' := fun h => hhead (congrArg some h)
  have hdashes : bundle (c :: cs) ≠ "--" := by
    intro h
    have h : '-' :: c :: cs = ['-', '-'] :=
      String.toList_ofList.symm.trans (congrArg String.toList h)
    injection h with _ h
    injection h with h _
    exact hc h
  rw [readAll_cons hdashes, readArgument_bundle hc hp]

theorem head?_letters (fs : List Flag) (cs : List Char) (h : cs.head? ≠ some '-') :
    (fs.map Flag.letter ++ cs).head? ≠ some '-' := by
  cases fs with
  | nil => exact h
  | cons f fs => cases f <;> exact of_decide_eq_true rfl

/-- The next argument is the format that is waited for. -/
theorem readAll_format (f : OutputFormat) (p : Progress) (args : List String) :
    readAll { p with waiting := true } (f.name :: args) =
      p.note (.format f) >>= fun p => p.readAll args := by
  cases f <;> rfl

/-- Flags, and then a format of which the rest of the argument tells. -/
theorem readAll_bundle_format (fs : List Flag) {cs : List Char} {f : OutputFormat}
    (h : ∀ p : Progress, p.readLetters ('f' :: cs) = p.note (.format f)) (hp : p.waiting = false)
    (args : List String) : p.readAll (bundle (fs.map Flag.letter ++ 'f' :: cs) :: args) =
      (fs.map Setting.flag ++ [Setting.format f]).foldlM note p >>= fun p => p.readAll args := by
  have hhead : (fs.map Flag.letter ++ 'f' :: cs).head? ≠ some '-' :=
    head?_letters fs _ nofun
  have hne : fs.map Flag.letter ++ 'f' :: cs ≠ [] := List.append_ne_nil_of_right_ne_nil _ nofun
  rw [readAll_bundle hne hhead hp, readLetters_flags, List.foldlM_append]
  simp only [h, List.foldlM_cons, List.foldlM_nil, bind_pure]

theorem readAll_long {option : String} (hne : option ≠ "") (hp : p.waiting = false)
    (args : List String) : p.readAll (("--" ++ option) :: args) =
      p.readOption (splitOption option.toList).1 (splitOption option.toList).2 >>=
        fun p => p.readAll args := by
  have hlist : ("--" ++ option).toList = '-' :: '-' :: option.toList := String.toList_append
  have hdashes : "--" ++ option ≠ "--" := by
    intro h
    have h := hlist.symm.trans (congrArg String.toList h)
    simp at h
    exact hne h
  rw [readAll_cons hdashes, readArgument, hlist]
  simp only [hp, Bool.false_eq_true, if_false]

theorem readOption_flag (f : Flag) (p : Progress) :
    p.readOption (splitOption f.name.toList).1 (splitOption f.name.toList).2 =
      p.note (.flag f) := by
  cases f <;> rfl

theorem readOption_format (f : OutputFormat) (p : Progress) :
    p.readOption (splitOption ("format=" ++ f.name).toList).1
      (splitOption ("format=" ++ f.name).toList).2 = p.note (.format f) := by
  cases f <;> rfl

theorem foldlM_note_singleton (s : Setting) (p : Progress) : [s].foldlM note p = p.note s := by
  rw [List.foldlM_cons]
  exact bind_pure _

/-- An argument is no option if nothing stands behind a hyphen in front. -/
theorem no_option_iff {path : String} : (path = "-" ∨ path.toList.head? ≠ some '-') ↔
    ∀ c cs, path.toList ≠ '-' :: c :: cs := by
  rw [show path = "-" ↔ path.toList = ['-'] from String.toList_inj.symm]
  generalize path.toList = cs
  constructor
  · rintro (rfl | h) d ds e
    · cases e
    · rw [e] at h
      exact h rfl
  · intro h
    match cs, h with
    | [], _ => exact .inr nofun
    | [c], _ =>
      by_cases hc : c = '-'
      · exact .inl (congrArg (fun c => [c]) hc)
      · exact .inr fun e => hc (Option.some.inj e)
    | c :: d :: cs, h => exact .inr fun e => h d cs (congrArg (· :: d :: cs) (Option.some.inj e))

/-- An input is read as it is. -/
theorem readArgument_input {path : String} (h : path = "-" ∨ path.toList.head? ≠ some '-')
    (hp : p.waiting = false) : p.readArgument path = p.setInput path := by
  have hnot := no_option_iff.mp h
  unfold readArgument
  split
  · rename_i e
    exact absurd e (hnot _ _)
  · rename_i e
    exact absurd e (hnot _ _)
  · rw [hp]
    rfl

/-- What is spelled is noted. -/
theorem readAll_part {part : List String} (h : SpellsPart part ss) (hp : p.waiting = false)
    (args : List String) :
    p.readAll (part ++ args) = ss.foldlM note p >>= fun p => p.readAll args := by
  cases h with
  | @flags fs hne =>
    have hletters : p.readLetters (fs.map Flag.letter) = (fs.map Setting.flag).foldlM note p := by
      have h := readLetters_flags fs [] p
      rw [List.append_nil] at h
      exact h.trans (bind_pure _)
    have hhead : (fs.map Flag.letter).head? ≠ some '-' := by
      have h := head?_letters fs [] nofun
      rwa [List.append_nil] at h
    rw [← hletters]
    exact readAll_bundle (fun h => hne (List.map_eq_nil_iff.mp h)) hhead hp args
  | next fs f =>
    have hhead : (fs.map Flag.letter ++ ['f']).head? ≠ some '-' := head?_letters fs _ (by decide)
    have hne : fs.map Flag.letter ++ ['f'] ≠ [] := List.append_ne_nil_of_right_ne_nil _ nofun
    have hwait (p : Progress) : p.readLetters ['f'] = .ok { p with waiting := true } := rfl
    show p.readAll (bundle (fs.map Flag.letter ++ ['f']) :: f.name :: args) = _
    rw [readAll_bundle hne hhead hp, readLetters_flags, List.foldlM_append, bind_assoc, bind_assoc]
    refine congrArg _ (funext fun p => ?_)
    rw [hwait, List.foldlM_cons, bind_assoc]
    exact readAll_format f p args
  | attached fs f => exact readAll_bundle_format fs (fun p => (readLetters_format f p).1) hp args
  | equals fs f => exact readAll_bundle_format fs (fun p => (readLetters_format f p).2) hp args
  | longFlag f =>
    rw [foldlM_note_singleton, ← readOption_flag]
    exact readAll_long (by cases f <;> decide) hp args
  | longNext f =>
    rw [foldlM_note_singleton, ← readAll_format]
    show p.readAll (("--" ++ "format") :: f.name :: args) = _
    rw [readAll_long (by decide) hp]
    rfl
  | longEquals f =>
    have harg : "--format=" ++ f.name = "--" ++ ("format=" ++ f.name) := by cases f <;> rfl
    rw [foldlM_note_singleton, ← readOption_format, harg]
    exact readAll_long (by cases f <;> decide) hp args
  | @input path hpath =>
    have hdashes : path ≠ "--" := by
      rintro rfl
      exact hpath.elim (by decide) (by decide)
    rw [foldlM_note_singleton, List.singleton_append, readAll_cons hdashes,
      readArgument_input hpath hp, note]

/-- Arguments that spell settings are read as these settings. -/
theorem readAll_spells (h : Spells args ss) (hp : p.waiting = false) :
    p.readAll args = ss.foldlM note p := by
  induction h generalizing p with
  | nil =>
    rw [readAll, hp]
    rfl
  | @append part args ss ss' hpart _ ih =>
    rw [readAll_part hpart hp, List.foldlM_append]
    cases hq : ss.foldlM note p with
    | error stop => rfl
    | ok q => exact ih (waiting_foldlM_note hq hp)
  | inputs paths =>
    rw [readAll, hp, List.foldlM_map]
    rfl

/-! ## What is read is spelled -/

theorem setFormat_eq_ok {v : String} (h : p.setFormat v = .ok q) :
    (∃ f : OutputFormat, v = f.name) ∧ q.waiting = false := by
  unfold setFormat at h
  split at h
  · rename_i f _ hf
    cases h
    exact ⟨⟨f, OutputFormat.ofName?_eq_some.mp hf⟩, rfl⟩
  · cases h

/-- The arguments that led to `p` spell something, or do so once the format that is waited for
follows. -/
def Ends (part : List String) (p : Progress) : Prop :=
  (p.waiting = false ∧ ∃ ss, SpellsPart part ss) ∨
    (p.waiting = true ∧ ∀ f : OutputFormat, ∃ ss, SpellsPart (part ++ [f.name]) ss)

theorem attached_eq {cs : List Char} {v : String} (h : attached cs = v) :
    cs = v.toList ∨ cs = '=' :: v.toList := by
  unfold attached at h
  split at h
  · rw [← h, String.toList_ofList]
    exact .inr rfl
  · rw [← h, String.toList_ofList]
    exact .inl rfl

theorem letters_append_cons (fs : List Flag) (f : Flag) (cs : List Char) :
    fs.map Flag.letter ++ f.letter :: cs = (fs ++ [f]).map Flag.letter ++ cs := by
  rw [List.map_append, List.append_assoc]
  rfl

/-- What the first of several letters can be, if they are read. -/
theorem readLetters_cons_eq_ok {c : Char} {cs : List Char} (h : p.readLetters (c :: cs) = .ok q) :
    (∃ (f : Flag) (p' : Progress), c = f.letter ∧ p.note (.flag f) = .ok p' ∧
      p'.readLetters cs = .ok q) ∨
    c = 'f' ∧ (cs = [] ∧ q.waiting = true ∨ p.setFormat (attached cs) = .ok q) := by
  unfold readLetters at h
  split at h
  · rename_i e
    cases e
  · rename_i e
    cases e
    obtain ⟨p', hp', h⟩ := bind_eq_ok h
    exact .inl ⟨.locate, p', rfl, hp', h⟩
  · rename_i e
    cases e
    obtain ⟨p', hp', h⟩ := bind_eq_ok h
    exact .inl ⟨.verbose, p', rfl, hp', h⟩
  · rename_i e
    cases e
    split at h
    · rename_i hcs
      cases h
      exact .inr ⟨rfl, .inl ⟨List.isEmpty_iff.mp hcs, rfl⟩⟩
    · exact .inr ⟨rfl, .inr h⟩
  · cases h
  · cases h
  · cases h

/-- Letters that are read after flags spell something together with these. -/
theorem ends_of_readLetters {cs : List Char} (fs : List Flag) (hne : fs.map Flag.letter ++ cs ≠ [])
    (h : p.readLetters cs = .ok q) (hp : p.waiting = false) :
    Ends [bundle (fs.map Flag.letter ++ cs)] q := by
  induction cs generalizing p fs with
  | nil =>
    rw [List.append_nil] at hne ⊢
    cases h
    exact .inl ⟨hp, _, .flags fun e => hne (List.map_eq_nil_iff.mpr e)⟩
  | cons c cs ih =>
    rcases readLetters_cons_eq_ok h with ⟨f, p', rfl, hp', h⟩ | ⟨rfl, ⟨rfl, hq⟩ | h⟩
    · have hwaiting := waiting_note hp' hp
      rw [letters_append_cons] at hne ⊢
      exact ih _ hne h hwaiting
    · exact .inr ⟨hq, fun f => ⟨_, .next fs f⟩⟩
    · obtain ⟨⟨f, hf⟩, hq⟩ := setFormat_eq_ok h
      rcases attached_eq hf with rfl | rfl
      · exact .inl ⟨hq, _, .attached fs f⟩
      · exact .inl ⟨hq, _, .equals fs f⟩

/-- An option with its value, if any, after an equals sign. -/
def withValue (name : String) : Option String → String
  | some value => name ++ "=" ++ value
  | none => name

/-- A text is cut at its first equals sign. -/
theorem takeWhile_append_drop (cs : List Char) : cs.takeWhile (· != '=') ++
    (if cs.contains '=' then '=' :: cs.drop ((cs.takeWhile (· != '=')).length + 1) else []) =
    cs := by
  induction cs with
  | nil => rfl
  | cons c cs ih =>
    by_cases hc : c = '='
    · subst hc
      simp
    · simp only [bne_iff_ne, ne_eq, hc, not_false_eq_true, List.takeWhile_cons_of_pos,
        List.contains_cons, Bool.or_eq_true, beq_iff_eq, Ne.symm hc, false_or, List.length_cons,
        List.drop_succ_cons, List.cons_append, ih]

theorem withValue_splitOption (cs : List Char) :
    withValue (splitOption cs).1 (splitOption cs).2 = String.ofList cs := by
  have hcut := takeWhile_append_drop cs
  rw [← String.toList_inj, String.toList_ofList, splitOption]
  split at hcut
  · rename_i h
    rw [if_pos h]
    simpa [withValue] using hcut
  · rename_i h
    rw [if_neg h]
    simpa [withValue] using hcut

theorem ends_of_readOption {name : String} {value : Option String}
    (h : p.readOption name value = .ok q) (hp : p.waiting = false) :
    Ends ["--" ++ withValue name value] q := by
  unfold readOption at h
  split at h
  · obtain ⟨⟨f, rfl⟩, hq⟩ := setFormat_eq_ok h
    exact .inl ⟨hq, _, .longEquals f⟩
  · cases h
    exact .inr ⟨rfl, fun f => ⟨_, .longNext f⟩⟩
  · exact .inl ⟨waiting_note (s := .flag .locate) h hp, _, .longFlag .locate⟩
  · exact .inl ⟨waiting_note (s := .flag .verbose) h hp, _, .longFlag .verbose⟩
  · cases h
  · cases h
  · cases h

/-- An argument that is read spells something. -/
theorem ends_of_readArgument {arg : String} (h : p.readArgument arg = .ok q)
    (hp : p.waiting = false) : Ends [arg] q := by
  unfold readArgument at h
  split at h
  · rename_i cs e
    rw [hp] at h
    have harg : arg = "--" ++ withValue (splitOption cs).1 (splitOption cs).2 := by
      rw [withValue_splitOption, ← String.toList_inj, e]
      simp
    rw [harg]
    exact ends_of_readOption h hp
  · rename_i c cs hc e
    rw [hp] at h
    have harg : arg = bundle (c :: cs) := by rw [bundle, ← e, String.ofList_toList]
    rw [harg]
    exact ends_of_readLetters [] nofun h hp
  · rename_i hlong hshort
    rw [hp] at h
    have hpath : arg = "-" ∨ arg.toList.head? ≠ some '-' := by
      refine no_option_iff.mpr fun c cs e => ?_
      by_cases hc : c = '-'
      · exact hlong cs (hc ▸ e)
      · exact hshort c cs e
    have hwaiting := waiting_note (s := .input arg) h hp
    exact .inl ⟨hwaiting, _, .input hpath⟩

theorem readArgument_waiting {arg : String} (h : p.readArgument arg = .ok q)
    (hp : p.waiting = true) : p.setFormat arg = .ok q := by
  unfold readArgument at h
  split at h <;> rw [hp] at h
  · cases h
  · cases h
  · exact h

/-- Arguments that are read spell settings, if need be after the format that is waited for. -/
theorem spells_of_readAll (h : p.readAll args = .ok q) :
    (p.waiting = false → ∃ ss, Spells args ss) ∧
      (p.waiting = true → ∃ (f : OutputFormat) (rest : List String) (ss : List Setting),
        args = f.name :: rest ∧ Spells rest ss) := by
  induction args generalizing p with
  | nil =>
    refine ⟨fun _ => ⟨[], .nil⟩, fun hp => ?_⟩
    rw [readAll, hp] at h
    cases h
  | cons arg args ih =>
    by_cases hdashes : arg = "--"
    · subst hdashes
      refine ⟨fun _ => ⟨_, .inputs args⟩, fun hp => ?_⟩
      rw [readAll, hp] at h
      cases h
    · rw [readAll_cons hdashes] at h
      obtain ⟨p', hp', h⟩ := bind_eq_ok h
      obtain ⟨hread, hwait⟩ := ih h
      constructor
      · intro hp
        rcases ends_of_readArgument hp' hp with ⟨hq, ss, hpart⟩ | ⟨hq, hpart⟩
        · obtain ⟨ss', hargs⟩ := hread hq
          exact ⟨ss ++ ss', .append hpart hargs⟩
        · obtain ⟨f, rest, ss', rfl, hrest⟩ := hwait hq
          obtain ⟨ss, hpart⟩ := hpart f
          exact ⟨ss ++ ss', .append hpart hrest⟩
      · intro hp
        obtain ⟨⟨f, hf⟩, hq⟩ := setFormat_eq_ok (readArgument_waiting hp' hp)
        obtain ⟨ss, hargs⟩ := hread hq
        exact ⟨f, args, ss, hf ▸ rfl, hargs⟩

theorem readAll_initial (h : Spells args ss) :
    readAll .initial args = .ok p ↔ Consistent ss ∧ p = knowing ss := by
  have hnil : Consistent [] := ⟨.nil, List.not_mem_nil⟩
  rw [readAll_spells h rfl]
  exact foldlM_note_knowing hnil

end Progress

/-- The arguments that are read are those that spell consistent settings, and what they ask for is
what the settings do. -/
theorem Invocation.read_eq_ok_iff {args : List String} {i : Invocation} :
    Invocation.read args = .ok i ↔ ∃ ss, Spells args ss ∧ Consistent ss ∧ i = asked ss := by
  constructor
  · intro h
    obtain ⟨p, hp, h⟩ := bind_eq_ok h
    obtain ⟨ss, hspells⟩ := (Progress.spells_of_readAll hp).1 rfl
    obtain ⟨hconsistent, rfl⟩ := (Progress.readAll_initial hspells).mp hp
    exact ⟨ss, hspells, hconsistent, (Except.ok.inj h).symm⟩
  · rintro ⟨ss, hspells, hconsistent, rfl⟩
    have h := (Progress.readAll_initial hspells).mpr ⟨hconsistent, rfl⟩
    rw [read, h]
    rfl

end OclScan.CommandLine
