import OclScan.CommandLine

/-!
# Spellings of command lines

What an argument list says, by the ways in which each thing can be spelled (`Spells`): flags may
stand together behind one hyphen, and a format may follow them, in the same argument or as the next.
Lists that say nothing twice (`Consistent`) ask for something (`asked`).
-/

namespace OclScan.CommandLine

/-- An option without a value. -/
inductive Flag
  | locate
  | verbose
  deriving DecidableEq, Repr

namespace Flag

/-- The letter of a flag, behind one hyphen. -/
def letter : Flag → Char
  | locate => 'l'
  | verbose => 'v'

/-- The name of a flag, behind two hyphens. -/
def name : Flag → String
  | locate => "locate"
  | verbose => "verbose"

end Flag

/-- The name of an output format. -/
def OutputFormat.name : OutputFormat → String
  | raw => "raw"
  | json => "json"
  | summary => "summary"

/-- The input that an argument names. -/
def Input.ofPath (path : String) : Input := if path = "-" then .stdin else .file path

/-- One thing that an argument list says. -/
inductive Setting
  | flag (f : Flag)
  | format (f : OutputFormat)
  | input (path : String)
  deriving DecidableEq, Repr

/-- What a setting is about. -/
inductive Topic
  | flag (f : Flag)
  | format
  | input
  deriving DecidableEq, Repr

namespace Setting

/-- What a setting is about. -/
def topic : Setting → Topic
  | flag f => .flag f
  | format _ => .format
  | input _ => .input

/-- The format that is set, if one is. -/
def format? : Setting → Option OutputFormat
  | format f => some f
  | _ => none

/-- The input that is named, if one is. -/
def input? : Setting → Option Input
  | input path => some (.ofPath path)
  | _ => none

end Setting

/-! ## Spellings -/

/-- Letters behind one hyphen. -/
def bundle (letters : List Char) : String := String.ofList ('-' :: letters)

/-- The arguments spell flags and formats, or an input. -/
inductive SpellsPart : List String → List Setting → Prop
  /-- Flags together. -/
  | flags {fs : List Flag} : fs ≠ [] →
      SpellsPart [bundle (fs.map Flag.letter)] (fs.map .flag)
  /-- Flags, if any, and the letter of the format, which is the next argument. -/
  | next (fs : List Flag) (f : OutputFormat) :
      SpellsPart [bundle (fs.map Flag.letter ++ ['f']), f.name] (fs.map .flag ++ [.format f])
  /-- Flags, if any, and the letter of the format, which follows at once. -/
  | attached (fs : List Flag) (f : OutputFormat) :
      SpellsPart [bundle (fs.map Flag.letter ++ 'f' :: f.name.toList)]
        (fs.map .flag ++ [.format f])
  /-- The same with an equals sign. -/
  | equals (fs : List Flag) (f : OutputFormat) :
      SpellsPart [bundle (fs.map Flag.letter ++ 'f' :: '=' :: f.name.toList)]
        (fs.map .flag ++ [.format f])
  /-- A flag by its name. -/
  | longFlag (f : Flag) : SpellsPart ["--" ++ f.name] [.flag f]
  /-- The format, which is the next argument. -/
  | longNext (f : OutputFormat) : SpellsPart ["--format", f.name] [.format f]
  /-- The format after an equals sign. -/
  | longEquals (f : OutputFormat) : SpellsPart ["--format=" ++ f.name] [.format f]
  /-- An input, which does not start with a hyphen unless it is one. -/
  | input {path : String} : path = "-" ∨ path.toList.head? ≠ some '-' →
      SpellsPart [path] [.input path]

/-- The arguments spell the settings, in order. -/
inductive Spells : List String → List Setting → Prop
  | nil : Spells [] []
  | append {part args : List String} {ss ss' : List Setting} : SpellsPart part ss →
      Spells args ss' → Spells (part ++ args) (ss ++ ss')
  /-- After two hyphens all are inputs. -/
  | inputs (paths : List String) : Spells ("--" :: paths) (paths.map .input)

/-- Nothing is said twice, and no input is the empty text. -/
def Consistent (ss : List Setting) : Prop := (ss.map Setting.topic).Nodup ∧ .input "" ∉ ss

instance (ss : List Setting) : Decidable (Consistent ss) := inferInstanceAs (Decidable (_ ∧ _))

/-- What the settings ask for: what they do not say is the standard input in the raw format. -/
def asked (ss : List Setting) : Invocation where
  input := (ss.findSome? Setting.input?).getD .stdin
  format := (ss.findSome? Setting.format?).getD .raw
  locate := ss.contains (.flag .locate)
  verbose := ss.contains (.flag .verbose)

/-! ## What settings are about -/

section

variable {ss ss' : List Setting} {s : Setting}

theorem mem_topics_flag {f : Flag} : .flag f ∈ ss.map Setting.topic ↔ .flag f ∈ ss := by
  rw [List.mem_map]
  constructor
  · rintro ⟨s, hs, h⟩
    cases s with
    | flag g => exact Topic.flag.inj h ▸ hs
    | format g => cases h
    | input path => cases h
  · exact fun h => ⟨_, h, rfl⟩

theorem mem_topics_format :
    .format ∈ ss.map Setting.topic ↔ (ss.findSome? Setting.format?).isSome = true := by
  rw [List.findSome?_isSome_iff, List.mem_map]
  refine exists_congr fun s => and_congr_right fun _ => ?_
  cases s <;> simp [Setting.topic, Setting.format?]

theorem mem_topics_input :
    .input ∈ ss.map Setting.topic ↔ (ss.findSome? Setting.input?).isSome = true := by
  rw [List.findSome?_isSome_iff, List.mem_map]
  refine exists_congr fun s => and_congr_right fun _ => ?_
  cases s <;> simp [Setting.topic, Setting.input?]

/-- A setting can be added if it is new. -/
theorem consistent_append_singleton :
    Consistent (ss ++ [s]) ↔
      Consistent ss ∧ ¬ (s.topic ∈ ss.map Setting.topic ∨ s = .input "") := by
  have hempty : Setting.input "" ∉ ss ++ [s] ↔ .input "" ∉ ss ∧ s ≠ .input "" := by
    rw [List.mem_append, List.mem_singleton, not_or, ne_comm]
  have htopics : (ss.map Setting.topic ++ [s.topic]).Nodup ↔
      (ss.map Setting.topic).Nodup ∧ s.topic ∉ ss.map Setting.topic := by
    simp [List.nodup_append]
  rw [Consistent, Consistent, List.map_append, List.map_singleton, htopics, hempty, not_or]
  exact and_and_and_comm

theorem Consistent.of_append (h : Consistent (ss ++ ss')) : Consistent ss := by
  rw [Consistent, List.map_append] at h
  exact ⟨(List.nodup_append.mp h.1).1, fun hmem => h.2 (List.mem_append_left _ hmem)⟩

end

end OclScan.CommandLine
