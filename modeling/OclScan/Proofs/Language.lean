import OclScan.Language
import OclScan.Proofs.FileName
import OclScan.Proofs.Glob
import OclScan.Proofs.Grammar.Rules

/-!
# Languages by file name

A language has the files whose paths have a last component that one of its globs matches
(`Language.matchesPath_iff`); nothing else of the path matters, and no text that is not a glob. The
constraint language has those whose last component ends in `.ocl` (`Language.matchesPath_ocl`).
-/

namespace OclScan

namespace Language

variable {l : Language} {path path' : String}

theorem matchesPath_iff :
    l.matchesPath path = true ↔ ∃ name, lastComponent? path = some name ∧ name ≠ "..".toList ∧
      ∃ text ∈ l.filenames, ∃ g, Glob.read? text = some g ∧
        Glob.matchesParts g.parts name = true := by
  rw [matchesPath, fileName?_eq]
  cases lastComponent? path with
  | none => exact ⟨nofun, fun ⟨_, h, _⟩ => nomatch h⟩
  | some name =>
    simp only [Option.some.injEq, exists_eq_left', Option.filter_some, decide_eq_true_iff]
    by_cases hup : name ≠ "..".toList
    · simp only [if_pos hup, Option.map_some, List.any_eq_true, Option.any_eq_true, Glob.accepts,
        String.toList_ofList]
      exact ⟨fun h => ⟨hup, h⟩, And.right⟩
    · simp only [if_neg hup]
      exact ⟨nofun, fun h => absurd h.1 hup⟩

/-- Paths with the same last component are treated alike. -/
theorem matchesPath_congr (h : lastComponent? path = lastComponent? path') :
    l.matchesPath path = l.matchesPath path' := by
  rw [matchesPath, matchesPath, fileName?_eq, fileName?_eq, h]

theorem matchesPath_eq_false (h : lastComponent? path = none) : l.matchesPath path = false := by
  rw [matchesPath, fileName?_eq, h]
  rfl

/-- A path that has a last component keeps it in every directory. -/
theorem matchesPath_within (h : (lastComponent? path).isSome) (dir : String) :
    l.matchesPath (dir ++ "/" ++ path) = l.matchesPath path := by
  refine matchesPath_congr ?_
  rw [lastComponent?_within, Option.or_of_isSome h]

/-- A path without a last component leads to the directory that it is put in. -/
theorem matchesPath_within_of_eq_none (h : lastComponent? path = none) (dir : String) :
    l.matchesPath (dir ++ "/" ++ path) = l.matchesPath dir := by
  refine matchesPath_congr ?_
  rw [lastComponent?_within, h, Option.none_or]

/-- Only the globs among the texts matter. -/
theorem exists_glob_iff {fs : List String} {p : Glob → Prop} :
    (∃ text ∈ fs, ∃ g, Glob.read? text = some g ∧ p g) ↔
      ∃ text ∈ fs.filter Glob.isGlob, ∃ g, Glob.read? text = some g ∧ p g := by
  refine exists_congr fun text => ?_
  rw [List.mem_filter, and_assoc]
  refine and_congr_right fun _ => ⟨fun ⟨g, hg, hp⟩ => ⟨?_, g, hg, hp⟩, fun ⟨_, hp⟩ => hp⟩
  rw [Glob.isGlob, hg, Option.isSome_some]

/-- Texts that are not globs do not matter, wherever they stand among the globs. -/
theorem matchesPath_of_filter_eq {fs : List String}
    (h : fs.filter Glob.isGlob = l.filenames.filter Glob.isGlob) (path : String) :
    { l with filenames := fs }.matchesPath path = l.matchesPath path := by
  rw [Bool.eq_iff_iff, matchesPath_iff, matchesPath_iff]
  refine exists_congr fun name => and_congr_right fun _ => and_congr_right fun _ => ?_
  rw [exists_glob_iff, h, ← exists_glob_iff]

theorem matchesPath_ocl : ocl.matchesPath path = true ↔
    ∃ name, lastComponent? path = some name ∧ name ≠ "..".toList ∧ ".ocl".toList <:+ name := by
  have hread : Glob.read? "*.ocl" = some ⟨.run :: ".ocl".toList.map .char⟩ :=
    Glob.read?_run (w := ".ocl".toList) (by decide)
  rw [matchesPath_iff]
  refine exists_congr fun name => and_congr_right fun _ => and_congr_right fun _ => ?_
  rw [← Glob.matchesParts_run_plain]
  constructor
  · rintro ⟨text, htext, g, hg, hmatch⟩
    rw [List.mem_singleton.mp htext, hread] at hg
    cases hg
    exact hmatch
  · exact fun hmatch => ⟨_, List.mem_singleton_self _, _, hread, hmatch⟩

end Language

namespace LookupKey

/-- A key leads to the lexer of the constraint language or to none, never to an error. -/
theorem findLexer_eq (k : LookupKey) (key : String) :
    k.findLexer key = .ok (if (k.find? key).isSome then some ⟨Grammar.rules⟩ else none) := by
  rw [findLexer, Lexer.standard_eq]
  split <;> rfl

theorem isSome_find?_byFilename (path : String) :
    (byFilename.find? path).isSome = Language.ocl.matchesPath path := by
  rw [find?]
  cases Language.ocl.matchesPath path <;> rfl

end LookupKey

/-- A path leads to the lexer exactly if it has a last component that does not lead up and ends in
`.ocl`. With any list of globs, only the last component of a path matters: not the directories
before it, nor a slash or a slash and a dot after it. A path that has none is in no language (in a
directory, it leads to this). Nor do texts among the globs matter that are not globs. -/
theorem filename_association :
    (∃ lexer, Lexer.standard = .ok lexer ∧ ∀ path,
      (LookupKey.byFilename.findLexer path = .ok (some lexer) ↔
        ∃ name, lastComponent? path = some name ∧ name ≠ "..".toList ∧ ".ocl".toList <:+ name) ∧
      (LookupKey.byFilename.findLexer path = .ok (some lexer) ∨
        LookupKey.byFilename.findLexer path = .ok none)) ∧
    ∀ l : Language,
      (∀ path path', lastComponent? path = lastComponent? path' →
        l.matchesPath path = l.matchesPath path') ∧
      (∀ dir path, (lastComponent? path).isSome →
        l.matchesPath (dir ++ "/" ++ path) = l.matchesPath path) ∧
      (∀ dir path, lastComponent? path = none →
        l.matchesPath (dir ++ "/" ++ path) = l.matchesPath dir) ∧
      (∀ path, l.matchesPath (path ++ "/") = l.matchesPath path ∧
        l.matchesPath (path ++ "/.") = l.matchesPath path) ∧
      (∀ path, lastComponent? path = none → l.matchesPath path = false) ∧
      ∀ fs, fs.filter Glob.isGlob = l.filenames.filter Glob.isGlob →
        ∀ path, { l with filenames := fs }.matchesPath path = l.matchesPath path := by
  refine ⟨⟨_, Lexer.standard_eq, fun path => ?_⟩, fun l => ⟨fun _ _ => l.matchesPath_congr,
    fun dir _ h => l.matchesPath_within h dir,
    fun dir _ h => l.matchesPath_within_of_eq_none h dir,
    fun path => ⟨l.matchesPath_congr (lastComponent?_slash path),
      l.matchesPath_congr (lastComponent?_slash_dot path)⟩,
    fun _ => l.matchesPath_eq_false, fun _ h => l.matchesPath_of_filter_eq h⟩⟩
  rw [← Language.matchesPath_ocl, LookupKey.findLexer_eq, LookupKey.isSome_find?_byFilename]
  cases Language.ocl.matchesPath path with
  | false => exact ⟨⟨nofun, nofun⟩, .inr rfl⟩
  | true => exact ⟨⟨fun _ => rfl, fun _ => rfl⟩, .inl rfl⟩

/-- A hidden file in a directory, the current directory, and a list with a text that is no glob. -/
theorem filename_association_paths :
    let l : Language := { Language.ocl with filenames := ["[.ocl", "*.ocl"] }
    lastComponent? "a//./.ocl/." = lastComponent? ".ocl" ∧
      l.matchesPath "a//./.ocl/." = l.matchesPath ".ocl" ∧
      (lastComponent? "b.md").isSome ∧
      l.matchesPath ("a.ocl" ++ "/" ++ "b.md") = l.matchesPath "b.md" ∧
      lastComponent? "./" = none ∧
      l.matchesPath ("a.ocl" ++ "/" ++ "./") = l.matchesPath "a.ocl" ∧
      l.matchesPath "./" = false ∧
      Language.ocl.filenames.filter Glob.isGlob = l.filenames.filter Glob.isGlob ∧
      Language.ocl.matchesPath "[.ocl" = l.matchesPath "[.ocl" := by
  intro l
  obtain ⟨-, hall⟩ := filename_association
  obtain ⟨hsame, hwithin, hnowhere, -, hnone, hglobs⟩ := hall l
  have hhidden : lastComponent? "a//./.ocl/." = lastComponent? ".ocl" := by decide
  have hfile : (lastComponent? "b.md").isSome := by decide
  have hroot : lastComponent? "./" = none := by decide
  have hfilter : Language.ocl.filenames.filter Glob.isGlob = l.filenames.filter Glob.isGlob := by
    decide
  exact ⟨hhidden, hsame _ _ hhidden, hfile, hwithin _ _ hfile, hroot, hnowhere _ _ hroot,
    hnone _ hroot, hfilter, hglobs _ hfilter _⟩

/-- The current directory has no last component, and within a directory it is this directory. -/
theorem filename_association_dot :
    Language.ocl.matchesPath "." = false ∧
      Language.ocl.matchesPath ("x.ocl" ++ "/" ++ ".") = true := by
  decide

end OclScan
