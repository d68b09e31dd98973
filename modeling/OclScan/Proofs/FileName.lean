import OclScan.FileName

/-!
# Components of paths

The components of a path are what stands between slashes, apart from empty ones and single dots. The
last of them (`lastComponent?`) is the name of the file, unless it leads up (`fileName?_eq`).
Within a directory, a path keeps its last component if it has one (`lastComponent?_within`).
-/

namespace OclScan

/-- What stands between slashes is a component, unless it is empty or a single dot. -/
def IsComponent (s : List Char) : Prop := s ≠ [] ∧ s ≠ ['.']

instance : DecidablePred IsComponent := fun _ => inferInstanceAs (Decidable (_ ∧ _))

/-- The last component of a path. -/
def lastComponent? (path : String) : Option (List Char) :=
  ((path.toList.splitOn '/').filter fun s => IsComponent s).getLast?

/-- By induction on the text; what has been read of the current component is put in front. -/
theorem splitSlashes_eq (part cs : List Char) :
    splitSlashes part cs = List.splitOnPPrepend (fun c => c == '/') cs part := by
  induction cs generalizing part with
  | nil => rfl
  | cons c cs ih =>
    rw [splitSlashes, List.splitOnPPrepend_cons_eq_if, ih, ih, List.splitOnPPrepend_nil_right]
    simp only [beq_iff_eq]

theorem components_eq (path : String) :
    components path =
      ((path.toList.splitOn '/').filter fun s => IsComponent s).map String.ofList := by
  have hcomponent : ∀ s : List Char,
      (String.ofList s != "" && String.ofList s != ".") = decide (IsComponent s) := by
    intro s
    have htext : ∀ u : List Char, String.ofList s ≠ String.ofList u ↔ s ≠ u :=
      fun u => not_congr String.ofList_inj
    rw [Bool.eq_iff_iff, Bool.and_eq_true, bne_iff_ne, bne_iff_ne, decide_eq_true_iff]
    exact and_congr (htext []) (htext ['.'])
  rw [components, splitSlashes_eq, List.splitOnPPrepend_nil_right, ← List.splitOn_eq_splitOnP,
    List.filter_map]
  exact congrArg _ (List.filter_congr fun s _ => hcomponent s)

theorem getLast?_components (path : String) :
    (components path).getLast? = (lastComponent? path).map String.ofList := by
  rw [components_eq, List.getLast?_map, lastComponent?]

/-- A file has the name that its path ends in, unless this leads up. -/
theorem fileName?_eq (path : String) :
    fileName? path = ((lastComponent? path).filter (· ≠ "..".toList)).map String.ofList := by
  rw [fileName?, getLast?_components]
  cases lastComponent? path with
  | none => rfl
  | some s =>
    rw [Option.map_some]
    show (if String.ofList s == ".." then none else some (String.ofList s)) = _
    have hname : String.ofList s = ".." ↔ s = "..".toList := by
      rw [← String.toList_inj, String.toList_ofList]
    simp only [Option.filter_some, beq_iff_eq, hname, decide_not, Bool.not_eq_true',
      decide_eq_false_iff_not, ite_not]
    split <;> rfl

/-! ## Paths within a directory -/

theorem lastComponent?_within (dir path : String) :
    lastComponent? (dir ++ "/" ++ path) = (lastComponent? path).or (lastComponent? dir) := by
  have hlist : (dir ++ "/" ++ path).toList = dir.toList ++ '/' :: path.toList := by simp
  rw [lastComponent?, hlist, List.splitOn_append_cons_self, List.filter_append,
    List.getLast?_append]
  rfl

theorem lastComponent?_slash (path : String) :
    lastComponent? (path ++ "/") = lastComponent? path := by
  have hwithin := lastComponent?_within path ""
  rwa [String.append_empty] at hwithin

theorem lastComponent?_slash_dot (path : String) :
    lastComponent? (path ++ "/.") = lastComponent? path := by
  have hwithin := lastComponent?_within path "."
  rwa [String.append_assoc] at hwithin

end OclScan
