import CodeAtlas.Proofs.Resolver.Relative

/-!
# Dotted names

A dotted name is some dots and then names with dots between them. Its path has slashes in their place
(`dottedPath_dottedName`), and each dot after the first one leads from a directory to the one above (`climb_append`) until
there is none (`climb_eq_none`). Without dots in front a name is looked for from the repository on, and below `src`,
whatever directory of the repository it is used in (`dottedCandidates_absolute`).

A search gives the first of its paths that is a file (`firstFile_eq_some`), or nothing if none is (`firstFile_eq_none`). So a
dotted name that is made from a module leads back to the file of the module, or to the one of the package of this name
(`resolveDotted_dottedName`).
-/

namespace CodeAtlas.Resolver

open CodeAtlas.Path

/-! ## Searches -/

section Searches

variable {r : Resolver}

/-- The path is a file, and none of those before it is one. -/
def IsFirstFile (r : Resolver) (paths : List String) (file : String) : Prop :=
  ∃ front back, paths = front ++ file :: back ∧ r.isFile file = .ok true ∧ ∀ path ∈ front, r.isFile path = .ok false

theorem firstFile_eq_some {paths : List String} {file : String} :
    r.firstFile paths = .ok (some file) ↔ r.IsFirstFile paths file := by
  constructor
  · intro found
    induction paths with
    | nil => cases found
    | cons path paths ih =>
      rw [firstFile] at found
      obtain ⟨isFile, looked, found⟩ := Except.bind_eq_ok_iff.mp found
      cases isFile with
      | true =>
        obtain rfl : path = file := Option.some.inj (Except.ok.inj found)
        exact ⟨[], paths, rfl, looked, List.forall_mem_nil _⟩
      | false =>
        obtain ⟨front, back, rfl, isFile, missing⟩ := ih found
        exact ⟨path :: front, back, rfl, isFile, List.forall_mem_cons.mpr ⟨looked, missing⟩⟩
  · rintro ⟨front, back, rfl, isFile, missing⟩
    have new : file ∉ front := by
      intro mem
      rw [missing file mem] at isFile
      cases isFile
    exact (firstFile_eq_some_iff isFile new).mpr missing

theorem firstFile_eq_none {paths : List String} :
    r.firstFile paths = .ok none ↔ ∀ path ∈ paths, r.isFile path = .ok false := by
  induction paths with
  | nil => exact iff_of_true rfl (List.forall_mem_nil _)
  | cons path paths ih =>
    rw [firstFile, Except.bind_eq_ok_iff, List.forall_mem_cons, ← ih]
    constructor
    · rintro ⟨isFile, looked, found⟩
      cases isFile with
      | true => cases found
      | false => exact ⟨looked, found⟩
    · rintro ⟨looked, found⟩
      exact ⟨false, looked, found⟩

end Searches

/-! ## Names -/

/-- The text can be one of the names of a dotted name. -/
def IsModuleName (text : String) : Prop := text ≠ "" ∧ '.' ∉ text.toList ∧ '/' ∉ text.toList

instance (text : String) : Decidable (IsModuleName text) :=
  inferInstanceAs (Decidable (text ≠ "" ∧ '.' ∉ text.toList ∧ '/' ∉ text.toList))

theorem IsModuleName.isOrdinary {text : String} (h : IsModuleName text) : IsOrdinary text := by
  obtain ⟨named, dotFree, slashFree⟩ := h
  refine ⟨⟨named, ?_, slashFree⟩, ?_⟩
  · rintro rfl
    exact dotFree (by decide)
  · rintro rfl
    exact dotFree (by decide)

/-- Some dots, and names with dots between them. -/
def dottedName (dots : Nat) (names : List String) : String :=
  String.ofList (List.replicate dots '.') ++ String.intercalate "." names

example : dottedName 2 ["util", "text"] = "..util.text" := by decide

variable {b : List String}

/-- Cutting a dotted name after its dots leaves its names. -/
theorem cut_dottedName (dots : Nat) (names : ∀ name ∈ b, IsModuleName name) :
    (dottedName dots b).toList.takeWhile (· = '.') = List.replicate dots '.' ∧
      (dottedName dots b).toList.dropWhile (· = '.') = (String.intercalate "." b).toList := by
  have text : (dottedName dots b).toList = List.replicate dots '.' ++ (String.intercalate "." b).toList := by
    rw [dottedName, String.toList_append, String.toList_ofList]
  rw [text, List.takeWhile_append_of_pos (by simp), List.dropWhile_append_of_pos (by simp)]
  cases b with
  | nil => exact ⟨List.append_nil _, rfl⟩
  | cons first rest =>
    obtain ⟨named, dotFree, -⟩ := names first List.mem_cons_self
    obtain ⟨c, cs, chars⟩ := List.exists_cons_of_ne_nil (mt String.toList_eq_nil_iff.mp named)
    have other : c ≠ '.' := fun dot => dotFree (chars ▸ dot ▸ List.mem_cons_self)
    have start : ∃ more, (String.intercalate "." (first :: rest)).toList = c :: more := by
      rw [String.toList_intercalate, List.map_cons, chars]
      cases rest with
      | nil => exact ⟨cs, List.intercalate_singleton⟩
      | cons next rest => exact ⟨_, List.intercalate_cons_cons⟩
    obtain ⟨more, start⟩ := start
    simp [start, other]

theorem dotLevel_dottedName (dots : Nat) (names : ∀ name ∈ b, IsModuleName name) :
    dotLevel (dottedName dots b).toList = dots := by
  rw [dotLevel, (cut_dottedName dots names).1, List.length_replicate]

/-- The path of a dotted name has slashes between its names. -/
theorem dottedPath_dottedName (dots : Nat) (names : ∀ name ∈ b, IsModuleName name) :
    dottedPath (dottedName dots b).toList = (joinSegments b).toList := by
  have free : ∀ piece ∈ b.map String.toList, '.' ∉ piece := by
    intro piece mem
    obtain ⟨name, listed, rfl⟩ := List.mem_map.mp mem
    exact (names name listed).2.1
  rw [dottedPath, (cut_dottedName dots names).2, String.toList_intercalate, joinSegments, String.toList_intercalate]
  exact Text.replaceChar_intercalate '/' free

theorem dottedName_ne_empty {dots : Nat} (names : ∀ name ∈ b, IsModuleName name) (more : dots ≠ 0 ∨ b ≠ []) :
    dottedName dots b ≠ "" := by
  intro empty
  have level := dotLevel_dottedName dots names
  have path := dottedPath_dottedName dots names
  rw [empty] at level path
  rcases more with some | some
  · exact some level.symm
  · exact joinSegments_ne_empty (fun name mem => (names name mem).isOrdinary) some (String.toList_inj.mp path.symm)

/-! ## Climbing -/

/-- A climb leaves the innermost directory. -/
theorem climb_concat {outer : List String} {last : String} (ordinary : ∀ s ∈ outer ++ [last], IsOrdinary s) (levels : Nat) :
    climb (levels + 1) (joinSegments (outer ++ [last])) = climb levels (joinSegments outer) := by
  have above : normalize (join (joinSegments (outer ++ [last])) "..") = some (joinSegments outer) := by
    rw [normalize_join ordinary (by decide), show segmentsOf ".." = [".."] by decide]
    simp [cancel]
  rw [climb, above, Option.bind_some]

/-- Climbing once for each inner directory leads to the outer ones. -/
theorem climb_append {c a : List String} (ordinary : ∀ s ∈ c ++ a, IsOrdinary s) :
    climb a.length (joinSegments (c ++ a)) = some (joinSegments c) := by
  induction a using List.reverseRecOn with
  | nil =>
    rw [List.append_nil]
    rfl
  | append_singleton a last ih =>
    rw [← List.append_assoc] at ordinary ⊢
    rw [List.length_append, List.length_singleton, climb_concat ordinary]
    exact ih (List.forall_mem_append.mp ordinary).1

/-- Climbing more often than there are directories leads nowhere. -/
theorem climb_eq_none {segments : List String} (ordinary : ∀ s ∈ segments, IsOrdinary s) {levels : Nat}
    (more : segments.length < levels) : climb levels (joinSegments segments) = none := by
  induction segments using List.reverseRecOn generalizing levels with
  | nil =>
    obtain ⟨levels, rfl⟩ := Nat.exists_eq_succ_of_ne_zero (Nat.ne_of_gt more)
    rw [climb, show normalize (join (joinSegments []) "..") = none by decide]
    rfl
  | append_singleton outer last ih =>
    rw [List.length_append, List.length_singleton] at more
    obtain ⟨levels, rfl⟩ := Nat.exists_eq_succ_of_ne_zero (Nat.ne_zero_of_lt more)
    rw [climb_concat ordinary]
    exact ih (List.forall_mem_append.mp ordinary).1 (Nat.lt_of_succ_lt_succ more)

/-! ## Modules and packages -/

section Files

variable {r : Resolver}

/-- The directory is in the repository: it is given by segments that do not climb out. -/
def Holds (r : Resolver) (directory : String) : Prop := ∃ below, r.LiesAt directory below ∧ ¬ Escapes 0 below

theorem Holds.relativeDirectory {directory : String} (h : r.Holds directory) :
    ∃ here, r.relativeDirectory directory = some here := by
  obtain ⟨below, lies, stays⟩ := h
  have left : cancel [] below ≠ none := mt cancel_eq_none_iff.mp stays
  obtain ⟨kept, cancelled⟩ := Option.ne_none_iff_exists'.mp left
  exact ⟨joinSegments kept, relativeDirectory_eq_some_iff.mpr ⟨below, lies, by rw [cancelled, Option.map_some]⟩⟩

/-- The file of a module, with the names that lead to it. -/
def moduleFile (names : List String) : String := joinSegments names ++ ".py"

/-- The file of a package, with the names that lead to it. -/
def packageFile (names : List String) : String := joinSegments (names ++ ["__init__.py"])

example : moduleFile ["util", "text"] = "util/text.py" ∧ packageFile ["util", "text"] = "util/text/__init__.py" := by decide

theorem moduleFiles_joinSegments {names : List String} (ordinary : ∀ s ∈ names, IsOrdinary s) (named : Bool) :
    moduleFiles named (joinSegments names) = (if named then [moduleFile names] else []) ++ [packageFile names] := by
  have package : join (joinSegments names) "__init__.py" = packageFile names := by
    rw [packageFile, ← join_joinSegments (fun s mem => (ordinary s mem).1.1) (by simp)]
    rfl
  rw [moduleFiles, package, moduleFile]

/-- From a directory of the repository a name leads to the files at its places. -/
theorem dottedCandidates_eq {module directory here : String} (inside : r.relativeDirectory directory = some here)
    (named : module ≠ "") :
    r.dottedCandidates module directory =
      (dottedBases module here).map fun bases => bases.flatMap (moduleFiles !(dottedPath module.toList).isEmpty) := by
  simp only [dottedCandidates, inside, if_neg named, Option.bind_eq_bind, Option.bind_some]
  cases dottedBases module here <;> rfl

/-- With one dot more than directories to leave, a dotted name is looked for from the outer directories on. -/
theorem dottedCandidates_relative {c a : List String} (ordinary : ∀ s ∈ c ++ a, IsOrdinary s)
    (names : ∀ name ∈ b, IsModuleName name) :
    r.dottedCandidates (dottedName (a.length + 1) b) (joinSegments (c ++ a)) =
      some ((if b = [] then [] else [moduleFile (c ++ b)]) ++ [packageFile (c ++ b)]) := by
  have inner : ∀ s ∈ b, IsOrdinary s := fun s mem => (names s mem).isOrdinary
  have outer : ∀ s ∈ c, IsOrdinary s := (List.forall_mem_append.mp ordinary).1
  have path := dottedPath_dottedName (a.length + 1) names
  have empty : joinSegments b = "" ↔ b = [] := joinSegments_eq_empty_iff fun s mem => (inner s mem).1.1
  have place : (if joinSegments b = "" then joinSegments c else join (joinSegments c) (joinSegments b)) =
      joinSegments (c ++ b) := by
    split
    · rename_i none
      rw [empty.mp none, List.append_nil]
    · rename_i below
      exact join_joinSegments (fun s mem => (outer s mem).1.1) (mt empty.mpr below)
  have bases : dottedBases (dottedName (a.length + 1) b) (joinSegments (c ++ a)) = some [joinSegments (c ++ b)] := by
    unfold dottedBases
    simp only [dotLevel_dottedName _ names, path, String.ofList_toList, climb_append ordinary, Option.map_some, place]
  have module : dottedName (a.length + 1) b ≠ "" := dottedName_ne_empty names (Or.inl (Nat.succ_ne_zero _))
  rw [dottedCandidates_eq (relativeDirectory_joinSegments r ordinary) module, bases, path, Option.map_some,
    List.flatMap_singleton, moduleFiles_joinSegments (List.forall_mem_append.mpr ⟨outer, inner⟩)]
  by_cases none : b = []
  · rw [if_pos none, empty.mpr none]
    rfl
  · simp [none, empty]

/-- Without dots in front a name is looked for from the repository on and below its sources, wherever it is used. -/
theorem dottedCandidates_absolute {directory : String} (inside : r.Holds directory) (more : b ≠ [])
    (names : ∀ name ∈ b, IsModuleName name) :
    r.dottedCandidates (dottedName 0 b) directory =
      some [moduleFile b, packageFile b, moduleFile ("src" :: b), packageFile ("src" :: b)] := by
  have inner : ∀ s ∈ b, IsOrdinary s := fun s mem => (names s mem).isOrdinary
  have path := dottedPath_dottedName 0 names
  obtain ⟨here, directory⟩ := inside.relativeDirectory
  have sources : join "src" (joinSegments b) = joinSegments ("src" :: b) := by
    have joined : join (joinSegments ["src"]) (joinSegments b) = joinSegments (["src"] ++ b) :=
      join_joinSegments (by decide) more
    rwa [show joinSegments ["src"] = "src" by decide] at joined
  have bases : dottedBases (dottedName 0 b) here = some [joinSegments b, joinSegments ("src" :: b)] := by
    unfold dottedBases
    simp only [dotLevel_dottedName 0 names, path, String.ofList_toList, sources]
  have named : (!(joinSegments b).toList.isEmpty) = true := by
    simpa using joinSegments_ne_empty inner more
  rw [dottedCandidates_eq directory (dottedName_ne_empty names (Or.inr more)), bases, path, named, Option.map_some,
    List.flatMap_cons, List.flatMap_singleton, moduleFiles_joinSegments inner,
    moduleFiles_joinSegments (List.forall_mem_cons.mpr ⟨by decide, inner⟩)]
  rfl

/-- With more dots than lead to the repository nothing is looked for. -/
theorem dottedCandidates_eq_none {segments : List String} (ordinary : ∀ s ∈ segments, IsOrdinary s) {module : String}
    (dots : List.replicate (segments.length + 2) '.' <+: module.toList) :
    r.dottedCandidates module (joinSegments segments) = none := by
  obtain ⟨rest, chars⟩ := dots
  have named : module ≠ "" := by
    rintro rfl
    cases chars
  have level : dotLevel module.toList = (segments.length + 1 + (rest.takeWhile (· = '.')).length) + 1 := by
    rw [dotLevel, ← chars, List.takeWhile_append_of_pos (by simp), List.length_append, List.length_replicate]
    omega
  rw [dottedCandidates_eq (relativeDirectory_joinSegments r ordinary) named]
  simp only [dottedBases, level, climb_eq_none ordinary (Nat.lt_add_right _ (Nat.lt_succ_self _)), Option.map_none]

/-- A dotted name that leaves the directories `a` and then follows the names `b` leads from the directory `c/a` back to the
file of the module `c/b`, or to the file of this package if there is no such module. One that leaves more directories than
there are leads nowhere. Without dots in front a name leads to the first file among the module and the package of its name
in the repository and below `src`. -/
theorem resolveDotted_dottedName {c a : List String} (ordinary : ∀ s ∈ c ++ a, IsOrdinary s)
    (names : ∀ name ∈ b, IsModuleName name) :
    let relative := r.resolveDotted (dottedName (a.length + 1) b) (joinSegments (c ++ a))
    let absolute := [moduleFile b, packageFile b, moduleFile ("src" :: b), packageFile ("src" :: b)]
    (b ≠ [] → r.isFile (moduleFile (c ++ b)) = .ok true → relative = .ok (some (moduleFile (c ++ b)))) ∧
    (r.isFile (packageFile (c ++ b)) = .ok true → (b ≠ [] → r.isFile (moduleFile (c ++ b)) = .ok false) →
      relative = .ok (some (packageFile (c ++ b)))) ∧
    (∀ module, List.replicate ((c ++ a).length + 2) '.' <+: module.toList →
      r.resolveDotted module (joinSegments (c ++ a)) = .ok none) ∧
    ∀ directory, r.Holds directory → b ≠ [] →
      (∀ file, r.resolveDotted (dottedName 0 b) directory = .ok (some file) ↔ r.IsFirstFile absolute file) ∧
      (r.resolveDotted (dottedName 0 b) directory = .ok none ↔ ∀ file ∈ absolute, r.isFile file = .ok false) := by
  intro relative absolute
  have looked : r.resolveDotted (dottedName (a.length + 1) b) (joinSegments (c ++ a)) =
      r.firstFile ((if b = [] then [] else [moduleFile (c ++ b)]) ++ [packageFile (c ++ b)]) := by
    rw [resolveDotted, dottedCandidates_relative ordinary names, Option.getD_some]
  refine ⟨fun more own => ?_, fun package missing => ?_, fun module dots => ?_, fun directory inside more => ?_⟩
  · have first : r.IsFirstFile [moduleFile (c ++ b), packageFile (c ++ b)] (moduleFile (c ++ b)) :=
      ⟨[], _, rfl, own, List.forall_mem_nil _⟩
    rw [if_neg more] at looked
    exact looked.trans (firstFile_eq_some.mpr first)
  · refine looked.trans (firstFile_eq_some.mpr ⟨_, [], rfl, package, ?_⟩)
    split
    · exact List.forall_mem_nil _
    · rename_i more
      exact List.forall_mem_singleton.mpr (missing more)
  · rw [resolveDotted, dottedCandidates_eq_none ordinary dots]
    rfl
  · rw [resolveDotted, dottedCandidates_absolute inside more names, Option.getD_some]
    exact ⟨fun file => firstFile_eq_some, firstFile_eq_none⟩

/-- Two directories up and down again, up to a package, out of the repository, and from a directory that is given from the
root on to the sources. -/
theorem sample_dottedName :
    let r := ofKnown "/repo" ["pkg/util/text.py", "pkg/__init__.py", "src/util/text/__init__.py"] none sourceExtensions
    (∀ s ∈ ["pkg"] ++ ["deep", "er"], IsOrdinary s) ∧ (∀ name ∈ ["util", "text"], IsModuleName name) ∧
      r.Holds "/repo/pkg/./deep/../er" ∧
      r.resolveDotted "...util.text" "pkg/deep/er" = .ok (some "pkg/util/text.py") ∧
      r.resolveDotted "..." "pkg/deep/er" = .ok (some "pkg/__init__.py") ∧
      r.resolveDotted ".....util" "pkg/deep/er" = .ok none ∧
      r.resolveDotted "util.text" "/repo/pkg/./deep/../er" = .ok (some "src/util/text/__init__.py") := by
  intro r
  have ordinary : ∀ s ∈ ["pkg"] ++ ["deep", "er"], IsOrdinary s := by decide
  have names : ∀ name ∈ ["util", "text"], IsModuleName name := by decide
  have stays : ¬ Escapes ([] : List String).length ["pkg", "deep", "..", "er"] := cancel_eq_none_iff.not.mp (by decide)
  have inside : r.Holds "/repo/pkg/./deep/../er" := ⟨_, Or.inr ⟨by decide, by decide⟩, stays⟩
  obtain ⟨module, -, above, absolute⟩ := resolveDotted_dottedName (r := r) ordinary names
  obtain ⟨-, package, -⟩ := resolveDotted_dottedName (r := r) (b := []) ordinary (List.forall_mem_nil _)
  have first : r.IsFirstFile ["util/text.py", "util/text/__init__.py", "src/util/text.py", "src/util/text/__init__.py"]
      "src/util/text/__init__.py" :=
    ⟨["util/text.py", "util/text/__init__.py", "src/util/text.py"], [], rfl, by decide +kernel, by decide +kernel⟩
  refine ⟨ordinary, names, inside, ?_, ?_, ?_, ?_⟩
  · exact module (by decide) (by decide +kernel)
  · exact package (by decide +kernel) (fun more => absurd rfl more)
  · exact above ".....util" (by decide)
  · exact ((absolute _ inside (by decide)).1 _).mpr first

end Files

end CodeAtlas.Resolver
