import CodeAtlas.Proofs.Outcome
import CodeAtlas.Proofs.Path.Normal
import CodeAtlas.Resolver

/-!
# Imports stay inside the repository

Whatever a specifier, a dotted name and the importing directory look like, the paths that are looked up for them never
leave the repository: for a specifier they are normal paths with a suffix or an index file (`isInside_of_tried`), for a
dotted name paths without a climb (`isBelow_of_triedDotted`). A search among paths ends with nothing, with one of them that
is a file, or with the error of one of them that cannot be looked up (`firstFile_ends`). So an import leads to a file of the
repository or to nothing, unless a look-up fails (`resolve_stays_inside`).
-/

namespace CodeAtlas

namespace Path

/-- The path names something inside the directory that it starts at, without detours. -/
structure IsInside (path : String) : Prop where
  named : path ≠ ""
  relative : ¬ StartsWithSlash path
  direct : ∀ piece ∈ pieces path, piece ≠ "" ∧ piece ≠ "." ∧ piece ≠ ".."

/-- The path does not leave the directory that it starts at. -/
structure IsBelow (path : String) : Prop where
  relative : ¬ StartsWithSlash path
  steady : ".." ∉ pieces path

theorem isInside_joinSegments {segments : List String} (some : segments ≠ []) (ordinary : ∀ s ∈ segments, IsOrdinary s) :
    IsInside (joinSegments segments) where
  named := joinSegments_ne_empty ordinary some
  relative := not_startsWithSlash_joinSegments fun s mem => (ordinary s mem).1
  direct := by
    rw [pieces_joinSegments some fun s mem => (ordinary s mem).1.2.2]
    intro piece mem
    obtain ⟨segment, noClimb⟩ := ordinary piece mem
    exact ⟨segment.1, segment.2.1, noClimb⟩

namespace IsNormal

variable {path : String} (h : IsNormal path)
include h

theorem not_startsWithSlash : ¬ StartsWithSlash path := by
  obtain ⟨segments, ordinary, rfl⟩ := h
  exact not_startsWithSlash_joinSegments fun s mem => (ordinary s mem).1

/-- Lengthening the last segment of a normal path that has one leads inside. -/
theorem isInside_append (named : path ≠ "") {suffix : String} (free : '/' ∉ suffix.toList) : IsInside (path ++ suffix) := by
  obtain ⟨segments, ordinary, rfl⟩ := h
  have some : segments ≠ [] := fun none => named (none ▸ rfl)
  obtain ⟨front, last, rfl⟩ := (List.eq_nil_or_concat' segments).resolve_left some
  rw [joinSegments_append]
  refine isInside_joinSegments (by simp) fun s mem => ?_
  rcases List.mem_append.mp mem with mem | mem
  · exact ordinary s (List.mem_append_left _ mem)
  · obtain rfl := List.mem_singleton.mp mem
    exact (ordinary last (List.mem_append_right _ (List.mem_singleton_self _))).append free

/-- An ordinary name below a normal path leads inside. -/
theorem isInside_join {name : String} (fits : IsOrdinary name) : IsInside (Path.join path name) := by
  obtain ⟨segments, ordinary, rfl⟩ := h
  have joined : Path.join (joinSegments segments) (joinSegments [name]) = joinSegments (segments ++ [name]) :=
    join_joinSegments (fun s mem => (ordinary s mem).1.1) (by simp)
  rw [show joinSegments [name] = name from String.intercalate_singleton] at joined
  rw [joined]
  refine isInside_joinSegments (by simp) fun s mem => ?_
  rcases List.mem_append.mp mem with mem | mem
  · exact ordinary s mem
  · obtain rfl := List.mem_singleton.mp mem
    exact fits

theorem isBelow : IsBelow path := by
  refine ⟨h.not_startsWithSlash, ?_⟩
  obtain ⟨segments, ordinary, rfl⟩ := h
  cases segments with
  | nil => decide
  | cons first rest =>
    rw [pieces_joinSegments (by simp) fun s mem => (ordinary s mem).1.2.2]
    exact fun climbs => (ordinary ".." climbs).2 rfl

end IsNormal

/-- A path below a directory does not leave it if neither leaves where it starts. -/
theorem IsBelow.join {directory path : String} (h : IsBelow directory) (h' : IsBelow path) :
    IsBelow (Path.join directory path) := by
  refine ⟨not_startsWithSlash_join h.relative h'.relative, ?_⟩
  unfold Path.join
  split
  · exact h'.steady
  · rw [pieces_slash, List.mem_append]
    exact not_or.mpr ⟨h.steady, h'.steady⟩

end Path

namespace Resolver

variable {r : Resolver}

/-! ## Searches -/

/-- Among paths of a kind a search gives a file of the kind or nothing, or one of the paths cannot be looked up. -/
theorem firstFile_ends {P : String → Prop} {paths : List String} (kind : ∀ path ∈ paths, P path) :
    (r.firstFile paths).Gives (fun found => ∀ file ∈ found, r.isFile file = .ok true ∧ P file) ∨
      ∃ path ∈ paths, ∃ e, r.isFile path = .error e ∧ r.firstFile paths = .error e := by
  induction paths with
  | nil => exact Or.inl (.ok (by simp))
  | cons path paths ih =>
    obtain ⟨here, there⟩ := List.forall_mem_cons.mp kind
    rw [firstFile]
    cases looked : r.isFile path with
    | error e => exact Or.inr ⟨path, List.mem_cons_self, e, looked, rfl⟩
    | ok isFile =>
      cases isFile with
      | true => exact Or.inl (.ok (by simp [looked, here]))
      | false =>
        rcases ih there with gives | ⟨later, mem, e, failed, ends⟩
        · exact Or.inl gives
        · exact Or.inr ⟨later, List.mem_cons_of_mem _ mem, e, failed, ends⟩

/-! ## Directories -/

/-- The directory is given by these segments, on their own or after those of the root. -/
def LiesAt (r : Resolver) (directory : String) (below : List String) : Prop :=
  Path.parse directory = ⟨.here, below⟩ ∨
    r.root.isAbsolute = true ∧ Path.parse directory = ⟨r.root.anchor, r.root.segments ++ below⟩

theorem LiesAt.isSegment {directory : String} {below : List String} (h : r.LiesAt directory below) :
    ∀ s ∈ below, Path.IsSegment s := by
  intro s mem
  have listed : s ∈ Path.segmentsOf directory := by
    rcases h with parsed | ⟨-, parsed⟩
    · have segments : Path.segmentsOf directory = below := congrArg Path.segments parsed
      exact segments ▸ mem
    · have segments : Path.segmentsOf directory = r.root.segments ++ below := congrArg Path.segments parsed
      exact segments ▸ List.mem_append_right _ mem
  exact Path.isSegment_of_mem_segmentsOf listed

/-- The directories of the repository are those that lie at segments that do not climb out. -/
theorem relativeDirectory_eq_some_iff {directory here : String} :
    r.relativeDirectory directory = some here ↔
      ∃ below, r.LiesAt directory below ∧ (Path.cancel [] below).map Path.joinSegments = some here := by
  have inside (q : Path) : (if (Path.parse directory).isAbsolute = true then (Path.parse directory).relativeTo? r.root
      else some (Path.parse directory)) = some q ↔ ∃ below, r.LiesAt directory below ∧ q = ⟨.here, below⟩ := by
    unfold LiesAt
    generalize Path.parse directory = p
    by_cases absolute : p.isAbsolute = true
    · rw [if_pos absolute, Path.relativeTo?_eq_some_iff]
      refine exists_congr fun below => and_congr_left fun _ => ⟨fun same => Or.inr ⟨?_, same⟩, ?_⟩
      · rwa [same] at absolute
      · rintro (rfl | ⟨-, same⟩)
        · cases absolute
        · exact same
    · rw [if_neg absolute, Option.some.injEq]
      constructor
      · rintro rfl
        have here : p.anchor = .here := by simpa [Path.isAbsolute] using absolute
        exact ⟨p.segments, Or.inl (by rw [← here]), by rw [← here]⟩
      · rintro ⟨below, rfl | ⟨rooted, rfl⟩, rfl⟩
        · rfl
        · exact absurd rooted absolute
  rw [relativeDirectory, Option.bind_eq_some_iff]
  simp only [inside]
  constructor
  · rintro ⟨_, ⟨below, lies, rfl⟩, normal⟩
    exact ⟨below, lies, Path.normalize_render lies.isSegment ▸ normal⟩
  · rintro ⟨below, lies, kept⟩
    exact ⟨_, ⟨below, lies, rfl⟩, (Path.normalize_render lies.isSegment).trans kept⟩

/-- A directory of the repository is a normal path. -/
theorem isNormal_of_relativeDirectory {directory here : String} (h : r.relativeDirectory directory = some here) :
    Path.IsNormal here := by
  obtain ⟨below, lies, kept⟩ := relativeDirectory_eq_some_iff.mp h
  obtain ⟨left, cancelled, rfl⟩ := Option.map_eq_some_iff.mp kept
  exact ⟨left, Path.isOrdinary_of_cancel (List.forall_mem_nil _) lies.isSegment cancelled, rfl⟩

/-! ## Specifiers -/

/-- The aliases stand for directories that are named without a slash in front. -/
def HasInnerAliases (r : Resolver) : Prop :=
  ∀ entry ∈ r.aliases.entries, entry.2 ≠ "" ∧ ¬ Path.StartsWithSlash entry.2

/-- An alias that fits takes the place of a beginning of the specifier. -/
theorem aliasFor_eq_some {specifier path : List Char} {entries : List (String × String)}
    (h : aliasFor specifier entries = some path) :
    ∃ entry ∈ entries, path = entry.2.toList ++ specifier.drop entry.1.length := by
  induction entries with
  | nil => cases h
  | cons entry entries ih =>
    rw [aliasFor] at h
    split at h
    · exact ⟨entry, List.mem_cons_self, (Option.some.inj h).symm⟩
    · obtain ⟨found, mem, same⟩ := ih h
      exact ⟨found, List.mem_cons_of_mem _ mem, same⟩

theorem not_startsWithSlash_of_isRelative {specifier : String} (h : isRelative specifier = true) :
    ¬ Path.StartsWithSlash specifier := by
  have dotted : ".".toList <+: specifier.toList := by
    simp only [isRelative, Bool.or_eq_true, decide_eq_true_eq, List.isPrefixOf_iff_prefix] at h
    rcases h with ((rfl | rfl) | start) | start
    · decide
    · decide
    · exact List.IsPrefix.trans (by decide) start
    · exact List.IsPrefix.trans (by decide) start
  obtain ⟨rest, chars⟩ := dotted
  simp [Path.StartsWithSlash, ← chars]

/-- Whatever form a specifier has, the path that it names is normal. -/
theorem isNormal_of_basePath (aliases : r.HasInnerAliases) {specifier here base : String} (inside : Path.IsNormal here)
    (h : r.basePath specifier here = some base) : Path.IsNormal base := by
  unfold basePath at h
  split at h
  · rename_i relative
    refine Path.isNormal_of_normalize ?_ h
    exact Path.not_startsWithSlash_join inside.not_startsWithSlash (not_startsWithSlash_of_isRelative relative)
  · split at h
    · refine Path.isNormal_of_normalize ?_ h
      intro slash
      have first := List.head?_dropWhile_not (· = '/') specifier.toList
      rw [Path.StartsWithSlash, String.toList_ofList] at slash
      simp [slash] at first
    · rename_i unrooted
      split at h
      · rename_i path found
        obtain ⟨entry, mem, rfl⟩ := aliasFor_eq_some found
        obtain ⟨named, relative⟩ := aliases entry mem
        refine Path.isNormal_of_normalize ?_ h
        rw [String.ofList_append, String.ofList_toList, Path.startsWithSlash_append named]
        exact relative
      · refine Path.isNormal_of_normalize (fun slash => unrooted ?_) h
        obtain ⟨rest, chars⟩ := List.head?_eq_some_iff.mp slash
        simp [chars]

/-- The suffixes that are tried when none are given hold no slash. -/
theorem slash_notMem_sourceExtensions : ∀ e ∈ sourceExtensions, '/' ∉ e.toList := by decide

/-- What a normal path may stand for is inside. -/
theorem isInside_of_mem_candidates {base path : String} (normal : Path.IsNormal base)
    (mem : path ∈ candidates sourceExtensions base) : Path.IsInside path := by
  simp only [candidates, List.mem_append] at mem
  rcases mem with (mem | mem) | mem
  · split at mem
    · rename_i named
      obtain rfl := List.mem_singleton.mp mem
      have named : path ≠ "" := by simp_all
      have kept : path ++ "" = path := String.append_empty
      exact kept ▸ normal.isInside_append named (by decide : '/' ∉ "".toList)
    · cases mem
  · split at mem
    · rename_i named
      obtain ⟨e, listed, rfl⟩ := List.mem_map.mp mem
      exact normal.isInside_append named (slash_notMem_sourceExtensions e listed)
    · cases mem
  · obtain ⟨e, listed, rfl⟩ := List.mem_map.mp mem
    have index : Path.IsOrdinary "index" := by decide
    exact normal.isInside_join (index.append (slash_notMem_sourceExtensions e listed))

/-- The paths that are looked up for a specifier, one after another. -/
def tried (r : Resolver) (specifier directory : String) : List String :=
  ((r.target? specifier directory).map (candidates r.extensions)).getD []

theorem isInside_of_tried (standard : r.extensions = sourceExtensions) (aliases : r.HasInnerAliases)
    {specifier directory path : String} (mem : path ∈ r.tried specifier directory) : Path.IsInside path := by
  unfold tried at mem
  cases target : r.target? specifier directory with
  | none => simp [target] at mem
  | some base =>
    rw [target, standard] at mem
    obtain ⟨here, inside, h⟩ := Option.bind_eq_some_iff.mp target
    split at h
    · cases h
    · exact isInside_of_mem_candidates (isNormal_of_basePath aliases (isNormal_of_relativeDirectory inside) h) mem

/-! ## Dotted names -/

/-- Climbing leads from a directory of the repository to another one. -/
theorem isNormal_of_climb : ∀ {levels : Nat} {directory base : String}, Path.IsNormal directory →
    climb levels directory = some base → Path.IsNormal base
  | 0, _, _, normal, h => Option.some.inj h ▸ normal
  | _ + 1, directory, _, normal, h => by
    obtain ⟨above, climbs, h⟩ := Option.bind_eq_some_iff.mp h
    refine isNormal_of_climb (Path.isNormal_of_normalize ?_ climbs) h
    exact Path.not_startsWithSlash_join normal.not_startsWithSlash (by decide)

/-- The path of a dotted name holds no dot. -/
theorem dot_notMem_dottedPath (module : List Char) : '.' ∉ dottedPath module := by
  intro mem
  obtain ⟨c, -, same⟩ := List.mem_map.mp mem
  split at same
  · exact absurd same (by decide)
  · rename_i other
    exact other same

/-- The path of a dotted name without slashes does not leave where it starts. -/
theorem isBelow_dottedPath {module : List Char} (free : '/' ∉ module) : Path.IsBelow (String.ofList (dottedPath module)) := by
  refine ⟨?_, fun climbs => ?_⟩
  · rw [Path.StartsWithSlash, String.toList_ofList]
    intro slash
    have first := List.head?_dropWhile_not (· = '.') module
    cases chars : module.dropWhile (· = '.') with
    | nil => simp [dottedPath, Text.replaceChar, chars] at slash
    | cons c rest =>
      have other : c ≠ '.' := by simpa [chars] using first
      have same : c = '/' := by simpa [dottedPath, Text.replaceChar, chars, other] using slash
      have mem : c ∈ module := List.dropWhile_subset _ (chars ▸ List.mem_cons_self)
      exact free (same ▸ mem)
  · obtain ⟨piece, cut, same⟩ := List.mem_map.mp climbs
    rw [String.toList_ofList] at cut
    have dots : piece = ['.', '.'] := by simpa using congrArg String.toList same
    exact dot_notMem_dottedPath module (Text.subset_of_mem_splitOn cut (by simp [dots]))

/-- The files of a module are where the module is. -/
theorem isBelow_of_mem_moduleFiles {named : Bool} {base path : String} (h : Path.IsBelow base)
    (mem : path ∈ moduleFiles named base) : Path.IsBelow path := by
  rcases List.mem_append.mp mem with mem | mem
  · have own : path = base ++ ".py" := by
      split at mem
      · exact List.mem_singleton.mp mem
      · cases mem
    subst own
    refine ⟨?_, ?_⟩
    · by_cases empty : base = ""
      · rw [empty]
        decide
      · rw [Path.startsWithSlash_append empty]
        exact h.relative
    · have free : '/' ∉ ".py".toList := by decide
      obtain ⟨front, last, before, after⟩ := Text.splitOn_append base.toList free
      have steady := h.steady
      rw [Path.pieces, before, List.map_append, List.mem_append, not_or] at steady
      rw [Path.pieces, String.toList_append, after, List.map_append, List.mem_append]
      refine not_or.mpr ⟨steady.1, fun climbs => ?_⟩
      -- a name that ends in `y` is no climb
      have ends := congrArg (·.toList.getLast?) (List.mem_singleton.mp climbs)
      simp at ends
  · obtain rfl := List.mem_singleton.mp mem
    exact h.join ⟨by decide, by decide⟩

/-- The places where a dotted name is looked for do not leave the repository. -/
theorem isBelow_of_dottedBases {module here base : String} {bases : List String} (inside : Path.IsNormal here)
    (free : '/' ∉ module.toList) (h : dottedBases module here = some bases) (mem : base ∈ bases) : Path.IsBelow base := by
  have path := isBelow_dottedPath free
  unfold dottedBases at h
  dsimp only at h
  split at h
  · obtain rfl := Option.some.inj h
    simp only [List.mem_cons, List.not_mem_nil, or_false] at mem
    rcases mem with rfl | rfl
    · exact path
    · exact Path.IsBelow.join ⟨by decide, by decide⟩ path
  · obtain ⟨above, climbs, rfl⟩ := Option.map_eq_some_iff.mp h
    have normal := isNormal_of_climb inside climbs
    obtain rfl := List.mem_singleton.mp mem
    split
    · exact normal.isBelow
    · exact normal.isBelow.join path

/-- The paths that are looked up for a dotted name, one after another. -/
def triedDotted (r : Resolver) (module directory : String) : List String := (r.dottedCandidates module directory).getD []

theorem isBelow_of_triedDotted {module directory path : String} (free : '/' ∉ module.toList)
    (mem : path ∈ r.triedDotted module directory) : Path.IsBelow path := by
  unfold triedDotted at mem
  cases found : r.dottedCandidates module directory with
  | none => simp [found] at mem
  | some files =>
    rw [found, Option.getD_some] at mem
    obtain ⟨here, inside, found⟩ := Option.bind_eq_some_iff.mp found
    dsimp only at found
    split at found
    · cases found
    · obtain ⟨bases, based, found⟩ := Option.bind_eq_some_iff.mp found
      obtain rfl := Option.some.inj found
      obtain ⟨base, listed, mem⟩ := List.mem_flatMap.mp mem
      exact isBelow_of_mem_moduleFiles (isBelow_of_dottedBases (isNormal_of_relativeDirectory inside) free based listed) mem

/-! ## Imports -/

/-- With the usual suffixes, and aliases that are named without a slash in front, the paths that are looked up for an import
are inside the repository. So an import leads to a file inside the repository or to nothing, unless a path inside the
repository cannot be looked up. -/
theorem resolve_stays_inside (standard : r.extensions = sourceExtensions) (aliases : r.HasInnerAliases)
    (directory : String) :
    (∀ specifier, (∀ path ∈ r.tried specifier directory, Path.IsInside path) ∧
      ((r.resolve specifier directory).Gives (fun found => ∀ file ∈ found, r.isFile file = .ok true ∧ Path.IsInside file) ∨
        ∃ path ∈ r.tried specifier directory, ∃ e, r.isFile path = .error e ∧ r.resolve specifier directory = .error e)) ∧
    ∀ module, '/' ∉ module.toList → (∀ path ∈ r.triedDotted module directory, Path.IsBelow path) ∧
      ((r.resolveDotted module directory).Gives (fun found => ∀ file ∈ found, r.isFile file = .ok true ∧ Path.IsBelow file) ∨
        ∃ path ∈ r.triedDotted module directory, ∃ e,
          r.isFile path = .error e ∧ r.resolveDotted module directory = .error e) := by
  refine ⟨fun specifier => ?_, fun module free => ?_⟩
  · have inside : ∀ path ∈ r.tried specifier directory, Path.IsInside path := fun _ => isInside_of_tried standard aliases
    exact ⟨inside, firstFile_ends inside⟩
  · have below : ∀ path ∈ r.triedDotted module directory, Path.IsBelow path := fun _ => isBelow_of_triedDotted free
    exact ⟨below, firstFile_ends below⟩

namespace Sample

/-- A resolver that knows two files. -/
def known : Resolver := .ofKnown "/repo" ["src/a.ts", "pkg/m.py"] none sourceExtensions

/-- A resolver for a repository below a directory whose name is too long: nothing in it can be looked up. -/
def tooDeep : Resolver := .onDisk "/repo" (fun p => .error (.nameTooLong p.render)) none sourceExtensions

end Sample

/-- A specifier that climbs, from a directory that is given from the root on, and a dotted name that climbs lead to files
inside the repository. -/
theorem sample_stays_inside :
    Sample.known.HasInnerAliases ∧ (Sample.known.resolve "../a" "/repo/src/deep" = .ok (some "src/a.ts")) ∧
      Path.IsInside "src/a.ts" ∧ '/' ∉ "..m".toList ∧
      (Sample.known.resolveDotted "..m" "pkg/deep" = .ok (some "pkg/m.py")) ∧ Path.IsBelow "pkg/m.py" := by
  have aliases : Sample.known.HasInnerAliases := by
    unfold HasInnerAliases
    decide
  have inside := ((resolve_stays_inside (r := Sample.known) rfl aliases "/repo/src/deep").1 "../a").1
  have below := ((resolve_stays_inside (r := Sample.known) rfl aliases "pkg/deep").2 "..m" (by decide)).1
  refine ⟨aliases, ?_, inside "src/a.ts" ?_, by decide, ?_, below "pkg/m.py" ?_⟩
  · decide +kernel
  · decide +kernel
  · decide +kernel
  · decide +kernel

/-- A specifier that cannot be looked up leads neither to a file nor to nothing. -/
theorem sample_unanswered : Sample.tooDeep.extensions = sourceExtensions ∧ Sample.tooDeep.HasInnerAliases ∧
    ∀ found, Sample.tooDeep.resolve "./m" "" ≠ .ok found := by
  have failed : (Sample.tooDeep.resolve "./m" "").isOk = false := by decide +kernel
  refine ⟨rfl, ?_, fun found ok => ?_⟩
  · unfold HasInnerAliases
    decide
  · rw [ok] at failed
    cases failed

end Resolver

end CodeAtlas
