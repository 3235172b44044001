import CodeAtlas.Proofs.Dependency.Targets
import CodeAtlas.Proofs.Path.Normal
import CodeAtlas.Proofs.Resolver.Inside

/-!
# Relative specifiers

From a directory `c/a` the specifier that leaves the directories `a` and then follows the segments `b` names the path `c/b`
(`target?_relativeSpecifier`): the climbs cancel exactly the segments of `a`. A file is taken if no candidate before it is a
file (`firstFile_eq_some_iff`). So a relative specifier leads back to the file that it was made from, and without its suffix
it does so unless another candidate comes first (`resolve_relativeSpecifier`).
-/

namespace CodeAtlas.Resolver

open CodeAtlas.Path

/-- A dot, a climb for each directory that is left, and the segments to follow from there. -/
def relativeSpecifier (left followed : List String) : String :=
  joinSegments ("." :: List.replicate left.length ".." ++ followed)

example : relativeSpecifier ["ui", "deep"] ["util", "b.js"] = "./../../util/b.js" := by decide

variable {c a b : List String}

/-! ## Paths -/

/-- The segments of a relative specifier are its climbs and what it follows. -/
theorem segmentsOf_relativeSpecifier (ordinary : ∀ s ∈ b, IsOrdinary s) :
    segmentsOf (relativeSpecifier a b) = List.replicate a.length ".." ++ b := by
  have free : ∀ s ∈ "." :: List.replicate a.length ".." ++ b, '/' ∉ s.toList := by
    intro s mem
    rcases List.mem_append.mp mem with mem | mem
    · have dots : s = "." ∨ s = ".." := by
        rcases List.mem_cons.mp mem with rfl | mem
        · exact Or.inl rfl
        · exact Or.inr (List.eq_of_mem_replicate mem)
      rcases dots with rfl | rfl <;> decide
    · exact (ordinary s mem).1.2.2
  rw [segmentsOf_eq, relativeSpecifier, pieces_joinSegments (by simp) free, List.filter_append]
  congr 1
  · rw [List.filter_cons_of_neg (by decide), List.filter_eq_self]
    intro s mem
    rw [List.eq_of_mem_replicate mem]
    decide
  · rw [List.filter_eq_self]
    intro s mem
    simp [(ordinary s mem).1.1, (ordinary s mem).1.2.1]

theorem isRelative_relativeSpecifier (followed : b ≠ []) : isRelative (relativeSpecifier a b) = true := by
  have more : List.replicate a.length ".." ++ b ≠ [] := by simp [followed]
  have start : "./".toList <+: (relativeSpecifier a b).toList := by
    rw [relativeSpecifier, List.cons_append, joinSegments, String.intercalate_cons_of_ne_nil more, String.toList_append]
    exact List.prefix_append _ _
  simp only [isRelative, Bool.or_eq_true, List.isPrefixOf_iff_prefix]
  exact Or.inl (Or.inr start)

/-- A directory that starts with no slash is looked at in its normal form. -/
theorem relativeDirectory_of_relative (r : Resolver) {directory : String} (relative : ¬ StartsWithSlash directory) :
    r.relativeDirectory directory = normalize directory := by
  have fit : ∀ s ∈ segmentsOf directory, IsSegment s := fun _ => isSegment_of_mem_segmentsOf
  have inside : (⟨.here, segmentsOf directory⟩ : Path).isAbsolute = false := by simp [isAbsolute]
  rw [relativeDirectory, parse_of_relative relative]
  simp only [inside, Bool.false_eq_true, if_false, Option.bind_some]
  rw [normalize_render fit, normalize_of_relative relative]

/-- A directory that is given by ordinary segments is the one that they name in the repository. -/
theorem relativeDirectory_joinSegments (r : Resolver) {segments : List String} (ordinary : ∀ s ∈ segments, IsOrdinary s) :
    r.relativeDirectory (joinSegments segments) = some (joinSegments segments) := by
  rw [relativeDirectory_of_relative r (not_startsWithSlash_joinSegments fun s mem => (ordinary s mem).1)]
  exact normalize_joinSegments ordinary

/-- The climbs of a relative specifier cancel the directories that it leaves. -/
theorem target?_relativeSpecifier (r : Resolver) (ordinary : ∀ s ∈ c ++ a ++ b, IsOrdinary s) (followed : b ≠ []) :
    r.target? (relativeSpecifier a b) (joinSegments (c ++ a)) = some (joinSegments (c ++ b)) := by
  have here : ∀ s ∈ c ++ a, IsOrdinary s := fun s mem => ordinary s (List.mem_append_left _ mem)
  have there : ∀ s ∈ b, IsOrdinary s := fun s mem => ordinary s (List.mem_append_right _ mem)
  have relative := isRelative_relativeSpecifier (a := a) followed
  have named : relativeSpecifier a b ≠ "" := by
    intro empty
    rw [empty] at relative
    exact absurd relative (by decide)
  have climbs : cancel (c ++ a).reverse (List.replicate a.length "..") = some c := by
    simpa using cancel_climbs c.reverse a.reverse
  rw [target?, relativeDirectory_joinSegments r here]
  calc (if relativeSpecifier a b = "" then none else r.basePath (relativeSpecifier a b) (joinSegments (c ++ a)))
      = normalize (join (joinSegments (c ++ a)) (relativeSpecifier a b)) := by
        rw [if_neg named, basePath, if_pos relative]
    _ = (cancel (c ++ a).reverse (List.replicate a.length ".." ++ b)).map joinSegments := by
        rw [normalize_join here (not_startsWithSlash_of_isRelative relative), segmentsOf_relativeSpecifier there]
    _ = (cancel c.reverse b).map joinSegments := by rw [cancel_append, climbs, Option.bind_some]
    _ = some (joinSegments (c ++ b)) := by
        rw [cancel_of_ordinary c.reverse fun s mem => (there s mem).2, List.reverse_reverse, Option.map_some]

/-! ## The file that is taken -/

variable {r : Resolver}

/-- A file is taken when all that is tried before it is looked up and is no file. -/
theorem firstFile_eq_some_iff {front back : List String} {file : String} (isFile : r.isFile file = .ok true)
    (new : file ∉ front) :
    r.firstFile (front ++ file :: back) = .ok (some file) ↔ ∀ path ∈ front, r.isFile path = .ok false := by
  induction front with
  | nil => simp [firstFile, isFile, bind, Except.bind, pure, Except.pure]
  | cons path front ih =>
    obtain ⟨other, new⟩ := not_or.mp (mt List.mem_cons.mpr new)
    rw [List.cons_append, firstFile, List.forall_mem_cons, Except.bind_eq_ok_iff]
    constructor
    · rintro ⟨found, looked, rest⟩
      cases found with
      | true => exact absurd (Option.some.inj (Except.ok.inj rest)).symm other
      | false => exact ⟨looked, (ih new).mp rest⟩
    · rintro ⟨looked, rest⟩
      exact ⟨false, looked, (ih new).mpr rest⟩

/-- A path with a suffix that it left out is taken when neither the path as it stands, if it names a file in full, nor the
path with an earlier suffix is a file. -/
theorem firstFile_candidates_iff {base ext : String} {earlier later : List String} (named : base ≠ "")
    (split : sourceExtensions = earlier ++ ext :: later) (isFile : r.isFile (base ++ ext) = .ok true) :
    r.firstFile (candidates sourceExtensions base) = .ok (some (base ++ ext)) ↔
      (namesFile base = true → r.isFile base = .ok false) ∧ ∀ e ∈ earlier, r.isFile (base ++ e) = .ok false := by
  have distinct : (earlier ++ ext :: later).Nodup := split ▸ (by decide : sourceExtensions.Nodup)
  have suffix : ext ≠ "" := by
    have mem : ext ∈ sourceExtensions := split ▸ List.mem_append_right _ List.mem_cons_self
    exact (by decide : ∀ e ∈ sourceExtensions, e ≠ "") ext mem
  have listed : candidates sourceExtensions base =
      ((if namesFile base = true then [base] else []) ++ earlier.map (base ++ ·)) ++ (base ++ ext) ::
        (later.map (base ++ ·) ++ sourceExtensions.map fun e => join base ("index" ++ e)) := by
    simp [candidates, named, split]
  have new : base ++ ext ∉ (if namesFile base = true then [base] else []) ++ earlier.map (base ++ ·) := by
    rw [List.mem_append, not_or]
    constructor
    · split
      · simp [suffix]
      · exact List.not_mem_nil
    · intro mem
      obtain ⟨e, before, same⟩ := List.mem_map.mp mem
      obtain rfl : e = ext := by simpa using same
      exact (List.nodup_append'.mp distinct).2.2 before List.mem_cons_self
  rw [listed, firstFile_eq_some_iff isFile new, List.forall_mem_append, List.forall_mem_map]
  refine and_congr_left fun _ => ?_
  split <;> simp [*]

theorem resolve_eq_firstFile (ordinary : ∀ s ∈ c ++ a ++ b, IsOrdinary s) (followed : b ≠ []) :
    r.resolve (relativeSpecifier a b) (joinSegments (c ++ a)) =
      r.firstFile (candidates r.extensions (joinSegments (c ++ b))) := by
  rw [resolve, target?_relativeSpecifier r ordinary followed, Option.map_some, Option.getD_some]

/-- A relative specifier that names its file in full leads to the file that it was made from. Without one of the usual
suffixes of the file it does so exactly if no candidate that comes before the file is a file. -/
theorem resolve_relativeSpecifier (standard : r.extensions = sourceExtensions)
    (ordinary : ∀ s ∈ c ++ a ++ b, IsOrdinary s) (followed : b ≠ []) (isFile : r.isFile (joinSegments (c ++ b)) = .ok true) :
    (namesFile (joinSegments (c ++ b)) = true →
      r.resolve (relativeSpecifier a b) (joinSegments (c ++ a)) = .ok (some (joinSegments (c ++ b)))) ∧
    ∀ front last ext earlier later, b = front ++ [last ++ ext] → IsOrdinary last →
      sourceExtensions = earlier ++ ext :: later →
      let base := joinSegments (c ++ (front ++ [last]))
      (r.resolve (relativeSpecifier a (front ++ [last])) (joinSegments (c ++ a)) = .ok (some (joinSegments (c ++ b))) ↔
        (namesFile base = true → r.isFile base = .ok false) ∧ ∀ e ∈ earlier, r.isFile (base ++ e) = .ok false) := by
  obtain ⟨here, there⟩ := List.forall_mem_append.mp ordinary
  have outer : ∀ s ∈ c, IsOrdinary s := (List.forall_mem_append.mp here).1
  constructor
  · intro full
    have named : joinSegments (c ++ b) ≠ "" :=
      joinSegments_ne_empty (List.forall_mem_append.mpr ⟨outer, there⟩) (by simp [followed])
    rw [resolve_eq_firstFile ordinary followed, candidates, if_pos (by simp [named, full])]
    exact (firstFile_eq_some_iff isFile (List.not_mem_nil : _ ∉ [])).mpr (List.forall_mem_nil _)
  · rintro front last ext earlier later rfl plain split base
    have there : ∀ s ∈ front ++ [last], IsOrdinary s :=
      List.forall_mem_append.mpr ⟨(List.forall_mem_append.mp there).1, by simpa using plain⟩
    have named : base ≠ "" := joinSegments_ne_empty (List.forall_mem_append.mpr ⟨outer, there⟩) (by simp)
    have file : joinSegments (c ++ (front ++ [last ++ ext])) = base ++ ext := by
      rw [← List.append_assoc, ← joinSegments_append, List.append_assoc]
    rw [file] at isFile ⊢
    rw [resolve_eq_firstFile (List.forall_mem_append.mpr ⟨here, there⟩) (by simp), standard]
    exact firstFile_candidates_iff named split isFile

/-- Two directories up and down again: with the suffix the specifier leads to the file, and without it to another file that
comes first. -/
theorem sample_relativeSpecifier :
    let r := ofKnown "/repo" ["src/util/b.js", "src/util/b.tsx"] none sourceExtensions
    r.isFile "src/util/b.js" = .ok true ∧ r.isFile "src/util/b.tsx" = .ok true ∧
      r.resolve "./../../util/b.js" "src/ui/deep" = .ok (some "src/util/b.js") ∧
      r.resolve "./../../util/b" "src/ui/deep" ≠ .ok (some "src/util/b.js") := by
  intro r
  have both : r.isFile "src/util/b.js" = .ok true ∧ r.isFile "src/util/b.tsx" = .ok true := by decide +kernel
  have back := resolve_relativeSpecifier (r := r) (c := ["src"]) (a := ["ui", "deep"]) (b := ["util", "b.js"]) rfl
    (by decide) (by decide) both.1
  refine ⟨both.1, both.2, back.1 (by decide +kernel), fun same => ?_⟩
  have first := (back.2 ["util"] "b" ".js" [".ts", ".tsx"] [".jsx"] rfl (by decide) (by decide)).mp same
  have missing := first.2 ".tsx" (by decide)
  rw [show joinSegments (["src"] ++ (["util"] ++ ["b"])) ++ ".tsx" = "src/util/b.tsx" by decide, both.2] at missing
  cases missing

end CodeAtlas.Resolver
