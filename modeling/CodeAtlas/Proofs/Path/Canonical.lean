import CodeAtlas.Proofs.Path.Normal

/-!
# Canonical paths

Between the slashes of a canonical path there are names and nothing else (`IsCanonical`), so it is put together from ordinary
segments (`isCanonical_iff`) and normalising it changes nothing. A path climbs out if some of its parts, from the first on,
climb more often than they lead down (`ClimbsOut`); empty parts and single dots count for nothing (`climbsOut_iff`).

Normalising reads a root of exactly two slashes as a segment. A climb may cancel this segment; else it stays in front and the
path is not canonical. This is the only way in which normalising fails to give a canonical path
(`isCanonical_normalize_iff`).
-/

namespace CodeAtlas.Path

/-! ## Parts of a written path -/

/-- Some of the parts of the path, from the first on, climb more often than they name something. -/
def ClimbsOut (text : String) : Prop := ∃ front, front <+: pieces text ∧ front.countP (IsOrdinary ·) < front.count ".."

theorem slash_notMem_of_mem_pieces {text part : String} (mem : part ∈ pieces text) : '/' ∉ part.toList := by
  obtain ⟨piece, cut, rfl⟩ := List.mem_map.mp mem
  simpa using Text.notMem_of_mem_splitOn cut

/-- Parts that are no segments neither climb nor lead down. -/
theorem climbsOut_iff {text : String} : ClimbsOut text ↔ Escapes 0 (segmentsOf text) := by
  have names : ∀ front, front <+: pieces text →
      front.countP (IsOrdinary ·) = (front.filter fun s => s ≠ "" && s ≠ ".").countP (· ≠ "..") := by
    intro front start
    rw [List.countP_filter]
    refine List.countP_congr fun part mem => ?_
    have free := slash_notMem_of_mem_pieces (start.subset mem)
    simp [IsOrdinary, IsSegment, free, and_comm]
  have climbs : ∀ front : List String, front.count ".." = (front.filter fun s => s ≠ "" && s ≠ ".").count ".." :=
    fun front => (List.count_filter (by decide)).symm
  rw [ClimbsOut, Escapes, segmentsOf_eq]
  constructor
  · rintro ⟨front, start, more⟩
    rw [names front start, climbs front] at more
    exact ⟨_, start.filter _, by rwa [Nat.zero_add]⟩
  · rintro ⟨_, kept, more⟩
    obtain ⟨front, start, rfl⟩ := List.prefix_filter_iff.mp kept
    rw [Nat.zero_add, ← names front start, ← climbs front] at more
    exact ⟨front, start, more⟩

/-- The path is empty, or it starts with no slash and between its slashes there are names. -/
def IsCanonical (path : String) : Prop :=
  path = "" ∨ ¬ StartsWithSlash path ∧ ∀ part ∈ pieces path, part ≠ "" ∧ part ≠ "." ∧ part ≠ ".."

/-- The parts of a path are the path again when slashes are put between them. -/
theorem joinSegments_pieces (text : String) : joinSegments (pieces text) = text := by
  rw [← String.toList_inj, joinSegments, String.toList_intercalate, pieces, List.map_map]
  simp only [Function.comp_def, String.toList_ofList, List.map_id']
  rw [Text.splitOn_eq]
  exact List.intercalate_splitOn '/'

theorem isCanonical_iff {path : String} : IsCanonical path ↔ IsNormal path := by
  constructor
  · rintro (rfl | ⟨-, named⟩)
    · exact ⟨[], List.forall_mem_nil _, rfl⟩
    · refine ⟨pieces path, fun part mem => ?_, (joinSegments_pieces path).symm⟩
      obtain ⟨some, noDot, noClimb⟩ := named part mem
      exact ⟨⟨some, noDot, slash_notMem_of_mem_pieces mem⟩, noClimb⟩
  · rintro ⟨segments, ordinary, rfl⟩
    by_cases none : segments = []
    · exact Or.inl (none ▸ rfl)
    · refine Or.inr ⟨not_startsWithSlash_joinSegments fun s mem => (ordinary s mem).1, ?_⟩
      rw [pieces_joinSegments none fun s mem => (ordinary s mem).1.2.2]
      exact fun part mem => ⟨(ordinary part mem).1.1, (ordinary part mem).1.2.1, (ordinary part mem).2⟩

/-! ## Below a directory -/

/-- A path that starts with no slash is refused exactly if it climbs out. -/
theorem normalize_eq_none_iff {text : String} (relative : ¬ StartsWithSlash text) : normalize text = none ↔ ClimbsOut text := by
  rw [normalize_of_relative relative, Option.map_eq_none_iff, cancel_eq_none_iff, List.length_nil, climbsOut_iff]

/-- A directory may be normalised before a path is followed from it. -/
theorem normalize_join_eq_bind {directory path : String} (inside : ¬ StartsWithSlash directory)
    (relative : ¬ StartsWithSlash path) :
    normalize (join directory path) = (normalize directory).bind fun here => normalize (join here path) := by
  rw [normalize_of_relative (not_startsWithSlash_join inside relative), segmentsOf_join, cancel_append,
    normalize_of_relative inside]
  cases cancelled : cancel [] (segmentsOf directory) with
  | none => rfl
  | some left =>
    have ordinary : ∀ s ∈ left, IsOrdinary s :=
      isOrdinary_of_cancel (List.forall_mem_nil _) (fun _ => isSegment_of_mem_segmentsOf) cancelled
    simp only [Option.bind_some, Option.map_some, normalize_join ordinary relative]

/-! ## Roots of two slashes -/

/-- The path starts with exactly two slashes. -/
def StartsWithTwoSlashes (text : String) : Prop := ∃ rest, text = "//" ++ rest ∧ ¬ StartsWithSlash rest

theorem anchorOf_eq_doubleRoot_iff {slashes : Nat} : anchorOf slashes = .doubleRoot ↔ slashes = 2 := by
  unfold anchorOf
  split
  · rename_i none
    simp [none]
  · simp

theorem anchor_eq_doubleRoot_iff {text : String} : (parse text).anchor = .doubleRoot ↔ StartsWithTwoSlashes text := by
  have same : text.toList.takeWhile (· = '/') = List.replicate (text.toList.takeWhile (· = '/')).length '/' :=
    List.eq_replicate_of_mem fun c mem => by simpa using List.all_eq_true.mp List.all_takeWhile c mem
  rw [parse, anchorOf_eq_doubleRoot_iff]
  constructor
  · intro two
    have cut := List.takeWhile_append_dropWhile (p := (· = '/')) (l := text.toList)
    rw [same, two] at cut
    refine ⟨String.ofList (text.toList.dropWhile (· = '/')), ?_, fun slash => ?_⟩
    · simp only [← String.toList_inj, String.toList_append, String.toList_ofList]
      exact cut.symm
    · rw [StartsWithSlash, String.toList_ofList] at slash
      have other := List.head?_dropWhile_not (· = '/') text.toList
      rw [slash] at other
      cases other
  · rintro ⟨rest, rfl, relative⟩
    rw [String.toList_append, List.takeWhile_append_of_pos (by simp), takeWhile_slash_of_relative relative]
    rfl

/-- Without such a root the segments of a path are cancelled. -/
theorem normalize_of_not_twoSlashes {text : String} (other : ¬ StartsWithTwoSlashes text) :
    normalize text = (cancel [] (segmentsOf text)).map joinSegments := by
  rw [← anchor_eq_doubleRoot_iff] at other
  unfold normalize normalParts
  split
  · rename_i root
    exact absurd root other
  · rfl

/-- Such a root is kept like a segment before the others. -/
theorem normalize_of_twoSlashes {text : String} (root : StartsWithTwoSlashes text) :
    normalize text = (cancel ["//"] (segmentsOf text)).map joinSegments := by
  rw [← anchor_eq_doubleRoot_iff] at root
  unfold normalize normalParts
  rw [root]
  rfl

/-- What is kept further out stays when the segments do not climb so far. -/
theorem cancel_append_kept {kept segments left : List String} (h : cancel kept segments = some left) (outer : List String) :
    cancel (kept ++ outer) segments = some (outer.reverse ++ left) := by
  fun_induction cancel kept segments with
  | case1 kept =>
    obtain rfl := Option.some.inj h
    rw [cancel, List.reverse_append]
  | case2 => cases h
  | case3 rest name inner ih => simpa [cancel] using ih h
  | case4 kept segment rest other ih => simpa [cancel, other] using ih h

/-- When the segments climb further than the ordinary ones that are kept lead down, what is kept further out is cancelled. -/
theorem isOrdinary_of_cancel_escapes {kept segments left : List String} {outermost : String}
    (ordinary : ∀ s ∈ kept, IsOrdinary s)
    (segmented : ∀ s ∈ segments, IsSegment s) (out : cancel kept segments = none)
    (h : cancel (kept ++ [outermost]) segments = some left) : ∀ s ∈ left, IsOrdinary s := by
  fun_induction cancel kept segments with
  | case1 => cases out
  | case2 rest =>
    exact isOrdinary_of_cancel (List.forall_mem_nil _) (List.forall_mem_cons.mp segmented).2 (by simpa [cancel] using h)
  | case3 rest name inner ih =>
    exact ih (List.forall_mem_cons.mp ordinary).2 (List.forall_mem_cons.mp segmented).2 out (by simpa [cancel] using h)
  | case4 kept segment rest other ih =>
    obtain ⟨here, there⟩ := List.forall_mem_cons.mp segmented
    exact ih (List.forall_mem_cons.mpr ⟨⟨here, other⟩, ordinary⟩) there out (by simpa [cancel, other] using h)

/-- Normalising gives a canonical path, which it does not change again, exactly if the path does not start with two slashes
or climbs out of the place where it starts. -/
theorem isCanonical_normalize_iff {text path : String} (h : normalize text = some path) :
    IsCanonical path ∧ normalize path = some path ↔ ¬ (StartsWithTwoSlashes text ∧ ¬ ClimbsOut text) := by
  have ordinary : ∀ left, (∀ s ∈ left, IsOrdinary s) → path = joinSegments left →
      IsCanonical path ∧ normalize path = some path := by
    rintro left ordinary rfl
    exact ⟨isCanonical_iff.mpr ⟨left, ordinary, rfl⟩, normalize_joinSegments ordinary⟩
  have fit : ∀ s ∈ segmentsOf text, IsSegment s := fun _ => isSegment_of_mem_segmentsOf
  rw [climbsOut_iff, ← List.length_nil (α := String), ← cancel_eq_none_iff]
  by_cases root : StartsWithTwoSlashes text
  · rw [normalize_of_twoSlashes root] at h
    obtain ⟨left, kept, rfl⟩ := Option.map_eq_some_iff.mp h
    cases stays : cancel [] (segmentsOf text) with
    | none =>
      refine iff_of_true (ordinary left ?_ rfl) fun both => both.2 rfl
      exact isOrdinary_of_cancel_escapes (List.forall_mem_nil _) fit stays kept
    | some below =>
      obtain rfl : ["//"] ++ below = left := Option.some.inj ((cancel_append_kept stays ["//"]).symm.trans kept)
      have slash : StartsWithSlash (joinSegments ("//" :: below)) :=
        (startsWithSlash_joinSegments below (by decide)).mpr (by decide)
      refine iff_of_false (fun both => ?_) fun other => other ⟨root, nofun⟩
      rcases both.1 with empty | ⟨relative, -⟩
      · exact absurd (empty ▸ slash) (by decide)
      · exact relative slash
  · rw [normalize_of_not_twoSlashes root] at h
    obtain ⟨left, cancelled, rfl⟩ := Option.map_eq_some_iff.mp h
    refine iff_of_true (ordinary left ?_ rfl) fun both => root both.1
    exact isOrdinary_of_cancel (List.forall_mem_nil _) fit cancelled

/-- A root of one slash is no part of the normal form, and one of two slashes is none when a climb cancels it. -/
theorem sample_canonical :
    (normalize "/src//./a/../b.ts" = some "src/b.ts" ∧ IsCanonical "src/b.ts" ∧ normalize "src/b.ts" = some "src/b.ts") ∧
      normalize "//../b" = some "b" ∧ IsCanonical "b" ∧ normalize "b" = some "b" := by
  have single : normalize "/src//./a/../b.ts" = some "src/b.ts" := by decide +kernel
  have double : normalize "//../b" = some "b" := by decide +kernel
  have root : ¬ StartsWithTwoSlashes "/src//./a/../b.ts" := mt anchor_eq_doubleRoot_iff.mpr (by decide)
  have climbs : ClimbsOut "//../b" := ⟨["", "", ".."], by decide, by decide⟩
  refine ⟨⟨single, ?_⟩, double, ?_⟩
  · exact (isCanonical_normalize_iff single).mpr fun both => root both.1
  · exact (isCanonical_normalize_iff double).mpr fun both => both.2 climbs

/-- Two slashes in front become three, which are gone when the path is normalised again. -/
theorem sample_doubleRoot :
    normalize "//a" = some "///a" ∧ ¬ IsCanonical "///a" ∧ normalize "///a" = some "a" := by
  refine ⟨by decide +kernel, fun canonical => ?_, by decide +kernel⟩
  rcases canonical with empty | ⟨relative, -⟩
  · exact absurd empty (by decide)
  · exact relative (by decide)

end CodeAtlas.Path
