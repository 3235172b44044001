import CodeAtlas.Proofs.Path
import Mathlib.Data.List.Infix

/-!
# Normal paths

A segment is ordinary if it names something in a directory, so if it does not climb (`IsOrdinary`). A path is normal if it
is put together from ordinary segments (`IsNormal`); the repository itself, which has none, is the empty path.

- The segments of a path below a directory are those of the directory and then its own (`segmentsOf_join`).
- Normalising a path that starts with no slash cancels its segments one after another (`normalize_of_relative`), which
  gives a normal path or nothing (`isNormal_of_normalize`). It gives nothing exactly if the segments climb out of the
  directory where they start (`cancel_eq_none_iff`).
- Paths that are put together from segments are joined by putting all segments together (`join_joinSegments`).
-/

namespace CodeAtlas.Path

/-! ## Segments -/

/-- The text names something in a directory. -/
def IsOrdinary (text : String) : Prop := IsSegment text ∧ text ≠ ".."

instance (text : String) : Decidable (IsOrdinary text) :=
  inferInstanceAs (Decidable ((text ≠ "" ∧ text ≠ "." ∧ '/' ∉ text.toList) ∧ text ≠ ".."))

/-- A text of two dots has no beginnings but those of fewer dots. -/
theorem dots_of_prefix {text : String} (h : text.toList <+: "..".toList) : text = "" ∨ text = "." ∨ text = ".." := by
  have among : text.toList ∈ ["".toList, ".".toList, "..".toList] := (List.mem_inits _ _).mpr h
  simpa only [List.mem_cons, List.not_mem_nil, or_false, String.toList_inj] using among

/-- A name stays ordinary when it is lengthened. -/
theorem IsOrdinary.append {name suffix : String} (h : IsOrdinary name) (free : '/' ∉ suffix.toList) :
    IsOrdinary (name ++ suffix) := by
  obtain ⟨⟨named, noDot, slashFree⟩, noClimb⟩ := h
  have longer : ∀ dots : String, dots.toList <+: "..".toList → name ++ suffix ≠ dots := by
    rintro dots few rfl
    rw [String.toList_append] at few
    rcases dots_of_prefix ((List.prefix_append _ _).trans few) with rfl | rfl | rfl
    · exact named rfl
    · exact noDot rfl
    · exact noClimb rfl
  refine ⟨⟨longer "" (by decide), longer "." (by decide), ?_⟩, longer ".." (by decide)⟩
  rw [String.toList_append, List.mem_append]
  exact not_or.mpr ⟨slashFree, free⟩

theorem pieces_slash (front back : String) : pieces (front ++ "/" ++ back) = pieces front ++ pieces back := by
  simp only [pieces, String.toList_append, ← List.map_append]
  rw [show "/".toList = ['/'] from rfl, List.append_assoc, List.singleton_append, Text.splitOn_append_separator]

theorem segmentsOf_join (directory path : String) :
    segmentsOf (join directory path) = segmentsOf directory ++ segmentsOf path := by
  unfold join
  split
  · rename_i empty
    rw [empty]
    rfl
  · simp only [segmentsOf_eq, pieces_slash, List.filter_append]

theorem isSegment_of_mem_segmentsOf {text segment : String} (mem : segment ∈ segmentsOf text) : IsSegment segment := by
  rw [segmentsOf_eq, List.mem_filter] at mem
  obtain ⟨mem, kept⟩ := mem
  obtain ⟨piece, cut, rfl⟩ := List.mem_map.mp mem
  have kept : String.ofList piece ≠ "" ∧ String.ofList piece ≠ "." := by simpa using kept
  exact ⟨kept.1, kept.2, by simpa using Text.notMem_of_mem_splitOn cut⟩

/-! ## Paths that start with no slash -/

/-- The written path starts with a slash. -/
def StartsWithSlash (text : String) : Prop := text.toList.head? = some '/'

instance (text : String) : Decidable (StartsWithSlash text) := inferInstanceAs (Decidable (_ = _))

theorem takeWhile_slash_of_relative {text : String} (relative : ¬ StartsWithSlash text) :
    text.toList.takeWhile (· = '/') = [] := by
  unfold StartsWithSlash at relative
  cases chars : text.toList with
  | nil => rfl
  | cons c rest =>
    rw [chars] at relative
    have other : c ≠ '/' := by simpa using relative
    simp [other]

theorem parse_of_relative {text : String} (relative : ¬ StartsWithSlash text) : parse text = ⟨.here, segmentsOf text⟩ := by
  rw [parse, takeWhile_slash_of_relative relative]
  rfl

theorem normalize_of_relative {text : String} (relative : ¬ StartsWithSlash text) :
    normalize text = (cancel [] (segmentsOf text)).map joinSegments := by
  rw [normalize, parse_of_relative relative]
  rfl

theorem startsWithSlash_append {front back : String} (named : front ≠ "") :
    StartsWithSlash (front ++ back) ↔ StartsWithSlash front := by
  obtain ⟨c, cs, chars⟩ := List.exists_cons_of_ne_nil (mt String.toList_eq_nil_iff.mp named)
  simp [StartsWithSlash, String.toList_append, chars]

theorem not_startsWithSlash_join {directory path : String} (inside : ¬ StartsWithSlash directory)
    (relative : ¬ StartsWithSlash path) : ¬ StartsWithSlash (join directory path) := by
  unfold join
  split
  · exact relative
  · rename_i named
    rw [String.append_assoc, startsWithSlash_append named]
    exact inside

/-! ## Cancelling -/

/-- Segments are cancelled one after another. -/
theorem cancel_append (kept front back : List String) :
    cancel kept (front ++ back) = (cancel kept front).bind fun left => cancel left.reverse back := by
  fun_induction cancel kept front with
  | case1 kept => simp
  | case2 rest => simp [cancel]
  | case3 rest name outer ih => simpa [cancel] using ih
  | case4 kept segment rest other ih => simpa [cancel, other] using ih

/-- Where nothing climbs nothing is cancelled. -/
theorem cancel_of_ordinary {segments : List String} (kept : List String) (ordinary : ∀ s ∈ segments, s ≠ "..") :
    cancel kept segments = some (kept.reverse ++ segments) := by
  induction segments generalizing kept with
  | nil => simp [cancel]
  | cons segment rest ih =>
    obtain ⟨here, there⟩ := List.forall_mem_cons.mp ordinary
    have pushed : cancel kept (segment :: rest) = cancel (segment :: kept) rest := by simp [cancel, here]
    rw [pushed, ih (segment :: kept) there, List.reverse_cons, List.append_assoc, List.singleton_append]

/-- As many climbs as there are inner segments cancel just these. -/
theorem cancel_climbs (outer inner : List String) :
    cancel (inner ++ outer) (List.replicate inner.length "..") = some outer.reverse := by
  induction inner with
  | nil => rfl
  | cons name inner ih => simpa [cancel, List.replicate_succ] using ih

/-- What is left after cancelling is ordinary. -/
theorem isOrdinary_of_cancel {kept segments left : List String} (ordinary : ∀ s ∈ kept, IsOrdinary s)
    (segmented : ∀ s ∈ segments, IsSegment s) (h : cancel kept segments = some left) : ∀ s ∈ left, IsOrdinary s := by
  fun_induction cancel kept segments with
  | case1 kept =>
    obtain rfl := Option.some.inj h
    exact fun s mem => ordinary s (List.mem_reverse.mp mem)
  | case2 => cases h
  | case3 rest name outer ih =>
    exact ih (fun s mem => ordinary s (List.mem_cons_of_mem _ mem)) (fun s mem => segmented s (List.mem_cons_of_mem _ mem)) h
  | case4 kept segment rest other ih =>
    obtain ⟨here, there⟩ := List.forall_mem_cons.mp segmented
    exact ih (List.forall_mem_cons.mpr ⟨⟨here, other⟩, ordinary⟩) there h

/-! ## Climbing out -/

section Escapes

variable {depth : Nat} {segment : String} {rest : List String}

/-- Some of the segments, from the first on, climb more often than they and the directories before them lead down. -/
def Escapes (depth : Nat) (segments : List String) : Prop :=
  ∃ front, front <+: segments ∧ depth + front.countP (· ≠ "..") < front.count ".."

theorem not_escapes_nil : ¬ Escapes depth [] := by simp [Escapes]

theorem escapes_cons : Escapes depth (segment :: rest) ↔
    ∃ front, front <+: rest ∧ depth + (segment :: front).countP (· ≠ "..") < (segment :: front).count ".." := by
  constructor
  · rintro ⟨front, start, more⟩
    rcases List.prefix_cons_iff.mp start with rfl | ⟨later, rfl, first⟩
    · simp at more
    · exact ⟨later, first, more⟩
  · rintro ⟨front, start, more⟩
    exact ⟨segment :: front, (List.prefix_cons_inj segment).mpr start, more⟩

theorem escapes_climb_zero : Escapes 0 (".." :: rest) := escapes_cons.mpr ⟨[], List.nil_prefix, by decide⟩

theorem escapes_climb : Escapes (depth + 1) (".." :: rest) ↔ Escapes depth rest := by
  rw [escapes_cons, Escapes]
  simp only [List.count_cons_self, ne_eq, not_true_eq_false, decide_false, Bool.false_eq_true, not_false_eq_true,
    List.countP_cons_of_neg, Nat.add_right_comm depth 1, Nat.add_lt_add_iff_right]

theorem escapes_descend (other : segment ≠ "..") : Escapes depth (segment :: rest) ↔ Escapes (depth + 1) rest := by
  rw [escapes_cons, Escapes]
  simp only [other, List.count_cons_of_ne, ne_eq, not_false_eq_true, decide_true, List.countP_cons_of_pos,
    Nat.add_right_comm depth 1, Nat.add_assoc]

/-- Cancelling is refused exactly if the segments escape from those that are kept. -/
theorem cancel_eq_none_iff {kept segments : List String} : cancel kept segments = none ↔ Escapes kept.length segments := by
  fun_induction cancel kept segments with
  | case1 kept => simp [not_escapes_nil]
  | case2 rest => simp [escapes_climb_zero]
  | case3 rest name outer ih => rw [ih, List.length_cons, escapes_climb]
  | case4 kept segment rest other ih => rw [ih, List.length_cons, escapes_descend other]

end Escapes

/-! ## Normal paths -/

/-- The path is put together from ordinary segments. -/
def IsNormal (path : String) : Prop := ∃ segments, (∀ s ∈ segments, IsOrdinary s) ∧ path = joinSegments segments

theorem startsWithSlash_joinSegments {first : String} (rest : List String) (named : first ≠ "") :
    StartsWithSlash (joinSegments (first :: rest)) ↔ StartsWithSlash first := by
  cases rest with
  | nil => simp [joinSegments]
  | cons next rest => rw [joinSegments, String.intercalate_cons_cons, String.append_assoc, startsWithSlash_append named]

/-- Segments are put together to a path that starts with no slash. -/
theorem not_startsWithSlash_joinSegments {segments : List String} (fit : ∀ s ∈ segments, IsSegment s) :
    ¬ StartsWithSlash (joinSegments segments) := by
  cases segments with
  | nil => decide
  | cons first rest =>
    obtain ⟨named, -, free⟩ := fit first List.mem_cons_self
    rw [startsWithSlash_joinSegments rest named]
    exact fun slash => free (List.mem_of_head? slash)

theorem not_startsWithSlash_render {segments : List String} (fit : ∀ s ∈ segments, IsSegment s) :
    ¬ StartsWithSlash (render ⟨.here, segments⟩) := by
  cases segments with
  | nil => decide
  | cons first rest => simpa [render, Anchor.text] using not_startsWithSlash_joinSegments fit

/-- Normalising a path as it is written after reading it cancels its segments. -/
theorem normalize_render {segments : List String} (fit : ∀ s ∈ segments, IsSegment s) :
    normalize (render ⟨.here, segments⟩) = (cancel [] segments).map joinSegments := by
  rw [normalize_of_relative (not_startsWithSlash_render fit)]
  cases segments with
  | nil => rfl
  | cons first rest =>
    have written : render ⟨.here, first :: rest⟩ = joinSegments (first :: rest) := String.empty_append
    rw [written, segmentsOf_joinSegments (by simp) fit]

/-- Normalising gives a normal path or nothing. -/
theorem isNormal_of_normalize {text path : String} (relative : ¬ StartsWithSlash text)
    (h : normalize text = some path) : IsNormal path := by
  rw [normalize_of_relative relative] at h
  obtain ⟨left, cancelled, rfl⟩ := Option.map_eq_some_iff.mp h
  refine ⟨left, isOrdinary_of_cancel ?_ (fun _ => isSegment_of_mem_segmentsOf) cancelled, rfl⟩
  exact fun s mem => absurd mem List.not_mem_nil

/-- Segments that are not empty make up a path that is not. -/
theorem joinSegments_eq_empty_iff {segments : List String} (named : ∀ s ∈ segments, s ≠ "") :
    joinSegments segments = "" ↔ segments = [] := by
  cases segments with
  | nil => simp [joinSegments]
  | cons first rest =>
    have first' := named first List.mem_cons_self
    cases rest with
    | nil => simpa [joinSegments] using first'
    | cons next rest => simp [joinSegments, first']

theorem joinSegments_ne_empty {segments : List String} (ordinary : ∀ s ∈ segments, IsOrdinary s) (some : segments ≠ []) :
    joinSegments segments ≠ "" :=
  mt (joinSegments_eq_empty_iff fun s mem => (ordinary s mem).1.1).mp some

/-- A path below a directory, both put together from segments. -/
theorem join_joinSegments {directory path : List String} (named : ∀ s ∈ directory, s ≠ "") (some : path ≠ []) :
    join (joinSegments directory) (joinSegments path) = joinSegments (directory ++ path) := by
  unfold join
  split
  · rename_i empty
    rw [(joinSegments_eq_empty_iff named).mp empty, List.nil_append]
  · rename_i below
    have below : directory ≠ [] := mt (joinSegments_eq_empty_iff named).mpr below
    exact (String.intercalate_append_of_ne_nil below some).symm

/-- The segments of a path that is put together from ordinary ones, or from none. -/
theorem segmentsOf_of_ordinary {segments : List String} (ordinary : ∀ s ∈ segments, IsOrdinary s) :
    segmentsOf (joinSegments segments) = segments := by
  cases segments with
  | nil => rfl
  | cons first rest => exact segmentsOf_joinSegments (by simp) fun s mem => (ordinary s mem).1

/-- A path of ordinary segments is normalised already. -/
theorem normalize_joinSegments {segments : List String} (ordinary : ∀ s ∈ segments, IsOrdinary s) :
    normalize (joinSegments segments) = some (joinSegments segments) := by
  rw [normalize_of_relative (not_startsWithSlash_joinSegments fun s mem => (ordinary s mem).1)]
  rw [segmentsOf_of_ordinary ordinary, cancel_of_ordinary [] fun s mem => (ordinary s mem).2]
  rfl

/-- What follows a directory that is put together from ordinary segments is cancelled against these. -/
theorem normalize_join {segments : List String} (ordinary : ∀ s ∈ segments, IsOrdinary s) {path : String}
    (relative : ¬ StartsWithSlash path) :
    normalize (join (joinSegments segments) path) = (cancel segments.reverse (segmentsOf path)).map joinSegments := by
  have inside := not_startsWithSlash_joinSegments fun s mem => (ordinary s mem).1
  rw [normalize_of_relative (not_startsWithSlash_join inside relative), segmentsOf_join, segmentsOf_of_ordinary ordinary,
    cancel_append, cancel_of_ordinary [] fun s mem => (ordinary s mem).2]
  rfl

/-- What is appended to a path lengthens its last segment. -/
theorem joinSegments_append (front : List String) (last suffix : String) :
    joinSegments (front ++ [last]) ++ suffix = joinSegments (front ++ [last ++ suffix]) := by
  cases front with
  | nil => simp [joinSegments]
  | cons first front =>
    simp only [joinSegments]
    rw [String.intercalate_append_of_ne_nil (by simp) (by simp), String.intercalate_append_of_ne_nil (by simp) (by simp)]
    simp [String.append_assoc]

end CodeAtlas.Path
