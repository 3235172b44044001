import CodeAtlas.Path
import CodeAtlas.Proofs.Text.Split

/-!
# Laws of paths

Segments can be told apart in a path that is put together from them (`segmentsOf_joinSegments`), so reading such a path and
writing it again changes nothing (`isTidy_joinSegments`).
-/

namespace CodeAtlas.Path

/-- The text can be a segment of a path. -/
def IsSegment (text : String) : Prop := text ≠ "" ∧ text ≠ "." ∧ '/' ∉ text.toList

/-- All that stands between the slashes of a written path, be it a segment or not. -/
def pieces (text : String) : List String := (Text.splitOn '/' text.toList).map String.ofList

theorem segmentsOf_eq (text : String) : segmentsOf text = (pieces text).filter fun s => s ≠ "" && s ≠ "." := rfl

/-- Texts without slashes can be told apart after slashes are put between them. -/
theorem pieces_joinSegments {segments : List String} (some : segments ≠ [])
    (free : ∀ segment ∈ segments, '/' ∉ segment.toList) : pieces (joinSegments segments) = segments := by
  have free : ∀ piece ∈ segments.map String.toList, '/' ∉ piece := by
    intro piece mem
    obtain ⟨segment, listed, rfl⟩ := List.mem_map.mp mem
    exact free segment listed
  rw [pieces, Text.splitOn_eq, joinSegments, String.toList_intercalate]
  rw [show "/".toList = ['/'] from rfl, List.splitOn_intercalate '/' free (by simpa using some), List.map_map]
  simp only [Function.comp_def, String.ofList_toList, List.map_id']

/-- The segments of a path are those that it was put together from. -/
theorem segmentsOf_joinSegments {segments : List String} (some : segments ≠ [])
    (fit : ∀ segment ∈ segments, IsSegment segment) : segmentsOf (joinSegments segments) = segments := by
  rw [segmentsOf_eq, pieces_joinSegments some fun segment mem => (fit segment mem).2.2, List.filter_eq_self]
  intro segment mem
  simp [(fit segment mem).1, (fit segment mem).2.1]

/-- A path that is put together from segments is read as these segments, from the current place. -/
theorem parse_joinSegments {segments : List String} (some : segments ≠ [])
    (fit : ∀ segment ∈ segments, IsSegment segment) : parse (joinSegments segments) = ⟨.here, segments⟩ := by
  have start : (joinSegments segments).toList.takeWhile (· = '/') = [] := by
    obtain ⟨first, rest, rfl⟩ := List.exists_cons_of_ne_nil some
    obtain ⟨named, -, free⟩ := fit first List.mem_cons_self
    obtain ⟨c, cs, chars⟩ := List.exists_cons_of_ne_nil (mt String.toList_eq_nil_iff.mp named)
    have here : c ≠ '/' := fun slash => free (chars ▸ slash ▸ List.mem_cons_self)
    rw [joinSegments, String.toList_intercalate, List.map_cons, chars]
    cases rest <;> simp [here]
  rw [parse, start, segmentsOf_joinSegments some fit]
  rfl

/-- What is left below a base path are the segments that follow those of the base. -/
theorem relativeTo?_eq_some_iff {p base q : Path} :
    p.relativeTo? base = some q ↔ ∃ below, p = ⟨base.anchor, base.segments ++ below⟩ ∧ q = ⟨.here, below⟩ := by
  obtain ⟨anchor, segments⟩ := p
  simp only [relativeTo?, List.isPrefixOf_iff_prefix, Option.ite_none_right_eq_some, Option.some.injEq]
  constructor
  · rintro ⟨⟨rfl, below, rfl⟩, rfl⟩
    exact ⟨below, rfl, by rw [List.drop_left]⟩
  · rintro ⟨below, same, rfl⟩
    obtain ⟨rfl, rfl⟩ := Path.mk.inj same
    exact ⟨⟨rfl, List.prefix_append _ _⟩, by rw [List.drop_left]⟩

/-- The path is relative, and written as it is after reading it. -/
def IsTidy (path : String) : Prop := tidy path = path ∧ (parse path).isAbsolute = false

theorem isTidy_joinSegments {segments : List String} (some : segments ≠ [])
    (fit : ∀ segment ∈ segments, IsSegment segment) : IsTidy (joinSegments segments) := by
  rw [IsTidy, tidy, parse_joinSegments some fit]
  refine ⟨?_, rfl⟩
  cases segments with
  | nil => exact absurd rfl some
  | cons first rest => exact String.empty_append

end CodeAtlas.Path
