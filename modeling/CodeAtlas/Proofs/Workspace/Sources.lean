import CodeAtlas.Proofs.Outcome
import CodeAtlas.Proofs.Path
import CodeAtlas.Proofs.Table
import CodeAtlas.Workspace.Sources

/-!
# The paths of collected files

The files that are collected below a directory have relative paths in their tidy form (`collect_tidy`), since their paths
are put together from the names of directories and files (`HasSegments`).
-/

namespace CodeAtlas

namespace Workspace

/-- The paths of files consist of segments. -/
def HasSegments (w : Workspace) : Prop := ∀ place ∈ w.files.keys, ∀ segment ∈ place, Path.IsSegment segment

variable {w : Workspace}

/-- The files below a directory have paths from there. -/
theorem segments_of_mem_filesBelow (h : w.HasSegments) {place : List String} {file : List String × List UInt8}
    (mem : file ∈ w.filesBelow place) : file.1 ≠ [] ∧ ∀ segment ∈ file.1, Path.IsSegment segment := by
  obtain ⟨entry, listed, below⟩ := List.mem_filterMap.mp mem
  split at below
  · rename_i inside
    obtain rfl := Option.some.inj below
    have longer : place.length < entry.1.length := by
      simp only [Bool.and_eq_true, decide_eq_true_eq] at inside
      exact inside.2
    refine ⟨?_, fun segment mem => h entry.1 (List.mem_map_of_mem listed) segment (List.mem_of_mem_drop mem)⟩
    simpa using longer
  · cases below

/-- Wanted files keep their paths. -/
theorem path_of_mem_wantedTexts {registry : Registry} {rules : List IgnoreRule} {exclude : List String} :
    ∀ {files : List (List String × List UInt8)} {texts : List (String × String)},
      wantedTexts registry rules exclude files = .ok texts →
        ∀ text ∈ texts, ∃ file ∈ files, text.1 = Path.joinSegments file.1
  | [], texts, h => by
    obtain rfl := Except.ok.inj h
    exact fun _ mem => absurd mem List.not_mem_nil
  | (segments, bytes) :: files, texts, h => by
    rw [wantedTexts] at h
    obtain ⟨wanted, -, h⟩ := Except.bind_eq_ok_iff.mp h
    obtain ⟨others, rest, h⟩ := Except.bind_eq_ok_iff.mp h
    have later : ∀ text ∈ others, ∃ file ∈ (segments, bytes) :: files, text.1 = Path.joinSegments file.1 := by
      intro text mem
      obtain ⟨file, listed, path⟩ := path_of_mem_wantedTexts rest text mem
      exact ⟨file, List.mem_cons_of_mem _ listed, path⟩
    split at h
    · obtain rfl := Except.ok.inj h
      exact List.forall_mem_cons.mpr ⟨⟨(segments, bytes), List.mem_cons_self, rfl⟩, later⟩
    · obtain rfl := Except.ok.inj h
      exact later

/-- Collected files have relative paths in their tidy form. -/
theorem collect_tidy (h : w.HasSegments) {registry : Registry} {directory : String} {selection : Selection}
    {files : Table String String} (collected : w.collect registry directory selection = .ok files) :
    ∀ file ∈ files.keys, Path.IsTidy file := by
  unfold collect at collected
  obtain ⟨place, -, collected⟩ := Except.bind_eq_ok_iff.mp collected
  cases place with
  | none => cases collected
  | some place =>
    obtain ⟨texts, wanted, rfl⟩ := Except.map_eq_ok_iff.mp collected
    intro file mem
    have mem := (Table.mem_keys_putAll.mp mem).resolve_left List.not_mem_nil
    obtain ⟨text, listed, rfl⟩ := List.mem_map.mp mem
    obtain ⟨below, sorted, path⟩ := path_of_mem_wantedTexts wanted text listed
    obtain ⟨some, fit⟩ := segments_of_mem_filesBelow h (List.mem_mergeSort.mp sorted)
    rw [path]
    exact Path.isTidy_joinSegments some fit

end Workspace

end CodeAtlas
