import CodeAtlas.Proofs.Analyzer.Visits
import CodeAtlas.Proofs.Dependency.Order

/-!
# The dependency map of files

A dependency map that could be made holds one entry for each file, with what could be found for it (`mapOf_eq_ok_iff`,
`putEntries`). So two file maps that give the same source for every file have dependency maps that say the same of every
file, or both have none (`mapOf_congr`).
-/

namespace CodeAtlas

namespace Dependency

variable {registry : Registry} {r : Resolver} {files files' : Table String SourceFile} {found : String → List String}

/-- The entries of files are put into a dependency map. -/
def putEntries (found : String → List String) (names : List String) (m : DependencyMap) : DependencyMap :=
  names.foldl (fun m file => m.put file ⟨file, found file⟩) m

theorem get?_putEntries (names : List String) (m : DependencyMap) (file : String) :
    (putEntries found names m).get? file = if file ∈ names then some ⟨file, found file⟩ else m.get? file :=
  Table.get?_foldl_put (fun file => (⟨file, found file⟩ : DependencyEntry)) file names m

theorem mem_keys_putEntries {names : List String} {file : String} :
    file ∈ (putEntries found names .empty).keys ↔ file ∈ names := by
  rw [← Table.contains_iff, Table.contains, get?_putEntries]
  split <;> simp [*]

/-- The dependencies of every file of the map can be found. -/
def Extracts (registry : Registry) (r : Resolver) (files : Table String SourceFile) (found : String → List String) : Prop :=
  ∀ file ∈ files.keys, extract registry r file (sourceIn files file).text = .ok (found file)

/-- The dependency map of files whose dependencies can all be found. -/
theorem mapOf_eq_putEntries (extracted : Extracts registry r files found) :
    mapOf registry r (files.mapValues fun _ src => src.text) = .ok (putEntries found files.keys .empty) := by
  have each : ∀ e ∈ (files.mapValues fun _ src => src.text).entries,
      ((extract registry r e.1 e.2).map fun deps => (e.1, (⟨e.1, deps⟩ : DependencyEntry))) =
        .ok (e.1, ⟨e.1, found e.1⟩) := by
    intro e mem
    obtain ⟨⟨file, src⟩, entry, rfl⟩ := List.mem_map.mp mem
    simp only [← sourceIn_of_mem entry, extracted file (List.mem_map_of_mem entry)]
    rfl
  unfold mapOf
  rw [Except.mapM_eq_ok_map each]
  simp only [Except.map, Table.ofList, Table.putAll, List.foldl_map, putEntries, Table.keys, Table.mapValues]

/-- A dependency map can be made only if the dependencies of every file can be found, and holds what was found. -/
theorem mapOf_eq_ok_iff {m : DependencyMap} : mapOf registry r (files.mapValues fun _ src => src.text) = .ok m ↔
    ∃ found, Extracts registry r files found ∧ m = putEntries found files.keys .empty := by
  constructor
  · intro mapped
    obtain ⟨pairs, each, -⟩ := Except.map_eq_ok_iff.mp mapped
    let found := fun file => (extract registry r file (sourceIn files file).text).toOption.getD []
    have extracted : Extracts registry r files found := by
      intro file mem
      obtain ⟨⟨key, src⟩, entry, same⟩ := List.mem_map.mp mem
      obtain rfl : key = file := same
      obtain ⟨pair, extracted, -⟩ := Except.Gives.of_mapM each (key, src.text) (List.mem_map_of_mem entry)
      obtain ⟨deps, extracted, -⟩ := Except.map_eq_ok_iff.mp extracted
      simp only [found, sourceIn_of_mem entry, extracted]
      rfl
    rw [mapOf_eq_putEntries extracted] at mapped
    exact ⟨found, extracted, (Except.ok.inj mapped).symm⟩
  · rintro ⟨found, extracted, rfl⟩
    exact mapOf_eq_putEntries extracted

/-- File maps that give the same sources have dependency maps that say the same, or both have none. -/
theorem mapOf_congr (registry : Registry) (r : Resolver) (same : ∀ file, files.get? file = files'.get? file) :
    (∃ m m', mapOf registry r (files.mapValues fun _ src => src.text) = .ok m ∧
        mapOf registry r (files'.mapValues fun _ src => src.text) = .ok m' ∧ ∀ file, m.get? file = m'.get? file) ∨
      ∃ e e', mapOf registry r (files.mapValues fun _ src => src.text) = .error e ∧
        mapOf registry r (files'.mapValues fun _ src => src.text) = .error e' := by
  have keys : ∀ file, file ∈ files.keys ↔ file ∈ files'.keys := fun _ => Table.mem_keys_congr same
  have extracts : ∀ found, Extracts registry r files found ↔ Extracts registry r files' found := by
    intro found
    simp only [Extracts, sourceIn, same, keys]
  cases mapped : mapOf registry r (files.mapValues fun _ src => src.text) with
  | ok m =>
    obtain ⟨found, extracted, rfl⟩ := mapOf_eq_ok_iff.mp mapped
    refine Or.inl ⟨_, _, rfl, mapOf_eq_putEntries ((extracts found).mp extracted), fun file => ?_⟩
    rw [get?_putEntries, get?_putEntries, if_congr (keys file) rfl rfl]
  | error e =>
    cases mapped' : mapOf registry r (files'.mapValues fun _ src => src.text) with
    | ok m' =>
      obtain ⟨found, extracted, -⟩ := mapOf_eq_ok_iff.mp mapped'
      rw [mapOf_eq_putEntries ((extracts found).mpr extracted)] at mapped
      cases mapped
    | error e' => exact Or.inr ⟨e, e', rfl, rfl⟩

end Dependency

end CodeAtlas
