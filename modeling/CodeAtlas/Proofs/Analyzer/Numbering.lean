import CodeAtlas.Proofs.Analyzer.History
import CodeAtlas.Proofs.Visit.Identity
import CodeAtlas.Proofs.Dependency.Order
import CodeAtlas.Proofs.Graph.Edges
import Mathlib.Data.List.Nodup
import Mathlib.Data.List.Perm.Subperm

/-!
# The numbers of files in a run

A run gives out numbers to the visits of its files: in advance, to be used later and in whatever order, or when a file has
got as far as its parser (`Run.Uses`). However both are mixed, no number is given out twice and none is used twice
(`Uses.fresh`). The texts behind the ids of elements tell the number of the file and the number of the element in the file
(`Visit.idText_numbers`), so no two elements that are created in a run, not even those of visits that fail in the end, have
the same text (`idTexts_distinct`).

An analyzer uses its run in this way, whether it visits files one after another (`Uses.visitInTurn`) or by workers
(`Uses.visitByWorkers`). So after every history the ids in its run are hashes of different texts (`Analyzer.afterAll_texts`).
-/

namespace CodeAtlas

/-- The id that a text is hashed to. -/
def Visit.idOfText (text : String) : String := String.ofList ((Blake3.hexHash (Text.encode text.toList)).take 16)

namespace Setup

/-- The elements that a visit creates, up to its end or to a failure: their numbers and nodes. -/
def created (s : Setup) (r : Resolver) (runId : String) (ordinal : Nat) (file : String) (src : SourceFile) :
    List (Nat × Node) :=
  if file = "" then []
  else match Visit.prepare s.registry file src.text, src.tree with
    | .ok (.ok p), some t =>
      if t.hasError && s.strict then []
      else Visit.created (Visit.subject p (some r) runId file ordinal) [] .initial [.enter [] t.root]
    | _, _ => []

/-- The texts behind the ids of the elements that a visit creates. -/
def idTexts (s : Setup) (r : Resolver) (runId : String) (ordinal : Nat) (file : String) (src : SourceFile) : List String :=
  (s.created r runId ordinal file src).map fun c => Visit.idText runId ordinal file c.1 c.2

variable {s : Setup} {r : Resolver} {runId : String} {ordinal : Nat} {file : String} {src : SourceFile}

/-- The ids of the elements that a visit finds are the hashes of its texts. -/
theorem ids_visit {result : FileResult} {found : Findings} (h : s.visit r runId ordinal file src = .ok result)
    (ok : result.outcome = .ok found) :
    found.elements.map (·.id) = (s.idTexts r runId ordinal file src).map Visit.idOfText := by
  unfold visit at h
  unfold idTexts created
  split at h
  · cases h
  · rename_i named
    obtain ⟨prepared, prepares, rfl⟩ := Except.map_eq_ok_iff.mp h
    obtain ⟨p, ready, findings⟩ := Except.bind_eq_ok_iff.mp (Except.mapError_eq_ok_iff.mp ok)
    obtain rfl : prepared = .ok p := ready
    rw [if_neg named, Except.mapError_eq_ok_iff.mp prepares]
    unfold Visit.findings at findings
    cases tree : src.tree with
    | none =>
      rw [tree] at findings
      cases findings
    | some t =>
      simp only [tree] at findings
      split at findings
      · cases findings
      · rename_i whole
        obtain ⟨st, walked, rfl⟩ := Except.map_eq_ok_iff.mp findings
        simp only [if_neg whole, (Visit.walk_created [] .initial _ walked).ids, List.map_map]
        rfl

/-- A visit numbers its elements from one on. -/
theorem created_numbers (s : Setup) (r : Resolver) (runId : String) (ordinal : Nat) (file : String) (src : SourceFile) :
    (s.created r runId ordinal file src).map Prod.fst = List.range' 1 (s.created r runId ordinal file src).length := by
  unfold created
  split
  · rfl
  · split
    · split
      · rfl
      · exact Visit.created_numbers _ _ _ _
    · rfl

/-- The texts of a visit tell its elements apart. -/
theorem nodup_idTexts (s : Setup) (r : Resolver) (runId : String) (ordinal : Nat) (file : String) (src : SourceFile) :
    (s.idTexts r runId ordinal file src).Nodup := by
  have numbers : ((s.created r runId ordinal file src).map Prod.fst).Nodup := by
    rw [created_numbers]
    exact List.nodup_range'
  rw [List.nodup_iff_pairwise_ne, List.pairwise_map] at numbers
  rw [idTexts, List.nodup_iff_pairwise_ne, List.pairwise_map]
  exact numbers.imp fun apart same => apart (Visit.idText_numbers same).2

/-- The run after a file was visited under its next number, whether this ends in a result or not. -/
def runAfter (s : Setup) (r : Resolver) (run : Run) (file : String) (src : SourceFile) : Run :=
  match s.visitNext r run file src with
  | .ok (_, after) => after
  | .error _ => run

/-- The next number is taken by a file that has a name and gets as far as its parser. -/
theorem runAfter_eq (s : Setup) (r : Resolver) (run : Run) (file : String) (src : SourceFile) :
    s.runAfter r run file src =
      run.numbered (if file ≠ "" ∧ s.reachesParser file src then run.nextOrdinal + 1 else run.nextOrdinal) := by
  unfold runAfter
  rw [visitNext_eq]
  unfold visit nextAfter reachesParser
  by_cases named : file = ""
  · simp [named, Except.map, Run.numbered]
  · cases prepares : Visit.prepare s.registry file src.text with
    | error e => simp [named, Except.map, Except.mapError, Run.numbered]
    | ok prepared => cases prepared <;> simp [named, Except.map, Except.mapError]

/-- A visit that creates elements gets as far as its parser. -/
theorem reachesParser_of_created (created : s.created r runId ordinal file src ≠ []) :
    file ≠ "" ∧ s.reachesParser file src = true := by
  unfold Setup.created at created
  split at created
  · cases created rfl
  · rename_i named
    split at created
    · rename_i p t prepares _
      exact ⟨named, by simp [reachesParser, prepares]⟩
    · cases created rfl

end Setup

/-! ## Visits that a run gives numbers to -/

/-- A visit of a file under a number. -/
structure FileVisit where
  setup : Setup
  resolver : Resolver
  ordinal : Nat
  file : String
  source : SourceFile

namespace FileVisit

/-- The outcome of a visit in a run. -/
def outcome (v : FileVisit) (runId : String) : Except AnalysisError FileResult :=
  v.setup.visit v.resolver runId v.ordinal v.file v.source

/-- The texts behind the ids of the elements that a visit creates in a run. -/
def idTexts (v : FileVisit) (runId : String) : List String :=
  v.setup.idTexts v.resolver runId v.ordinal v.file v.source

/-- Visits under different numbers have no text in common. -/
theorem disjoint_idTexts {v w : FileVisit} (apart : v.ordinal ≠ w.ordinal) (runId : String) :
    (v.idTexts runId).Disjoint (w.idTexts runId) := by
  intro text here there
  obtain ⟨c, -, rfl⟩ := List.mem_map.mp here
  obtain ⟨d, -, same⟩ := List.mem_map.mp there
  exact apart (Visit.idText_numbers same).1.symm

end FileVisit

/-- How visits use a run, from some moment on: `spare` are the numbers that were claimed and are not used yet, `visits` the
visits that were made. Results may be merged in between. -/
inductive Run.Uses (start : Run) : Run → (spare : List Nat) → (visits : List FileVisit) → Prop
  | start : Uses start start [] []
  /-- A number is claimed for a later visit. -/
  | claim {run : Run} {spare : List Nat} {visits : List FileVisit} (h : Uses start run spare visits) :
      Uses start run.claimOrdinal.2 (run.claimOrdinal.1 :: spare) visits
  /-- A file is visited under the next number, which it claims if it gets as far as its parser. -/
  | visitNext {run : Run} {spare : List Nat} {visits : List FileVisit} (h : Uses start run spare visits) (s : Setup)
      (r : Resolver) (file : String) (src : SourceFile) :
      Uses start (s.runAfter r run file src) spare (visits ++ [⟨s, r, run.nextOrdinal, file, src⟩])
  /-- A file is visited under a number that was claimed before. -/
  | visitClaimed {run : Run} {spare : List Nat} {visits : List FileVisit} (h : Uses start run spare visits) (v : FileVisit)
      (claimed : v.ordinal ∈ spare) : Uses start run (spare.erase v.ordinal) (visits ++ [v])
  /-- A result is merged. -/
  | merge {run : Run} {spare : List Nat} {visits : List FileVisit} (h : Uses start run spare visits) (result : FileResult) :
      Uses start (run.merge result) spare visits

/-- The numbers are different from each other and from all that come next. -/
structure AreFresh (next : Nat) (numbers : List Nat) : Prop where
  distinct : numbers.Nodup
  below : ∀ number ∈ numbers, number < next

namespace AreFresh

variable {next : Nat} {numbers numbers' : List Nat}

theorem subperm (h : AreFresh next numbers) (less : numbers'.Subperm numbers) : AreFresh next numbers' := by
  obtain ⟨same, perm, sublist⟩ := less
  refine ⟨perm.nodup_iff.mp (h.distinct.sublist sublist), fun number mem => ?_⟩
  exact h.below number (sublist.mem (perm.mem_iff.mpr mem))

/-- The next number is given out. -/
theorem give (h : AreFresh next numbers) : AreFresh (next + 1) (next :: numbers) := by
  refine ⟨List.nodup_cons.mpr ⟨fun mem => Nat.lt_irrefl _ (h.below next mem), h.distinct⟩, fun number mem => ?_⟩
  rcases List.mem_cons.mp mem with rfl | mem
  · exact Nat.lt_succ_self _
  · exact Nat.lt_succ_of_lt (h.below number mem)

theorem mono {next' : Nat} (h : AreFresh next numbers) (le : next ≤ next') : AreFresh next' numbers :=
  ⟨h.distinct, fun number mem => Nat.lt_of_lt_of_le (h.below number mem) le⟩

end AreFresh

namespace Run

@[simp] theorem merge_nextOrdinal (run : Run) (result : FileResult) : (run.merge result).nextOrdinal = run.nextOrdinal := by
  unfold merge
  split <;> rfl

/-- The numbers under which visits created elements. -/
def numbersOf (runId : String) (visits : List FileVisit) : List Nat :=
  (visits.filter fun v => !(v.idTexts runId).isEmpty).map (·.ordinal)

theorem numbersOf_append (runId : String) (visits more : List FileVisit) :
    numbersOf runId (visits ++ more) = numbersOf runId visits ++ numbersOf runId more := by
  simp [numbersOf]

/-- A visit creates elements, all under its number, or none. -/
theorem numbersOf_singleton (runId : String) (v : FileVisit) :
    v.idTexts runId ≠ [] ∧ numbersOf runId [v] = [v.ordinal] ∨ numbersOf runId [v] = [] := by
  by_cases none : v.idTexts runId = []
  · exact .inr (by simp [numbersOf, none])
  · exact .inl ⟨none, by simp [numbersOf, none]⟩

namespace Uses

variable {start run : Run} {spare : List Nat} {visits : List FileVisit}

/-- The numbers that are spare and those that were used are different from each other and from all that come next. -/
theorem fresh (h : Uses start run spare visits) :
    run.id = start.id ∧ AreFresh run.nextOrdinal (spare ++ numbersOf start.id visits) := by
  induction h with
  | start => exact ⟨rfl, List.nodup_nil, nofun⟩
  | claim _ ih => exact ⟨ih.1, ih.2.give⟩
  | @visitNext run spare visits _ s r file src ih =>
    obtain ⟨same, fresh⟩ := ih
    rw [Setup.runAfter_eq]
    refine ⟨same, ?_⟩
    rw [numbersOf_append, ← List.append_assoc]
    rcases numbersOf_singleton start.id ⟨s, r, run.nextOrdinal, file, src⟩ with ⟨some, used⟩ | unused
    · have reaches := Setup.reachesParser_of_created fun none => some (congrArg (List.map _) none)
      rw [if_pos reaches, used]
      exact fresh.give.subperm (List.perm_append_singleton _ _).subperm
    · -- a file may take a number and create nothing; a number that is not taken stays the next one
      rw [unused, List.append_nil]
      refine fresh.mono ?_
      split
      · exact Nat.le_succ _
      · exact Nat.le_refl _
  | @visitClaimed run spare visits _ v claimed ih =>
    obtain ⟨same, fresh⟩ := ih
    refine ⟨same, fresh.subperm ?_⟩
    rw [numbersOf_append, ← List.append_assoc]
    rcases numbersOf_singleton start.id v with ⟨-, used⟩ | unused
    · rw [used]
      have taken : (v.ordinal :: (spare.erase v.ordinal ++ numbersOf start.id visits)).Perm
          (spare ++ numbersOf start.id visits) := (List.perm_cons_erase claimed).symm.append_right _
      exact ((List.perm_append_singleton _ _).trans taken).subperm
    · rw [unused, List.append_nil]
      exact (List.erase_sublist.append_right _).subperm
  | merge _ result ih => simpa using ih

/-- No text is behind two elements that are created in a run. -/
theorem nodup_texts (h : Uses start run spare visits) : (visits.flatMap (·.idTexts start.id)).Nodup := by
  have numbers : (numbersOf start.id visits).Nodup := (List.nodup_append.mp h.fresh.2.distinct).2.1
  rw [numbersOf, List.nodup_iff_pairwise_ne, List.pairwise_map, List.pairwise_filter] at numbers
  refine List.nodup_flatMap.mpr ⟨fun v _ => v.setup.nodup_idTexts _ _ _ _ _, numbers.imp fun {v w} apart => ?_⟩
  intro text here there
  refine FileVisit.disjoint_idTexts (apart ?_ ?_) start.id here there
  · simpa using List.ne_nil_of_mem here
  · simpa using List.ne_nil_of_mem there

end Uses

end Run

/-- Whatever files are visited in a run, repeatedly or not, under numbers that were claimed before or under the next number,
with or without success: no two elements that are created have the same text behind their ids. The ids of the elements that
are found are the hashes of these texts. -/
theorem idTexts_distinct {start run : Run} {spare : List Nat} {visits : List FileVisit}
    (h : Run.Uses start run spare visits) :
    (visits.flatMap (·.idTexts start.id)).Nodup ∧
      ∀ v ∈ visits, ∀ result found, v.outcome start.id = .ok result → result.outcome = .ok found →
        found.elements.map (·.id) = (v.idTexts start.id).map Visit.idOfText :=
  ⟨h.nodup_texts, fun _ _ _ _ visited ok => Setup.ids_visit visited ok⟩

namespace Sample

/-- Visits of the small repository: the importing file under a number that was claimed before, the class, a file that no
parser reads, a file that its parser gives no tree for, and the class again. -/
theorem uses : ∃ run spare visits, Run.Uses (.new "run") run spare visits ∧
    visits.map (fun v => (v.file, v.ordinal, (v.idTexts "run").length)) =
      [("b.py", 0, 1), ("a.py", 1, 2), ("README", 2, 0), ("b.py", 2, 0), ("a.py", 3, 2)] := by
  let r := setup.resolver setup.known
  have unused : Run.Uses (.new "run") (.new "run") [] [] := .start
  have claimed := unused.claim.visitClaimed ⟨setup, r, 0, "b.py", importFile⟩ List.mem_cons_self
  have failing := ((claimed.visitNext setup r "a.py" classFile).visitNext setup r "README" ⟨"", none⟩).visitNext setup r
    "b.py" ⟨"", none⟩
  refine ⟨_, _, _, failing.visitNext setup r "a.py" classFile, ?_⟩
  decide +kernel

end Sample

/-- The five elements that are created in the small repository have different texts behind their ids. -/
theorem sample_idTexts_distinct : ∃ run spare visits, Run.Uses (.new "run") run spare visits ∧
    visits.map (fun v => (v.idTexts "run").length) = [1, 2, 0, 0, 2] ∧ (visits.flatMap (·.idTexts "run")).Nodup := by
  obtain ⟨run, spare, visits, uses, counts⟩ := Sample.uses
  have lengths := congrArg (List.map (·.2.2)) counts
  rw [List.map_map] at lengths
  exact ⟨run, spare, visits, uses, lengths, (idTexts_distinct uses).1⟩

/-! ## The visits of an analyzer -/

namespace Run.Uses

variable {start run run' : Run} {spare : List Nat} {visits : List FileVisit}

/-- Numbers are claimed in bulk. -/
theorem claimMany (h : Uses start run spare visits) : ∀ count, Uses start (run.numbered (run.nextOrdinal + count))
    ((List.range' run.nextOrdinal count).reverse ++ spare) visits
  | 0 => h
  | count + 1 => by
    rw [List.range'_1_concat, List.reverse_append, List.append_assoc]
    exact (h.claimMany count).claim

/-- Claimed numbers are used in whatever order. -/
theorem visitMany {more : List FileVisit} (h : Uses start run spare visits)
    (claimed : (more.map (·.ordinal)).Subperm spare) :
    Uses start run (spare.diff (more.map (·.ordinal))) (visits ++ more) := by
  induction more generalizing spare visits with
  | nil => simpa using h
  | cons v more ih =>
    rw [List.map_cons] at claimed ⊢
    have rest := claimed.erase v.ordinal
    rw [List.erase_cons_head] at rest
    have visited := ih (h.visitClaimed v (claimed.subset List.mem_cons_self)) rest
    rwa [List.append_assoc, List.singleton_append, ← List.diff_cons] at visited

theorem mergeAll (h : Uses start run spare visits) (results : List FileResult) :
    Uses start (results.foldl Run.merge run) spare visits := by
  induction results generalizing run with
  | nil => exact h
  | cons result results ih => exact ih (h.merge result)

variable {s : Setup} {r : Resolver} {files : Table String SourceFile} {deadline : Deadline} {order : List String}
  {results : List FileResult}

/-- Visits one after another take the next number whenever they need one. -/
theorem visitInTurn {k : Nat} (h : Uses start run spare visits)
    (visited : s.visitInTurn r files deadline k run order = .ok (results, run')) :
    ∃ more, more.map (·.outcome run.id) = results.map .ok ∧ Uses start run' spare (visits ++ more) := by
  induction order generalizing k run visits results with
  | nil =>
    obtain ⟨rfl, rfl⟩ := Prod.mk.inj (Except.ok.inj visited)
    exact ⟨[], rfl, by simpa using h⟩
  | cons file order ih =>
    obtain ⟨-, -, visited⟩ := Except.bind_eq_ok_iff.mp visited
    obtain ⟨⟨result, run₁⟩, next, visited⟩ := Except.bind_eq_ok_iff.mp visited
    obtain ⟨⟨results, run₂⟩, rest, visited⟩ := Except.bind_eq_ok_iff.mp visited
    obtain ⟨rfl, rfl⟩ := Prod.mk.inj (Except.ok.inj visited)
    have first := h.visitNext s r file (sourceIn files file)
    rw [Setup.runAfter, sourceIn, next] at first
    rw [Setup.visitNext_eq] at next
    obtain ⟨_, visit, next⟩ := Except.map_eq_ok_iff.mp next
    obtain ⟨rfl, rfl⟩ := Prod.mk.inj next
    obtain ⟨more, outcomes, uses⟩ := ih first rest
    refine ⟨⟨s, r, run.nextOrdinal, file, sourceIn files file⟩ :: more, ?_, ?_⟩
    · rw [List.map_cons, List.map_cons, ← outcomes, ← visit]
      rfl
    · rwa [List.append_assoc] at uses

end Run.Uses

namespace Setup

variable {s : Setup} {r : Resolver} {files : Table String SourceFile} {deadline : Deadline} {run run' : Run}
  {order : List String} {results : List FileResult}

/-- The visits of files under the numbers that were claimed for them. -/
def numberedVisits (s : Setup) (r : Resolver) (files : Table String SourceFile) (run : Run) (order taken : List String) :
    List FileVisit :=
  taken.map fun file => ⟨s, r, ((ordinals run order).get? file).getD 0, file, sourceIn files file⟩

/-- Files that are listed once are numbered in their order. -/
theorem map_ordinals (run : Run) (distinct : order.Nodup) :
    order.map (fun file => ((ordinals run order).get? file).getD 0) = List.range' run.nextOrdinal order.length := by
  have lengths : order.length = (List.range' run.nextOrdinal order.length).length := List.length_range'.symm
  have keys : (order.zip (List.range' run.nextOrdinal order.length)).map Prod.fst = order :=
    List.map_fst_zip (Nat.le_of_eq lengths)
  have entries : (ordinals run order).entries = order.zip (List.range' run.nextOrdinal order.length) :=
    Table.entries_ofList (by rwa [keys])
  have found := congrArg (List.map (·.getD 0)) (ordinals run order).map_get?_keys
  rw [Table.keys, Table.values, entries, keys, List.map_snd_zip (Nat.le_of_eq lengths.symm)] at found
  simpa [Function.comp_def] using found

end Setup

namespace Run.Uses

variable {start run run' : Run} {spare : List Nat} {visits : List FileVisit} {s : Setup} {r : Resolver}
  {files : Table String SourceFile} {deadline : Deadline} {order : List String} {results : List FileResult}

/-- Workers claim a number for every file, and use the numbers in whatever order they take up the files. -/
theorem visitNumbered {taken : List String} (h : Uses start run spare visits) (s : Setup) (r : Resolver)
    (files : Table String SourceFile) (distinct : order.Nodup) (perm : taken.Perm order) :
    ∃ spare', Uses start (run.numbered (run.nextOrdinal + order.length)) spare'
      (visits ++ s.numberedVisits r files run order taken) := by
  refine ⟨_, (h.claimMany order.length).visitMany ?_⟩
  rw [Setup.numberedVisits, List.map_map]
  have numbers := (perm.map fun file => ((Setup.ordinals run order).get? file).getD 0).trans
    (.of_eq (Setup.map_ordinals run distinct))
  exact (numbers.trans (List.reverse_perm _).symm).subperm.trans (List.sublist_append_left _ _).subperm

/-- Workers that come to their end use the numbers of all files. -/
theorem visitByWorkers (h : Uses start run spare visits) (distinct : order.Nodup)
    (visited : s.visitByWorkers r files deadline run order = .ok (results, run')) :
    ∃ more spare', more.map (·.outcome run.id) = results.map .ok ∧ Uses start run' spare' (visits ++ more) := by
  -- the outcome of a file does not depend on when it was taken up, so the visits are listed in file order
  obtain ⟨spare', uses⟩ := h.visitNumbered s r files distinct (.refl order)
  unfold Setup.visitByWorkers at visited
  split at visited
  · cases visited
  · obtain ⟨_, collected, visited⟩ := Except.bind_eq_ok_iff.mp visited
    obtain ⟨rfl, rfl⟩ := Prod.mk.inj (Except.ok.inj visited)
    refine ⟨_, spare', ?_, uses⟩
    rw [Setup.numberedVisits, List.map_map]
    refine List.forall₂_eq_eq_eq ▸ List.forall₂_map_left_iff.mpr (List.forall₂_map_right_iff.mpr ?_)
    refine (Except.mapM_eq_ok_iff.mp collected).imp fun file result found => ?_
    rw [Setup.get?_visitScheduled] at found
    split at found
    · exact found
    · cases found

/-- However the files of a run are visited, each is visited under a number that was given out for it. -/
theorem visitAll (h : Uses start run spare visits) (distinct : order.Nodup)
    (visited : s.visitAll r files deadline run order = .ok (results, run')) :
    ∃ more spare', more.map (·.outcome run.id) = results.map .ok ∧ Uses start run' spare' (visits ++ more) := by
  unfold Setup.visitAll at visited
  split at visited
  · exact h.visitByWorkers distinct visited
  · obtain ⟨more, outcomes, uses⟩ := h.visitInTurn visited
    exact ⟨more, spare, outcomes, uses⟩

end Run.Uses

namespace Run

/-- The ids in a run are hashes of texts, and these are texts of visits that used it. -/
def HasTexts (run : Run) : Prop :=
  ∃ spare visits, ∃ texts : List String, Uses (.new run.id) run spare visits ∧
    texts.Sublist (visits.flatMap (·.idTexts run.id)) ∧ run.elements.map (·.id) = texts.map Visit.idOfText

theorem HasTexts.new (runId : String) : (new runId).HasTexts := ⟨[], [], [], .start, .slnil, rfl⟩

/-- Merging the results of visits adds texts of these visits. -/
theorem texts_mergeAll {runId : String} {more : List FileVisit} {results : List FileResult} (run : Run)
    (visited : more.map (·.outcome runId) = results.map .ok) :
    ∃ texts : List String, texts.Sublist (more.flatMap (·.idTexts runId)) ∧
      (results.foldl merge run).elements.map (·.id) = run.elements.map (·.id) ++ texts.map Visit.idOfText := by
  induction more generalizing results run with
  | nil =>
    obtain rfl := List.map_eq_nil_iff.mp visited.symm
    exact ⟨[], .slnil, by simp⟩
  | cons v more ih =>
    obtain ⟨result, results, rfl, visit, rest⟩ := List.map_eq_cons_iff.mp visited.symm
    obtain ⟨texts, sublist, ids⟩ := ih (run.merge result) rest.symm
    rw [List.flatMap_cons, List.foldl_cons, ids]
    cases outcome : result.outcome with
    | error e =>
      refine ⟨texts, sublist.trans (List.sublist_append_right _ _), ?_⟩
      rw [merge, outcome]
    | ok found =>
      refine ⟨v.idTexts runId ++ texts, sublist.append_left _, ?_⟩
      rw [merge, outcome, List.map_append, Setup.ids_visit visit.symm outcome, List.map_append, List.append_assoc]
      rfl

/-- A run that more visits have used has their texts as well when their results are merged. -/
theorem HasTexts.mergeAll {run : Run} {next : Nat} {spare : List Nat} {visits more : List FileVisit} {texts : List String}
    {results : List FileResult} (uses : Uses (.new run.id) (run.numbered next) spare (visits ++ more))
    (sublist : texts.Sublist (visits.flatMap (·.idTexts run.id))) (ids : run.elements.map (·.id) = texts.map Visit.idOfText)
    (outcomes : more.map (·.outcome run.id) = results.map .ok) : (results.foldl merge (run.numbered next)).HasTexts := by
  have same : (results.foldl merge (run.numbered next)).id = run.id := (uses.mergeAll results).fresh.1
  obtain ⟨added, fit, merged⟩ := texts_mergeAll (run.numbered next) outcomes
  refine ⟨spare, visits ++ more, texts ++ added, ?_, ?_, ?_⟩
  · rw [same]
    exact uses.mergeAll results
  · rw [same, List.flatMap_append]
    exact sublist.append fit
  · rw [merged, List.map_append, ← ids]
    rfl

end Run

namespace Analyzer

/-- The files of a completed run have used it. -/
theorem completeRun_hasTexts {a : Analyzer} {runId : String} {files : Table String SourceFile} {deadline : Deadline}
    {run : Run} {dependencies : DependencyMap} {order : List String}
    (h : a.completeRun runId files deadline = .ok (run, dependencies, order)) : run.HasTexts := by
  obtain ⟨-, rfl, results, run', visited, rfl⟩ := completeRun_ok h
  obtain ⟨-, next, rfl⟩ := Setup.visitAll_ok visited
  obtain ⟨more, spare, outcomes, uses⟩ := Run.Uses.start.visitAll dependencies.nodup_order visited
  exact .mergeAll uses .slnil rfl outcomes

/-- A file that is analyzed alone uses the next number, if any. -/
theorem analyze_hasTexts {a : Analyzer} (h : a.run.HasTexts) (file : String) (src : SourceFile) :
    (a.analyze file src).1.run.HasTexts := by
  obtain ⟨spare, visits, texts, uses, sublist, ids⟩ := h
  have step : ∀ result, a.setup.visit (a.setup.resolver a.setup.known) a.run.id a.run.nextOrdinal file src = .ok result →
      ((a.run.numbered (a.setup.nextAfter a.run.nextOrdinal file src)).merge result).HasTexts := by
    intro result visited
    let v : FileVisit := ⟨a.setup, a.setup.resolver a.setup.known, a.run.nextOrdinal, file, src⟩
    have next := uses.visitNext v.setup v.resolver file src
    rw [Setup.runAfter, Setup.visitNext_eq, visited] at next
    have outcomes : [v].map (·.outcome a.run.id) = [result].map .ok := congrArg (fun outcome => [outcome]) visited
    have merged := Run.HasTexts.mergeAll next sublist ids outcomes
    exact merged
  have analyzes := a.analyze_analyzes file src
  generalize a.analyze file src = outcome at *
  cases analyzes with
  | nothing => exact ⟨spare, visits, texts, uses, sublist, ids⟩
  | merged visited | listed visited => exact step _ visited

/-- After every history, the elements of the run have ids that are hashes of different texts. -/
theorem afterAll_texts {setup : Setup} {runId : String} {a : Analyzer} (fresh : Analyzer.new setup runId = .ok a)
    (requests : List Request) : ∃ texts : List String, texts.Nodup ∧
      (a.afterAll requests).run.elements.map (·.id) = texts.map Visit.idOfText := by
  have start : a.run.HasTexts := by
    rw [eq_of_new fresh]
    exact .new runId
  have texts : (a.afterAll requests).run.HasTexts := by
    refine afterAll_keep (P := fun b => b.run.HasTexts) (fun request _ b h => ?_) start
    cases request with
    | analyze file src => exact analyze_hasTexts h file src
    | analyzeRepository runId files deadline =>
      rw [after, analyzeRepository]
      split
      · exact h
      · rename_i completed
        exact completeRun_hasTexts completed
    | reset runId => exact .new runId
    | graph | search | relationsOf | dependenciesOf => exact h
  obtain ⟨spare, visits, texts, uses, sublist, ids⟩ := texts
  exact ⟨texts, uses.nodup_texts.sublist sublist, ids⟩

end Analyzer

end CodeAtlas
