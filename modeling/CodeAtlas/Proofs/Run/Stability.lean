import CodeAtlas.Proofs.Run.Merging
import CodeAtlas.Proofs.Run.Resolution

/-!
# How targets depend on what is merged

A look-up in a file reads the elements of that file and nothing else (`Index.inFile_congr`), and further elements cannot
displace what a look-up found before (`Index.inFile_append`, `Index.anywhere_append`).

So a reference keeps a target when one more file is merged (`merge_keeps_resolved`). The target is another one only if the
reference names that file, through its own module path or through what an import binds its name to (`Names`), and then it
stands in that file. The same holds after many files (`mergeAll_keeps_resolved`).

And the order of merging only matters to references that nothing but a search of all files resolves (`mergeAll_perm`).
-/

namespace CodeAtlas.Run

variable {es fs : List Element} {kind : RelationKind} {file : String}

/-! ## What a look-up reads -/

/-- A look-up in a file reads the elements of that file, in their order. -/
theorem Index.inFile_congr (same : es.filter (·.file = file) = fs.filter (·.file = file)) (name : String) :
    (Index.of es).inFile kind file name = (Index.of fs).inFile kind file name := by
  have reads (es : List Element) : (Index.of es).inFile kind file name =
      (es.filter (·.file = file)).find? fun e => isNameable e && (e.name = name && Run.eligible kind e.kind) := by
    rw [Index.inFile_of, List.find?_filter]
    congr 1
    funext e
    by_cases there : e.file = file <;> simp [there]
  rw [reads, reads, same]

/-- Further elements are found after those that were there. -/
theorem Index.inFile_append (name : String) :
    (Index.of (es ++ fs)).inFile kind file name =
      ((Index.of es).inFile kind file name).or ((Index.of fs).inFile kind file name) := by
  simp only [Index.inFile_of, List.find?_append]

/-- Further elements are found after those that were there. -/
theorem Index.anywhere_append (name : String) :
    (Index.of (es ++ fs)).anywhere kind name =
      ((Index.of es).anywhere kind name).or ((Index.of fs).anywhere kind name) := by
  simp only [Index.anywhere_of, List.find?_append]

/-- Whether a search of all files finds something does not depend on their order. -/
theorem Index.isSome_anywhere_perm (perm : es.Perm fs) (name : String) :
    ((Index.of es).anywhere kind name).isSome = ((Index.of fs).anywhere kind name).isSome := by
  rw [Index.anywhere_of, Index.anywhere_of, Bool.eq_iff_iff, List.find?_isSome, List.find?_isSome]
  exact exists_congr fun e => and_congr_left' perm.mem_iff

/-- What the indexes find for a reference before all files are searched: in the file it was imported from, in its own file
and in the file that an import binds its name to. -/
def nearby (r : Run) (x : Index) (ref : Reference) : Option Element :=
  ((present ref.modulePath).bind fun file => x.inFile ref.kind file (importedName ref))
    |>.or (x.inFile ref.kind ref.file ref.targetName)
    |>.or ((r.bindingOf ref).bind fun b =>
      (present b.modulePath).bind fun file => x.inFile ref.kind file b.importedName)

/-- All files are searched at last. -/
theorem target_eq_or (r : Run) (x : Index) (ref : Reference) :
    r.target x ref = (r.nearby x ref).or (x.anywhere ref.kind ref.targetName) := rfl

/-! ## One more file -/

/-- A reference names a file: by its module path, or by that of what an import of its file binds its name to. -/
def Names (r : Run) (ref : Reference) (file : String) : Prop :=
  ref.modulePath = some file ∨ ∃ b, r.bindingOf ref = some b ∧ b.modulePath = some file

/-- A later answer is the earlier one, or one of some new elements, which takes a reason. -/
def KeptUnless (reason : Prop) (new : List Element) (before after : Option Element) : Prop :=
  after = before ∨ reason ∧ ∃ e ∈ new, after = some e

namespace KeptUnless

variable {reason reason' : Prop} {new : List Element} {before after before' after' : Option Element}

theorem imp (h : KeptUnless reason new before after) (weaker : reason → reason') : KeptUnless reason' new before after :=
  Or.imp_right (And.imp_left weaker) h

/-- Looking further where nothing was found keeps the answers alike. -/
theorem or (first : KeptUnless reason new before after) (second : KeptUnless reason new before' after') :
    KeptUnless reason new (before.or before') (after.or after') := by
  obtain rfl | ⟨why, e, mem, rfl⟩ := first
  · cases after with
    | none => exact second
    | some e => exact Or.inl rfl
  · exact Or.inr ⟨why, e, mem, rfl⟩

end KeptUnless

section Merge

variable {new : List Element} (own : ∀ e ∈ new, e.file = file)
include own

/-- Elements of one file are all in a file or none of them is. -/
theorem filter_file (other : String) : new.filter (·.file = other) = if file = other then new else [] := by
  split
  · rename_i there
    exact List.filter_eq_self.mpr fun e mem => by simpa [own e mem] using there
  · rename_i there
    exact List.filter_eq_nil_iff.mpr fun e mem => by simpa [own e mem] using there

/-- A look-up in another file finds what it found. -/
theorem Index.inFile_append_of_ne {other : String} (ne : other ≠ file) (name : String) :
    (Index.of (es ++ new)).inFile kind other name = (Index.of es).inFile kind other name := by
  apply Index.inFile_congr
  rw [List.filter_append, filter_file own, if_neg ne.symm, List.append_nil]

/-- A look-up finds what it found, or a new element if it is in the file of the new elements. -/
theorem Index.inFile_keptUnless (other name : String) :
    KeptUnless (other = file) new ((Index.of es).inFile kind other name) ((Index.of (es ++ new)).inFile kind other name) := by
  by_cases there : other = file
  · rw [Index.inFile_append]
    cases (Index.of es).inFile kind other name with
    | some e => exact Or.inl rfl
    | none =>
      cases found : (Index.of new).inFile kind other name with
      | none => exact Or.inl rfl
      | some e => exact Or.inr ⟨there, e, (Index.inFile_target found).known, rfl⟩
  · exact Or.inl (Index.inFile_append_of_ne own there name)

/-- The same for a path that may be missing. -/
theorem Index.inPresent_keptUnless (path : Option String) (name : String) :
    KeptUnless (path = some file) new
      ((present path).bind fun other => (Index.of es).inFile kind other name)
      ((present path).bind fun other => (Index.of (es ++ new)).inFile kind other name) := by
  cases given : present path with
  | none => exact Or.inl rfl
  | some other =>
    have path_eq : path = some other := (Option.filter_eq_some_iff.mp given).1
    exact (Index.inFile_keptUnless own other name).imp fun there => by rw [path_eq, there]

/-- What is found nearby is kept unless the reference names the file of the new elements. -/
theorem nearby_keptUnless (r : Run) {ref : Reference} (elsewhere : ref.file ≠ file) :
    KeptUnless (r.Names ref file) new (r.nearby (Index.of es) ref) (r.nearby (Index.of (es ++ new)) ref) := by
  refine KeptUnless.or (KeptUnless.or ?imported ?own) ?bound
  case imported => exact (Index.inPresent_keptUnless own _ _).imp Or.inl
  case own => exact Or.inl (Index.inFile_append_of_ne own elsewhere _)
  case bound =>
    cases binding : r.bindingOf ref with
    | none => exact Or.inl rfl
    | some b => exact (Index.inPresent_keptUnless own _ _).imp fun there => Or.inr ⟨b, binding, there⟩

/-- A target is kept unless the reference names the file of the new elements and is found there. -/
theorem target_append (r : Run) {ref : Reference} (elsewhere : ref.file ≠ file) {e : Element}
    (resolved : r.target (Index.of es) ref = some e) :
    ∃ e', r.target (Index.of (es ++ new)) ref = some e' ∧ (e' = e ∨ r.Names ref file ∧ e' ∈ new) := by
  rw [target_eq_or] at resolved ⊢
  obtain kept | ⟨names, e', mem, found⟩ := nearby_keptUnless own r elsewhere
  · refine ⟨e, ?_, Or.inl rfl⟩
    rw [kept, Index.anywhere_append, ← Option.or_assoc, resolved, Option.some_or]
  · exact ⟨e', by rw [found, Option.some_or], Or.inr ⟨names, mem⟩⟩

end Merge

/-- What the imports of another file bind is not changed. -/
theorem bindingOf_merge (run : Run) (result : FileResult) {ref : Reference} (elsewhere : ref.file ≠ result.file) :
    (run.merge result).bindingOf ref = run.bindingOf ref := by
  cases succeeded : result.succeeded with
  | true => simp only [merge_of_succeeded run succeeded, bindingOf, Table.get?_put, if_neg elsewhere.symm]
  | false =>
    obtain ⟨reason, merged⟩ := merge_of_failed run succeeded
    rw [merged]
    rfl

/-- The rest of a run plays no part in resolving a reference. -/
theorem target_congr {r s : Run} {ref : Reference} (binding : r.bindingOf ref = s.bindingOf ref) (x : Index) :
    r.target x ref = s.target x ref := by
  unfold target
  rw [binding]

/-- A reference of another file keeps its target unless it names the merged file and is found there. -/
theorem target_merge (run : Run) {result : FileResult} (own : ∀ e ∈ result.findings.elements, e.file = result.file)
    {ref : Reference} (elsewhere : ref.file ≠ result.file) {e : Element}
    (resolved : run.target (Index.of run.elements) ref = some e) :
    ∃ e', (run.merge result).target (Index.of (run.merge result).elements) ref = some e' ∧
      (e' = e ∨ run.Names ref result.file ∧ e' ∈ result.findings.elements) := by
  rw [target_congr (bindingOf_merge run result elsewhere), (merge_lists run result).2.1]
  cases result.succeeded with
  | true => exact target_append own run elsewhere resolved
  | false => exact ⟨e, by simpa using resolved, Or.inl rfl⟩

/-- Merging one more file loses no target of the references that were there. A target is only replaced if the reference
names the file, and then by an element of that file. -/
theorem merge_keeps_resolved {run : Run} {result : FileResult}
    (own : ∀ e ∈ result.findings.elements, e.file = result.file) (new : ∀ ref ∈ run.references, ref.file ≠ result.file)
    {ref : Reference} (known : ref ∈ run.references) {e : Element}
    (resolved : run.target (Index.of run.elements) ref = some e) :
    ∃ e', (run.merge result).target (Index.of (run.merge result).elements) ref = some e' ∧
      (e' = e ∨ run.Names ref result.file ∧ e' ∈ result.findings.elements) :=
  target_merge run own (new ref known) resolved

/-- The function `parse` of a file. -/
def sampleParse (file : String) : Element :=
  ⟨file ++ ":parse", "parse", .functionDef, file, ⟨1, 0, 1, 19⟩, "function parse() {}"⟩

/-- A file with a function `parse`. -/
def sampleFile (file : String) : FileResult := ⟨file, .ok ⟨[sampleParse file], [], [], .empty⟩⟩

/-- A call of `parse` in a file, imported from another file. -/
def sampleCall (source : Option String) : Reference := ⟨"main.ts:run", "parse", .calls, "main.ts", source, none⟩

/-- A file that calls `parse` twice: as what it imports from a file, and as what any file may declare. -/
def sampleCaller : FileResult := ⟨"main.ts", .ok ⟨[], [], [sampleCall (some "b.ts"), sampleCall none], .empty⟩⟩

theorem sample_moved :
    let run := [sampleFile "a.ts", sampleCaller].foldl merge (.new "run")
    let merged := run.merge (sampleFile "b.ts")
    run.target (Index.of run.elements) (sampleCall (some "b.ts")) = some (sampleParse "a.ts") ∧
      merged.target (Index.of merged.elements) (sampleCall (some "b.ts")) = some (sampleParse "b.ts") ∧
        run.Names (sampleCall (some "b.ts")) "b.ts" := by
  intro run merged
  have before : run.target (Index.of run.elements) (sampleCall (some "b.ts")) = some (sampleParse "a.ts") := by decide
  have after : merged.target (Index.of merged.elements) (sampleCall (some "b.ts")) = some (sampleParse "b.ts") := by decide
  have own : ∀ e ∈ (sampleFile "b.ts").findings.elements, e.file = (sampleFile "b.ts").file := by decide
  have new : ∀ ref ∈ run.references, ref.file ≠ (sampleFile "b.ts").file := by decide
  have known : sampleCall (some "b.ts") ∈ run.references := by decide
  obtain ⟨e', found, kept⟩ := merge_keeps_resolved own new known before
  obtain rfl : sampleParse "b.ts" = e' := Option.some_inj.mp (after.symm.trans found)
  exact ⟨before, after, (kept.resolve_left (by decide)).1⟩

/-- After many files a reference still has a target: the one it had, or an element of one of the files that it names. -/
theorem mergeAll_keeps_resolved {results : List FileResult}
    (own : ∀ result ∈ results, ∀ e ∈ result.findings.elements, e.file = result.file) {ref : Reference}
    (elsewhere : ref.file ∉ results.map (·.file)) (run : Run) {e : Element}
    (resolved : run.target (Index.of run.elements) ref = some e) :
    ∃ e', (results.foldl merge run).target (Index.of (results.foldl merge run).elements) ref = some e' ∧
      (e' = e ∨ ∃ result ∈ results, run.Names ref result.file ∧ e' ∈ result.findings.elements) := by
  induction results generalizing run e with
  | nil => exact ⟨e, resolved, Or.inl rfl⟩
  | cons result results ih =>
    rw [List.map_cons, List.mem_cons, not_or] at elsewhere
    obtain ⟨own, own'⟩ := List.forall_mem_cons.mp own
    obtain ⟨e₁, resolved₁, step⟩ := target_merge run own elsewhere.1 resolved
    obtain ⟨e', resolved', steps⟩ := ih own' elsewhere.2 (run.merge result) resolved₁
    refine ⟨e', resolved', ?_⟩
    obtain rfl | ⟨later, mem, names, there⟩ := steps
    · exact step.imp_right fun h => ⟨result, List.mem_cons_self, h⟩
    · -- what names a file is read off the bindings, which are those of the start
      unfold Names at names
      rw [bindingOf_merge run result elsewhere.1] at names
      exact Or.inr ⟨later, List.mem_cons_of_mem _ mem, names, there⟩

/-! ## The order of merging -/

/-- Where keys are distinct there is nothing to reorder among the members of one key. -/
theorem filter_key_perm {α κ : Type} [DecidableEq κ] {key : α → κ} {xs ys : List α} (distinct : (xs.map key).Nodup)
    (perm : xs.Perm ys) (k : κ) : xs.filter (key · = k) = ys.filter (key · = k) := by
  have apart : xs.Pairwise (key · ≠ key ·) := List.pairwise_map.mp distinct
  have apart' : ys.Pairwise (key · ≠ key ·) := List.pairwise_map.mp ((perm.map key).nodup_iff.mp distinct)
  refine (perm.filter _).eq_of_pairwise (fun a b ha hb ne _ => absurd ?_ ne) (apart.filter _) (apart'.filter _)
  have ka : key a = k := by simpa using List.of_mem_filter ha
  have kb : key b = k := by simpa using List.of_mem_filter hb
  rw [ka, kb]

/-- The elements of a file are those of the results of that file. -/
theorem filter_flatMap_elements {results : List FileResult}
    (own : ∀ result ∈ results, ∀ e ∈ result.findings.elements, e.file = result.file) (file : String) :
    (results.flatMap (·.findings.elements)).filter (·.file = file) =
      (results.filter (·.file = file)).flatMap (·.findings.elements) := by
  induction results with
  | nil => rfl
  | cons result results ih =>
    obtain ⟨own, own'⟩ := List.forall_mem_cons.mp own
    rw [List.flatMap_cons, List.filter_append, ih own', filter_file own, List.filter_cons]
    by_cases there : result.file = file <;> simp [there]

/-- Two runs resolve the same references, and they agree on those for which not all files have to be searched. -/
structure ResolveAlike (r s : Run) : Prop where
  references : r.references.Perm s.references
  resolved : ∀ ref, (r.target (Index.of r.elements) ref).isSome = (s.target (Index.of s.elements) ref).isSome
  nearby : ∀ ref e, r.nearby (Index.of r.elements) ref = some e ∨ s.nearby (Index.of s.elements) ref = some e →
    r.target (Index.of r.elements) ref = some e ∧ s.target (Index.of s.elements) ref = some e

/-- Runs resolve alike that have the same elements in every file, in one order, and the same bindings. -/
theorem ResolveAlike.of_files {r s : Run} (references : r.references.Perm s.references)
    (perm : r.elements.Perm s.elements)
    (elements : ∀ file, r.elements.filter (·.file = file) = s.elements.filter (·.file = file))
    (bindings : ∀ file, r.bindings.get? file = s.bindings.get? file) : ResolveAlike r s := by
  have nearby (ref : Reference) : r.nearby (Index.of r.elements) ref = s.nearby (Index.of s.elements) ref := by
    have binding : r.bindingOf ref = s.bindingOf ref := by rw [bindingOf, bindingOf, bindings]
    simp only [Run.nearby, binding, Index.inFile_congr (elements _)]
  refine ⟨references, fun ref => ?_, fun ref e h => ?_⟩
  · rw [target_eq_or, target_eq_or, nearby, Option.isSome_or, Option.isSome_or, Index.isSome_anywhere_perm perm]
  · rw [nearby, or_self] at h
    rw [target_eq_or, target_eq_or, nearby, h]
    exact ⟨rfl, rfl⟩

/-- The elements of a file after merging are those of its successful results. -/
theorem filter_mergeAll_elements {results : List FileResult}
    (own : ∀ result ∈ results, ∀ e ∈ result.findings.elements, e.file = result.file) (id file : String) :
    (results.foldl merge (.new id)).elements.filter (·.file = file) =
      ((results.filter (·.succeeded)).filter (·.file = file)).flatMap (·.findings.elements) := by
  rw [mergeAll_elements]
  exact filter_flatMap_elements (fun result mem => own result (List.mem_of_mem_filter mem)) file

/-- The order in which files are merged only matters to references that are looked for in all files. -/
theorem mergeAll_perm {results results' : List FileResult} (distinct : (results.map (·.file)).Nodup)
    (own : ∀ result ∈ results, ∀ e ∈ result.findings.elements, e.file = result.file) (perm : results.Perm results')
    (id id' : String) : ResolveAlike (results.foldl merge (.new id)) (results'.foldl merge (.new id')) := by
  have succeeded : (results.filter (·.succeeded)).Perm (results'.filter (·.succeeded)) := perm.filter _
  have of_file := filter_key_perm (distinct.sublist (List.filter_sublist.map _)) succeeded
  refine .of_files ?references ?perm (fun file => ?elements) fun file => ?bindings
  case references =>
    rw [mergeAll_references, mergeAll_references]
    exact succeeded.flatMap_right _
  case perm =>
    rw [mergeAll_elements, mergeAll_elements]
    exact succeeded.flatMap_right _
  case elements =>
    have own' : ∀ result ∈ results', ∀ e ∈ result.findings.elements, e.file = result.file :=
      fun result mem => own result (perm.mem_iff.mpr mem)
    rw [filter_mergeAll_elements own, filter_mergeAll_elements own', of_file]
  case bindings =>
    rw [mergeAll_bindings, mergeAll_bindings, of_file]
    rfl

theorem sample_perm :
    let run := [sampleFile "a.ts", sampleFile "b.ts", sampleCaller].foldl merge (.new "run")
    let run' := [sampleFile "b.ts", sampleFile "a.ts", sampleCaller].foldl merge (.new "run")
    run'.target (Index.of run'.elements) (sampleCall (some "b.ts")) = some (sampleParse "b.ts") ∧
      run.target (Index.of run.elements) (sampleCall none) = some (sampleParse "a.ts") ∧
        run'.target (Index.of run'.elements) (sampleCall none) = some (sampleParse "b.ts") := by
  intro run run'
  have alike : ResolveAlike run run' := mergeAll_perm (by decide) (by decide) (.swap _ _ _) "run" "run"
  have near : run.nearby (Index.of run.elements) (sampleCall (some "b.ts")) = some (sampleParse "b.ts") := by decide
  exact ⟨(alike.nearby _ _ (Or.inl near)).2, by decide, by decide⟩

end CodeAtlas.Run
