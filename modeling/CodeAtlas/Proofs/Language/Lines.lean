import CodeAtlas.Proofs.Language.Finding
import CodeAtlas.Proofs.Outcome
import CodeAtlas.Proofs.Text.Split

/-!
# Imports written on lines

Statements are written one below the other, and each is read by one pattern of a language (`ImportStyle`). If every pattern
finds the imports of the statements that it reads and passes the other ones (`ImportStyle.IsReadBy`), then a text of
statements has the imports of the statements, in their order (`ImportStyle.findImports_textOf`), however the patterns divide
the statements among them.
-/

namespace CodeAtlas

open Imports

/-- How statements are written: their text, the kind of pattern that reads them, and the imports that they stand for, from the
place on where they start. -/
structure ImportStyle (σ ι : Type) where
  text : σ → List Char
  kind : σ → ι
  imports : Nat → σ → List FoundImport

namespace ImportStyle

variable {σ ι : Type} {style : ImportStyle σ ι}

/-- Statements one below the other, with a number of empty lines below them. -/
def textOf (style : ImportStyle σ ι) (statements : List σ) (empty : Nat) : List Char :=
  Text.joinWith '\n' (statements.map style.text ++ List.replicate empty [])

/-- The imports of statements one below the other, statement by statement, each with its kind. -/
def blocksFrom (style : ImportStyle σ ι) : Nat → List σ → List (ι × List FoundImport)
  | _, [] => []
  | position, st :: later =>
    (style.kind st, style.imports position st) :: style.blocksFrom (position + (style.text st).length + 1) later

/-- The statement ends where its line does. -/
def EndsLine (rest : List Char) : Prop := rest.head?.all (· = '\n') = true

theorem EndsLine.eq_newline {rest : List Char} (ends : EndsLine rest) {c : Char} (first : rest.head? = some c) : c = '\n' := by
  rw [EndsLine, first] at ends
  simpa using ends

/-- The pattern finds the imports of the statements of a kind, and passes the other statements and the line breaks. -/
structure IsReadBy [DecidableEq ι] (style : ImportStyle σ ι) (dotted : Bool) (p : Pattern) (i : ι) : Prop where
  blank : ∀ {bound : Nat} {s : Cursor}, EndsLine s.rest → p.matchAt bound s true = none
  line : ∀ {bound : Nat} {s : Cursor} {st : σ} {rest : List Char} {found : List FoundImport},
    s.isAt .lineStart = true → s.rest = style.text st ++ rest → EndsLine rest → s.rest.length ≤ bound →
      Finds dotted p bound (s.after (style.text st) rest) found →
        Finds dotted p bound s ((if style.kind st = i then style.imports s.position st else []) ++ found)

/-! ## One pattern -/

section OnePattern

variable [DecidableEq ι] {dotted : Bool} {p : Pattern} {i : ι} {bound : Nat}

/-- The imports of the blocks of a kind. -/
def ofKind (i : ι) (blocks : List (ι × List FoundImport)) : List FoundImport :=
  (blocks.filter (·.1 = i)).flatMap (·.2)

@[simp] theorem ofKind_nil : ofKind i [] = [] := rfl

theorem ofKind_cons (block : ι × List FoundImport) (blocks : List (ι × List FoundImport)) :
    ofKind i (block :: blocks) = (if block.1 = i then block.2 else []) ++ ofKind i blocks := by
  unfold ofKind
  rw [List.filter_cons]
  by_cases same : block.1 = i
  · rw [if_pos (decide_eq_true same), if_pos same, List.flatMap_cons]
  · rw [if_neg (by simpa using same), if_neg same, List.nil_append]

/-- A block is found by the pattern of its kind only. -/
theorem flatMap_ofKind_cons {block : ι × List FoundImport} {front back : List ι} (notFront : block.1 ∉ front)
    (notBack : block.1 ∉ back) (blocks : List (ι × List FoundImport)) :
    ((front ++ block.1 :: back).flatMap fun i => ofKind i (block :: blocks)) =
      (front.flatMap fun i => ofKind i blocks) ++ block.2 ++
        (ofKind block.1 blocks ++ back.flatMap fun i => ofKind i blocks) := by
  have others : ∀ kinds : List ι, block.1 ∉ kinds →
      (kinds.flatMap fun i => ofKind i (block :: blocks)) = kinds.flatMap fun i => ofKind i blocks := by
    intro kinds notMem
    refine List.flatMap_congr fun i mem => ?_
    have other : block.1 ≠ i := fun same => notMem (by rwa [same])
    rw [ofKind_cons, if_neg other, List.nil_append]
  rw [List.flatMap_append, List.flatMap_cons, others front notFront, others back notBack, ofKind_cons, if_pos rfl]
  simp only [List.append_assoc]

/-- Empty lines have no imports. -/
theorem finds_emptyLines (read : style.IsReadBy dotted p i) (empty : Nat) : ∀ {s : Cursor}, s.captures = [] →
    s.rest = Text.joinWith '\n' (List.replicate empty []) → Finds dotted p bound s [] := by
  induction empty with
  | zero => exact fun fresh ended => Finds.at_end fresh ended (read.blank (by rw [ended]; rfl))
  | succ n ih =>
    intro s fresh text
    cases n with
    | zero => exact Finds.at_end fresh text (read.blank (by rw [text]; rfl))
    | succ n =>
      refine Finds.skip (ih ?_ rfl) text (read.blank (by rw [text]; rfl))
      exact fresh

/-- The pattern finds the imports of the statements that it reads. -/
theorem finds_lines (read : style.IsReadBy dotted p i) (empty : Nat) (statements : List σ) : ∀ {s : Cursor},
    s.captures = [] → s.isAt .lineStart = true → s.rest = style.textOf statements empty → s.rest.length ≤ bound →
      Finds dotted p bound s (ofKind i (style.blocksFrom s.position statements)) := by
  induction statements with
  | nil => exact fun fresh _ text _ => finds_emptyLines read empty fresh text
  | cons st later ih =>
    intro s fresh atStart text length
    rw [blocksFrom, ofKind_cons]
    let others := later.map style.text ++ List.replicate empty []
    by_cases last : others = []
    · obtain ⟨rfl, none⟩ : later = [] ∧ List.replicate empty ([] : List Char) = [] := by simpa [others] using last
      have text' : s.rest = style.text st ++ [] := by
        rw [text, textOf, none]
        exact (List.append_nil _).symm
      refine read.line atStart text' rfl length (Finds.at_end ?_ rfl (read.blank rfl))
      exact fresh
    · have text' : s.rest = style.text st ++ '\n' :: style.textOf later empty := by
        rw [text, textOf, List.map_cons, List.cons_append, Text.joinWith_cons _ last]
        rfl
      let t := s.after (style.text st) ('\n' :: style.textOf later empty)
      have length' : (style.textOf later empty).length ≤ bound := by
        rw [text', List.length_append, List.length_cons] at length
        omega
      have rest : Finds dotted p bound (t.skip '\n' (style.textOf later empty))
          (ofKind i (style.blocksFrom (s.position + (style.text st).length + 1) later)) := ih fresh rfl rfl length'
      exact read.line atStart text' rfl length (Finds.skip rest rfl (read.blank rfl))

end OnePattern

/-! ## All patterns together -/

/-- Every statement has its imports at one place, within its text. -/
def IsPlaced (style : ImportStyle σ ι) : Prop := ∀ (position : Nat) (st : σ), ∃ start : Nat, position ≤ start ∧
  start ≤ position + (style.text st).length ∧ ∀ j ∈ style.imports position st, j.start = start

theorem le_start_of_mem_blocksFrom (placed : style.IsPlaced) {statements : List σ} {position : Nat}
    {block : ι × List FoundImport} (mem : block ∈ style.blocksFrom position statements) :
    ∀ j ∈ block.2, (position : Int) ≤ j.start := by
  induction statements generalizing position with
  | nil => cases mem
  | cons st later ih =>
    rw [blocksFrom] at mem
    rcases List.mem_cons.mp mem with rfl | mem
    · obtain ⟨start, after, -, here⟩ := placed position st
      intro j mem
      rw [here j mem]
      exact Int.ofNat_le.mpr after
    · intro j mem'
      have below := ih mem j mem'
      omega

/-- What the imports of statements say, apart from where they start. -/
theorem map_blocksFrom {α : Type} {f : FoundImport → α} {g : σ → List α}
    (each : ∀ position st, (style.imports position st).map f = g st) (statements : List σ) :
    ∀ position, ((style.blocksFrom position statements).flatMap (·.2)).map f = statements.flatMap g := by
  induction statements with
  | nil => exact fun _ => rfl
  | cons st later ih =>
    intro position
    rw [blocksFrom, List.flatMap_cons, List.map_append, each, ih, List.flatMap_cons]

variable [DecidableEq ι]

/-- What the patterns find, sorted, are the imports of the statements in their order. -/
theorem sorted_blocksFrom (placed : style.IsPlaced) {kinds : List ι} (distinct : kinds.Nodup)
    (covered : ∀ st, style.kind st ∈ kinds) (statements : List σ) : ∀ position,
      sorted (kinds.flatMap fun i => ofKind i (style.blocksFrom position statements)) =
        (style.blocksFrom position statements).flatMap (·.2) := by
  induction statements with
  | nil =>
    intro position
    have none : (kinds.flatMap fun _ => ([] : List FoundImport)) = [] := List.flatMap_eq_nil_iff.mpr fun _ _ => rfl
    simp only [blocksFrom, ofKind_nil, none]
    exact List.mergeSort_nil
  | cons st later ih =>
    intro position
    obtain ⟨front, back, split⟩ := List.append_of_mem (covered st)
    obtain ⟨start, -, within, here⟩ := placed position st
    let blocks := style.blocksFrom (position + (style.text st).length + 1) later
    let found := fun kinds : List ι => kinds.flatMap fun i => ofKind i blocks
    -- whichever pattern finds the imports of later statements, they start behind this one
    have above : ∀ j ∈ found front ++ (ofKind (style.kind st) blocks ++ found back), (start : Int) < j.start := by
      have each : ∀ i, ∀ j ∈ ofKind i blocks, (start : Int) < j.start := by
        intro i j mem
        obtain ⟨block, mem, mem'⟩ := List.mem_flatMap.mp mem
        have below := le_start_of_mem_blocksFrom placed (List.mem_of_mem_filter mem) j mem'
        omega
      simp only [List.forall_mem_append, found, List.mem_flatMap, forall_exists_index, and_imp]
      exact ⟨fun j i _ => each i j, each _, fun j i _ => each i j⟩
    rw [split] at distinct
    obtain ⟨-, distinct', apart⟩ := List.nodup_append.mp distinct
    have notFront : style.kind st ∉ front := fun mem => apart _ mem _ List.mem_cons_self rfl
    have notBack : style.kind st ∉ back := (List.nodup_cons.mp distinct').1
    have rest : found front ++ (ofKind (style.kind st) blocks ++ found back) = found kinds := by
      simp only [found, split, List.flatMap_append, List.flatMap_cons]
    calc sorted (kinds.flatMap fun i => ofKind i (style.blocksFrom position (st :: later)))
      _ = sorted (found front ++ style.imports position st ++ (ofKind (style.kind st) blocks ++ found back)) := by
        rw [split]
        exact congrArg sorted (flatMap_ofKind_cons notFront notBack blocks)
      _ = style.imports position st ++ sorted (found kinds) := by rw [sorted_block here above, rest]
      _ = (style.blocksFrom position (st :: later)).flatMap (·.2) := by rw [ih, blocksFrom, List.flatMap_cons]

/-- A text of statements has the imports of the statements, in their order. -/
theorem findImports_textOf {l : Language} {kinds : List ι} {pattern : ι → Pattern}
    (patterns : l.importPatterns = kinds.map pattern) (distinct : kinds.Nodup) (covered : ∀ st, style.kind st ∈ kinds)
    (placed : style.IsPlaced) (read : ∀ i ∈ kinds, style.IsReadBy l.isDotted (pattern i) i) (statements : List σ)
    (empty : Nat) : l.findImports (style.textOf statements empty) = .ok ((style.blocksFrom 0 statements).flatMap (·.2)) := by
  have each : ∀ i ∈ kinds, ofPattern l.isDotted (style.textOf statements empty) (pattern i) =
      .ok (ofKind i (style.blocksFrom 0 statements)) := fun i mem =>
    ofPattern_of_finds (finds_lines (read i mem) empty statements rfl rfl rfl (Nat.le_succ _))
  have all : l.importPatterns.mapM (ofPattern l.isDotted (style.textOf statements empty)) =
      .ok (kinds.map fun i => ofKind i (style.blocksFrom 0 statements)) := by
    rw [patterns, List.mapM_map]
    exact Except.mapM_eq_ok_map each
  rw [Language.findImports, all]
  change Except.ok (sorted (kinds.map _).flatten) = _
  rw [← List.flatMap_def, sorted_blocksFrom placed distinct covered]

end ImportStyle

end CodeAtlas
