import CodeAtlas.Proofs.Language.ScriptBlocks

/-!
# Masks keep places

A mask keeps the bodies of the script blocks and all newlines, and has a space for every other character
(`getElem?_mask`). The bodies come one after the other (`inOrder_bodies`), so between two of them everything is blanked out
and no character moves. Where the pattern of script blocks finds a body, the mask has it in the same place (`isMaskOf_mask`).
-/

namespace CodeAtlas

namespace Template

variable {text : List Char} {spans : List Span} {position i k : Nat} {c : Char}

/-! ## Spans in order -/

/-- The spans start at a place or later, each behind the one before. -/
def InOrder : Nat → List Span → Prop
  | _, [] => True
  | position, s :: spans => position ≤ s.start ∧ s.start ≤ s.stop ∧ InOrder s.stop spans

/-- One of the spans has the index. -/
def Covers (spans : List Span) (i : Nat) : Prop := ∃ s ∈ spans, s.start ≤ i ∧ i < s.stop

instance (spans : List Span) (i : Nat) : Decidable (Covers spans i) := List.decidableBEx _ spans

theorem InOrder.of_le {position' : Nat} (h : InOrder position spans) (le : position' ≤ position) :
    InOrder position' spans := by
  cases spans with
  | nil => trivial
  | cons s spans => exact ⟨Nat.le_trans le h.1, h.2⟩

/-- Nothing is covered before the spans. -/
theorem InOrder.not_covers (h : InOrder position spans) (before : i < position) : ¬ Covers spans i := by
  induction spans generalizing position with
  | nil => exact fun ⟨_, mem, _⟩ => List.not_mem_nil mem
  | cons s spans ih =>
    obtain ⟨starts, ends, others⟩ := h
    rintro ⟨t, mem, low, high⟩
    rcases List.mem_cons.mp mem with rfl | mem
    · omega
    · exact ih others (by omega) ⟨t, mem, low, high⟩

theorem covers_cons {s : Span} : Covers (s :: spans) i ↔ s.start ≤ i ∧ i < s.stop ∨ Covers spans i :=
  List.exists_mem_cons_iff ..

/-! ## Masks of spans -/

/-- What stands in place of a character. -/
def veil (kept : Bool) (c : Char) : Char := if kept ∨ c = '\n' then c else ' '

theorem veil_true : veil true = id := funext fun c => by simp [veil]

theorem newline_of_veil {kept : Bool} (h : veil kept c = '\n') : c = '\n' := by
  unfold veil at h
  split at h
  · rename_i either
    exact either.elim (fun _ => h) id
  · exact absurd h (by decide)

theorem blankOut_eq (text : List Char) : blankOut text = text.map (veil false) := by
  unfold blankOut
  refine List.map_congr_left fun c _ => ?_
  by_cases newline : c = '\n' <;> simp [veil, newline]

theorem length_keepSpans (h : InOrder position spans) (text : List Char) :
    (keepSpans position spans text).length = text.length := by
  induction spans generalizing position text with
  | nil => simp [keepSpans, blankOut]
  | cons s spans ih =>
    obtain ⟨starts, ends, others⟩ := h
    simp only [keepSpans, blankOut, List.length_append, List.length_map, List.length_take, List.length_drop, ih others]
    omega

/-- Each character of a mask stands for the one in its place. -/
theorem getElem?_keepSpans (h : InOrder position spans) (text : List Char) (k : Nat) :
    (keepSpans position spans text)[k]? = text[k]?.map (veil (Covers spans (position + k))) := by
  induction spans generalizing position text k with
  | nil =>
    have none : ¬ Covers [] (position + k) := fun ⟨_, mem, _⟩ => List.not_mem_nil mem
    simp [keepSpans, blankOut_eq, none]
  | cons s spans ih =>
    by_cases inside : k < text.length
    · obtain ⟨starts, ends, others⟩ := h
      have gap : (blankOut (text.take (s.start - position))).length = min (s.start - position) text.length := by
        simp [blankOut]
      have kept : ((text.take (s.stop - position)).drop (s.start - position)).length =
          min (s.stop - position) text.length - (s.start - position) := by simp
      rw [keepSpans]
      rcases Nat.lt_or_ge k (s.start - position) with before | reached
      · -- in the gap in front of the span
        have uncovered : ¬ Covers (s :: spans) (position + k) :=
          InOrder.not_covers ⟨Nat.le_refl s.start, ends, others⟩ (by omega)
        rw [List.append_assoc, List.getElem?_append_left (by omega), blankOut_eq, List.getElem?_map,
          List.getElem?_take_of_lt before]
        simp [uncovered]
      · rcases Nat.lt_or_ge k (s.stop - position) with within | behind
        · -- in the span
          have covered : Covers (s :: spans) (position + k) := covers_cons.mpr (Or.inl (by omega))
          rw [List.getElem?_append_left (by rw [List.length_append]; omega), List.getElem?_append_right (by omega),
            List.getElem?_drop, List.getElem?_take_of_lt (by omega), gap]
          have place : s.start - position + (k - min (s.start - position) text.length) = k := by omega
          simp [place, covered, veil_true]
        · -- behind the span, where the mask of the other spans starts
          have length : (blankOut (text.take (s.start - position)) ++
              (text.take (s.stop - position)).drop (s.start - position)).length = s.stop - position := by
            rw [List.length_append]
            omega
          have same : Covers (s :: spans) (position + k) ↔ Covers spans (s.stop + (k - (s.stop - position))) := by
            have place : s.stop + (k - (s.stop - position)) = position + k := by omega
            have past : ¬ (s.start ≤ position + k ∧ position + k < s.stop) := by omega
            rw [covers_cons, place, or_iff_right past]
          have place : s.stop - position + (k - (s.stop - position)) = k := by omega
          rw [List.getElem?_append_right (by omega), length, ih others, List.getElem?_drop, place]
          simp [same]
    · have length := length_keepSpans h text
      rw [List.getElem?_eq_none (by omega), List.getElem?_eq_none (by omega)]
      rfl

/-- The bodies of script blocks come one after the other. -/
theorem inOrder_blocksFrom (text : List Char) : ∀ (position resume : Nat),
    InOrder resume ((blocksFrom position resume text).map (·.body)) := by
  induction text with
  | nil => exact fun _ _ => trivial
  | cons c rest ih =>
    intro position resume
    rw [blocksFrom]
    split
    · exact ih (position + 1) resume
    · rename_i reached
      split
      · exact ih (position + 1) resume
      · split
        · trivial
        · rename_i tag _ _ n closing _
          exact ⟨by dsimp only; omega, Nat.le_add_right _ _, (ih (position + 1) _).of_le (Nat.le_add_right _ closing)⟩

theorem inOrder_bodies (text : List Char) : InOrder 0 (bodies text) := inOrder_blocksFrom text 0 0

/-! ## Masks of templates -/

/-- The index lies in the body of a script block: in the second group of a match of the pattern. -/
def InBody (text : List Char) (i : Nat) : Prop :=
  ∃ m ∈ scriptBlock.findAll text, ∃ body ∈ m.group? 2, body.start ≤ i ∧ i < body.stop

theorem covers_bodies : Covers (bodies text) i ↔ InBody text i := by
  have each := blocks_findAll text
  constructor
  · rintro ⟨span, mem, within⟩
    obtain ⟨b, listed, rfl⟩ := List.mem_map.mp mem
    obtain ⟨m, found, reads⟩ := each.flip.exists_of_mem_right listed
    exact ⟨m, found, _, reads.body, within⟩
  · rintro ⟨m, found, body, group, within⟩
    obtain ⟨b, mem, reads⟩ := each.exists_of_mem_right found
    obtain rfl := Option.some.inj (reads.body.symm.trans group)
    exact ⟨b.body, List.mem_map_of_mem mem, within⟩

instance (text : List Char) (i : Nat) : Decidable (InBody text i) := decidable_of_iff _ covers_bodies

/-- Everything stays in its place: the characters of the bodies of script blocks and all newlines stand where they stood,
and a space stands for every other character. -/
structure IsMaskOf (text masked : List Char) : Prop where
  length : masked.length = text.length
  character : ∀ (i : Nat) (c : Char), text[i]? = some c → masked[i]? = some (if InBody text i ∨ c = '\n' then c else ' ')
  newlines : ∀ i : Nat, masked[i]? = some '\n' ↔ text[i]? = some '\n'
  bodies : ∀ m ∈ scriptBlock.findAll text, ∀ body ∈ m.group? 2,
    (masked.drop body.start).take (body.stop - body.start) = body.text
  outside : ∀ (i : Nat) (c : Char), masked[i]? = some c → ¬ InBody text i → c = '\n' ∨ c = ' '

/-- Each character of the mask of a template stands for the one in its place. -/
theorem getElem?_mask (text : List Char) (i : Nat) : (mask text)[i]? = text[i]?.map (veil (InBody text i)) := by
  have keeps := getElem?_keepSpans (inOrder_bodies text) text i
  simp only [Nat.zero_add, covers_bodies] at keeps
  exact keeps

theorem isMaskOf_mask (text : List Char) : IsMaskOf text (mask text) where
  length := length_keepSpans (inOrder_bodies text) text
  character i c here := by
    rw [getElem?_mask, here, Option.map_some, veil]
    simp
  newlines i := by
    rw [getElem?_mask, Option.map_eq_some_iff]
    constructor
    · rintro ⟨c, here, veiled⟩
      rw [here, newline_of_veil veiled]
    · intro here
      exact ⟨'\n', here, by simp [veil]⟩
  bodies m found body group := by
    obtain ⟨b, -, reads⟩ := (blocks_findAll text).exists_of_mem_right found
    obtain rfl := Option.some.inj (reads.body.symm.trans group)
    refine List.ext_getElem? fun k => ?_
    rw [Capture.text]
    by_cases within : k < b.body.stop - b.body.start
    · have covered : InBody text (b.body.start + k) := ⟨m, found, _, group, Nat.le_add_right _ _, by dsimp only; omega⟩
      rw [List.getElem?_take_of_lt within, List.getElem?_take_of_lt within, List.getElem?_drop, List.getElem?_drop,
        getElem?_mask]
      simp [covered, veil_true]
    · rw [List.getElem?_eq_none (by simp; omega), List.getElem?_eq_none (by simp; omega)]
  outside i c here free := by
    obtain ⟨d, -, rfl⟩ := Option.map_eq_some_iff.mp (getElem?_mask text i ▸ here)
    by_cases newline : d = '\n' <;> simp [veil, free, newline]

example : mask "é <SCRIPT>a\nb</script >\n".toList = "          a\nb          \n".toList := by decide +kernel

end Template

namespace Language

/-- A name of a language is not looked up only where there is no table of them. -/
theorem scriptAfter_error {l : Language} {current : Document} {attributes : List Char} {e : ScanError}
    (h : l.scriptAfter current attributes = .error e) :
    (∀ fields, l.scripts ≠ .object fields) ∧ e = .noScripts l.scripts.kindName := by
  unfold scriptAfter at h
  split at h
  · have missing := Except.map_eq_error_iff.mp h
    unfold scriptNamed? at missing
    split at missing
    · cases missing
    · rename_i other
      exact ⟨other, (Except.error.inj missing).symm⟩
  · cases h

/-- For every text, the text that a language unwraps from it keeps everything in its place. Only a language whose script
languages are no object gives an error in place of a text. -/
theorem unwrap_isMaskOf (l : Language) (text : List Char) :
    (l.unwrap text).Gives (fun r => Template.IsMaskOf text r.2) ∨
      (∀ fields, l.scripts ≠ .object fields) ∧ l.unwrap text = .error (.noScripts l.scripts.kindName) := by
  cases named : l.scriptLanguage text with
  | ok script =>
    rw [unwrap, named]
    exact Or.inl (.ok (Template.isMaskOf_mask text))
  | error e =>
    obtain ⟨current, b, -, failed⟩ := Except.exists_of_foldlM_error named
    obtain ⟨noTable, rfl⟩ := scriptAfter_error failed
    refine Or.inr ⟨noTable, ?_⟩
    rw [unwrap, named]
    rfl

end Language

end CodeAtlas
