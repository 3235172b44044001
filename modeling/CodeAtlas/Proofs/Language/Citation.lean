import CodeAtlas.Language.Bundled
import CodeAtlas.Proofs.Language.Lines

/-!
# Quoted specifiers

The patterns of the script languages read something, a specifier between quotes, and something else (`citing`). What they
match is a citation that fits (`matchAt_citing`), and where one that fits stands at the edge of a word, they match
(`exists_matchAt_citing`). What is read before the quotes holds no quote, so the first quote of a line decides: the pattern
reads a line only if it reads what stands before this quote, from some place on, and then it finds the specifier that follows
(`Citation.finds_hit`, `Citation.finds_miss`). Nothing is found within a specifier or behind it, whatever its text is.
-/

namespace CodeAtlas.Bundled

open Regex

/-- A pattern that reads a quoted specifier between other things. -/
def citing (heads tails : List Regex) : Pattern :=
  ⟨.seq (.place .wordEdge) (all (heads ++ ([quote, specifier, quote] ++ tails))), 1⟩

/-- The characters of quotes. -/
def quotes : List Char := ['\'', '"']

/-- A quoted specifier, with what stands before and behind it. -/
@[ext] structure Citation where
  lead : List Char
  opening : Char
  specifier : List Char
  closing : Char
  trail : List Char

namespace Citation

/-- The citation as it is written. -/
def text (c : Citation) : List Char := c.lead ++ c.opening :: (c.specifier ++ c.closing :: c.trail)

/-- Quotes of either kind stand around a specifier that has a character, no quote and no newline. -/
structure IsQuoted (c : Citation) : Prop where
  opening : c.opening ∈ quotes
  some : c.specifier ≠ []
  plain : ∀ d ∈ c.specifier, d ∉ quotes ∧ d ≠ '\n'
  closing : c.closing ∈ quotes

/-- The citation is one that the pattern between the parts reads. -/
structure Fits (heads tails : List Regex) (c : Citation) : Prop extends c.IsQuoted where
  lead : (all heads).Spells c.lead
  trail : (all tails).Spells c.trail

/-- The import that a citation stands for where it starts. -/
def found (c : Citation) (position : Nat) : FoundImport :=
  ⟨(position + c.lead.length + 1 : Nat), String.ofList (Text.trim c.specifier), []⟩

theorem length_text (c : Citation) : c.text.length = c.lead.length + c.specifier.length + c.trail.length + 2 := by
  simp only [text, List.length_append, List.length_cons]
  omega

end Citation

theorem spells_quote {w : List Char} : quote.Spells w ↔ ∃ c ∈ quotes, w = [c] := by
  simp [quote, Spells, CharSet.has_ofChars, quotes]

theorem has_specifierSet {c : Char} : (CharSet.notChars "'\"\n").has c = true ↔ c ∉ quotes ∧ c ≠ '\n' := by
  simp [CharSet.has_notChars, quotes, and_assoc]

variable {heads tails : List Regex} {bound : Nat} {s : Cursor} {rest : List Char}

/-! ## What is matched -/

/-- A citing pattern reads one part after the other. -/
theorem run_citing (s : Cursor) (next : Cursor → Option Cursor) :
    run bound (citing heads tails).regex s next =
      if s.isAt .wordEdge then
        run bound (all heads) s fun s₁ => run bound quote s₁ fun s₂ =>
          run bound (plus (.notChars "'\"\n")) (s₂.enter 1) fun s₃ => run bound quote (s₃.capture 1 s₂) fun s₄ =>
            run bound (all tails) s₄ next
      else none := by
  simp only [citing, run, run_all_append, run_all_cons, specifier]
  rfl

/-- A match has the import whose specifier it captured. -/
theorem ofMatch_citing {m : Match} {c : Capture} (captured : m.group? 1 = some c) :
    Imports.ofMatch false (citing heads tails) m = .ok [⟨c.start, String.ofList (Text.trim c.text), []⟩] := by
  rw [Imports.ofMatch, Imports.groupStart, captured]
  rfl

/-- Every match is a citation that fits. -/
theorem matchAt_citing (head : (all heads).isSimple = true) (tail : (all tails).isSimple = true) {m : Match}
    (h : (citing heads tails).matchAt bound s true = some m) :
    ∃ (c : Citation) (rest : List Char), c.Fits heads tails ∧ s.rest = c.text ++ rest ∧
      m.stop = s.position + c.text.length ∧ Imports.ofMatch false (citing heads tails) m = .ok [c.found s.position] := by
  obtain ⟨u, ran, rfl⟩ := Pattern.matchAt_eq_some h
  rw [run_citing] at ran
  split at ran
  case isFalse => cases ran
  obtain ⟨s₁, ran, lead, fits, toLead⟩ := run_spells head ran
  obtain ⟨s₂, ran, w, first, toOpening⟩ := run_spells (r := quote) rfl ran
  obtain ⟨opening, isOpening, rfl⟩ := spells_quote.mp first
  obtain ⟨s₃, ran, specifier, ⟨plain, some, -⟩, toSpecifier⟩ := run_spells (r := plus _) rfl ran
  obtain ⟨s₄, ran, w, last, toClosing⟩ := run_spells (r := quote) rfl ran
  obtain ⟨closing, isClosing, rfl⟩ := spells_quote.mp last
  obtain ⟨s₅, ran, trail, fits', toTrail⟩ := run_spells tail ran
  obtain rfl := Option.some.inj ran
  let c : Citation := ⟨lead, opening, specifier, closing, trail⟩
  have quoted : c.IsQuoted :=
    ⟨isOpening, List.ne_nil_of_length_pos some, fun d mem => has_specifierSet.mp (plain d mem), isClosing⟩
  have following : s₂.rest = specifier ++ closing :: (trail ++ s₅.rest) := by
    have behind : s₃.rest = [closing] ++ s₄.rest := toClosing.1
    have here : s₂.rest = specifier ++ s₃.rest := toSpecifier.1
    rw [here, behind, toTrail.1]
    rfl
  have text : s.rest = c.text ++ s₅.rest := by
    rw [toLead.1, toOpening.1, following]
    simp [c, Citation.text]
  have place₂ : s₂.position = s.position + lead.length + 1 := by
    rw [toOpening.2, toLead.2]
    rfl
  have place₃ : s₃.position = s₂.position + specifier.length := by
    rw [toSpecifier.2]
    rfl
  have place₅ : s₅.position = s₃.position + 1 + trail.length := by
    rw [toTrail.2, toClosing.2]
    rfl
  have captured : (Pattern.matchBetween s s₅).group? 1 = Option.some ⟨s₂.position, s₃.position, s₂.rest⟩ := by
    have kept : s₅.captures = (s₃.capture 1 s₂).captures := by
      rw [toTrail.2, toClosing.2]
      rfl
    rw [Match.group?, Pattern.matchBetween, kept]
    rfl
  refine ⟨c, s₅.rest, ⟨quoted, fits, fits'⟩, text, ?_, ?_⟩
  · rw [c.length_text]
    change s₅.position = s.position + (lead.length + specifier.length + trail.length + 2)
    omega
  · have said : (Capture.mk s₂.position s₃.position s₂.rest).text = specifier := by
      rw [Capture.text, place₃, Nat.add_sub_cancel_left, following, List.take_left]
    rw [ofMatch_citing captured, said, place₂]
    rfl

/-- Where a citation that fits stands at the edge of a word, there is a match. -/
theorem exists_matchAt_citing (head : (all heads).isSimple = true) (tail : (all tails).isSimple = true) {c : Citation}
    (fits : c.Fits heads tails) (edge : s.isAt .wordEdge = true) (text : s.rest = c.text ++ rest)
    (length : s.rest.length ≤ bound) : ∃ m, (citing heads tails).matchAt bound s true = some m := by
  have lengths : c.lead.length ≤ bound ∧ c.specifier.length ≤ bound ∧ c.trail.length ≤ bound ∧ 1 ≤ bound := by
    rw [text, List.length_append, c.length_text] at length
    omega
  obtain ⟨leadLength, specifierLength, trailLength, one⟩ := lengths
  let behind := c.closing :: (c.trail ++ rest)
  let s₁ := s.after c.lead (c.opening :: (c.specifier ++ behind))
  let s₂ := s₁.skip c.opening (c.specifier ++ behind)
  let s₃ := (s₂.enter 1).after c.specifier behind
  let s₄ := (s₃.capture 1 s₂).skip c.closing (c.trail ++ rest)
  have toLead : s.Passes c.lead s₁ := Cursor.passes_after (by rw [text]; simp [Citation.text, behind])
  have plain : (plus (.notChars "'\"\n")).Spells c.specifier :=
    ⟨fun d mem => has_specifierSet.mpr (fits.plain d mem), List.length_pos_of_ne_nil fits.some, nofun⟩
  -- from the end to the start: what follows each part succeeds where the part ends
  let trails := fun t => run bound (all tails) t some
  let closes := fun t t' : Cursor => run bound quote (t'.capture 1 t) trails
  let specifies := fun t : Cursor => run bound (plus (.notChars "'\"\n")) (t.enter 1) (closes t)
  let opens := fun t => run bound quote t specifies
  have ends : (trails s₄).isSome = true :=
    run_isSome_of_spells tail fits.trail trailLength (Cursor.passes_after rfl) rfl
  have ends : (closes s₂ s₃).isSome = true :=
    run_isSome_of_spells rfl (spells_quote.mpr ⟨_, fits.closing, rfl⟩) one (Cursor.passes_skip rfl) ends
  have ends : (specifies s₂).isSome = true :=
    run_isSome_of_spells rfl plain specifierLength (Cursor.passes_after rfl) ends
  have ends : (opens s₁).isSome = true :=
    run_isSome_of_spells rfl (spells_quote.mpr ⟨_, fits.opening, rfl⟩) one (Cursor.passes_skip rfl) ends
  have ends : (run bound (all heads) s opens).isSome = true :=
    run_isSome_of_spells head fits.lead leadLength toLead ends
  obtain ⟨u, ran⟩ := Option.isSome_iff_exists.mp ends
  refine ⟨_, Pattern.matchAt_of_run (t := u) ?_⟩
  rw [run_citing, if_pos edge]
  exact ran

/-! ## Citations on lines -/

/-- What a pattern reads before the quotes starts with a word character and holds no quote. -/
structure Opens (heads : List Regex) : Prop where
  plain : (all heads).isSimple = true
  starts : ∀ w, (all heads).Spells w → ∃ c rest, w = c :: rest ∧ Text.isWord c = true
  unquoted : ∀ w, (all heads).Spells w → ∀ c ∈ w, c ∉ quotes

/-- The only quotes are those around the specifier, and no word stands behind them. -/
structure Citation.IsLine (c : Citation) : Prop extends c.IsQuoted where
  lead : ∀ d ∈ c.lead, d ∉ quotes
  trail : ∀ d ∈ c.trail, d ∉ quotes ∧ d ≠ '\n' ∧ Text.isWord d = false

/-- The same holds of the end of the line, from a place before the quotes on. -/
theorem Citation.IsLine.drop {c : Citation} (line : c.IsLine) {x y : List Char} (lead : c.lead = x ++ y) :
    { c with lead := y }.IsLine where
  toIsQuoted := ⟨line.opening, line.some, line.plain, line.closing⟩
  lead := fun d mem => line.lead d (lead ▸ List.mem_append_right x mem)
  trail := line.trail

section Lines

variable (opens : Opens heads) (tail : (all tails).isSimple = true)
include opens tail

/-- No match starts where no word does. -/
theorem matchAt_of_noWord (none : ∀ c following, s.rest = c :: following → Text.isWord c = false) :
    (citing heads tails).matchAt bound s true = .none := by
  refine Option.eq_none_iff_forall_ne_some.mpr fun m found => ?_
  obtain ⟨c, rest, fits, text, -⟩ := matchAt_citing opens.plain tail found
  obtain ⟨d, more, lead, isWord⟩ := opens.starts _ fits.lead
  have noWord : Text.isWord d = false := none d _ (by rw [text, Citation.text, lead]; rfl)
  rw [isWord] at noWord
  cases noWord

/-- A match before the quotes of a line reads what stands before them, and it has the specifier between them. -/
theorem matchAt_of_isLine {c : Citation} (line : c.IsLine) (text : s.rest = c.text ++ rest) {m : Match}
    (hit : (citing heads tails).matchAt bound s true = some m) :
    ∃ trail more, { c with trail := trail }.Fits heads tails ∧ c.trail ++ rest = trail ++ more ∧
      m.stop = s.position + { c with trail := trail }.text.length ∧
      Imports.ofMatch false (citing heads tails) m = .ok [c.found s.position] := by
  obtain ⟨c', more, fits, text', stop, gives⟩ := matchAt_citing opens.plain tail hit
  -- the first quote of the line is the one where the match has its own first quote, and so is the second
  have whole : c.lead ++ c.opening :: (c.specifier ++ c.closing :: (c.trail ++ rest)) =
      c'.lead ++ c'.opening :: (c'.specifier ++ c'.closing :: (c'.trail ++ more)) := by
    rw [text] at text'
    simpa [Citation.text] using text'
  obtain ⟨lead, opening, behind⟩ :=
    Text.append_separator_inj (· ∈ quotes) line.opening fits.opening line.lead (opens.unquoted _ fits.lead) whole
  obtain ⟨specifier, closing, trail⟩ := Text.append_separator_inj (· ∈ quotes) line.closing fits.closing
    (fun d mem => (line.plain d mem).1) (fun d mem => (fits.plain d mem).1) behind
  have same : c' = { c with trail := c'.trail } :=
    Citation.ext lead.symm opening.symm specifier.symm closing.symm rfl
  refine ⟨c'.trail, more, same ▸ fits, trail, same ▸ stop, ?_⟩
  rw [gives, same]
  rfl

/-- No match starts from where only one quote is left on the line. -/
theorem matchAt_of_oneQuote {before after rest : List Char} {mark : Char}
    (text : s.rest = before ++ mark :: (after ++ rest)) (isQuote : mark ∈ quotes) (unquoted : ∀ d ∈ before, d ∉ quotes)
    (last : ∀ d ∈ after, d ∉ quotes ∧ d ≠ '\n') (ends : ImportStyle.EndsLine rest) :
    (citing heads tails).matchAt bound s true = none := by
  refine Option.eq_none_iff_forall_ne_some.mpr fun m found => ?_
  obtain ⟨c, more, fits, text', -⟩ := matchAt_citing opens.plain tail found
  have same : c.lead ++ c.opening :: (c.specifier ++ c.closing :: (c.trail ++ more)) =
      before ++ mark :: (after ++ rest) := by
    rw [← text, text']
    simp [Citation.text]
  obtain ⟨-, -, behind⟩ :=
    Text.append_separator_inj (· ∈ quotes) fits.opening isQuote (opens.unquoted _ fits.lead) unquoted same
  cases rest with
  | nil =>
    have mem : c.closing ∈ after ++ [] := behind ▸ List.mem_append_right _ List.mem_cons_self
    rw [List.append_nil] at mem
    exact (last _ mem).1 fits.closing
  | cons d rest =>
    obtain rfl : d = '\n' := ends.eq_newline rfl
    obtain ⟨-, newline, -⟩ := Text.append_separator_inj (fun d => d ∈ quotes ∨ d = '\n') (Or.inl fits.closing) (Or.inr rfl)
      (fun d mem => not_or.mpr (fits.plain d mem)) (fun d mem => not_or.mpr (last d mem)) behind
    exact absurd (newline ▸ fits.closing) (by decide)

variable {c : Citation} {found : List FoundImport}

/-- No match starts within the specifier of a line or behind it. -/
theorem matchAt_of_behind (line : c.IsLine) {x y : List Char} (more : y ≠ [])
    (parts : c.specifier ++ c.closing :: c.trail = x ++ y) (text : s.rest = y ++ rest)
    (ends : ImportStyle.EndsLine rest) : (citing heads tails).matchAt bound s true = none := by
  have quoted : ∀ {x z : List Char}, c.specifier = x ++ z → s.rest = z ++ c.closing :: (c.trail ++ rest) →
      (citing heads tails).matchAt bound s true = none := by
    intro x z specifier text
    have unquoted : ∀ d ∈ z, d ∉ quotes := fun d mem => (line.plain d (specifier ▸ List.mem_append_right x mem)).1
    have last : ∀ d ∈ c.trail, d ∉ quotes ∧ d ≠ '\n' := fun d mem => ⟨(line.trail d mem).1, (line.trail d mem).2.1⟩
    exact matchAt_of_oneQuote opens tail text line.closing unquoted last ends
  rcases List.append_eq_append_iff.mp parts with ⟨z, -, behind⟩ | ⟨z, specifier, rfl⟩
  · cases z with
    | nil =>
      obtain rfl : c.closing :: c.trail = y := behind
      exact quoted (List.append_nil _).symm text
    | cons d z =>
      obtain ⟨-, trail⟩ := List.cons.inj behind
      obtain ⟨e, y, rfl⟩ := List.exists_cons_of_ne_nil more
      refine matchAt_of_noWord opens tail fun d following next => ?_
      obtain ⟨rfl, -⟩ : d = e ∧ _ := List.cons.inj (next.symm.trans text)
      exact (line.trail d (trail ▸ List.mem_append_right z List.mem_cons_self)).2.2
  · exact quoted specifier (by rw [text, List.append_assoc, List.cons_append])

/-- A line is passed if the pattern reads nothing that reaches up to the quotes. -/
theorem finds_miss (line : c.IsLine) (misses : ∀ x y, c.lead = x ++ y → ¬ (all heads).Spells y)
    (text : s.rest = c.text ++ rest) (ends : ImportStyle.EndsLine rest)
    (later : Imports.Finds false (citing heads tails) bound (s.after c.text rest) found) :
    Imports.Finds false (citing heads tails) bound s found := by
  refine later.quiet text fun x y parts more => ?_
  have before : ∀ z, c.lead = x ++ z → y = { c with lead := z }.text →
      (citing heads tails).matchAt bound (s.after x (y ++ rest)) true = none := by
    rintro z lead rfl
    refine Option.eq_none_iff_forall_ne_some.mpr fun m hit => ?_
    obtain ⟨_, _, fits, -⟩ := matchAt_of_isLine opens tail (line.drop lead) rfl hit
    exact misses x z lead fits.lead
  rcases List.append_eq_append_iff.mp parts with ⟨z, rfl, behind⟩ | ⟨z, lead, rfl⟩
  · cases z with
    | nil => exact before [] (by simp) behind.symm
    | cons d z => exact matchAt_of_behind opens tail line more (List.cons.inj behind).2 rfl ends
  · exact before z lead rfl

/-- A piece without words is passed. -/
theorem finds_noWord {piece : List Char} (none : ∀ d ∈ piece, Text.isWord d = false) (text : s.rest = piece ++ rest)
    (later : Imports.Finds false (citing heads tails) bound (s.after piece rest) found) :
    Imports.Finds false (citing heads tails) bound s found := by
  refine later.quiet text fun x y parts more => ?_
  obtain ⟨d, y, rfl⟩ := List.exists_cons_of_ne_nil more
  refine matchAt_of_noWord opens tail fun e following next => ?_
  obtain ⟨rfl, -⟩ : d = e ∧ _ := List.cons.inj next
  exact none d (by rw [parts]; simp)

/-- A pattern that reads all that stands before the quotes, and something behind them, finds the import of the line. -/
theorem finds_read (line : c.IsLine) {z : List Char} (reads : (all heads).Spells c.lead) (edge : s.isAt .wordEdge = true)
    (within : z <+: c.trail) (reads' : (all tails).Spells z)
    (closed : ∀ z, (all tails).Spells z → z <+: c.trail ++ rest → z <+: c.trail)
    (text : s.rest = c.text ++ rest) (length : s.rest.length ≤ bound)
    (later : Imports.Finds false (citing heads tails) bound (s.after c.text rest) found) :
    Imports.Finds false (citing heads tails) bound s (c.found s.position :: found) := by
  obtain ⟨m, hit⟩ : ∃ m, (citing heads tails).matchAt bound s true = some m := by
    obtain ⟨z', trail⟩ := within
    have fits : { c with trail := z }.Fits heads tails :=
      ⟨⟨line.opening, line.some, line.plain, line.closing⟩, reads, reads'⟩
    have text' : s.rest = { c with trail := z }.text ++ (z' ++ rest) := by
      rw [text]
      simp [Citation.text, ← trail]
    exact exists_matchAt_citing opens.plain tail fits edge text' length
  obtain ⟨trail, more, fits, same, stop, gives⟩ := matchAt_of_isLine opens tail line text hit
  obtain ⟨behind, split⟩ := closed trail fits.trail ⟨more, same.symm⟩
  let piece := { c with trail := trail }.text
  have whole : c.text = piece ++ behind := by
    simp [piece, Citation.text, ← split]
  have noWord : ∀ d ∈ behind, Text.isWord d = false := fun d mem =>
    (line.trail d (split ▸ List.mem_append_right trail mem)).2.2
  rw [whole, ← Cursor.after_after s piece behind (behind ++ rest)] at later
  have text' : s.rest = piece ++ (behind ++ rest) := by rw [text, whole, List.append_assoc]
  exact (finds_noWord opens tail noWord rfl later).hit text' hit (by simp [piece, Citation.text]) stop gives

/-- A pattern finds the import of a line if it reads what stands before the quotes, from some place on and from none before,
and what stands behind them. -/
theorem finds_hit (line : c.IsLine) {x y z : List Char} (lead : c.lead = x ++ y) (reads : (all heads).Spells y)
    (first : ∀ a b, x = a ++ b → b ≠ [] → ¬ (all heads).Spells (b ++ y))
    (edge : (s.after x ({ c with lead := y }.text ++ rest)).isAt .wordEdge = true)
    (within : z <+: c.trail) (reads' : (all tails).Spells z)
    (closed : ∀ z, (all tails).Spells z → z <+: c.trail ++ rest → z <+: c.trail)
    (text : s.rest = c.text ++ rest) (length : s.rest.length ≤ bound)
    (later : Imports.Finds false (citing heads tails) bound (s.after c.text rest) found) :
    Imports.Finds false (citing heads tails) bound s (c.found s.position :: found) := by
  let piece := { c with lead := y }
  have parts : c.text = x ++ piece.text := by simp [piece, Citation.text, lead]
  have text' : s.rest = x ++ (piece.text ++ rest) := by rw [text, parts, List.append_assoc]
  have length' : (piece.text ++ rest).length ≤ bound := by
    rw [text', List.length_append] at length
    omega
  rw [parts, ← Cursor.after_after s x piece.text (piece.text ++ rest)] at later
  have reading := finds_read opens tail (line.drop lead) reads edge within reads' closed rfl length' later
  have place : piece.found (s.position + x.length) = c.found s.position := by
    have start : s.position + x.length + y.length = s.position + c.lead.length := by
      rw [lead, List.length_append, Nat.add_assoc]
    simp [piece, Citation.found, start]
  rw [← place]
  refine Imports.Finds.quiet reading text' fun a b split more => Option.eq_none_iff_forall_ne_some.mpr fun m hit => ?_
  have lead' : c.lead = a ++ (b ++ y) := by rw [lead, split, List.append_assoc]
  have here : (s.after a (b ++ (piece.text ++ rest))).rest = { c with lead := b ++ y }.text ++ rest := by
    simp [piece, Cursor.after, Citation.text]
  obtain ⟨_, _, fits, -⟩ := matchAt_of_isLine opens tail (line.drop lead') here hit
  exact first a b split more fits.lead

end Lines

end CodeAtlas.Bundled
