import CodeAtlas.Pattern

/-!
# What matches capture

Matching an expression succeeds only through what follows it, at a cursor that the expression leads to (`Leads`). On the way
there no group is forgotten (`run_keeps`), and a group that every way through an expression passes is remembered
(`run_remembers`). So such a group has captured something in every match of a pattern (`group?_of_mem_findAll`).
-/

namespace CodeAtlas

/-- The group has captured something on the way to the cursor. -/
def Cursor.Captured (i : Nat) (s : Cursor) : Prop := ∃ c, (i, c) ∈ s.captures

namespace Regex

/-- What succeeds after the step succeeds at a cursor that the step leads to. -/
def Leads (step : Step) (R : Cursor → Cursor → Prop) : Prop :=
  ∀ {s : Cursor} {next : Cursor → Option Cursor} {u : Cursor}, step s next = some u → ∃ t, next t = some u ∧ R s t

/-- The group stays captured between two cursors. -/
def Keeps (i : Nat) (s t : Cursor) : Prop := s.Captured i → t.Captured i

variable {i : Nat} {step : Step}

/-! ## No group is forgotten -/

theorem requiredChars_keeps (set : CharSet) : ∀ n, Leads (requiredChars set n) (Keeps i)
  | 0, s, _, _, h => ⟨s, h, id⟩
  | n + 1, s, _, _, h => by
    rw [requiredChars] at h
    split at h
    · cases h
    · split at h
      · obtain ⟨t, h, kept⟩ := requiredChars_keeps set n h
        exact ⟨t, h, kept⟩
      · cases h

theorem optionalChars_keeps (set : CharSet) (greedy : Bool) : ∀ n, Leads (optionalChars set greedy n) (Keeps i)
  | 0, s, _, _, h => ⟨s, h, id⟩
  | n + 1, s, next, u, h => by
    have more : ∀ c rest, optionalChars set greedy n (s.skip c rest) next = some u →
        ∃ t, next t = some u ∧ Keeps i s t := by
      intro c rest h
      obtain ⟨t, h, kept⟩ := optionalChars_keeps set greedy n h
      exact ⟨t, h, kept⟩
    rw [optionalChars] at h
    split at h
    · exact ⟨s, h, id⟩
    · split at h
      · exact ⟨s, h, id⟩
      · split at h
        · rcases Option.or_eq_some_iff.mp h with h | ⟨-, h⟩
          · exact more _ _ h
          · exact ⟨s, h, id⟩
        · rcases Option.or_eq_some_iff.mp h with h | ⟨-, h⟩
          · exact ⟨s, h, id⟩
          · exact more _ _ h

theorem required_keeps (keeps : Leads step (Keeps i)) : ∀ n, Leads (required step n) (Keeps i)
  | 0, s, _, _, h => ⟨s, h, id⟩
  | n + 1, s, _, _, h => by
    obtain ⟨t, h, kept⟩ := keeps h
    obtain ⟨u, h, kept'⟩ := required_keeps keeps n h
    exact ⟨u, h, kept' ∘ kept⟩

theorem optional_keeps (keeps : Leads step (Keeps i)) (greedy : Bool) : ∀ n, Leads (optional step greedy n) (Keeps i)
  | 0, s, _, _, h => ⟨s, h, id⟩
  | n + 1, s, next, u, h => by
    have more : (step s fun t => if s.position < t.position then optional step greedy n t next else next t) = some u →
        ∃ t, next t = some u ∧ Keeps i s t := by
      intro h
      obtain ⟨t, h, kept⟩ := keeps h
      split at h
      · obtain ⟨v, h, kept'⟩ := optional_keeps keeps greedy n h
        exact ⟨v, h, kept' ∘ kept⟩
      · exact ⟨t, h, kept⟩
    rw [optional] at h
    split at h
    · rcases Option.or_eq_some_iff.mp h with h | ⟨-, h⟩
      · exact more h
      · exact ⟨s, h, id⟩
    · rcases Option.or_eq_some_iff.mp h with h | ⟨-, h⟩
      · exact ⟨s, h, id⟩
      · exact more h

theorem skipText?_keeps (rule : Text.CaseRule) : ∀ (text : List Char) {s t : Cursor}, s.skipText? rule text = some t →
    Keeps i s t
  | [], s, t, h => by
    obtain rfl := Option.some.inj h
    exact id
  | c :: text, s, t, h => by
    rw [Cursor.skipText?] at h
    split at h
    · cases h
    · split at h
      · have kept := skipText?_keeps rule text h
        exact kept
      · cases h

theorem back?_keeps : ∀ (n : Nat) {s t : Cursor}, s.back? n = some t → Keeps i s t
  | 0, s, t, h => by
    obtain rfl := Option.some.inj h
    exact id
  | n + 1, s, t, h => by
    rw [Cursor.back?] at h
    split at h
    · cases h
    · have kept := back?_keeps n h
      exact kept

/-- A look keeps what was captured before it if what it found does. -/
theorem looked_keeps {wanted : Bool} {found : Option Cursor} {s : Cursor} {next : Cursor → Option Cursor} {u : Cursor}
    (h : looked wanted found s next = some u) (keeps : ∀ t, found = some t → Keeps i s t) :
    ∃ t, next t = some u ∧ Keeps i s t := by
  unfold looked at h
  split at h
  · rename_i t
    exact ⟨_, h, keeps t rfl⟩
  · exact ⟨s, h, id⟩
  · cases h

theorem captured_capture {t : Cursor} {j : Nat} {s : Cursor} (h : j = i ∨ t.Captured i) : (t.capture j s).Captured i := by
  rcases h with rfl | ⟨c, mem⟩
  · exact ⟨_, List.mem_cons_self⟩
  · by_cases same : i = j
    · exact ⟨_, List.mem_cons.mpr (Or.inl (Prod.ext same rfl))⟩
    · exact ⟨c, List.mem_cons_of_mem _ (List.mem_filter.mpr ⟨mem, by simpa using same⟩)⟩

theorem captured_enter {s : Cursor} {j : Nat} (ne : i ≠ j) (h : s.Captured i) : (s.enter j).Captured i := by
  obtain ⟨c, mem⟩ := h
  exact ⟨c, List.mem_filter.mpr ⟨mem, by simp [ne]⟩⟩

/-- Whatever is captured stays captured while an expression is matched. -/
theorem run_keeps (bound : Nat) (r : Regex) : Leads (run bound r) (Keeps i) := by
  induction r with
  | empty => exact fun h => ⟨_, h, id⟩
  | one set =>
    intro s next u h
    rw [run] at h
    split at h
    · cases h
    · split at h
      · exact ⟨_, h, id⟩
      · cases h
  | chars greedy least extra set =>
    intro s next u h
    obtain ⟨t, h, kept⟩ := requiredChars_keeps set least h
    obtain ⟨v, h, kept'⟩ := optionalChars_keeps set greedy _ h
    exact ⟨v, h, kept' ∘ kept⟩
  | seq a b iha ihb =>
    intro s next u h
    obtain ⟨t, h, kept⟩ := iha h
    obtain ⟨v, h, kept'⟩ := ihb h
    exact ⟨v, h, kept' ∘ kept⟩
  | alt a b iha ihb =>
    intro s next u h
    rcases Option.or_eq_some_iff.mp h with h | ⟨-, h⟩
    · exact iha h
    · exact ihb h
  | many greedy least extra body ih =>
    intro s next u h
    obtain ⟨t, h, kept⟩ := required_keeps ih least h
    obtain ⟨v, h, kept'⟩ := optional_keeps ih greedy _ h
    exact ⟨v, h, kept' ∘ kept⟩
  | group j body ih =>
    intro s next u h
    obtain ⟨t, h, kept⟩ := ih h
    refine ⟨_, h, fun captured => captured_capture ?_⟩
    by_cases same : j = i
    · exact Or.inl same
    · exact Or.inr (kept (captured_enter (Ne.symm same) captured))
  | again j rule =>
    intro s next u h
    obtain ⟨t, skipped, h⟩ := Option.bind_eq_some_iff.mp h
    obtain ⟨c, -, skipped⟩ := Option.bind_eq_some_iff.mp skipped
    exact ⟨t, h, skipText?_keeps rule _ skipped⟩
  | whether j yes no ihy ihn =>
    intro s next u h
    rw [run] at h
    split at h
    · exact ihy h
    · exact ihn h
  | once body ih =>
    intro s next u h
    obtain ⟨t, found, h⟩ := Option.bind_eq_some_iff.mp h
    obtain ⟨v, same, kept⟩ := ih found
    obtain rfl := Option.some.inj same
    exact ⟨v, h, kept⟩
  | place kind =>
    intro s next u h
    rw [run] at h
    split at h
    · exact ⟨s, h, id⟩
    · cases h
  | ahead wanted body ih =>
    intro s next u h
    refine looked_keeps h fun t found => ?_
    obtain ⟨v, same, kept⟩ := ih found
    obtain rfl := Option.some.inj same
    exact kept
  | behind wanted width body ih =>
    intro s next u h
    refine looked_keeps h fun t found => ?_
    obtain ⟨b, back, found⟩ := Option.bind_eq_some_iff.mp found
    obtain ⟨v, same, kept⟩ := ih found
    obtain rfl := Option.some.inj same
    exact kept ∘ back?_keeps width back

/-! ## Groups that every way passes -/

/-- Every way through the expression passes the group of a number. -/
def passes (i : Nat) : Regex → Bool
  | .empty | .one _ | .chars .. | .again .. | .place _ => false
  | .seq a b => a.passes i || b.passes i
  | .alt a b | .whether _ a b => a.passes i && b.passes i
  | .many _ least _ body => decide (0 < least) && body.passes i
  | .group j body => decide (j = i) || body.passes i
  | .once body => body.passes i
  | .ahead wanted body | .behind wanted _ body => wanted && body.passes i

/-- Where a step ends, the group is captured. -/
abbrev Remembers (i : Nat) (step : Step) : Prop := Leads step fun _ t => t.Captured i

theorem looked_remembers {found : Option Cursor} {s : Cursor} {next : Cursor → Option Cursor} {u : Cursor}
    (h : looked true found s next = some u) (remembers : ∀ t, found = some t → t.Captured i) :
    ∃ t, next t = some u ∧ t.Captured i := by
  unfold looked at h
  split at h
  · rename_i t _
    exact ⟨_, h, remembers t rfl⟩
  · contradiction
  · cases h

/-- A group that every way passes is captured where the expression ends. -/
theorem run_remembers (bound : Nat) (r : Regex) (passed : r.passes i = true) : Remembers i (run bound r) := by
  induction r with
  | empty | one | chars | again | place => cases passed
  | seq a b iha ihb =>
    intro s next u h
    rcases Bool.or_eq_true_iff.mp passed with passed | passed
    · obtain ⟨t, h, captured⟩ := iha passed h
      obtain ⟨v, h, kept⟩ := run_keeps bound b h
      exact ⟨v, h, kept captured⟩
    · obtain ⟨t, h, -⟩ := run_keeps (i := i) bound a h
      exact ihb passed h
  | alt a b iha ihb =>
    intro s next u h
    obtain ⟨first, second⟩ := Bool.and_eq_true_iff.mp passed
    rcases Option.or_eq_some_iff.mp h with h | ⟨-, h⟩
    · exact iha first h
    · exact ihb second h
  | many greedy least extra body ih =>
    intro s next u h
    obtain ⟨some, passed⟩ := Bool.and_eq_true_iff.mp passed
    obtain ⟨n, rfl⟩ : ∃ n, least = n + 1 := Nat.exists_eq_succ_of_ne_zero (Nat.ne_of_gt (of_decide_eq_true some))
    obtain ⟨t, h, captured⟩ := ih passed h
    obtain ⟨v, h, kept⟩ := required_keeps (run_keeps bound body) n h
    obtain ⟨w, h, kept'⟩ := optional_keeps (run_keeps bound body) greedy _ h
    exact ⟨w, h, kept' (kept captured)⟩
  | group j body ih =>
    intro s next u h
    rcases Bool.or_eq_true_iff.mp passed with same | passed
    · obtain ⟨t, h, -⟩ := run_keeps (i := i) bound body h
      exact ⟨_, h, captured_capture (Or.inl (of_decide_eq_true same))⟩
    · obtain ⟨t, h, captured⟩ := ih passed h
      exact ⟨_, h, captured_capture (Or.inr captured)⟩
  | whether j yes no ihy ihn =>
    intro s next u h
    obtain ⟨first, second⟩ := Bool.and_eq_true_iff.mp passed
    rw [run] at h
    split at h
    · exact ihy first h
    · exact ihn second h
  | once body ih =>
    intro s next u h
    obtain ⟨t, found, h⟩ := Option.bind_eq_some_iff.mp h
    obtain ⟨v, same, captured⟩ := ih passed found
    obtain rfl := Option.some.inj same
    exact ⟨v, h, captured⟩
  | ahead wanted body ih =>
    intro s next u h
    obtain ⟨rfl, passed⟩ := Bool.and_eq_true_iff.mp passed
    refine looked_remembers h fun t found => ?_
    obtain ⟨v, same, captured⟩ := ih passed found
    obtain rfl := Option.some.inj same
    exact captured
  | behind wanted width body ih =>
    intro s next u h
    obtain ⟨rfl, passed⟩ := Bool.and_eq_true_iff.mp passed
    refine looked_remembers h fun t found => ?_
    obtain ⟨b, -, found⟩ := Option.bind_eq_some_iff.mp found
    obtain ⟨v, same, captured⟩ := ih passed found
    obtain rfl := Option.some.inj same
    exact captured

end Regex

/-! ## Matches of patterns -/

namespace Pattern

variable {p : Pattern} {i bound : Nat}

theorem captured_matchAt (passed : p.regex.passes i = true) {s : Cursor} {mayBeEmpty : Bool} {m : Match}
    (h : p.matchAt bound s mayBeEmpty = some m) : ∃ c, (i, c) ∈ m.captures := by
  obtain ⟨u, found, rfl⟩ := Option.map_eq_some_iff.mp h
  obtain ⟨t, accepted, captured⟩ := Regex.run_remembers bound p.regex passed found
  split at accepted
  · cases accepted
  · obtain rfl := Option.some.inj accepted
    exact captured

theorem captured_matchesAt (passed : p.regex.passes i = true) {s : Cursor} {m : Match} (h : m ∈ p.matchesAt bound s) :
    ∃ c, (i, c) ∈ m.captures := by
  unfold matchesAt at h
  split at h
  · cases h
  · rename_i first found
    split at h
    · rcases List.mem_cons.mp h with rfl | h
      · exact captured_matchAt passed found
      · exact captured_matchAt passed (Option.mem_toList.mp h)
    · rw [List.mem_singleton.mp h]
      exact captured_matchAt passed found

theorem captured_findFrom (passed : p.regex.passes i = true) {m : Match} (text before : List Char)
    (position resume : Nat) (h : m ∈ p.findFrom bound before position resume text) : ∃ c, (i, c) ∈ m.captures := by
  induction text generalizing before position resume with
  | nil =>
    rw [findFrom] at h
    split at h
    · cases h
    · exact captured_matchesAt passed h
  | cons c rest ih =>
    rw [findFrom] at h
    split at h
    · exact ih _ _ _ h
    · dsimp only at h
      split at h
      · exact ih _ _ _ h
      · rcases List.mem_append.mp h with h | h
        · exact captured_matchesAt passed h
        · exact ih _ _ _ h

/-- A group that every way through the pattern passes has captured something in each match. -/
theorem group?_of_mem_findAll (passed : p.regex.passes i = true) {text : List Char} {m : Match}
    (h : m ∈ p.findAll text) : ∃ c, m.group? i = some c := by
  obtain ⟨c, mem⟩ := captured_findFrom passed text [] 0 0 h
  unfold Match.group?
  cases found : m.captures.lookup i with
  | some c => exact ⟨c, rfl⟩
  | none =>
    have missed := List.lookup_eq_none_iff.mp found (i, c) mem
    simp at missed

end Pattern

end CodeAtlas
