import Mathlib.Data.List.Forall2

/-!
# Outcomes that may be errors

When a computation that is made of parts succeeds, its parts succeed (`map_eq_ok_iff`, `bind_eq_ok_iff`), one part for
each member if it goes through a list (`mapM_eq_ok_iff`). A computation whose parts succeed succeeds (`Gives`).

Two outcomes are related if they are the same error or both succeed with related values (`Related`); computations made of
related parts are related.
-/

/-- Every member of the second list has a partner in the first. -/
theorem List.Forall₂.exists_of_mem_right {α β : Type} {R : α → β → Prop} {l : List α} {ys : List β} {y : β}
    (h : List.Forall₂ R l ys) (mem : y ∈ ys) : ∃ x ∈ l, R x y := by
  induction h with
  | nil => cases mem
  | @cons x _ l _ first _ ih =>
    rcases List.mem_cons.mp mem with rfl | mem
    · exact ⟨x, List.mem_cons_self, first⟩
    · obtain ⟨x, member, related⟩ := ih mem
      exact ⟨x, List.mem_cons_of_mem _ member, related⟩

namespace Except

variable {ε ε' α β γ δ : Type}

theorem map_eq_ok_iff {x : Except ε α} {f : α → β} {b : β} : x.map f = .ok b ↔ ∃ a, x = .ok a ∧ f a = b := by
  cases x with
  | error e => simp [Except.map]
  | ok a => simp [Except.map]

theorem bind_eq_ok_iff {x : Except ε α} {f : α → Except ε β} {b : β} :
    (x >>= f) = .ok b ↔ ∃ a, x = .ok a ∧ f a = .ok b := by
  cases x with
  | error e => simp [bind, Except.bind]
  | ok a => simp [bind, Except.bind]

theorem mapError_eq_ok_iff {x : Except ε α} {f : ε → ε'} {a : α} : x.mapError f = .ok a ↔ x = .ok a := by
  cases x with
  | error e => simp [Except.mapError]
  | ok a => simp [Except.mapError]

theorem mapM_eq_ok_iff {f : α → Except ε β} {l : List α} {ys : List β} :
    l.mapM f = .ok ys ↔ List.Forall₂ (fun x y => f x = .ok y) l ys := by
  induction l generalizing ys with
  | nil =>
    rw [List.mapM_nil, List.forall₂_nil_left_iff]
    exact ⟨fun h => (Except.ok.inj h).symm, fun h => h ▸ rfl⟩
  | cons x l ih =>
    rw [List.mapM_cons, List.forall₂_cons_left_iff, bind_eq_ok_iff]
    constructor
    · rintro ⟨y, hy, h⟩
      obtain ⟨ys', hys, h⟩ := bind_eq_ok_iff.mp h
      exact ⟨y, ys', hy, ih.mp hys, (Except.ok.inj h).symm⟩
    · rintro ⟨y, ys', hy, hys, rfl⟩
      exact ⟨y, hy, bind_eq_ok_iff.mpr ⟨ys', ih.mpr hys, rfl⟩⟩

theorem map_eq_error_iff {x : Except ε α} {f : α → β} {e : ε} : x.map f = .error e ↔ x = .error e := by
  cases x with
  | error e' => simp [Except.map]
  | ok a => simp [Except.map]

/-- A computation through a list fails only as it fails at a member. -/
theorem exists_of_mapM_error {f : α → Except ε β} {l : List α} {e : ε} (h : l.mapM f = .error e) :
    ∃ x ∈ l, f x = .error e := by
  induction l with
  | nil => cases h
  | cons x l ih =>
    rw [List.mapM_cons] at h
    cases first : f x with
    | error e' =>
      rw [first] at h
      obtain rfl : e' = e := Except.error.inj h
      exact ⟨x, List.mem_cons_self, first⟩
    | ok y =>
      rw [first] at h
      cases others : l.mapM f with
      | error e' =>
        rw [others] at h
        obtain rfl : e' = e := Except.error.inj h
        obtain ⟨x', mem, failed⟩ := ih others
        exact ⟨x', List.mem_cons_of_mem x mem, failed⟩
      | ok ys =>
        rw [others] at h
        cases h

/-- A computation that carries a value through a list fails only as it fails at a member. -/
theorem exists_of_foldlM_error {f : α → β → Except ε α} {l : List β} {a : α} {e : ε} (h : l.foldlM f a = .error e) :
    ∃ a', ∃ y ∈ l, f a' y = .error e := by
  induction l generalizing a with
  | nil => cases h
  | cons y l ih =>
    rw [List.foldlM_cons] at h
    cases first : f a y with
    | error e' =>
      rw [first] at h
      obtain rfl : e' = e := Except.error.inj h
      exact ⟨a, y, List.mem_cons_self, first⟩
    | ok a' =>
      rw [first] at h
      obtain ⟨a'', y', mem, failed⟩ := ih h
      exact ⟨a'', y', List.mem_cons_of_mem y mem, failed⟩

/-- Every value of a computation through a list comes from a member. -/
theorem exists_of_mem_mapM {f : α → Except ε β} {l : List α} {ys : List β} (h : l.mapM f = .ok ys) {y : β} (mem : y ∈ ys) :
    ∃ x ∈ l, f x = .ok y :=
  (mapM_eq_ok_iff.mp h).exists_of_mem_right mem

/-- A computation through a list that never fails is a map. -/
theorem mapM_eq_ok_map {f : α → Except ε β} {g : α → β} {l : List α} (h : ∀ x ∈ l, f x = .ok (g x)) :
    l.mapM f = .ok (l.map g) :=
  mapM_eq_ok_iff.mpr (List.forall₂_map_right_iff.mpr (List.forall₂_same.mpr h))

/-- A computation through a list depends on what it does at the members. -/
theorem mapM_congr {f g : α → Except ε β} {l : List α} (same : ∀ x ∈ l, f x = g x) : l.mapM f = l.mapM g := by
  induction l with
  | nil => rfl
  | cons x l ih =>
    obtain ⟨first, rest⟩ := List.forall_mem_cons.mp same
    rw [List.mapM_cons, List.mapM_cons, first, ih rest]

/-- The error, if there is one. -/
def error? : Except ε α → Option ε
  | .error e => some e
  | .ok _ => none

theorem error?_eq_some_iff {x : Except ε α} {e : ε} : x.error? = some e ↔ x = .error e := by
  cases x with
  | error e' => simp [error?]
  | ok a => simp [error?]

/-- The outcome is a value that has the property. -/
def Gives (x : Except ε α) (P : α → Prop) : Prop := ∃ a, x = .ok a ∧ P a

/-- The outcome is no error. -/
abbrev Succeeds (x : Except ε α) : Prop := x.Gives fun _ => True

namespace Gives

variable {x : Except ε α} {P : α → Prop} {Q : β → Prop}

theorem ok {a : α} (h : P a) : Gives (.ok a : Except ε α) P := ⟨a, rfl, h⟩

theorem of_isOk (h : x.isOk = true) : x.Succeeds := by
  cases x with
  | error e => cases h
  | ok a => exact ok trivial

theorem map (h : x.Gives P) {f : α → β} (step : ∀ a, P a → Q (f a)) : (x.map f).Gives Q := by
  obtain ⟨a, rfl, ha⟩ := h
  exact ok (step a ha)

theorem mapError (h : x.Gives P) (f : ε → ε') : (x.mapError f).Gives P := by
  obtain ⟨a, rfl, ha⟩ := h
  exact ok ha

theorem bind (h : x.Gives P) {f : α → Except ε β} (step : ∀ a, P a → (f a).Gives Q) : (x >>= f).Gives Q := by
  obtain ⟨a, rfl, ha⟩ := h
  exact step a ha

theorem mapM {f : α → Except ε β} {l : List α} (h : ∀ x ∈ l, (f x).Succeeds) : (l.mapM f).Succeeds := by
  induction l with
  | nil => exact ok trivial
  | cons x l ih =>
    rw [List.mapM_cons]
    refine (h x List.mem_cons_self).bind fun y _ => ?_
    exact (ih fun z hz => h z (List.mem_cons_of_mem x hz)).bind fun _ _ => ok trivial

/-- A computation through a list succeeds only if it succeeds at every member. -/
theorem of_mapM {f : α → Except ε β} {l : List α} {ys : List β} (h : l.mapM f = .ok ys) : ∀ x ∈ l, (f x).Succeeds := by
  induction mapM_eq_ok_iff.mp h with
  | nil => nofun
  | cons first rest ih => exact List.forall_mem_cons.mpr ⟨⟨_, first, trivial⟩, ih (mapM_eq_ok_iff.mpr rest)⟩

theorem foldlM {f : α → β → Except ε α} (step : ∀ a y, P a → (f a y).Gives P) (l : List β) {a : α} (h : P a) :
    (l.foldlM f a).Gives P := by
  induction l generalizing a with
  | nil => exact ok h
  | cons y l ih =>
    rw [List.foldlM_cons]
    exact (step a y h).bind fun _ => ih

end Gives

/-- Both outcomes are the same error, or both succeed with related values. -/
inductive Related (R : α → β → Prop) : Except ε α → Except ε β → Prop
  | error (e : ε) : Related R (.error e) (.error e)
  | ok {a : α} {b : β} (related : R a b) : Related R (.ok a) (.ok b)

namespace Related

variable {R : α → β → Prop} {S : γ → δ → Prop} {x : Except ε α} {y : Except ε β}

theorem map (h : Related R x y) {f : α → γ} {g : β → δ} (step : ∀ a b, R a b → S (f a) (g b)) :
    Related S (x.map f) (y.map g) := by
  cases h with
  | error e => exact .error e
  | ok related => exact .ok (step _ _ related)

theorem mapError (h : Related R x y) (f : ε → ε') : Related R (x.mapError f) (y.mapError f) := by
  cases h with
  | error e => exact .error (f e)
  | ok related => exact .ok related

theorem bind (h : Related R x y) {f : α → Except ε γ} {g : β → Except ε δ}
    (step : ∀ a b, R a b → Related S (f a) (g b)) : Related S (x >>= f) (y >>= g) := by
  cases h with
  | error e => exact .error e
  | ok related => exact step _ _ related

theorem error_left {e : ε} (h : Related R (.error e) y) : y = .error e := by
  cases h
  rfl

theorem ok_left {a : α} (h : Related R (.ok a : Except ε α) y) : ∃ b, y = .ok b ∧ R a b := by
  cases h with
  | ok related => exact ⟨_, rfl, related⟩

/-- Lists of related outcomes are the same error or succeed with lists of related values. -/
theorem mapM {xs : List (Except ε α)} {ys : List (Except ε β)} (h : List.Forall₂ (Related R) xs ys) :
    Related (List.Forall₂ R) (xs.mapM id) (ys.mapM id) := by
  induction h with
  | nil => exact .ok .nil
  | cons first _ ih =>
    rw [List.mapM_cons, List.mapM_cons]
    exact first.bind fun _ _ related => ih.bind fun _ _ rest => .ok (.cons related rest)

/-- Outcomes that do not differ, for values that are related to themselves. -/
theorem of_eq {R : α → α → Prop} {x : Except ε α} (step : ∀ a, x = .ok a → R a a) : Related R x x := by
  cases x with
  | error e => exact .error e
  | ok a => exact .ok (step a rfl)

end Related

end Except
