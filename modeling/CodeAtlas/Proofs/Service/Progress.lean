import CodeAtlas.Proofs.Service.Exports

/-!
# How far an export of a service gets

A service that has analyzed something exports what its plan says, as far as the database lets it, and tells success exactly
if the export is done (`exportTo_proceeds`). A failure can strike at any statement; the calls made before it stay, and a
database that was opened is closed in any case.
-/

namespace CodeAtlas

/-- The answer tells success. -/
def Answer.isDone : Answer → Bool
  | .done _ => true
  | .refused _ => false

namespace Service

theorem isDone_exportAnswer (x : Export) (outcome : Except ExportError Unit) :
    (exportAnswer x outcome).isDone = outcome.isOk := by
  cases outcome <;> rfl

/-- A service that has analyzed something and whose settings can be read opens the database, sends a beginning of the plan
for its graph and dependency map, closes the database if it opened, and tells success exactly if the export is done. If its
settings cannot be read, no call is made. -/
theorem exportTo_proceeds {s : Service} {c : Analyzed} (analyzed : s.tool.bind (·.current) = some c) (w : Wire)
    (repository : String) (clear : Bool) :
    (∀ e, s.settings = .error e → s.exportTo w repository clear = (w, .error e)) ∧
      ∀ settings, s.settings = .ok settings → ∃ sent answer,
        (s.exportTo w repository clear).2 = .ok answer ∧
        (exportOf c.analyzer repository clear).Proceeds w sent answer.isDone ∧
        (s.exportTo w repository clear).1.calls =
          w.calls ++ .connect settings.database :: if w.refusal = none then sent.map .run ++ [.close] else [] := by
  refine ⟨fun e unreadable => ?_, fun settings readable => ?_⟩
  · simp only [exportTo, analyzed, unreadable]
  · simp only [exportTo, analyzed, readable]
    obtain ⟨sent, proceeds, calls⟩ := (exportOf c.analyzer repository clear).send_proceeds settings.database w
    refine ⟨sent, _, rfl, ?_, calls⟩
    rw [isDone_exportAnswer]
    exact proceeds

end Service

/-! ## An export that meets a failure -/

namespace Sample

/-- A database that opens and answers, but refuses to create the first index. -/
def crowded : Wire := ⟨none, [Wire.defaultReply, .failure "busy"], []⟩

theorem crowded_passes {i : Nat} (late : Export.firstWrite ≤ i) : crowded.failsAt i = false := by
  have beyond : crowded.replies[i]? = none := List.getElem?_eq_none (Nat.le_trans (by decide) late)
  rw [Wire.failsAt, Wire.reply, beyond]
  rfl

end Sample

/-- The service that has analyzed an empty workspace exports it though an index cannot be created. -/
theorem sample_proceeds : ∃ c settings, Sample.service.tool.bind (·.current) = some c ∧
    Sample.service.settings = .ok settings ∧ Sample.crowded.failsAt 1 = true ∧ ∃ (sent : List Statement) (answer : Answer),
      (Sample.service.exportTo Sample.crowded "demo" true).2 = .ok answer ∧ answer.isDone = true ∧
      (Sample.service.exportTo Sample.crowded "demo" true).1.calls =
        .connect settings.database :: (sent.map .run ++ [.close]) := by
  have analyzed : (Sample.service.tool.bind (·.current)).isSome = true := by decide +kernel
  have readable : Sample.service.settings.isOk = true := by decide +kernel
  obtain ⟨c, current⟩ := Option.isSome_iff_exists.mp analyzed
  cases read : Sample.service.settings with
  | error e =>
    rw [read] at readable
    cases readable
  | ok settings =>
    obtain ⟨sent, answer, answered, proceeds, calls⟩ :=
      (Service.exportTo_proceeds current Sample.crowded "demo" true).2 settings read
    have ready : Sample.crowded.isReady = true := by decide +kernel
    have done := proceeds.completed.mpr ⟨ready, fun i late _ => Sample.crowded_passes late⟩
    exact ⟨c, settings, current, rfl, rfl, sent, answer, answered, done, calls⟩

end CodeAtlas
