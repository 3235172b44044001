import CodeAtlas.Proofs.Path.Canonical
import CodeAtlas.Proofs.Resolver.Relative

/-!
# Directories, however they are spelled

A directory that starts with no slash is looked at in its normal form (`relativeDirectory_of_relative`), and a resolver sees
nothing else of it (`resolve_congr`, `resolveDotted_congr`, `resolveNames_congr`). Normalising refuses exactly the paths that
climb out, and a path may be followed from a directory or from its normal form (`normalize_composes`). So what an import leads
to does not depend on how the directory of the importing file is spelled.
-/

namespace CodeAtlas.Resolver

open CodeAtlas.Path

variable {r : Resolver} {directory directory' : String}

section Congruence

variable (same : r.relativeDirectory directory = r.relativeDirectory directory')

include same

theorem resolve_congr (specifier : String) : r.resolve specifier directory = r.resolve specifier directory' := by
  simp only [resolve, target?, same]

theorem resolveDotted_congr (module : String) : r.resolveDotted module directory = r.resolveDotted module directory' := by
  simp only [resolveDotted, dottedCandidates, same]

theorem resolveNames_congr (module : String) (names : List String) :
    r.resolveNames module names directory = r.resolveNames module names directory' := by
  have members : r.resolveMember module directory = r.resolveMember module directory' :=
    funext fun name => by simp only [resolveMember, resolveDotted_congr same]
  simp only [resolveNames, members, resolveDotted_congr same]

end Congruence

/-- Among paths that start with no slash normalising refuses exactly those that climb out. A path below a directory has the
same normal form as below the normal form of the directory, and none if the directory has none. So a resolver does not tell
apart directories of one normal form. -/
theorem normalize_composes :
    (∀ text, ¬ StartsWithSlash text → (normalize text = none ↔ ClimbsOut text)) ∧
    (∀ directory path, ¬ StartsWithSlash directory → ¬ StartsWithSlash path →
      (normalize directory = none → normalize (join directory path) = none) ∧
      ∀ here, normalize directory = some here → normalize (join directory path) = normalize (join here path)) ∧
    ∀ (r : Resolver) (directory directory' : String), ¬ StartsWithSlash directory → ¬ StartsWithSlash directory' →
      normalize directory = normalize directory' →
      (∀ specifier, r.resolve specifier directory = r.resolve specifier directory') ∧
      (∀ module, r.resolveDotted module directory = r.resolveDotted module directory') ∧
      ∀ module names, r.resolveNames module names directory = r.resolveNames module names directory' := by
  refine ⟨fun text => normalize_eq_none_iff, fun directory path inside relative => ?_, ?_⟩
  · rw [normalize_join_eq_bind inside relative]
    exact ⟨fun none => by rw [none, Option.bind_none], fun here some => by rw [some, Option.bind_some]⟩
  · intro r directory directory' inside inside' spelled
    have same : r.relativeDirectory directory = r.relativeDirectory directory' := by
      rw [relativeDirectory_of_relative r inside, relativeDirectory_of_relative r inside', spelled]
    exact ⟨resolve_congr same, resolveDotted_congr same, resolveNames_congr same⟩

/-- A path that climbs out and comes back is refused, and a directory with dots in it is as good as one without. -/
theorem sample_composes :
    (¬ StartsWithSlash "a/.//../../b" ∧ ClimbsOut "a/.//../../b" ∧ normalize "a/.//../../b" = none) ∧
      (normalize "src/./ui/.." = some "src" ∧
        normalize (join "src/./ui/.." "../lib") = normalize (join "src" "../lib")) ∧
      ∀ r : Resolver, r.resolve "./a" "src/./ui/.." = r.resolve "./a" "src" ∧
        r.resolveDotted "..util" "src/./ui/.." = r.resolveDotted "..util" "src" := by
  obtain ⟨refused, below, resolved⟩ := normalize_composes
  have relative : ¬ StartsWithSlash "a/.//../../b" := by decide
  have climbs : ClimbsOut "a/.//../../b" := ⟨["a", ".", "", "..", ".."], by decide, by decide⟩
  have spelled : normalize "src/./ui/.." = some "src" := by decide +kernel
  have plain : normalize "src" = some "src" := by decide +kernel
  refine ⟨⟨relative, climbs, (refused _ relative).mpr climbs⟩, ⟨spelled, ?_⟩, fun r => ?_⟩
  · exact (below "src/./ui/.." "../lib" (by decide) (by decide)).2 "src" spelled
  · obtain ⟨specifiers, modules, -⟩ :=
      resolved r "src/./ui/.." "src" (by decide) (by decide) (spelled.trans plain.symm)
    exact ⟨specifiers "./a", modules "..util"⟩

end CodeAtlas.Resolver
