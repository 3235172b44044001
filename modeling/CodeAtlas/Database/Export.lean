import CodeAtlas.Database.Wire

/-!
# Exports

An export opens the database, asks whether it answers, creates indexes, deletes what was stored before if that is wanted,
and stores the graph and the dependency map. Nothing is written to a database that does not answer, the first write that
fails ends the export, and a database that was opened is closed at the end.
-/

namespace CodeAtlas

/-- Why an export fails. -/
inductive ExportError where
  /-- The database does not answer. -/
  | unreachable (uri : String)
  | database (error : DatabaseError)
deriving Repr, DecidableEq

/-- What the error says. -/
def ExportError.message : ExportError → String
  | unreachable uri => "Cannot reach Neo4j at " ++ uri
  | database error => error.message

/-- What is exported. -/
structure Export where
  repository : String
  /-- Delete first what is stored for the repository. -/
  clear : Bool
  graph : Graph
  dependencies : DependencyMap

namespace Export

/-- How many rows one statement carries. -/
def batchSize : Nat := 1000

/-- The statements that change stored data. -/
def writes (x : Export) : List Statement :=
  (if x.clear then [Statement.clear x.repository] else []) ++ Statement.ofGraph batchSize x.repository x.graph ++
    Statement.ofDependencies x.repository x.dependencies

/-- All statements of an export that meets no failure. -/
def plan (x : Export) : List Statement := .probe :: PropertyIndex.all.map .createIndex ++ x.writes

/-- Exports through a wire. -/
def send (x : Export) (c : Credentials) (w : Wire) : Wire × Except ExportError Unit :=
  match w.connect c with
  | (w, .error e) => (w, .error (.database e))
  | (w, .ok ()) =>
    match w.verify with
    | (w, false) => (w.close, .error (.unreachable c.uri))
    | (w, true) =>
      let (w, outcome) := w.createIndexes.runAll x.writes
      (w.close, outcome.mapError .database)

end Export

end CodeAtlas
