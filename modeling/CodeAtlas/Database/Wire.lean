import CodeAtlas.Database.Statement
import CodeAtlas.Document.Key
import CodeAtlas.Environment

/-!
# Talking to a database

A wire to a database: what the database will reply, and all calls made so far. Every operation appends its calls, and each
statement takes up the next reply, also if that reply is a failure. A database that has run out of prepared replies answers
with the number one.
-/

namespace CodeAtlas

/-- Why a database does not open. -/
inductive RefusalKind where
  | unavailable
  | unauthorized
  | other
deriving Repr, DecidableEq

/-- A database that does not open, and what it says. -/
structure Refusal where
  kind : RefusalKind
  text : String
deriving Repr, DecidableEq

/-- What a statement gives: a single record, if there is one, or a list of records. -/
inductive Rows where
  | single (record : Option Document)
  | records (records : List Document)

/-- The reply to a statement. -/
inductive Reply where
  | failure (text : String)
  | rows (rows : Rows)

/-- A call on a wire. -/
inductive Call where
  | connect (credentials : Credentials)
  | run (statement : Statement)
  | close

/-- Why an operation on a database fails. -/
inductive DatabaseError where
  | refused (refusal : Refusal)
  | failed (text : String)
  /-- A record lacks a field. -/
  | missingField (name : String)
  /-- A list of records was expected, or a record has no fields, or a value that cannot be counted under. -/
  | badRecord
  | batchSize (size : Int)
deriving Repr, DecidableEq

/-- What the error says. -/
def DatabaseError.message : DatabaseError → String
  | refused refusal => refusal.text
  | failed text => text
  | missingField name => String.ofList (Text.quoted name.toList)
  | badRecord => "bad record"
  | batchSize size => "batch_size must be at least 1, got " ++ toString size

/-- A wire to a database. -/
structure Wire where
  /-- Why the database does not open, if it does not. -/
  refusal : Option Refusal
  replies : List Reply
  calls : List Call

/-- How many nodes and edges were stored. -/
structure Counts where
  nodes : Nat
  edges : Nat
deriving Repr, DecidableEq

namespace Wire

/-- The reply of a database that is well. -/
def defaultReply : Reply := .rows (.single (some (.object [("result", .nat 1)])))

/-- Opens the database. -/
def connect (w : Wire) (c : Credentials) : Wire × Except DatabaseError Unit :=
  ({ w with calls := w.calls ++ [.connect c] }, match w.refusal with | some r => .error (.refused r) | none => .ok ())

/-- Closes the database. -/
def close (w : Wire) : Wire := { w with calls := w.calls ++ [.close] }

/-- The wire after a statement. -/
def sent (w : Wire) (s : Statement) : Wire := { w with replies := w.replies.drop 1, calls := w.calls ++ [.run s] }

/-- Runs a statement. -/
def run (w : Wire) (s : Statement) : Wire × Except DatabaseError Rows :=
  (w.sent s, match w.replies.head?.getD defaultReply with | .failure text => .error (.failed text) | .rows r => .ok r)

/-- Runs statements until one fails. -/
def runAll (w : Wire) : List Statement → Wire × Except DatabaseError Unit
  | [] => (w, .ok ())
  | s :: rest =>
    match w.run s with
    | (w, .error e) => (w, .error e)
    | (w, .ok _) => runAll w rest

/-- Runs all statements, whether they fail or not. -/
def tryAll (w : Wire) (statements : List Statement) : Wire := statements.foldl (fun w s => (w.run s).1) w

/-! ## Operations -/

/-- The value is the number one. -/
def isOne (d : Document) : Bool := d.key? = some (.number 1 0)

/-- The single record has the number one as its result. -/
def answersOne : Rows → Bool
  | .single (some (.object fields)) => (Document.field? fields "result").any isOne
  | _ => false

/-- The database answers. -/
def verify (w : Wire) : Wire × Bool :=
  match w.run .probe with
  | (w, .ok rows) => (w, answersOne rows)
  | (w, .error _) => (w, false)

/-- Creates the indexes; one that cannot be created does no harm. -/
def createIndexes (w : Wire) : Wire := w.tryAll (PropertyIndex.all.map .createIndex)

/-- Stores a graph in batches of the given size. -/
def storeGraph (w : Wire) (size : Int) (repository : String) (g : Graph) : Wire × Except DatabaseError Counts :=
  if size < 1 then (w, .error (.batchSize size))
  else
    let (w, outcome) := w.runAll (Statement.ofGraph size.toNat repository g)
    (w, outcome.map fun _ => ⟨g.nodes.length, g.edges.length⟩)

/-- Stores a dependency map; returns the number of links. -/
def storeDependencies (w : Wire) (repository : String) (m : DependencyMap) : Wire × Except DatabaseError Nat :=
  let (w, outcome) := w.runAll (Statement.ofDependencies repository m)
  (w, outcome.map fun _ => m.links.length)

/-- Deletes a repository, or everything if no name is given. -/
def clear (w : Wire) (repository : String) : Wire × Except DatabaseError Unit := w.runAll [.clear repository]

/-! ## Statistics -/

/-- The field of a record. -/
def fieldOf (name : String) : Document → Except DatabaseError Document
  | .object fields => (Document.field? fields name).elim (.error (.missingField name)) .ok
  | _ => .error .badRecord

/-- Counts a record under the value of a field; later records win. -/
def countRecord (field : String) (counts : Keyed Document) (record : Document) :
    Except DatabaseError (Keyed Document) := do
  let value ← fieldOf field record
  let count ← fieldOf "count" record
  (counts.put? value count).elim (.error .badRecord) .ok

/-- The counts of records by a field. -/
def countsBy (field : String) : Rows → Except DatabaseError (Keyed Document)
  | .records records => records.foldlM (countRecord field) .empty
  | .single _ => .error .badRecord

/-- The number of nodes by label and of edges by type. -/
structure Statistics where
  nodes : Keyed Document
  edges : Keyed Document

/-- Runs a statement and counts its records by a field. -/
def counted (w : Wire) (s : Statement) (field : String) : Wire × Except DatabaseError (Keyed Document) :=
  let (w, outcome) := w.run s
  (w, outcome.bind (countsBy field))

/-- Asks for the statistics of the database. -/
def statistics (w : Wire) : Wire × Except DatabaseError Statistics :=
  match w.counted .countNodes "label" with
  | (w, .error e) => (w, .error e)
  | (w, .ok nodes) =>
    let (w, outcome) := w.counted .countEdges "type"
    (w, outcome.map fun edges => ⟨nodes, edges⟩)

end Wire

end CodeAtlas
