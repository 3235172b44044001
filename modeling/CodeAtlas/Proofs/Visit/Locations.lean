import CodeAtlas.Proofs.Graph.Edges
import CodeAtlas.Proofs.Text.Position
import CodeAtlas.Proofs.Visit.Outline
import CodeAtlas.Proofs.Visit.Subtree

/-!
# Elements and the text at their places

Every element that a visit finds was declared by a node of the tree (`walkTree_standAt`), so its location and its
implementation are those of one node. From the location the bytes of the node can be found again: reading the parsed text
from the place where an element starts up to the place where it ends gives its implementation, over as many rows as the
location says (`visit_isQuoted`).
-/

namespace CodeAtlas

/-! ## Where elements come from -/

/-- The element stands where the node does. -/
structure Element.StandsAt (source : List UInt8) (n : Node) (e : Element) : Prop where
  location : e.location = Visit.locationOf source n
  implementation : e.implementation = n.text source

namespace Visit

variable {s : Subject}

/-- The collected elements stand at nodes that have the property. -/
def StandAt (s : Subject) (P : Node → Prop) (m : Moment) : Prop := ∀ e ∈ m.elements, ∃ n, P n ∧ e.StandsAt s.source n

/-- A node with the property that is handled adds at most an element that stands at it. -/
theorem keeps_standAt (s : Subject) (P : Node → Prop) : Keeps s P (StandAt s P) where
  handled {ancestors scope n st out st'} holds stand handled := by
    unfold StandAt Moment.elements at stand ⊢
    cases handle_declares handled with
    | nothing _ same =>
      rw [same.elements]
      exact stand
    | element _ kind name same _ =>
      rw [same.elements, declare_elements, List.forall_mem_append, List.forall_mem_singleton]
      exact ⟨stand, n, holds, rfl, rfl⟩
  left stand := stand

/-- The elements that are found in a tree stand at nodes of the tree. -/
theorem walkTree_standAt {root : Node} {found : Findings} (h : walkTree s root = .ok found) :
    ∀ e ∈ found.elements, ∃ n ∈ root.subtree, e.StandsAt s.source n := by
  obtain ⟨m, stand, rfl⟩ := (keeps_standAt s (· ∈ root.subtree)).walkTree (List.forall_mem_nil _) h
  exact stand

end Visit

/-! ## Whole files -/

/-- The nodes of the tree of a file, none if there is no tree. -/
def SourceFile.nodes (src : SourceFile) : List Node := src.tree.elim [] (·.root.subtree)

/-- The bytes that the parser of a file reads; none if the file does not get as far as its parser. -/
def Setup.parsedBytes (s : Setup) (file : String) (src : SourceFile) : List UInt8 :=
  match Visit.prepare s.registry file src.text with
  | .ok (.ok p) => Text.encode p.text
  | _ => []

/-- A visit that succeeds prepared the file and walked its tree. -/
theorem Setup.visit_walks {s : Setup} {r : Resolver} {runId : String} {ordinal : Nat} {file : String} {src : SourceFile}
    {result : FileResult} {found : Findings} (visited : s.visit r runId ordinal file src = .ok result)
    (ok : result.outcome = .ok found) : ∃ p t, Visit.prepare s.registry file src.text = .ok (.ok p) ∧ src.tree = some t ∧
      Visit.walkTree (Visit.subject p (some r) runId file ordinal) t.root = .ok found := by
  unfold visit at visited
  split at visited
  · cases visited
  · obtain ⟨prepared, prepares, rfl⟩ := Except.map_eq_ok_iff.mp visited
    obtain ⟨p, rfl, finds⟩ := Except.bind_eq_ok_iff.mp (Except.mapError_eq_ok_iff.mp ok)
    cases tree : src.tree with
    | none =>
      rw [tree] at finds
      cases finds
    | some t =>
      rw [tree, Visit.findings] at finds
      split at finds
      · cases finds
      · exact ⟨p, t, Except.mapError_eq_ok_iff.mp prepares, rfl, finds⟩

/-- The elements that a visit finds stand at nodes of the file's tree. -/
theorem Setup.visit_standAt {s : Setup} {r : Resolver} {runId : String} {ordinal : Nat} {file : String} {src : SourceFile}
    {result : FileResult} {found : Findings} (visited : s.visit r runId ordinal file src = .ok result)
    (ok : result.outcome = .ok found) :
    ∀ e ∈ found.elements, ∃ n ∈ src.nodes, e.StandsAt (s.parsedBytes file src) n := by
  obtain ⟨p, t, prepared, tree, walked⟩ := visit_walks visited ok
  have bytes : s.parsedBytes file src = Text.encode p.text := by rw [parsedBytes, prepared]
  rw [bytes, SourceFile.nodes, tree]
  exact Visit.walkTree_standAt walked

/-! ## From locations back to bytes -/

namespace Location

/-- The offset of a line, counted from one, and a column. -/
def offsetIn? (bytes : List UInt8) (line column : Int) : Option Nat :=
  if 1 ≤ line ∧ 0 ≤ column then Text.Position.offsetAt? bytes (line - 1).toNat column.toNat else none

/-- The bytes from the start of a location up to its end. -/
def bytesIn? (bytes : List UInt8) (l : Location) : Option (List UInt8) := do
  let start ← offsetIn? bytes l.startLine l.startColumn
  let stop ← offsetIn? bytes l.endLine l.endColumn
  return Text.slice bytes start stop

end Location

theorem Visit.bytesIn?_locationOf {bytes : List UInt8} {n : Node} (start : n.start ≤ n.stop) (stop : n.stop ≤ bytes.length) :
    (locationOf bytes n).bytesIn? bytes = some (Text.slice bytes n.start n.stop) := by
  have back : ∀ offset ≤ bytes.length, Location.offsetIn? bytes ((Text.Position.ofOffset bytes offset).row + 1)
      (Text.Position.ofOffset bytes offset).column = some offset := by
    intro offset le
    rw [Location.offsetIn?, if_pos (by omega), Int.add_sub_cancel, Int.toNat_natCast, Int.toNat_natCast,
      Text.Position.offsetAt?_ofOffset le]
  simp only [Location.bytesIn?, locationOf]
  rw [back n.start (Nat.le_trans start stop), back n.stop stop]
  rfl

/-- The element's implementation is the text that stands in the bytes at its location, which goes over as many newlines as
lines. -/
def Element.IsQuoted (bytes : List UInt8) (e : Element) : Prop :=
  ∃ part, e.location.bytesIn? bytes = some part ∧ String.ofList (Text.decodeLossy part) = e.implementation ∧
    e.location.endLine - e.location.startLine = part.count Text.newlineByte

theorem Element.StandsAt.isQuoted {bytes : List UInt8} {n : Node} {e : Element} (h : e.StandsAt bytes n)
    (start : n.start ≤ n.stop) (stop : n.stop ≤ bytes.length) : e.IsQuoted bytes := by
  refine ⟨Text.slice bytes n.start n.stop, ?_, h.implementation.symm, ?_⟩
  · rw [h.location]
    exact Visit.bytesIn?_locationOf start stop
  · have rows := Text.Position.row_ofOffset bytes start
    rw [h.location]
    simp only [Visit.locationOf]
    omega

/-- If every node of a tree ends in the parsed text and not before it starts, then every element of a visit that succeeds is
quoted from the parsed text: the bytes between the start and the end of its location are those of its implementation, and
have as many newlines as the location has further lines. -/
theorem Setup.visit_isQuoted {s : Setup} {r : Resolver} {runId : String} {ordinal : Nat} {file : String} {src : SourceFile}
    {result : FileResult} {found : Findings} (visited : s.visit r runId ordinal file src = .ok result)
    (ok : result.outcome = .ok found)
    (within : ∀ n ∈ src.nodes, n.start ≤ n.stop ∧ n.stop ≤ (s.parsedBytes file src).length) :
    ∀ e ∈ found.elements, e.IsQuoted (s.parsedBytes file src) := by
  intro e mem
  obtain ⟨n, node, stands⟩ := visit_standAt visited ok e mem
  obtain ⟨start, stop⟩ := within n node
  exact stands.isQuoted start stop

namespace Sample

/-- A text with letters of two bytes and an empty line in a class that reaches up to the end, and its tree. -/
def accentedFile : SourceFile where
  text := "s = 'é'\nclass Ä:\n\n def m(self):\n  return 'ß'"
  tree := some ⟨.mk "module" true 0 47 none [
    .mk "assignment" true 0 8 none [
      .mk "identifier" true 0 1 (some "left") [],
      .mk "string" true 4 8 (some "right") []],
    .mk "class_definition" true 9 47 none [
      .mk "identifier" true 15 17 (some "name") [],
      .mk "function_definition" true 21 47 none [.mk "identifier" true 25 26 (some "name") []]]], false⟩

end Sample

/-- In a text with letters of two bytes, the variable, the class and its method are quoted. -/
theorem sample_isQuoted : ∃ result found,
    Sample.setup.visit (Sample.setup.resolver none) "run" 0 "a.py" Sample.accentedFile = .ok result ∧
      result.outcome = .ok found ∧
      (∀ n ∈ Sample.accentedFile.nodes,
        n.start ≤ n.stop ∧ n.stop ≤ (Sample.setup.parsedBytes "a.py" Sample.accentedFile).length) ∧
      found.elements.map (fun e => (e.name, e.location)) =
        [("s", ⟨1, 0, 1, 8⟩), ("Ä", ⟨2, 0, 5, 13⟩), ("m", ⟨4, 1, 5, 13⟩)] ∧
      ∀ e ∈ found.elements, e.IsQuoted (Sample.setup.parsedBytes "a.py" Sample.accentedFile) := by
  have visit : (Sample.setup.visit (Sample.setup.resolver none) "run" 0 "a.py" Sample.accentedFile).map (fun result =>
      result.outcome.map fun found => found.elements.map fun e => (e.name, e.location)) =
        .ok (.ok [("s", ⟨1, 0, 1, 8⟩), ("Ä", ⟨2, 0, 5, 13⟩), ("m", ⟨4, 1, 5, 13⟩)]) := by decide +kernel
  have within : ∀ n ∈ Sample.accentedFile.nodes,
      n.start ≤ n.stop ∧ n.stop ≤ (Sample.setup.parsedBytes "a.py" Sample.accentedFile).length := by decide +kernel
  obtain ⟨result, visited, outcome⟩ := Except.map_eq_ok_iff.mp visit
  obtain ⟨found, ok, elements⟩ := Except.map_eq_ok_iff.mp outcome
  exact ⟨result, found, visited, ok, within, elements, Setup.visit_isQuoted visited ok within⟩

end CodeAtlas
