import CodeAtlas.Language
import CodeAtlas.Resolver
import CodeAtlas.Visit.Dialect

/-!
# What a visit does at a node

A visit collects findings while it walks over the tree of a file. What it does at a node depends on the shape of the node,
on the elements around it (the scope, innermost first) and on the nodes above it (the ancestors, nearest first). A handler
that returns an element opens a scope for the nodes below.
-/

namespace CodeAtlas.Visit

/-- What a visit knows about its file. -/
structure Subject where
  file : String
  source : List UInt8
  language : Language
  dialect : Dialect
  /-- Finds the files of imports, if the visit may. -/
  resolver : Option Resolver
  /-- The id of the element with a given number, declared by a given node. -/
  ident : Nat → Node → String

/-- What a visit has collected. -/
structure State where
  findings : Findings
  /-- The number of elements so far. -/
  sequence : Nat

/-- Nothing collected. -/
def State.initial : State := ⟨.none, 0⟩

namespace State

/-- Adds an element. -/
def addElement (st : State) (e : Element) : State :=
  { findings := { st.findings with elements := st.findings.elements ++ [e] }, sequence := st.sequence + 1 }

/-- Adds a relation. -/
def addRelation (st : State) (r : Relation) : State :=
  { st with findings := { st.findings with relations := st.findings.relations ++ [r] } }

/-- A reference with this source, name and kind was added before. -/
def hasReference (st : State) (source targetName : String) (kind : RelationKind) : Bool :=
  st.findings.references.any fun r => r.source = source && r.targetName = targetName && r.kind = kind

/-- Adds a reference, unless one with its source, name and kind is there. -/
def addReference (st : State) (r : Reference) : State :=
  if st.hasReference r.source r.targetName r.kind then st
  else { st with findings := { st.findings with references := st.findings.references ++ [r] } }

/-- Binds a name. -/
def bind (st : State) (b : Binding) : State :=
  { st with findings := { st.findings with bindings := st.findings.bindings.put b.localName b } }

end State

/-- Where a node stands in its file. -/
def locationOf (source : List UInt8) (n : Node) : Location :=
  let first := Text.Position.ofOffset source n.start
  let last := Text.Position.ofOffset source n.stop
  ⟨first.row + 1, first.column, last.row + 1, last.column⟩

/-- The element that a node declares. -/
def elementOf (s : Subject) (n : Node) (kind : ElementKind) (name : String) (sequence : Nat) : Element where
  id := s.ident sequence n
  name := name
  kind := kind
  file := s.file
  location := locationOf s.source n
  implementation := n.text s.source

/-- Relates an element to the one around it. -/
def contain (scope : List Element) (e : Element) (st : State) : State :=
  match scope with
  | [] => st
  | outer :: _ => st.addRelation ⟨outer.id, e.id, .contains⟩

/-- Records the element that a node declares and relates it to the element around it. -/
def declare (s : Subject) (scope : List Element) (n : Node) (kind : ElementKind) (name : String) (st : State) :
    Element × State :=
  let e := elementOf s n kind name (st.sequence + 1)
  (e, contain scope e (st.addElement e))

/-- The name that a node declares. -/
def nameOf (s : Subject) (n : Node) : Except FileFailure String :=
  Dialect.declaredName s.source n (s.language.nameField n.type)

/-- The child in a field that a setting names. A setting that is no text names none, if the parser does not refuse it. -/
def childIn (s : Subject) (n : Node) : Document → Except FileFailure (Option Node)
  | .text field => .ok (n.child? field)
  | other => (s.language.fieldRefusal other.kindName).elim (.ok none) fun refusal => .error (.badField refusal)

/-- Adds a reference by name only. -/
def refer (s : Subject) (source : Element) (kind : RelationKind) (st : State) (targetName : String) : State :=
  st.addReference ⟨source.id, targetName, kind, s.file, none, none⟩

/-- Adds the bases of a class or an interface. -/
def addHeritage (s : Subject) (n : Node) (e : Element) (st : State) : State :=
  let h := s.dialect.heritage s.source n
  h.implemented.foldl (refer s e .implements) (h.extended.foldl (refer s e .inherits) st)

/-- Values that make a variable or a property a function or a method. -/
def functionTypes : List String :=
  ["arrow_function", "function", "function_expression", "generator_function", "lambda"]

/-- The value is a function. -/
def isFunctionValue (value : Option Node) : Bool := value.any fun v => functionTypes.contains v.type

/-- A function directly inside a class is a method. -/
def functionKind (scope : List Element) : ElementKind :=
  match scope with
  | outer :: _ => if outer.kind = .classDef then .methodDef else .functionDef
  | [] => .functionDef

/-- The value that a variable is bound to; none if the node declares no variable. -/
def variableValue? (s : Subject) (n : Node) : Option (Option Node) :=
  if s.language.isDotted then
    match n.child? "left" with
    | some left => if left.type = "identifier" then some (n.child? "right") else none
    | none => none
  else some (n.child? "value")

/-! ## Imports -/

/-- The file of a module. -/
def moduleFile (s : Subject) (module : String) : Except LookupError (Option String) :=
  match s.resolver with
  | none => .ok none
  | some r =>
    if s.language.isDotted then r.resolveDotted module (Path.directory s.file)
    else r.resolve module (Path.directory s.file)

/-- The file of an imported name that is itself a module. -/
def memberFile (s : Subject) (module name : String) : Except LookupError (Option String) :=
  match s.resolver with
  | none => .ok none
  | some r =>
    if s.language.isDotted then r.resolveDotted (Resolver.submodule module name) (Path.directory s.file) else .ok none

/-- Binds an imported name and refers to what it names. -/
def bindName (s : Subject) (e : Element) (module : String) (path : Option String) (st : State)
    (names : String × String) : Except LookupError State :=
  let (bound, imported) := names
  (memberFile s module imported).map fun member =>
    let file := member.or path
    (st.bind ⟨bound, imported, module, file⟩).addReference ⟨e.id, bound, .imports, s.file, file, some imported⟩

/-- Binds the names of an import. -/
def bindNames (s : Subject) (e : Element) (info : ImportInfo) (st : State) : Except LookupError State := do
  let path ← moduleFile s info.module
  info.bindings.foldlM (bindName s e info.module path) st

/-- Records an import and the names it binds. An import opens no scope. -/
def handleImport (s : Subject) (scope : List Element) (n : Node) (st : State) : Except FileFailure State := do
  match ← s.dialect.importInfo? s.source n with
  | none => return st
  | some info =>
    let (e, st) := declare s scope n .importDef info.module st
    (bindNames s e info st).mapError .lookup

/-! ## Calls and mentions -/

/-- The field that holds what a node calls. -/
def calleeField (s : Subject) (type : String) : Document :=
  let field := s.language.nameField type
  if field.isFalsy then .text "function" else field

/-- The name that a call calls, if it calls something that has one. -/
def calleeName (s : Subject) (n : Node) : Except FileFailure (Option String) :=
  (childIn s n (calleeField s n.type)).map fun callee => callee.bind (s.dialect.lastName? s.source)

/-- Records a call inside an element. -/
def handleCall (s : Subject) (scope : List Element) (n : Node) (st : State) : Except FileFailure State :=
  match scope with
  | [] => .ok st
  | outer :: _ => (calleeName s n).map fun
    | some name => if name = "" then st else refer s outer .calls st name
    | none => st

/-- A node type declares something other than an import. -/
def isEntityType (s : Subject) (type : String) : Bool := (s.language.shape? type none).any Shape.isEntity

/-- The node is the name of what its parent declares. -/
def isDeclaredName (s : Subject) (ancestors : List Node) (n : Node) : Except FileFailure Bool :=
  match ancestors with
  | [] => .ok false
  | p :: _ =>
    let field := s.language.nameField p.type
    if isEntityType s p.type && !field.isFalsy then
      (childIn s p field).map fun child => child.any fun c => c.start = n.start && c.stop = n.stop
    else .ok false

/-- The node stands among the bases of a class or an interface. -/
def inHeritage (s : Subject) : List Node → Bool
  | [] => false
  | a :: above =>
    if s.dialect.heritageTypes.contains a.type then true
    else if isEntityType s a.type then false
    else inHeritage s above

/-- Records the mention of a type inside an element. -/
def handleMention (s : Subject) (ancestors : List Node) (scope : List Element) (n : Node) (st : State) :
    Except FileFailure State :=
  match scope with
  | [] => .ok st
  | outer :: _ => (isDeclaredName s ancestors n).map fun declared =>
    if declared || inHeritage s ancestors then st else refer s outer .references st (n.text s.source)

/-! ## All shapes -/

/-- Records a declaration under its name. -/
def declareNamed (s : Subject) (scope : List Element) (n : Node) (kind : ElementKind) (st : State) :
    Except FileFailure (Element × State) :=
  (nameOf s n).map fun name => declare s scope n kind name st

/-- Records a declaration; the element, if there is one, opens a scope. -/
def handleDeclaration (s : Subject) (scope : List Element) (n : Node) (kind : ElementKind) (st : State) :
    Except FileFailure (Option Element × State) :=
  let record := fun (k : ElementKind) => (declareNamed s scope n k st).map fun r => (some r.1, r.2)
  match kind with
  | .classDef | .interfaceDef =>
    (declareNamed s scope n kind st).map fun r => (some r.1, addHeritage s n r.1 r.2)
  | .functionDef => record (functionKind scope)
  | .variableDef =>
    match variableValue? s n with
    | none => .ok (none, st)
    | some value => record (if isFunctionValue value then .functionDef else .variableDef)
  | .propertyDef => record (if isFunctionValue (n.child? "value") then .methodDef else .propertyDef)
  | .methodDef | .typeDef | .enumDef => record kind
  | .importDef => (handleImport s scope n st).map fun st => (none, st)

/-- The shape of a node below its ancestors. -/
def shapeOf? (s : Subject) (ancestors : List Node) (n : Node) : Option Shape :=
  s.language.shape? n.type (if n.isNamed then ancestors.head?.map (·.type) else none)

/-- What a visit does at a node. -/
def handle (s : Subject) (ancestors : List Node) (scope : List Element) (n : Node) (st : State) :
    Except FileFailure (Option Element × State) :=
  match shapeOf? s ancestors n with
  | none => .ok (none, st)
  | some (.declares kind) => handleDeclaration s scope n kind st
  | some .call => (handleCall s scope n st).map fun st => (none, st)
  | some .reference => (handleMention s ancestors scope n st).map fun st => (none, st)

end CodeAtlas.Visit
