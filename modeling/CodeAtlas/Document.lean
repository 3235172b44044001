import CodeAtlas.Number.Binary64
import CodeAtlas.Table
import CodeAtlas.Text.Quoted

/-!
# Documents

Structured values as they stand in settings files, query parameters and answers: nothing, truth values, whole and binary
numbers, texts, lists, and objects whose fields keep their order.
-/

namespace CodeAtlas

/-- A structured value. -/
inductive Document where
  | null
  | bool (value : Bool)
  | int (value : Int)
  | float (value : Binary64)
  | text (value : String)
  | list (items : List Document)
  | object (fields : List (String × Document))
deriving Repr, Inhabited

namespace Document

/-- A natural number. -/
def nat (n : Nat) : Document := .int n

/-- A list of texts. -/
def texts (items : List String) : Document := .list (items.map .text)

/-- A text that may be missing. -/
def optional (value : Option String) : Document := value.elim .null .text

/-- The object of a table. -/
def ofTable {β : Type} (f : β → Document) (t : Table String β) : Document :=
  .object (t.entries.map fun e => (e.1, f e.2))

/-- The field of an object that was given last. -/
def field? (fields : List (String × Document)) (key : String) : Option Document :=
  (fields.reverse.find? fun e => e.1 = key).map (·.2)

/-- The value is nothing. -/
def isNull : Document → Bool
  | .null => true
  | _ => false

/-- The value is the given text. -/
def isText (expected : String) : Document → Bool
  | .text s => s = expected
  | _ => false

/-- The value counts as false: nothing, false, zero, or something empty. -/
def isFalsy : Document → Bool
  | .null => true
  | .bool b => !b
  | .int n => n == 0
  | .float (.finite _ mantissa _) => mantissa == 0
  | .float _ => false
  | .text s => s.isEmpty
  | .list items => items.isEmpty
  | .object fields => fields.isEmpty

/-- The name of the kind of a value, as messages give it. -/
def kindName : Document → String
  | .null => "NoneType"
  | .bool _ => "bool"
  | .int _ => "int"
  | .float _ => "float"
  | .text _ => "str"
  | .list _ => "list"
  | .object _ => "dict"

/-- The values that a value is made of: the items of a list, the characters of a text, the names of an object's fields. -/
def elements? : Document → Option (List Document)
  | .list items => some items
  | .text s => some (s.toList.map fun c => .text (String.singleton c))
  | .object fields => some (fields.map fun e => .text e.1)
  | _ => none

mutual

/-- A value as it is quoted in a message. -/
def shown : Document → String
  | .null => "None"
  | .bool b => if b then "True" else "False"
  | .int n => toString n
  | .float x => x.render
  | .text s => String.ofList (Text.quoted s.toList)
  | .list items => "[" ++ String.intercalate ", " (shownItems items) ++ "]"
  | .object fields => "\x7b" ++ String.intercalate ", " (shownFields fields) ++ "\x7d"

/-- The items of a list as they are quoted. -/
def shownItems : List Document → List String
  | [] => []
  | d :: rest => d.shown :: shownItems rest

/-- The fields of an object as they are quoted. -/
def shownFields : List (String × Document) → List String
  | [] => []
  | (key, d) :: rest => (String.ofList (Text.quoted key.toList) ++ ": " ++ d.shown) :: shownFields rest

end

/-- A value as part of a sentence: texts stand without quotes. -/
def plain : Document → String
  | .text s => s
  | d => d.shown

end Document

end CodeAtlas
