import CodeAtlas.Document

/-!
# Writing documents

Documents on one line without spaces, or over several lines: each item and field on a line of its own, indented by two
spaces a level. Characters outside ASCII are escaped, those beyond the first plane as two units.
-/

namespace CodeAtlas.Document

/-- How documents are laid out. -/
inductive Layout where
  /-- All on one line. -/
  | compact
  /-- Each part on a line of its own. -/
  | lines
deriving Repr, DecidableEq

namespace Writer

/-- A hexadecimal escape of a unit. -/
def unit (n : Nat) : List Char := ['\\', 'u'] ++ Text.hex 4 n

/-- One character of a text. -/
def escapeChar (c : Char) : List Char :=
  if c = '"' ∨ c = '\\' then ['\\', c]
  else if c = '\n' then ['\\', 'n']
  else if c = '\r' then ['\\', 'r']
  else if c = '\t' then ['\\', 't']
  else if c.toNat = 8 then ['\\', 'b']
  else if c.toNat = 12 then ['\\', 'f']
  else if 32 ≤ c.toNat ∧ c.toNat < 127 then [c]
  else if c.toNat < 0x10000 then unit c.toNat
  else unit (0xD800 + (c.toNat - 0x10000) / 0x400) ++ unit (0xDC00 + (c.toNat - 0x10000) % 0x400)

/-- A text in quotes. -/
def quote (text : String) : String := "\"" ++ String.ofList (text.toList.flatMap escapeChar) ++ "\""

/-- A binary number. -/
def number : Binary64 → String
  | .undefined => "NaN"
  | .infinite negative => Binary64.signText negative ++ "Infinity"
  | x => x.render

/-- What stands before a part at a level. -/
def line (layout : Layout) (level : Nat) : String :=
  match layout with
  | .compact => ""
  | .lines => "\n" ++ String.ofList (List.replicate (2 * level) ' ')

/-- What stands between the name of a field and its value. -/
def colon : Layout → String
  | .compact => ":"
  | .lines => ": "

/-- Written parts between an opening and a closing mark. -/
def block (layout : Layout) (opening closing : String) (level : Nat) (parts : List String) : String :=
  if parts.isEmpty then opening ++ closing
  else
    opening ++ line layout (level + 1) ++ String.intercalate ("," ++ line layout (level + 1)) parts ++
      line layout level ++ closing

mutual

/-- A document at a level. -/
def value (layout : Layout) (level : Nat) : Document → String
  | .null => "null"
  | .bool b => if b then "true" else "false"
  | .int n => toString n
  | .float x => number x
  | .text s => quote s
  | .list items => block layout "[" "]" level (values layout (level + 1) items)
  | .object fields => block layout "\x7b" "\x7d" level (pairs layout (level + 1) fields)

/-- The items of a list at a level. -/
def values (layout : Layout) (level : Nat) : List Document → List String
  | [] => []
  | d :: rest => value layout level d :: values layout level rest

/-- The fields of an object at a level. -/
def pairs (layout : Layout) (level : Nat) : List (String × Document) → List String
  | [] => []
  | (key, d) :: rest => (quote key ++ colon layout ++ value layout level d) :: pairs layout level rest

end

end Writer

/-- The written form of a document. -/
def render (layout : Layout) (d : Document) : String := Writer.value layout 0 d

/-- A value as the name of a field: texts stand for themselves. -/
def fieldName : Document → String
  | .text s => s
  | d => d.render .compact

end CodeAtlas.Document
