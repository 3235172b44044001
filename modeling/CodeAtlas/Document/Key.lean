import CodeAtlas.Document

/-!
# Documents as keys

Values other than lists and objects can be looked up in tables. Numbers of the same value are the same key, whatever their
kind, and the truth values count as one and zero. A table remembers each key as it was first written.
-/

namespace CodeAtlas

/-- What a value is looked up under. -/
inductive Key where
  | null
  /-- The number `numerator / 2 ^ halvings` in lowest terms. -/
  | number (numerator : Int) (halvings : Nat)
  | infinite (negative : Bool)
  | undefined
  | text (value : String)
deriving Repr, DecidableEq

namespace Key

/-- A fraction with a power of two as its denominator in lowest terms. -/
def lowest : (numerator halvings : Nat) → Nat × Nat
  | n, 0 => (n, 0)
  | n, k + 1 => if n % 2 = 0 then lowest (n / 2) k else (n, k + 1)

/-- The key of a binary number. -/
def ofBinary64 : Binary64 → Key
  | .finite negative mantissa exponent =>
    let (n, k) := lowest (mantissa * Nat.pow 2 (Binary64.up exponent)) (Binary64.down exponent)
    .number (if negative then -(n : Int) else n) k
  | .infinite negative => .infinite negative
  | .undefined => .undefined

end Key

namespace Document

/-- The key of a value; lists and objects have none. -/
def key? : Document → Option Key
  | .null => some .null
  | .bool b => some (.number (if b then 1 else 0) 0)
  | .int n => some (.number n 0)
  | .float x => some (.ofBinary64 x)
  | .text s => some (.text s)
  | .list _ | .object _ => none

end Document

/-- A table whose keys are values. -/
structure Keyed (β : Type) where
  /-- The keys as they were first written, and what they are bound to. -/
  table : Table Key (Document × β)

namespace Keyed

variable {β : Type}

/-- The table without keys. -/
def empty : Keyed β := ⟨.empty⟩

/-- The keys as they were first written. -/
def keys (t : Keyed β) : List Document := t.table.values.map (·.1)

/-- The keys as they were first written, and what they are bound to. -/
def entries (t : Keyed β) : List (Document × β) := t.table.values

/-- What a key is bound to. -/
def get? (t : Keyed β) (key : Key) : Option β := (t.table.get? key).map (·.2)

/-- Binds a key that is written as the given value. -/
def put (t : Keyed β) (key : Key) (written : Document) (value : β) : Keyed β :=
  ⟨t.table.put key (((t.table.get? key).map (·.1)).getD written, value)⟩

/-- Binds a value, if it has a key. -/
def put? (t : Keyed β) (written : Document) (value : β) : Option (Keyed β) :=
  written.key?.map fun key => t.put key written value

/-- A key that was just bound is found, and no other key is touched. -/
theorem get?_put (t : Keyed β) (key other : Key) (written : Document) (value : β) :
    (t.put key written value).get? other = if key = other then some value else t.get? other := by
  simp only [get?, put, Table.get?_put]
  split <;> rfl

end Keyed

end CodeAtlas
