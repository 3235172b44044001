/-!
# Rows and columns of bytes

A place in a file is a number of bytes from its start, or a row and a column. Rows count newlines, columns count bytes
since the last newline; both start at zero.
-/

namespace CodeAtlas.Text

/-- The byte of a newline. -/
def newlineByte : UInt8 := 10

/-- A row and a column, both counted from zero. -/
structure Position where
  row : Nat
  column : Nat
deriving Repr, DecidableEq

/-- The place right after the given bytes. -/
def Position.after (before : List UInt8) : Position where
  row := before.count newlineByte
  column := (before.reverse.takeWhile (· ≠ newlineByte)).length

/-- The place of an offset. -/
def Position.ofOffset (bytes : List UInt8) (offset : Nat) : Position := .after (bytes.take offset)

/-- The bytes between two offsets. -/
def slice (bytes : List UInt8) (start stop : Nat) : List UInt8 := (bytes.drop start).take (stop - start)

end CodeAtlas.Text
