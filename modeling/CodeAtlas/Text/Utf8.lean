/-!
# UTF-8

Texts as bytes. Decoding first splits the bytes into characters and malformed pieces (`scan`); the strict reading refuses
malformed pieces, the tolerant one shows each as one replacement character. A malformed piece is the longest start of a
character that the bytes hold, or a single byte that starts none.
-/

namespace CodeAtlas.Text

/-- The bytes of a text. -/
def encode (text : List Char) : List UInt8 := text.flatMap String.utf8EncodeChar

/-- What a first byte announces: how many bytes follow, the range of the next one, and the bits it carries. -/
structure Lead where
  follow : Nat
  low : Nat
  high : Nat
  bits : Nat

/-- Reads a first byte; bytes that start no character give none. -/
def lead? (b : Nat) : Option Lead :=
  if b < 0x80 then some ⟨0, 0x80, 0xBF, b⟩
  else if b < 0xC2 then none
  else if b < 0xE0 then some ⟨1, 0x80, 0xBF, b - 0xC0⟩
  else if b = 0xE0 then some ⟨2, 0xA0, 0xBF, 0⟩
  else if b = 0xED then some ⟨2, 0x80, 0x9F, 0xD⟩
  else if b < 0xF0 then some ⟨2, 0x80, 0xBF, b - 0xE0⟩
  else if b = 0xF0 then some ⟨3, 0x90, 0xBF, 0⟩
  else if b < 0xF4 then some ⟨3, 0x80, 0xBF, b - 0xF0⟩
  else if b = 0xF4 then some ⟨3, 0x80, 0x8F, 4⟩
  else none

/-- Reads `follow` further bytes, the first of them in a range of its own; returns the code point and the other bytes. -/
def gather : (follow low high bits : Nat) → List UInt8 → Option Nat × List UInt8
  | 0, _, _, bits, rest => (some bits, rest)
  | _ + 1, _, _, _, [] => (none, [])
  | n + 1, low, high, bits, b :: rest =>
    if low ≤ b.toNat ∧ b.toNat ≤ high then gather n 0x80 0xBF (bits * 64 + (b.toNat - 0x80)) rest
    else (none, b :: rest)

theorem length_gather_le (n low high bits : Nat) (bytes : List UInt8) :
    (gather n low high bits bytes).2.length ≤ bytes.length := by
  induction n generalizing low high bits bytes with
  | zero => simp [gather]
  | succ n ih =>
    cases bytes with
    | nil => simp [gather]
    | cons b rest =>
      simp only [gather]
      split
      · exact Nat.le_succ_of_le (ih _ _ _ _)
      · simp

/-- The characters of the bytes; a malformed piece is `none`. -/
def scan : List UInt8 → List (Option Char)
  | [] => []
  | b :: rest =>
    match lead? b.toNat with
    | none => none :: scan rest
    | some l =>
      let next := gather l.follow l.low l.high l.bits rest
      next.1.map Char.ofNat :: scan next.2
termination_by bytes => bytes.length
decreasing_by
  · simp
  · exact Nat.lt_succ_of_le (length_gather_le _ _ _ _ _)

/-- All values of a list, if none is missing. -/
def allSome {α : Type} : List (Option α) → Option (List α)
  | [] => some []
  | none :: _ => none
  | some a :: rest => (allSome rest).map (a :: ·)

/-- The text of well-formed bytes. -/
def decode? (bytes : List UInt8) : Option (List Char) := allSome (scan bytes)

/-- Stands for a malformed piece. -/
def replacement : Char := Char.ofNat 0xFFFD

/-- The text of any bytes. -/
def decodeLossy (bytes : List UInt8) : List Char := (scan bytes).map (·.getD replacement)

/-- Line breaks of every kind as newlines. -/
def unifyNewlines : List Char → List Char
  | [] => []
  | '\r' :: '\n' :: rest => '\n' :: unifyNewlines rest
  | c :: rest => (if c = '\r' then '\n' else c) :: unifyNewlines rest

end CodeAtlas.Text
