import CodeAtlas.Pattern.Regex

/-!
# Lengths of matches

Bounds on the number of characters that an expression matches.
-/

namespace CodeAtlas

/-- A number of characters: at least `least` and at most `most`, without bound if that is missing. -/
structure Width where
  least : Nat
  most : Option Nat
deriving Repr, DecidableEq

namespace Width

/-- One number only. -/
def exactly (n : Nat) : Width := ⟨n, some n⟩

/-- One text after another. -/
def plus (a b : Width) : Width := ⟨a.least + b.least, a.most.bind fun n => b.most.map (n + ·)⟩

/-- One text or another. -/
def either (a b : Width) : Width := ⟨Nat.min a.least b.least, a.most.bind fun n => b.most.map (Nat.max n)⟩

/-- A text at least `least` times and up to `extra` more times. -/
def times (w : Width) (least : Nat) (extra : Option Nat) : Width :=
  ⟨w.least * least,
    match w.most, extra with
    | some 0, _ => some 0
    | some n, some e => some (n * (least + e))
    | none, some e => if least + e = 0 then some 0 else none
    | _, none => none⟩

/-- The number, if there is only one and it can be counted. -/
def fixed? (w : Width) : Option Nat := if w.most = some w.least ∧ w.least ≤ 4294967295 then w.most else none

end Width

/-- How long the matches of an expression are, if those of the groups it refers to are known. -/
def Regex.width (groups : List (Nat × Width)) : Regex → Width
  | .empty | .place _ | .ahead _ _ | .behind _ _ _ => .exactly 0
  | .one _ => .exactly 1
  | .chars _ least extra _ => (Width.exactly 1).times least extra
  | .seq a b => (width groups a).plus (width groups b)
  | .alt a b | .whether _ a b => (width groups a).either (width groups b)
  | .many _ least extra body => (width groups body).times least extra
  | .group _ body | .once body => width groups body
  | .again index _ => (groups.lookup index).getD (.exactly 0)

end CodeAtlas
