import HeaderForge.Cursor
import HeaderForge.Text.Offset
import Mathlib.Algebra.Group.Int.Defs
import Mathlib.Algebra.Group.Nat.Defs

/-! The readers over byte offsets, with every check of a machine made: offsets stay below 2^64 and
are subtracted only from larger ones, counts of brackets fit into 32 bits with a sign, and a part is
cut out only between two places of a text that come in order. No result means that a check failed or
that a loop came no nearer to its end; a fault of the text is a result. A cursor is a place in a
text. -/

namespace HeaderForge.Checked

def add? (a b : Nat) : Option Nat := if a + b < 2 ^ 64 then some (a + b) else none

def sub? (a b : Nat) : Option Nat := if b ≤ a then some (a - b) else none

def closingFrom (opener closer : UInt8) : (depth i : Nat) → List UInt8 → Option (Option Nat)
  | _, _, [] => some none
  | depth, i, b :: rest => do
      let next ← add? i 1
      if b = opener then closingFrom opener closer (← add? depth 1) next rest
      else if b = closer then do
        let depth ← sub? depth 1
        if depth = 0 then return some i
        closingFrom opener closer depth next rest
      else closingFrom opener closer depth next rest

def indexOfClosing (text : Text) (start : Nat) : Option (Except ReadError (Option Nat)) :=
  let bytes := text.utf8
  let opener := (bytes[start]?).getD 0
  match closerOf opener with
  | none => return .error (.invalidBracket start text)
  | some closer => do
      let first ← add? start 1
      return .ok (← closingFrom opener closer 1 first (bytes.drop first))

def expectClosing (text : Text) (start : Nat) : Option (Except ReadError Nat) := do
  match ← indexOfClosing text start with
  | .error e => return .error e
  | .ok (some last) => return .ok last
  | .ok none =>
      let opener ← text.utf8[start]?
      return .error (.unbalancedBracket (Char.ofNat opener.toNat) start text)

/-- Whether each of the four counts fits into 32 bits with a sign. -/
def Fits (n : Nesting) : Prop :=
  (-2 ^ 31 ≤ n.curly ∧ n.curly < 2 ^ 31) ∧ (-2 ^ 31 ≤ n.square ∧ n.square < 2 ^ 31) ∧
    (-2 ^ 31 ≤ n.round ∧ n.round < 2 ^ 31) ∧ (-2 ^ 31 ≤ n.angle ∧ n.angle < 2 ^ 31)

instance : DecidablePred Fits := fun _ => by
  unfold Fits
  infer_instance

def step? (n : Nesting) (c : Char) : Option Nesting :=
  if Fits (n.step c) then some (n.step c) else none

/-- The offset of the first comma at which all four counts are zero, `i` bytes being passed. -/
def commaFrom : Nesting → (i : Nat) → Text → Option (Option Nat)
  | _, _, [] => some none
  | n, i, c :: rest => do
      if c = ',' ∧ n = .top then return some i
      commaFrom (← step? n c) (← add? i c.utf8Size) rest

open Text

/-- A whole text, of which the part from byte offset `place` on is still to be read. -/
structure Cursor where
  text : Text
  place : Nat
  deriving DecidableEq, Repr

namespace Cursor

def left (c : Cursor) : Nat := utf8Size c.text - c.place

def rest? (c : Cursor) : Option Text := slice? c.text c.place (utf8Size c.text)

def skipBlanks? (c : Cursor) : Option Cursor := do
  let rest ← c.rest?
  let passed ← sub? (utf8Size rest) (utf8Size (trimStart rest))
  return { c with place := ← add? c.place passed }

def ofText? (t : Text) : Option Cursor := skipBlanks? ⟨t, 0⟩

def advance? (c : Cursor) (n : Nat) : Option Cursor := do
  skipBlanks? { c with place := ← add? c.place n }

def eat? (c : Cursor) (t : Text) : Option (Option Cursor) := do
  let rest ← c.rest?
  if t.isPrefixOf rest then return some (← c.advance? (utf8Size t))
  return none

def eatWord? (c : Cursor) (t : Text) : Option (Option Cursor) := do
  let rest ← c.rest?
  if t.isPrefixOf rest then
    let behind ← slice? rest (utf8Size t) (utf8Size rest)
    if behind.head?.any isWordChar then return none
    return some (← c.advance? (utf8Size t))
  return none

def typeEnd (t : Text) : Option (Except ReadError Nat) := do
  let tokenEnd := (find? isBlank t).getD (utf8Size t)
  let token ← slice? t 0 tokenEnd
  match find? (· = '<') token with
  | none => return .ok tokenEnd
  | some first =>
    match ← expectClosing t first with
    | .error e => return .error e
    | .ok last => return .ok (← add? last 1)

def readType (c : Cursor) : Option (Except ReadError (Text × Cursor)) := do
  let rest ← c.rest?
  match ← typeEnd rest with
  | .error e => return .error e
  | .ok last => return .ok (← slice? rest 0 last, ← c.advance? last)

def readName? (c : Cursor) : Option (Option (Text × Cursor)) := do
  let rest ← c.rest?
  let last := (find? HeaderForge.Cursor.endsName rest).getD (utf8Size rest)
  if last = 0 then return none
  return some (← slice? rest 0 last, ← c.advance? last)

def readToComma (c : Cursor) : Option (Text × Cursor) := do
  let rest ← c.rest?
  let last := (← commaFrom .top 0 rest).getD (utf8Size rest)
  let value ← slice? rest 0 last
  return (trimEnd value, ← c.advance? last)

end Cursor
end HeaderForge.Checked
