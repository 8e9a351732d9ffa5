import HeaderForge.Bracket
import HeaderForge.Text.Basic
import HeaderForge.Text.WordChar

/-! A cursor holds the part of a text that is still to be read. It starts on a character that is
not blank, and every reader leaves it on one again. -/

namespace HeaderForge

structure Cursor where
  rest : Text
  deriving DecidableEq, Repr

namespace Cursor

def ofText (t : Text) : Cursor := ⟨t.trimStart⟩

def isEmpty (c : Cursor) : Bool := c.rest.isEmpty

def advance (c : Cursor) (n : Nat) : Cursor := ofText (c.rest.drop n)

theorem length_advance_le (c : Cursor) (n : Nat) :
    (c.advance n).rest.length ≤ c.rest.length - n := by
  simpa [advance, ofText] using Text.length_trimStart_le (c.rest.drop n)

theorem length_advance_le_self (c : Cursor) (n : Nat) :
    (c.advance n).rest.length ≤ c.rest.length :=
  Nat.le_trans (length_advance_le c n) (Nat.sub_le ..)

def eat? (c : Cursor) (t : Text) : Option Cursor :=
  if t.isPrefixOf c.rest then some (c.advance t.length) else none

/-- Passes `t` if the rest begins with it and no word character follows, so that `const` is not
taken from the front of `constant`. -/
def eatWord? (c : Cursor) (t : Text) : Option Cursor :=
  if t.isPrefixOf c.rest && !(c.rest.drop t.length).head?.any Text.isWordChar then
    some (c.advance t.length)
  else none

/-- A type is the leading run of characters that are not blank or, if that run holds a `<`, all up
to the `>` that closes it. -/
def typeLength (t : Text) : Except ReadError Nat :=
  let token := t.takeWhile (!Text.isBlank ·)
  if '<' ∈ token then
    match Enclosed.ofText? t with
    | some e => .ok (e.before.length + e.inside.length + 2)
    | none => .error (.unbalancedAngle t)
  else .ok token.length

def readType (c : Cursor) : Except ReadError (Text × Cursor) :=
  (typeLength c.rest).map fun n => (c.rest.take n, c.advance n)

def endsName (ch : Char) : Bool := Text.isBlank ch || ch == ',' || ch == '='

def readName? (c : Cursor) : Option (Text × Cursor) :=
  match c.rest.takeWhile (!endsName ·) with
  | [] => none
  | name => some (name, c.advance name.length)

def readToComma (c : Cursor) : Text × Cursor :=
  let value := Nesting.top.upToComma c.rest
  (value.trimEnd, c.advance value.length)

theorem length_eat?_le {c d : Cursor} {t : Text} (h : c.eat? t = some d) :
    d.rest.length ≤ c.rest.length := by
  unfold eat? at h
  split at h
  · cases h
    exact length_advance_le_self c _
  · cases h

theorem length_eatWord?_le {c d : Cursor} {t : Text} (h : c.eatWord? t = some d) :
    d.rest.length ≤ c.rest.length := by
  unfold eatWord? at h
  split at h
  · cases h
    exact length_advance_le_self c _
  · cases h

theorem length_readType_le {c d : Cursor} {t : Text} (h : c.readType = .ok (t, d)) :
    d.rest.length ≤ c.rest.length := by
  unfold readType at h
  cases hn : typeLength c.rest with
  | error e => simp [hn, Except.map] at h
  | ok n =>
    simp only [hn, Except.map, Except.ok.injEq, Prod.mk.injEq] at h
    obtain ⟨-, rfl⟩ := h
    exact length_advance_le_self c n

theorem length_readName?_lt {c d : Cursor} {t : Text} (h : c.readName? = some (t, d)) :
    d.rest.length < c.rest.length := by
  unfold readName? at h
  split at h
  · cases h
  · rename_i name hne
    cases h
    have hle := length_advance_le c (c.rest.takeWhile (!endsName ·)).length
    have hpos : 0 < (c.rest.takeWhile (!endsName ·)).length := List.length_pos_iff.2 hne
    have hsub := (List.takeWhile_sublist (!endsName ·) (l := c.rest)).length_le
    omega

theorem length_readToComma_le (c : Cursor) : c.readToComma.2.rest.length ≤ c.rest.length :=
  length_advance_le_self c _

end Cursor
end HeaderForge
