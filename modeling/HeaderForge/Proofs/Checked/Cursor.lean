import HeaderForge.Checked.Cursor
import HeaderForge.Proofs.Checked.Bracket
import HeaderForge.Proofs.Cursor.Passage

/-! No check of a cursor fails. A cursor whose rest is the end of a text is the place where that end
begins; from there every reader takes what the cursor takes and comes to its place again. -/

namespace HeaderForge

open Text

namespace Checked

variable {t s r x : Text} {c : HeaderForge.Cursor}

namespace Cursor

/-- The place in `t` at which the rest of a cursor begins. -/
def placed (t : Text) (c : HeaderForge.Cursor) : Cursor := ⟨t, utf8Size t - utf8Size c.rest⟩

theorem placed_append (s : Text) (c : HeaderForge.Cursor) :
    placed (s ++ c.rest) c = ⟨s ++ c.rest, utf8Size s⟩ := by
  simp [placed]

theorem rest?_placed (h : c.rest <:+ t) : (placed t c).rest? = some c.rest := by
  obtain ⟨s, rfl⟩ := h
  rw [placed_append]
  exact slice?_back s c.rest

theorem left_placed (h : c.rest <:+ t) : (placed t c).left = utf8Size c.rest := by
  obtain ⟨s, rfl⟩ := h
  rw [placed_append, left, utf8Size_append]
  exact Nat.add_sub_cancel_left ..

theorem skipBlanks?_eq (small : utf8Size (s ++ r) < 2 ^ 31) :
    skipBlanks? ⟨s ++ r, utf8Size s⟩ = some (placed (s ++ r) (.ofText r)) := by
  obtain ⟨w, -, split⟩ := trimStart_spec r
  have size : utf8Size r = utf8Size w + utf8Size (trimStart r) := by
    rw [← utf8Size_append, ← split]
  rw [utf8Size_append] at small
  have rest : rest? ⟨s ++ r, utf8Size s⟩ = some r := slice?_back s r
  rw [skipBlanks?, rest, some_bind, sub?_eq (by omega)]
  dsimp only [some_bind]
  rw [add?_eq (by omega), placed, HeaderForge.Cursor.ofText, utf8Size_append]
  refine congrArg (fun place => some (Cursor.mk (s ++ r) place)) ?_
  dsimp only
  omega

theorem ofText?_eq (small : utf8Size t < 2 ^ 31) : ofText? t = some (placed t (.ofText t)) :=
  skipBlanks?_eq (s := []) small

variable (small : utf8Size t < 2 ^ 31) (h : c.rest <:+ t)
include small h

theorem advance?_placed (n : Nat) :
    (placed t c).advance? (utf8Size (c.rest.take n)) = some (placed t (c.advance n)) := by
  obtain ⟨s, rfl⟩ := h
  have split : s ++ c.rest = (s ++ c.rest.take n) ++ c.rest.drop n := by
    rw [List.append_assoc, List.take_append_drop]
  have size : utf8Size s + utf8Size (c.rest.take n) = utf8Size (s ++ c.rest.take n) :=
    (utf8Size_append ..).symm
  rw [placed_append, advance?]
  dsimp only
  rw [split] at small ⊢
  rw [add?_eq (by rw [utf8Size_append] at small; omega), size]
  exact skipBlanks?_eq small

theorem advance?_front (front : x <+: c.rest) :
    (placed t c).advance? (utf8Size x) = some (placed t (c.advance x.length)) := by
  have advanced := advance?_placed small h x.length
  rwa [← List.prefix_iff_eq_take.1 front] at advanced

theorem eat?_placed (x : Text) : (placed t c).eat? x = some ((c.eat? x).map (placed t)) := by
  rw [eat?, rest?_placed h, HeaderForge.Cursor.eat?, some_bind]
  split
  · rename_i front
    rw [advance?_front small h (List.isPrefixOf_iff_prefix.1 front)]
    rfl
  · rfl

theorem eatWord?_placed (x : Text) :
    (placed t c).eatWord? x = some ((c.eatWord? x).map (placed t)) := by
  rw [eatWord?, rest?_placed h, HeaderForge.Cursor.eatWord?, some_bind]
  by_cases front : x <+: c.rest
  · have begins := List.isPrefixOf_iff_prefix.2 front
    have advanced := advance?_front small h front
    obtain ⟨r, split⟩ := front
    have behind := slice?_back x r
    rw [split] at behind
    have drop : c.rest.drop x.length = r := by rw [← split, List.drop_left]
    rw [if_pos begins, behind, advanced, begins, drop, Bool.true_and, some_bind]
    cases r.head?.any isWordChar <;> rfl
  · have other : x.isPrefixOf c.rest = false := by
      rwa [← Bool.not_eq_true, List.isPrefixOf_iff_prefix]
    rw [other]
    rfl

omit small h in
theorem utf8Size_take_text (e : Enclosed) :
    utf8Size (e.text.take (e.before.length + e.inside.length + 2)) =
      utf8Size e.before + 1 + utf8Size e.inside + 1 := by
  have split : e.text = (e.before ++ '<' :: (e.inside ++ ['>'])) ++ e.after := by
    simp [Enclosed.text]
  have size : (e.before ++ '<' :: (e.inside ++ ['>'])).length =
      e.before.length + e.inside.length + 2 := by
    simp only [List.length_append, List.length_cons, List.length_nil]
    omega
  rw [split, ← size, List.take_left, utf8Size_append, utf8Size_cons, utf8Size_append]
  change _ + (1 + (_ + 1)) = _
  omega

omit small h in
theorem typeEnd_eq (small : utf8Size t < 2 ^ 31) : typeEnd t =
    some ((HeaderForge.Cursor.typeLength t).map fun n => utf8Size (t.take n)) := by
  have front := List.takeWhile_prefix (l := t) (!isBlank ·)
  have token := slice?_takeWhile (!isBlank ·) t
  rw [typeEnd, find?_getD, token, HeaderForge.Cursor.typeLength, some_bind]
  by_cases mark : '<' ∈ t.takeWhile (!isBlank ·)
  · rw [find?_mark mark, takeWhile_ne_of_prefix mark front, if_pos mark]
    dsimp only
    rw [expectClosing_angle small (front.subset mark), some_bind]
    cases cut : Enclosed.ofText? t with
    | none => rfl
    | some e =>
      obtain ⟨rfl, -, -⟩ := Enclosed.ofText?_eq_some_iff.1 cut
      have size := utf8Size_take_text e
      have split := utf8Size_append (e.text.take (e.before.length + e.inside.length + 2))
        (e.text.drop (e.before.length + e.inside.length + 2))
      rw [List.take_append_drop] at split
      dsimp only [Except.map]
      rw [add?_eq (by omega), size]
      rfl
  · rw [find?_mark_eq_none mark, if_neg mark]
    dsimp only [Except.map]
    rw [← List.prefix_iff_eq_take.1 front]
    rfl

theorem readType_placed : (placed t c).readType =
    some (c.readType.map fun (x, d) => (x, placed t d)) := by
  have small' := Nat.lt_of_le_of_lt (utf8Size_le_of_suffix h) small
  rw [readType, rest?_placed h, HeaderForge.Cursor.readType, some_bind, typeEnd_eq small']
  cases HeaderForge.Cursor.typeLength c.rest with
  | error e => rfl
  | ok n =>
    have taken := slice?_front (c.rest.take n) (c.rest.drop n)
    rw [List.take_append_drop] at taken
    dsimp only [Except.map, some_bind]
    rw [taken, advance?_placed small h]
    rfl

theorem readName?_placed : (placed t c).readName? =
    some (c.readName?.map fun (x, d) => (x, placed t d)) := by
  have front := List.takeWhile_prefix (l := c.rest) (!HeaderForge.Cursor.endsName ·)
  have advanced := advance?_front small h front
  have taken := slice?_takeWhile (!HeaderForge.Cursor.endsName ·) c.rest
  rw [readName?, rest?_placed h, HeaderForge.Cursor.readName?, some_bind, find?_getD]
  dsimp only
  rw [taken, advanced]
  cases c.rest.takeWhile (!HeaderForge.Cursor.endsName ·) with
  | nil => rfl
  | cons ch name =>
    have pos := ch.utf8Size_pos
    rw [if_neg (by rw [utf8Size_cons]; omega)]
    rfl

theorem readToComma_placed : (placed t c).readToComma =
    some (c.readToComma.1, placed t c.readToComma.2) := by
  have small' := Nat.lt_of_le_of_lt (utf8Size_le_of_suffix h) small
  obtain ⟨found, search, last⟩ := commaFrom_top small'
  have front := Nesting.upToComma_prefix .top c.rest
  have advanced := advance?_front small h front
  obtain ⟨r, whole⟩ := front
  have taken := slice?_front (Nesting.top.upToComma c.rest) r
  rw [whole] at taken
  rw [readToComma, rest?_placed h, some_bind, search, some_bind, last]
  dsimp only
  rw [taken, advanced]
  rfl

end Cursor
end Checked
end HeaderForge
