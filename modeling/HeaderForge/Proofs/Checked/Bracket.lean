import HeaderForge.Checked.Cursor
import HeaderForge.Proofs.Bracket.Offset

/-! No check of a search fails on a text of less than 2^31 bytes. The depth of a search for a
partner stays above zero until it ends, and no count of brackets exceeds the number of characters
passed. -/

namespace HeaderForge

open Text

namespace Checked

variable {a b i k : Nat} {t : Text} {n : Nesting}

theorem some_bind {α β : Type} (a : α) (f : α → Option β) : (some a >>= f) = f a := rfl

theorem add?_eq (h : a + b < 2 ^ 64) : add? a b = some (a + b) := if_pos h

theorem sub?_eq (h : b ≤ a) : sub? a b = some (a - b) := if_pos h

theorem closingFrom_eq (opener closer : UInt8) (depth : Nat) {l : List UInt8}
    (deep : depth + 1 + l.length < 2 ^ 64) (far : i + l.length < 2 ^ 64) :
    closingFrom opener closer (depth + 1) i l =
      some ((closingIndex opener closer depth l).map (i + ·)) := by
  induction l generalizing depth i with
  | nil => rfl
  | cons b l ih =>
    rw [List.length_cons] at deep far
    have later (found : Option Nat) :
        found.map (i + 1 + ·) = (found.map (· + 1)).map (i + ·) := by
      rw [Option.map_map]
      congr 1
      funext n
      exact Nat.add_right_comm i 1 n
    unfold closingFrom closingIndex
    rw [add?_eq (by omega), add?_eq (by omega), sub?_eq (by omega)]
    split
    · exact (ih _ (by omega) (by omega)).trans (congrArg some (later _))
    · split
      · cases depth with
        | zero => rfl
        | succ depth => exact (ih _ (by omega) (by omega)).trans (congrArg some (later _))
      · exact (ih _ (by omega) (by omega)).trans (congrArg some (later _))

theorem indexOfClosing_eq (small : utf8Size t < 2 ^ 31) (start : Nat) :
    indexOfClosing t start = some (HeaderForge.indexOfClosing t start) := by
  unfold indexOfClosing HeaderForge.indexOfClosing
  cases at_ : (utf8 t)[start]? with
  | none =>
    simp only [at_]
    rfl
  | some opener =>
    have inside := (List.getElem?_eq_some_iff.1 at_).1
    rw [length_utf8] at inside
    simp only [at_, Option.getD_some]
    cases closerOf opener with
    | none => rfl
    | some closer =>
      have size : ((utf8 t).drop (start + 1)).length ≤ utf8Size t := by
        rw [List.length_drop, length_utf8]
        omega
      have far : start + 1 + ((utf8 t).drop (start + 1)).length < 2 ^ 64 := by
        rw [List.length_drop, length_utf8]
        omega
      have found := closingFrom_eq opener closer 0 (by omega) far
      dsimp only
      rw [add?_eq (by omega), some_bind, found]
      rfl

theorem expectClosing_angle (small : utf8Size t < 2 ^ 31) (mark : '<' ∈ t) :
    expectClosing t (utf8Size (t.takeWhile (· ≠ '<'))) =
      some (match Enclosed.ofText? t with
        | some e => .ok (utf8Size e.before + 1 + utf8Size e.inside)
        | none => .error (.unbalancedAngle t)) := by
  obtain ⟨before, rest, rfl, front⟩ := List.eq_append_cons_of_mem mark
  have head : (before ++ '<' :: rest).takeWhile (· ≠ '<') = before :=
    takeWhile_append_mark front rest
  have tail : (before ++ '<' :: rest).dropWhile (· ≠ '<') = '<' :: rest :=
    dropWhile_append_mark front rest
  have opener : (utf8 (before ++ '<' :: rest))[utf8Size before]? = some 0x3C := by
    rw [utf8_append, utf8_cons, ← length_utf8, List.getElem?_append_right (Nat.le_refl _),
      Nat.sub_self]
    rfl
  unfold expectClosing
  rw [head, indexOfClosing_eq small, indexOfClosing_angle, opener]
  unfold Enclosed.ofText? ReadError.unbalancedAngle
  rw [head, tail]
  dsimp only
  cases closingIndex '<' '>' 0 rest <;> rfl

def Within (k : Nat) (n : Nesting) : Prop :=
  n.curly.natAbs ≤ k ∧ n.square.natAbs ≤ k ∧ n.round.natAbs ≤ k ∧ n.angle.natAbs ≤ k

theorem Within.step (h : Within k n) (c : Char) : Within (k + 1) (n.step c) := by
  obtain ⟨curly, square, round, angle⟩ := h
  unfold Nesting.step Within
  split
  all_goals try dsimp only
  all_goals omega

theorem Within.fits (h : Within k n) (small : k < 2 ^ 31) : Fits n := by
  obtain ⟨curly, square, round, angle⟩ := h
  refine ⟨⟨?_, ?_⟩, ⟨?_, ?_⟩, ⟨?_, ?_⟩, ⟨?_, ?_⟩⟩ <;> omega

theorem commaFrom_getD (within : Within k n) (small : k + t.length < 2 ^ 31)
    (far : i + utf8Size t < 2 ^ 64) : ∃ found, commaFrom n i t = some found ∧
      found.getD (i + utf8Size t) = i + utf8Size (n.upToComma t) := by
  -- No count exceeds the `k` characters that were passed.
  induction t generalizing n k i with
  | nil => exact ⟨none, rfl, rfl⟩
  | cons c t ih =>
    rw [List.length_cons] at small
    rw [utf8Size_cons] at far
    unfold commaFrom Nesting.upToComma
    split
    · exact ⟨some i, rfl, rfl⟩
    · obtain ⟨found, search, place⟩ := ih (i := i + c.utf8Size) (within.step c) (by omega)
        (by omega)
      refine ⟨found, ?_, ?_⟩
      · rw [step?, if_pos ((within.step c).fits (by omega)), add?_eq (by omega)]
        exact search
      · rw [utf8Size_cons, utf8Size_cons, ← Nat.add_assoc, ← Nat.add_assoc]
        exact place

theorem commaFrom_top (small : utf8Size t < 2 ^ 31) : ∃ found, commaFrom .top 0 t = some found ∧
    found.getD (utf8Size t) = utf8Size (Nesting.top.upToComma t) := by
  have size := length_le_utf8Size t
  have none : Within 0 .top := ⟨Nat.le_refl 0, Nat.le_refl 0, Nat.le_refl 0, Nat.le_refl 0⟩
  obtain ⟨found, search, place⟩ :=
    commaFrom_getD (t := t) (i := 0) none (by omega) (by omega)
  rw [Nat.zero_add, Nat.zero_add] at place
  exact ⟨found, search, place⟩

end Checked
end HeaderForge
