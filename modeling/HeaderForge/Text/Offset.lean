import HeaderForge.Text.Basic
import Mathlib.Data.List.TakeWhile

/-! Places in a text by byte offset. An offset is a place only if it is not inside a character, and
a part of a text is cut out between two places only if they come in order and lie in the text. -/

namespace HeaderForge.Text

/-- A text cut in two at a byte offset, if that offset is a place in it. -/
def splitAt? : Text → Nat → Option (Text × Text)
  | t, 0 => some ([], t)
  | [], _ + 1 => none
  | c :: t, n + 1 =>
      if c.utf8Size ≤ n + 1 then (splitAt? t (n + 1 - c.utf8Size)).map fun (s, r) => (c :: s, r)
      else none

def slice? (t : Text) (first last : Nat) : Option Text := do
  let (front, _) ← splitAt? t last
  let (_, part) ← splitAt? front first
  return part

def find? (p : Char → Bool) : Text → Option Nat
  | [] => none
  | c :: t => if p c then some 0 else (find? p t).map (c.utf8Size + ·)

@[simp] theorem utf8Size_nil : utf8Size [] = 0 := rfl

theorem utf8Size_cons (c : Char) (t : Text) : utf8Size (c :: t) = c.utf8Size + utf8Size t :=
  rfl

theorem splitAt?_append (s r : Text) : splitAt? (s ++ r) (utf8Size s) = some (s, r) := by
  induction s with
  | nil => simp [splitAt?]
  | cons c s ih =>
    have pos := c.utf8Size_pos
    obtain ⟨n, size⟩ : ∃ n, utf8Size (c :: s) = n + 1 :=
      ⟨utf8Size (c :: s) - 1, by rw [utf8Size_cons]; omega⟩
    have inner : n + 1 - c.utf8Size = utf8Size s := by
      rw [← size, utf8Size_cons, Nat.add_sub_cancel_left]
    rw [size, List.cons_append, splitAt?, if_pos, inner, ih]
    · rfl
    · rw [← size, utf8Size_cons]
      omega

theorem splitAt?_eq_some_iff {t s r : Text} {n : Nat} :
    splitAt? t n = some (s, r) ↔ t = s ++ r ∧ utf8Size s = n := by
  constructor
  · intro h
    fun_induction splitAt? t n generalizing s r with
    | case1 t =>
      cases h
      exact ⟨rfl, rfl⟩
    | case2 n => cases h
    | case3 c t n fits ih =>
      obtain ⟨⟨s', r'⟩, inner, whole⟩ := Option.map_eq_some_iff.1 h
      cases whole
      obtain ⟨rfl, size⟩ := ih inner
      refine ⟨rfl, ?_⟩
      rw [utf8Size_cons]
      omega
    | case4 c t n wide => cases h
  · rintro ⟨rfl, rfl⟩
    exact splitAt?_append s r

theorem slice?_eq_some_iff {t part : Text} {first last : Nat} :
    slice? t first last = some part ↔
      ∃ s r, t = s ++ (part ++ r) ∧ utf8Size s = first ∧ first + utf8Size part = last := by
  simp only [slice?, Option.bind_eq_bind, Option.bind_eq_some_iff, Prod.exists, Option.pure_def,
    Option.some.injEq, splitAt?_eq_some_iff]
  constructor
  · rintro ⟨front, r, ⟨rfl, rfl⟩, s, part, ⟨rfl, rfl⟩, rfl⟩
    exact ⟨s, r, by simp, rfl, by simp⟩
  · rintro ⟨s, r, rfl, rfl, rfl⟩
    exact ⟨s ++ part, r, ⟨by simp, by simp⟩, s, part, ⟨rfl, rfl⟩, rfl⟩

theorem slice?_front (s r : Text) : slice? (s ++ r) 0 (utf8Size s) = some s :=
  slice?_eq_some_iff.2 ⟨[], r, rfl, rfl, Nat.zero_add _⟩

theorem slice?_back (s r : Text) : slice? (s ++ r) (utf8Size s) (utf8Size (s ++ r)) = some r :=
  slice?_eq_some_iff.2 ⟨s, [], by simp, rfl, by simp⟩

theorem slice?_behind {m : Char} (one : m.utf8Size = 1) (s r : Text) :
    slice? (s ++ m :: r) (utf8Size s + 1) (utf8Size (s ++ m :: r)) = some r := by
  have behind := slice?_back (s ++ [m]) r
  rwa [List.append_assoc, List.singleton_append, utf8Size_append, utf8Size_cons, one] at behind

theorem slice?_takeWhile (p : Char → Bool) (t : Text) :
    slice? t 0 (utf8Size (t.takeWhile p)) = some (t.takeWhile p) := by
  have front := slice?_front (t.takeWhile p) (t.dropWhile p)
  rwa [List.takeWhile_append_dropWhile] at front

theorem length_le_utf8Size (t : Text) : t.length ≤ utf8Size t := by
  induction t with
  | nil => exact Nat.le_refl 0
  | cons c t ih =>
    have pos := c.utf8Size_pos
    rw [utf8Size_cons, List.length_cons]
    omega

theorem utf8Size_le_of_suffix {s t : Text} (h : s <:+ t) : utf8Size s ≤ utf8Size t := by
  obtain ⟨r, rfl⟩ := h
  rw [utf8Size_append]
  exact Nat.le_add_left ..

theorem utf8Size_lt_of_suffix {s t : Text} (h : s <:+ t) (shorter : s.length < t.length) :
    utf8Size s < utf8Size t := by
  obtain ⟨r, rfl⟩ := h
  have size := length_le_utf8Size r
  rw [List.length_append] at shorter
  rw [utf8Size_append]
  omega

theorem find?_eq (p : Char → Bool) (t : Text) :
    find? p t = if t.any p then some (utf8Size (t.takeWhile (!p ·))) else none := by
  induction t with
  | nil => rfl
  | cons c t ih =>
    cases h : p c with
    | true => simp [find?, h]
    | false =>
      rw [find?, ih]
      by_cases any : t.any p = true <;> simp [h, any, utf8Size_cons]

theorem find?_getD (p : Char → Bool) (t : Text) :
    (find? p t).getD (utf8Size t) = utf8Size (t.takeWhile (!p ·)) := by
  by_cases any : t.any p = true
  · rw [find?_eq, if_pos any, Option.getD_some]
  · rw [find?_eq, if_neg any, Option.getD_none, List.takeWhile_eq_self_iff.2]
    simpa using any

theorem find?_mark {m : Char} {t : Text} (h : m ∈ t) :
    find? (· = m) t = some (utf8Size (t.takeWhile (· ≠ m))) := by
  have any : t.any (· = m) = true := List.any_eq_true.2 ⟨m, h, by simp⟩
  rw [find?_eq, if_pos any]
  simp only [ne_eq, decide_not]

theorem find?_mark_eq_none {m : Char} {t : Text} (h : m ∉ t) : find? (· = m) t = none := by
  rw [find?_eq, if_neg]
  rw [List.any_eq_true]
  rintro ⟨c, at_, same⟩
  rw [of_decide_eq_true same] at at_
  exact h at_

end HeaderForge.Text
