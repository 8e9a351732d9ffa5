import HeaderForge.Bracket
import HeaderForge.Proofs.Text.Stop
import Mathlib.Tactic.Conv

/-! Balance. The partner of an opener stands where the items before it leave nothing open, and how
much a text leaves open depends on its brackets alone. -/

namespace HeaderForge

section Counting

variable {α : Type} [DecidableEq α] {opener closer : α} {depth n : Nat} {l s t : List α} {x : α}

def bracketStep (opener closer : α) (depth : Nat) (x : α) : Option Nat :=
  if x = opener then some (depth + 1)
  else if x = closer then if depth = 0 then none else some (depth - 1)
  else some depth

/-- How many openers are open behind some items, or none if one of them closes what was not open. -/
def openAfter (opener closer : α) (depth : Nat) (l : List α) : Option Nat :=
  l.foldlM (bracketStep opener closer) depth

/-- Every bracket has its partner among the items. -/
def Balanced (opener closer : α) (l : List α) : Prop := openAfter opener closer 0 l = some 0

theorem openAfter_cons : openAfter opener closer depth (x :: l) =
    (bracketStep opener closer depth x).bind (openAfter opener closer · l) := rfl

theorem bracketStep_eq_none_iff (ne : opener ≠ closer) :
    bracketStep opener closer depth x = none ↔ x = closer ∧ depth = 0 := by
  unfold bracketStep
  split
  · rename_i hx
    subst hx
    simp [ne]
  · split <;> simp_all

theorem openAfter_filter (depth : Nat) (l : List α) :
    openAfter opener closer depth (l.filter fun x => x = opener ∨ x = closer) =
      openAfter opener closer depth l := by
  induction l generalizing depth with
  | nil => rfl
  | cons x l ih =>
    by_cases hx : x = opener ∨ x = closer
    · rw [List.filter_cons_of_pos (by simpa using hx), openAfter_cons, openAfter_cons]
      congr 1
      funext depth'
      exact ih depth'
    · rw [List.filter_cons_of_neg (by simpa using hx), ih, openAfter_cons]
      rw [not_or] at hx
      rw [bracketStep, if_neg hx.1, if_neg hx.2]
      rfl

theorem balanced_congr
    (h : (s.filter fun x => x = opener ∨ x = closer) = t.filter fun x => x = opener ∨ x = closer) :
    Balanced opener closer s ↔ Balanced opener closer t := by
  rw [Balanced, Balanced, ← openAfter_filter, h, openAfter_filter]

theorem closingIndex_cons :
    closingIndex opener closer depth (x :: l) =
      match bracketStep opener closer depth x with
      | none => some 0
      | some depth => (closingIndex opener closer depth l).map (· + 1) := by
  conv_lhs => unfold closingIndex
  unfold bracketStep
  split
  · rfl
  · split
    · cases depth <;> rfl
    · rfl

theorem closingIndex_eq_some_iff (ne : opener ≠ closer) :
    closingIndex opener closer depth l = some n ↔
      ∃ s t, l = s ++ closer :: t ∧ s.length = n ∧ openAfter opener closer depth s = some 0 := by
  induction l generalizing depth n with
  | nil => simp [closingIndex]
  | cons x l ih =>
    rw [closingIndex_cons]
    cases step : bracketStep opener closer depth x with
    | none =>
      obtain ⟨rfl, rfl⟩ := (bracketStep_eq_none_iff ne).1 step
      constructor
      · intro found
        cases found
        exact ⟨[], l, rfl, rfl, rfl⟩
      · rintro ⟨s, t, split, rfl, closed⟩
        cases s with
        | nil => rfl
        | cons y s =>
          cases split
          rw [openAfter_cons, step] at closed
          cases closed
    | some depth' =>
      rw [Option.map_eq_some_iff]
      constructor
      · rintro ⟨m, found, rfl⟩
        obtain ⟨s, t, rfl, rfl, closed⟩ := ih.1 found
        refine ⟨x :: s, t, rfl, rfl, ?_⟩
        rw [openAfter_cons, step]
        exact closed
      · rintro ⟨s, t, split, rfl, closed⟩
        cases s with
        | nil =>
          cases split
          cases closed
          rw [(bracketStep_eq_none_iff ne).2 ⟨rfl, rfl⟩] at step
          cases step
        | cons y s =>
          cases split
          rw [openAfter_cons, step] at closed
          exact ⟨s.length, ih.2 ⟨s, t, rfl, rfl, closed⟩, rfl⟩

theorem closingIndex_of_balanced (ne : opener ≠ closer) (h : Balanced opener closer s)
    (t : List α) : closingIndex opener closer 0 (s ++ closer :: t) = some s.length :=
  (closingIndex_eq_some_iff ne).2 ⟨s, t, rfl, rfl, h⟩

end Counting

theorem Enclosed.ofText?_eq_some_iff {t : Text} {e : Enclosed} :
    Enclosed.ofText? t = some e ↔ t = e.text ∧ '<' ∉ e.before ∧ Balanced '<' '>' e.inside := by
  constructor
  · intro h
    unfold Enclosed.ofText? at h
    split at h
    · cases h
    · rename_i x rest found
      obtain ⟨n, closing, rfl⟩ := Option.map_eq_some_iff.1 h
      obtain ⟨s, t', rfl, rfl, balanced⟩ := (closingIndex_eq_some_iff (by decide)).1 closing
      have whole := eq_of_dropWhile_ne found
      refine ⟨?_, not_mem_takeWhile_ne t, ?_⟩
      · simpa [Enclosed.text] using whole
      · simpa [Balanced] using balanced
  · rintro ⟨rfl, front, balanced⟩
    unfold Enclosed.ofText? Enclosed.text
    rw [dropWhile_append_mark front, takeWhile_append_mark front]
    simp [closingIndex_of_balanced (show '<' ≠ '>' by decide) balanced]

end HeaderForge
