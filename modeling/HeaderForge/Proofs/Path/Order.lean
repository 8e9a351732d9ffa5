import HeaderForge.Path
import Mathlib.Data.List.Lex

/-! The order of paths. Texts are ordered as lists of characters and paths as lists of components,
so the order is linear on components, and paths between which it does not decide are the same,
whatever their spelling. -/

namespace HeaderForge

namespace Text

variable {s t : Text}

instance : IsStrictTotalOrder Char fun c d : Char => decide (c.val < d.val) where
  irrefl c := by simp
  trans c d e h h' := by
    simp only [decide_eq_true_eq] at h h' ⊢
    exact UInt32.lt_trans h h'
  trichotomous c d h h' := by
    simp only [decide_eq_true_eq, UInt32.not_lt] at h h'
    exact Char.ext (UInt32.le_antisymm h' h)

theorem lt_iff : lt s t = true ↔ List.Lex (fun c d => decide (c.val < d.val) = true) s t :=
  List.lex_eq_true_iff_lex _

instance : IsStrictTotalOrder Text (lt · ·) where
  irrefl s h := asymm_of (List.Lex _) (lt_iff.1 h) (lt_iff.1 h)
  trans s t u h h' := by
    have chars {c d e : Char} :=
      trans_of (a := c) (b := d) (c := e) fun c d => decide (c.val < d.val)
    exact lt_iff.2 (List.lex_trans chars (lt_iff.1 h) (lt_iff.1 h'))
  trichotomous s t h h' :=
    Std.Trichotomous.trichotomous (r := List.Lex _) s t (mt lt_iff.2 h) (mt lt_iff.2 h')

end Text

namespace Component

instance : IsStrictTotalOrder Component (lt · ·) where
  irrefl a := by
    cases a with
    | name m => exact irrefl_of (Text.lt · ·) m
    | root | here | up => exact Bool.false_ne_true
  trans a b c h h' := by
    cases a <;> cases b <;> cases c
    case name.name.name => exact trans_of (Text.lt · ·) h h'
    all_goals first
      | rfl
      | exact absurd h Bool.false_ne_true
      | exact absurd h' Bool.false_ne_true
  trichotomous a b h h' := by
    cases a <;> cases b
    case name.name m n =>
      obtain less | same | more := trichotomous_of (Text.lt · ·) m n
      · exact absurd less h
      · rw [same]
      · exact absurd more h'
    all_goals first | rfl | exact absurd rfl h | exact absurd rfl h'

end Component

namespace Path

variable {p q r : Path}

theorem same_iff : p.same q = true ↔ p.components = q.components := by simp [same]

theorem le_iff : p.le q = true ↔ ¬ List.Lex (Component.lt · ·) q.components p.components := by
  rw [le, Bool.not_eq_true', List.lex_eq_false_iff_not_lex]

theorem le_total (p q : Path) : p.le q = true ∨ q.le p = true := by
  rw [le_iff, le_iff, ← not_and_or]
  exact fun both => asymm_of (List.Lex _) both.1 both.2

theorem le_trans (h : p.le q = true) (h' : q.le r = true) : p.le r = true := by
  rw [le_iff] at h h' ⊢
  exact IsOrderConnected.neg_trans h' h

theorem same_of_le (h : p.le q = true) (h' : q.le p = true) : p.same q = true := by
  rw [le_iff] at h h'
  exact same_iff.2 (Std.Trichotomous.trichotomous (r := List.Lex _) _ _ h' h)

theorem le_of_same (h : p.same q = true) : p.le q = true := by
  rw [le_iff, same_iff.1 h]
  exact irrefl_of (List.Lex _) _

/-- One path stands before another and is not the same. -/
def Before (p q : Path) : Prop := p.le q = true ∧ p.same q = false

theorem Before.lex (h : p.Before q) : List.Lex (Component.lt · ·) p.components q.components := by
  by_contra behind
  have same := same_of_le h.1 (le_iff.2 behind)
  rw [h.2] at same
  cases same

theorem Before.of_le (h : p.Before q) (h' : q.le r = true) : p.Before r := by
  refine ⟨le_trans h.1 h', ?_⟩
  by_contra same
  rw [Bool.not_eq_false, same_iff] at same
  have back : r.le p = true := le_of_same (same_iff.2 same.symm)
  have stuck := same_of_le h.1 (le_trans h' back)
  rw [h.2] at stuck
  cases stuck

end Path
end HeaderForge
