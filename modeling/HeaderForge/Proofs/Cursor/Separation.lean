import HeaderForge.Declaration
import HeaderForge.Proofs.Bracket.Pairing
import HeaderForge.Proofs.Cursor.Reading
import HeaderForge.ReadError

/-! Where a default ends. The reader stops at the first comma with as many closers as openers of
each kind before it. That is the first comma outside all brackets exactly if the first comma that
is either has a balanced text before it; a closer without an opener hides the commas behind it. -/

namespace HeaderForge

open Text Nesting

variable {p q : Text → Prop} {t s item item' r r' : Text} {c : Cursor}

/-- A text cut at the first comma with `p` of the text before it, or not at all if there is none. -/
structure CommaCut (p : Text → Prop) (t item r : Text) : Prop where
  split : t = item ++ r
  inner : ∀ s r', item = s ++ ',' :: r' → ¬ p s
  stop : r = [] ∨ p item ∧ ∃ r', r = ',' :: r'

namespace CommaCut

theorem eq_nil_of_append {more : Text} (h : CommaCut p t item (more ++ r))
    (h' : CommaCut p t (item ++ more) r) : more = [] := by
  cases more with
  | nil => rfl
  | cons ch more =>
    obtain none | ⟨stops, behind, comma⟩ := h.stop
    · cases none
    · cases comma
      exact absurd stops (h'.inner item more rfl)

theorem unique (h : CommaCut p t item r) (h' : CommaCut p t item' r') : item = item' ∧ r = r' := by
  have same : item ++ r = item' ++ r' := h.split.symm.trans h'.split
  obtain ⟨more, rfl, rfl⟩ | ⟨more, rfl, rfl⟩ := List.append_eq_append_iff.1 same
  · rw [h.eq_nil_of_append h']
    simp
  · rw [h'.eq_nil_of_append h]
    simp

theorem not_of_inner (h : CommaCut p t item r)
    (agree : ∀ s r', CommaCut (fun x => q x ∨ p x) t s (',' :: r') → q s ∧ p s) :
    ∀ s r', item = s ++ ',' :: r' → ¬ q s := by
  intro s
  -- On the length: commas before the cut are passed by `q` as they are by `p`.
  induction size : s.length using Nat.strongRecOn generalizing s with
  | ind n ih =>
    intro r' split stops
    have first : CommaCut (fun x => q x ∨ p x) t s (',' :: (r' ++ r)) := by
      refine ⟨?_, ?_, Or.inr ⟨Or.inl stops, _, rfl⟩⟩
      · rw [h.split, split, List.append_assoc, List.cons_append]
      · intro s' w earlier
        have split' : item = s' ++ ',' :: (w ++ ',' :: r') := by
          rw [split, earlier, List.append_assoc, List.cons_append]
        have shorter : s'.length < n := by
          rw [← size, earlier, List.length_append, List.length_cons]
          omega
        rintro (stops' | stops')
        · exact ih s'.length shorter s' rfl _ split' stops'
        · exact h.inner s' _ split' stops'
    exact h.inner s r' split (agree s _ first).2

theorem agree_iff (h : CommaCut p t item r) : CommaCut q t item r ↔
    ∀ s r', CommaCut (fun x => q x ∨ p x) t s (',' :: r') → q s ∧ p s := by
  constructor
  · intro h' s r' first
    have both : CommaCut (fun x => q x ∨ p x) t item r := by
      refine ⟨h.split, fun s r' split => ?_, h.stop.imp_right fun stop => ⟨Or.inr stop.1, stop.2⟩⟩
      exact not_or.2 ⟨h'.inner s r' split, h.inner s r' split⟩
    obtain ⟨rfl, rfl⟩ := both.unique first
    have more : ',' :: r' ≠ [] := List.cons_ne_nil _ _
    exact ⟨(h'.stop.resolve_left more).1, (h.stop.resolve_left more).1⟩
  · intro agree
    have inner := h.not_of_inner agree
    refine ⟨h.split, inner, h.stop.imp_right fun ⟨stops, r', comma⟩ => ⟨?_, r', comma⟩⟩
    subst comma
    refine (agree item r' ⟨h.split, fun s r' split => ?_, Or.inr ⟨Or.inr stops, r', rfl⟩⟩).1
    exact not_or.2 ⟨inner s r' split, h.inner s r' split⟩

end CommaCut

theorem Nesting.commaCut_upToComma (t : Text) : ∃ r, CommaCut IsLevel t (top.upToComma t) r := by
  obtain ⟨r, split, again, left⟩ := upToComma_spec top t
  refine ⟨r, split, fun s r' comma => ?_, left.imp_right fun stop => ⟨?_, stop.2⟩⟩
  · exact mt after_top_eq_top_iff.2 (upToComma_eq_self_iff.1 again s r' comma)
  · exact after_top_eq_top_iff.1 stop.1

namespace Cursor

/-- What is read up to a comma ends at the first comma with `p` of the text before it, and the
cursor stands on that comma or at the end. -/
def EndsItem (p : Text → Prop) (c : Cursor) : Prop :=
  ∃ item r, CommaCut p c.rest item r ∧ c.readToComma = (trimEnd item, ⟨r⟩)

theorem endsItem_isLevel (c : Cursor) : c.EndsItem IsLevel := by
  obtain ⟨r, cut⟩ := commaCut_upToComma c.rest
  have clear : ofText r = ⟨r⟩ := by
    obtain rfl | ⟨-, behind, rfl⟩ := cut.stop
    · rfl
    · exact ofText_cons rfl behind
  have advanced := advance_append (top.upToComma c.rest) r
  rw [← cut.split, clear] at advanced
  exact ⟨_, r, cut, congrArg (Prod.mk _) advanced⟩

theorem endsItem_iff (h : c.EndsItem p) : c.EndsItem q ↔
    ∀ s r, CommaCut (fun x => q x ∨ p x) c.rest s (',' :: r) → q s ∧ p s := by
  obtain ⟨item, r, cut, read⟩ := h
  rw [← cut.agree_iff]
  constructor
  · rintro ⟨item', r', cut', read'⟩
    rw [read] at read'
    obtain ⟨-, same⟩ := Prod.mk.inj read'
    cases same
    have whole := cut.split.symm.trans cut'.split
    rwa [List.append_cancel_right whole]
  · exact fun cut' => ⟨item, r, cut', read⟩

/-- A default ends at the first comma with as many closers as openers of each kind before it. It
ends at the first comma outside all brackets exactly if, before the first comma that is outside all
brackets or has equal counts before it, every bracket has its partner. -/
theorem readToComma_ends (c : Cursor) :
    c.EndsItem IsLevel ∧
    (c.EndsItem NoneOpen ↔
      ∀ s r, CommaCut (fun t => NoneOpen t ∨ IsLevel t) c.rest s (',' :: r) →
        ∀ b ∈ bracketPairs, Balanced b.1 b.2 s) := by
  refine ⟨c.endsItem_isLevel, ?_⟩
  rw [endsItem_iff c.endsItem_isLevel]
  exact forall₂_congr fun s r => forall_congr' fun _ => balanced_iff_noneOpen.symm

/-- No bracket is open behind `p->v`, but its `>` is counted, so that the next parameter is read
into the default. -/
theorem readToComma_ends_arrow :
    CommaCut NoneOpen "p->v, int y".toList "p->v".toList ", int y".toList ∧
      (ofText "p->v, int y".toList).readToComma = ("p->v, int y".toList, ⟨[]⟩) ∧
      ¬ (ofText "p->v, int y".toList).EndsItem NoneOpen ∧
      readParameterList "int x = p->v, int y".toList =
        .ok [⟨"int".toList, ['x'], "p->v, int y".toList⟩] := by
  have cut : CommaCut NoneOpen "p->v, int y".toList "p->v".toList ", int y".toList := by
    have outside : ∀ b ∈ bracketPairs, b.1 ∉ "p->v".toList := by decide
    have single : ',' ∉ "p->v".toList := by decide
    refine ⟨rfl, ?_, Or.inr ⟨fun b hb => allClosed_of_not_mem (outside b hb), _, rfl⟩⟩
    intro s r' split
    rw [split] at single
    simp at single
  have read : (ofText "p->v, int y".toList).readToComma = ("p->v, int y".toList, ⟨[]⟩) := by
    decide +kernel
  refine ⟨cut, read, ?_, by decide +kernel⟩
  rintro ⟨item, r, cut', read'⟩
  obtain ⟨-, rfl⟩ := cut.unique cut'
  have rest : [] = ", int y".toList :=
    congrArg (fun taken : Text × Cursor => taken.2.rest) (read.symm.trans read')
  exact absurd rest (by decide)

end Cursor
end HeaderForge
