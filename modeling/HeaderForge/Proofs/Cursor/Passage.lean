import HeaderForge.Cursor
import HeaderForge.Proofs.Bracket.Balance
import HeaderForge.ReadError
import HeaderForge.Proofs.Text.Blank

/-! What the readers of a cursor pass. A reader that succeeds passes the text it took and nothing
but blanks after it. -/

namespace HeaderForge.Cursor

open Text

variable {c d : Cursor} {t w x : Text}

/-- From `c` to `d` the text `x` is passed, and after it nothing but blanks. -/
def Passes (c d : Cursor) (x : Text) : Prop := ∃ w, AllBlank w ∧ c.rest = x ++ (w ++ d.rest)

theorem Passes.withoutBlanks (h : Passes c d x) :
    withoutBlanks c.rest = Text.withoutBlanks x ++ Text.withoutBlanks d.rest := by
  obtain ⟨w, blank, split⟩ := h
  rw [split, withoutBlanks_append, withoutBlanks_append, withoutBlanks_of_blank blank,
    List.nil_append]

theorem Passes.subset (h : Passes c d x) : x ⊆ c.rest ∧ d.rest ⊆ c.rest := by
  obtain ⟨w, -, split⟩ := h
  rw [split]
  refine ⟨List.subset_append_left _ _, ?_⟩
  exact List.subset_append_of_subset_right x (List.subset_append_right w d.rest)

theorem Passes.suffix (h : Passes c d x) : d.rest <:+ c.rest := by
  obtain ⟨w, -, split⟩ := h
  exact ⟨x ++ w, by rw [split, List.append_assoc]⟩

theorem passes_advance (c : Cursor) (n : Nat) : Passes c (c.advance n) (c.rest.take n) := by
  obtain ⟨w, blank, split⟩ := trimStart_spec (c.rest.drop n)
  refine ⟨w, blank, ?_⟩
  change c.rest = c.rest.take n ++ (w ++ trimStart (c.rest.drop n))
  rw [← split, List.take_append_drop]

theorem passes_eat? (h : c.eat? t = some d) : Passes c d t := by
  unfold eat? at h
  split at h
  · rename_i front
    cases h
    have taken := passes_advance c t.length
    rwa [← List.prefix_iff_eq_take.1 (List.isPrefixOf_iff_prefix.1 front)] at taken
  · cases h

theorem passes_eatWord? (h : c.eatWord? t = some d) : Passes c d t := by
  unfold eatWord? at h
  split at h
  · rename_i front
    rw [Bool.and_eq_true] at front
    cases h
    have taken := passes_advance c t.length
    rwa [← List.prefix_iff_eq_take.1 (List.isPrefixOf_iff_prefix.1 front.1)] at taken
  · cases h

theorem readType_eq_ok : c.readType = .ok (t, d) ↔
    ∃ n, typeLength c.rest = .ok n ∧ t = c.rest.take n ∧ d = c.advance n := by
  rw [readType, map_eq_ok_iff]
  simp only [Prod.mk.injEq, eq_comm]

theorem passes_readType (h : c.readType = .ok (t, d)) : Passes c d t := by
  obtain ⟨n, -, rfl, rfl⟩ := readType_eq_ok.1 h
  exact passes_advance c n

theorem passes_readName? (h : c.readName? = some (t, d)) : Passes c d t := by
  unfold readName? at h
  split at h
  · cases h
  · cases h
    have taken := passes_advance c (c.rest.takeWhile (!endsName ·)).length
    rwa [← List.prefix_iff_eq_take.1 (List.takeWhile_prefix _)] at taken

theorem passes_readToComma (c : Cursor) : Passes c c.readToComma.2 c.readToComma.1 := by
  let value := Nesting.top.upToComma c.rest
  obtain ⟨w, blank, split⟩ := passes_advance c value.length
  obtain ⟨v, blank', value_split⟩ := trimEnd_spec value
  rw [← List.prefix_iff_eq_take.1 (Nesting.upToComma_prefix _ _)] at split
  refine ⟨v ++ w, ?_, ?_⟩
  · intro ch hch
    rcases List.mem_append.1 hch with hch | hch
    · exact blank' ch hch
    · exact blank ch hch
  · change c.rest = trimEnd value ++ (v ++ w ++ (c.advance value.length).rest)
    rw [List.append_assoc, ← List.append_assoc, ← value_split]
    exact split

end HeaderForge.Cursor
