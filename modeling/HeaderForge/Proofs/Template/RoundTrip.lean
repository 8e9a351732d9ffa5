import HeaderForge.Proofs.Template.Display

/-! When a template list is read back. An entry with neither a name nor a default, which is written
with an equals sign at its end, is displayed as its type alone, and a type alone is no entry. Every
other entry comes back, and so does the list around it. -/

namespace HeaderForge

open Text

variable {e line : Text} {p : TemplateParameter} {ps : List TemplateParameter}

theorem readTemplateEntry_display_bare (word : IsWord p.typeName) (unnamed : p.variableName = [])
    (undefaulted : p.defaultValue = []) : readTemplateEntry p.display ≠ .ok p := by
  intro again
  obtain ⟨rest, name, value, cut⟩ := readTemplateEntry_eq_ok.1 again
  have written : p.display = p.typeName ++ [' '] := by
    rw [TemplateParameter.display, displayEntry, unnamed, undefaulted, if_pos rfl, List.append_nil]
  have blank : AllBlank [' '] := allBlank_cons.2 ⟨rfl, allBlank_nil⟩
  have whole := cut.entry
  rw [written, trim_append_blank blank, trim_of_no_blank word.2, List.self_eq_append_right]
    at whole
  exact cut.more (by rw [whole]; rfl)

theorem readTemplateEntry_display_iff (h : readTemplateEntry e = .ok p) :
    readTemplateEntry p.display = .ok p ↔ p.variableName ≠ [] ∨ p.defaultValue ≠ [] := by
  obtain ⟨rest, name, value, cut⟩ := readTemplateEntry_eq_ok.1 h
  constructor
  · intro again
    by_contra bare
    rw [not_or, not_not, not_not] at bare
    exact readTemplateEntry_display_bare cut.type bare.1 bare.2 again
  · exact fun named => readTemplateEntry_display (isLegible_of_readTemplateEntry h named)

/-- A list that was read is read again from its display, whatever stands behind it, exactly if none
of its entries has neither a name nor a default. -/
theorem readTemplateParameters_display_iff (h : readTemplateParameters line = .ok ps) (s : Text) :
    readTemplateParameters (displayTemplateList ps ++ s) = .ok ps ↔
      ¬ ∃ p ∈ ps, p.variableName = [] ∧ p.defaultValue = [] := by
  obtain ⟨e, -, -, balanced, ⟨-, rfl⟩ | ⟨-, read⟩⟩ := readTemplateParameters_eq_ok.1 h
  · simp [readTemplateParameters_display h]
  rw [readTemplateParameters_displays_iff balanced read]
  have each : ∀ p ∈ ps, readTemplateEntry p.display = .ok p ↔
      ¬ (p.variableName = [] ∧ p.defaultValue = []) := by
    intro p hp
    obtain ⟨entry, -, read⟩ := exists_entry_of_mem read hp
    rw [readTemplateEntry_display_iff read, not_and_or]
  simp only [not_exists, not_and]
  exact forall₂_congr fun p hp => (each p hp).trans not_and

/-- Brackets that are left open in one entry are closed in another, and a second `>` behind the list
is not taken for its end; an equals sign at the end of an entry does not come back. -/
theorem readTemplateParameters_display_iff_bare :
    readTemplateParameters "template <A<B x, C> y == z, int = 3>".toList =
        .ok [⟨"A<B".toList, ['x'], []⟩, ⟨"C>".toList, ['y'], "= z".toList⟩,
          ⟨"int".toList, [], ['3']⟩] ∧
      readTemplateParameters (displayTemplateList [⟨"A<B".toList, ['x'], []⟩,
          ⟨"C>".toList, ['y'], "= z".toList⟩, ⟨"int".toList, [], ['3']⟩] ++ ", int> f<".toList) =
        .ok [⟨"A<B".toList, ['x'], []⟩, ⟨"C>".toList, ['y'], "= z".toList⟩,
          ⟨"int".toList, [], ['3']⟩] ∧
      readTemplateParameters "template <class T, int =>".toList =
        .ok [⟨"class".toList, ['T'], []⟩, ⟨"int".toList, [], []⟩] ∧
      readTemplateParameters
          (displayTemplateList [⟨"class".toList, ['T'], []⟩, ⟨"int".toList, [], []⟩] ++ []) ≠
        .ok [⟨"class".toList, ['T'], []⟩, ⟨"int".toList, [], []⟩] := by
  have nested : readTemplateParameters "template <A<B x, C> y == z, int = 3>".toList =
      .ok [⟨"A<B".toList, ['x'], []⟩, ⟨"C>".toList, ['y'], "= z".toList⟩,
        ⟨"int".toList, [], ['3']⟩] := by decide +kernel
  have bare : readTemplateParameters "template <class T, int =>".toList =
      .ok [⟨"class".toList, ['T'], []⟩, ⟨"int".toList, [], []⟩] := by decide +kernel
  refine ⟨nested, (readTemplateParameters_display_iff nested _).2 (by decide), bare, ?_⟩
  rw [ne_eq, readTemplateParameters_display_iff bare]
  decide

end HeaderForge
