import HeaderForge.Proofs.Bracket.Offset
import HeaderForge.Proofs.Template.Display

/-! Nothing is lost in a template list. Each comma divides two entries, and the list without its
blanks is the fields of its entries without their blanks, in order and once each, with the equals
signs and the commas between them. -/

namespace HeaderForge

open Text

variable {e line : Text} {p : TemplateParameter} {ps : List TemplateParameter}

/-- An entry as it was written, blanks left out: an equals sign may stand before no default. -/
def TemplateParameter.WrittenAs (p : TemplateParameter) (t : Text) : Prop :=
  ∃ sign, t = p.typeName ++ withoutBlanks p.variableName ++ sign ++ withoutBlanks p.defaultValue ∧
    (sign = ['='] ∨ sign = [] ∧ p.defaultValue = [])

structure TemplateParameter.IsDivided (p : TemplateParameter) : Prop where
  type : IsWord p.typeName
  sign : '=' ∉ p.variableName
  comma : ',' ∉ p.typeName ∧ ',' ∉ p.variableName ∧ ',' ∉ p.defaultValue
  trimmed : trim p.typeName = p.typeName ∧ trim p.variableName = p.variableName ∧
    trim p.defaultValue = p.defaultValue

theorem EntryCut.writtenAs {rest name value : Text} (cut : EntryCut e rest name value p) :
    p.WrittenAs (withoutBlanks e) := by
  have whole : withoutBlanks e = p.typeName ++ withoutBlanks (trim rest) := by
    rw [← withoutBlanks_trim, cut.entry, withoutBlanks_append, cut.type.withoutBlanks,
      withoutBlanks_trim]
  rw [TemplateParameter.WrittenAs, cut.variableName, cut.defaultValue, withoutBlanks_trim,
    withoutBlanks_trim, whole]
  obtain ⟨split, rfl⟩ | split := cut.sign.2
  · refine ⟨[], ?_, Or.inr ⟨rfl, rfl⟩⟩
    rw [split, List.append_nil]
    exact (List.append_nil _).symm
  · refine ⟨['='], ?_, Or.inl rfl⟩
    rw [split, withoutBlanks_append, withoutBlanks_cons rfl]
    simp only [List.append_assoc, List.singleton_append]

theorem EntryCut.isDivided {rest name value : Text} (cut : EntryCut e rest name value p)
    (comma : ',' ∉ e) : p.IsDivided := by
  obtain ⟨type, named, valued⟩ := cut.subset
  exact ⟨cut.type, cut.sign_not_mem, ⟨fun mem => comma (type mem), fun mem => comma (named mem),
    fun mem => comma (valued mem)⟩, trim_of_no_blank cut.type.2, cut.trimmed⟩

theorem isDivided_of_readTemplateEntries {inside : Text}
    (read : readTemplateEntries (inside.splitOn ',') = .ok ps) : ∀ p ∈ ps, p.IsDivided := by
  intro p hp
  obtain ⟨entry, he, read⟩ := exists_entry_of_mem read hp
  obtain ⟨rest, name, value, cut⟩ := readTemplateEntry_eq_ok.1 read
  exact cut.isDivided (not_mem_of_mem_splitOn he)

theorem forall₂_writtenAs {es : List Text} (read : readTemplateEntries es = .ok ps) :
    List.Forall₂ TemplateParameter.WrittenAs ps (es.map withoutBlanks) := by
  rw [List.forall₂_map_right_iff]
  refine ((readTemplateEntries_eq_ok.1 read).imp fun e p read => ?_).flip
  obtain ⟨rest, name, value, cut⟩ := readTemplateEntry_eq_ok.1 read
  exact cut.writtenAs

/-- A blank list has no entries. Any other has one more than it has commas and is, blanks aside, its
entries with a comma between each two. -/
structure ConservedIn (list : Text) (ps : List TemplateParameter) : Prop where
  none : AllBlank list → ps = []
  length : ¬ AllBlank list → ps.length = list.count ',' + 1
  divided : ¬ AllBlank list → ∀ p ∈ ps, p.IsDivided
  written : ¬ AllBlank list → ∃ pieces, List.Forall₂ TemplateParameter.WrittenAs ps pieces ∧
    withoutBlanks list = [','].intercalate pieces

theorem conservedIn_of_blank {list : Text} (blank : AllBlank list) : ConservedIn list [] where
  none _ := rfl
  length more := absurd blank more
  divided more := absurd blank more
  written more := absurd blank more

theorem conservedIn_of_readTemplateEntries {list : Text} (more : ¬ AllBlank list)
    (read : readTemplateEntries (list.splitOn ',') = .ok ps) : ConservedIn list ps where
  none blank := absurd blank more
  length _ := by rw [← (readTemplateEntries_eq_ok.1 read).length_eq, length_splitOn]
  divided _ := isDivided_of_readTemplateEntries read
  written _ := ⟨_, forall₂_writtenAs read, filter_eq_intercalate rfl list⟩

/-- A line that was read has a list between its first `<` and the partner of that bracket, and the
entries conserve that list. -/
theorem readTemplateParameters_conserves (h : readTemplateParameters line = .ok ps) :
    ∃ before list after, line = before ++ '<' :: (list ++ '>' :: after) ∧ '<' ∉ before ∧
      indexOfClosing line (utf8Size before) =
        .ok (some (utf8Size before + 1 + utf8Size list)) ∧
      ConservedIn list ps := by
  obtain ⟨e, rfl, before, balanced, parts⟩ := readTemplateParameters_eq_ok.1 h
  refine ⟨e.before, e.inside, e.after, rfl, before, Enclosed.indexOfClosing_text balanced, ?_⟩
  obtain ⟨blank, rfl⟩ | ⟨more, read⟩ := parts
  · exact conservedIn_of_blank (trim_eq_nil_iff.1 blank)
  · exact conservedIn_of_readTemplateEntries (mt trim_eq_nil_iff.2 more) read

theorem readTemplateParameters_conserves_nested :
    readTemplateParameters "template <A<B x, C> y == z, class...\t Ts, int\u3000 =>".toList =
        .ok [⟨"A<B".toList, ['x'], []⟩, ⟨"C>".toList, ['y'], "= z".toList⟩,
          ⟨"class...".toList, "Ts".toList, []⟩, ⟨"int".toList, [], []⟩] ∧
      ∃ before list after,
        "template <A<B x, C> y == z, class...\t Ts, int\u3000 =>".toList =
          before ++ '<' :: (list ++ '>' :: after) ∧ '<' ∉ before ∧
        indexOfClosing "template <A<B x, C> y == z, class...\t Ts, int\u3000 =>".toList
            (utf8Size before) = .ok (some (utf8Size before + 1 + utf8Size list)) ∧
        ConservedIn list [⟨"A<B".toList, ['x'], []⟩, ⟨"C>".toList, ['y'], "= z".toList⟩,
          ⟨"class...".toList, "Ts".toList, []⟩, ⟨"int".toList, [], []⟩] := by
  refine ⟨?read, readTemplateParameters_conserves ?read⟩
  decide +kernel

end HeaderForge
