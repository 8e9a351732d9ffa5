import HeaderForge.Proofs.Declaration.Parameter

/-! The shape of what is read from a parameter list. A type has a blank only behind a `<` in its
first word or in front of a `const`; a name holds none of the characters that end it; a default
has no comma at which every bracket count is zero, and behind every default but the last all of
them are. -/

namespace HeaderForge

open Text Cursor Nesting

variable {c d : Cursor} {q : Qualifiers} {p : FunctionParameter} {text base : Text}

structure FunctionParameter.IsShaped (p : FunctionParameter) : Prop where
  typed : p.typeName ≠ []
  begins : ∀ ch ∈ p.typeName.head?, isBlank ch = false
  ends : ∀ ch ∈ p.typeName.getLast?, isBlank ch = false
  spaced : (∃ ch ∈ p.typeName, isBlank ch = true) → '<' ∈ front p.typeName ∨
    ∃ token isReference isPack, IsPlain token ∧
      p.typeName = token ++ Qualifiers.text ⟨true, isReference, isPack⟩
  named : p.name ≠ []
  name : ∀ ch ∈ p.name, isBlank ch = false ∧ ch ≠ ',' ∧ ch ≠ '='
  trimmed : trim p.defaultValue = p.defaultValue
  comma : ∀ s r, p.defaultValue = s ++ ',' :: r → ¬ IsLevel s

theorem begins_type (kind : IsPlain base ∨ IsTemplated base) (q : Qualifiers) :
    ∀ ch ∈ (base ++ q.text).head?, isBlank ch = false := by
  obtain plain | templated := kind
  · rw [List.head?_append_of_ne_nil _ plain.1.1]
    exact plain.solid
  · rw [List.head?_append_of_ne_nil _ templated.ne_nil]
    exact templated.solid

theorem ends_qualifiers (q : Qualifiers) : ∀ ch ∈ q.text.getLast?, isBlank ch = false := by
  obtain ⟨isConst, isReference, isPack⟩ := q
  intro ch at_
  cases isConst <;> cases isReference <;> cases isPack <;> cases at_ <;> rfl

theorem ends_type (kind : IsPlain base ∨ IsTemplated base) (q : Qualifiers) :
    ∀ ch ∈ (base ++ q.text).getLast?, isBlank ch = false := by
  have last : ∀ ch ∈ base.getLast?, isBlank ch = false := by
    obtain plain | ⟨before, inside, rfl, -⟩ := kind
    · exact fun ch at_ => plain.1.2 ch (List.mem_of_getLast? at_)
    · have closed : before ++ '<' :: (inside ++ ['>']) = (before ++ '<' :: inside) ++ ['>'] := by
        simp
      rw [closed, List.getLast?_concat]
      rintro ch ⟨rfl⟩
      rfl
  intro ch at_
  rw [List.getLast?_append, Option.mem_def, Option.or_eq_some_iff] at at_
  obtain qualified | ⟨-, plain⟩ := at_
  · exact ends_qualifiers q ch qualified
  · exact last ch plain

theorem spaced_type (kind : IsPlain base ∨ IsTemplated base)
    (blank : ∃ ch ∈ base ++ q.text, isBlank ch = true) :
    '<' ∈ front (base ++ q.text) ∨ ∃ token isReference isPack, IsPlain token ∧
      base ++ q.text = token ++ Qualifiers.text ⟨true, isReference, isPack⟩ := by
  obtain plain | ⟨before, inside, rfl, solid, -⟩ := kind
  · right
    obtain ⟨isConst, isReference, isPack⟩ := q
    cases isConst with
    | true => exact ⟨base, isReference, isPack, plain, rfl⟩
    | false =>
      obtain ⟨ch, at_, isBlank⟩ := blank
      rw [(isPlain_append_text plain rfl).1.2 ch at_] at isBlank
      cases isBlank
  · left
    have passes : ∀ ch ∈ before, (!isBlank ch) = true := by
      intro ch at_
      rw [solid ch at_]
      rfl
    rw [front, List.append_assoc, List.takeWhile_append_of_pos passes, List.cons_append,
      List.takeWhile_cons_of_pos rfl]
    simp

theorem isName_iff {t : Text} :
    IsName t ↔ t ≠ [] ∧ ∀ ch ∈ t, isBlank ch = false ∧ ch ≠ ',' ∧ ch ≠ '=' := by
  simp only [IsName, endsName, Bool.or_eq_false_iff, beq_eq_false_iff_ne, and_assoc]

theorem isItem_iff {t : Text} :
    IsItem t ↔ trim t = t ∧ ∀ s r, t = s ++ ',' :: r → ¬ IsLevel s := by
  simp only [IsItem, upToComma_eq_self_iff, ne_eq, after_top_eq_top_iff]

theorem isShaped_of_readParameter (clear : c.IsClear) (left : c.rest ≠ [])
    (h : readParameter text c = .ok (p, d)) :
    p.IsShaped ∧ (d.rest ≠ [] → IsLevel p.defaultValue) ∧ d.IsClear := by
  obtain ⟨⟨base, q, type, kind, -⟩, isName, item, outside, clear'⟩ :=
    readParameter_spec clear left h
  obtain ⟨named, name⟩ := isName_iff.1 isName
  obtain ⟨trimmed, comma⟩ := isItem_iff.1 item
  have filled : base ≠ [] := kind.elim (fun plain => plain.1.1) IsTemplated.ne_nil
  refine ⟨⟨?_, ?_, ?_, ?_, named, name, trimmed, comma⟩, ?_, clear'⟩
  · rw [type]
    exact List.append_ne_nil_of_left_ne_nil filled _
  · rw [type]
    exact begins_type kind q
  · rw [type]
    exact ends_type kind q
  · rw [type]
    exact spaced_type kind
  · exact fun more => after_top_eq_top_iff.1 (outside more)

theorem isShaped_of_readParameters {ps : List FunctionParameter} (clear : c.IsClear)
    (h : readParameters text c = .ok ps) :
    (∀ p ∈ ps, p.IsShaped) ∧ ∀ p ∈ ps.dropLast, IsLevel p.defaultValue := by
  -- A parameter behind which something is left has a level default.
  fun_induction readParameters text c generalizing ps with
  | case1 c done =>
    cases h
    simp
  | case2 c left e fault => cases h
  | case3 c left p d read ih =>
    obtain ⟨rest, below, rfl⟩ := map_eq_ok_iff.1 h
    obtain ⟨shaped, level, clear'⟩ := isShaped_of_readParameter clear left read
    obtain ⟨others, levels⟩ := ih clear' below
    refine ⟨List.forall_mem_cons.2 ⟨shaped, others⟩, ?_⟩
    by_cases more : rest = []
    · rw [more]
      simp
    · rw [List.dropLast_cons_of_ne_nil more, List.forall_mem_cons]
      exact ⟨level (rest_ne_nil_of_readParameters below more), levels⟩

/-- What is read from a parameter list has the shape of parameters, and behind each default but the
last every bracket count is zero. -/
theorem readParameterList_shape {ps : List FunctionParameter}
    (h : readParameterList text = .ok ps) :
    (∀ p ∈ ps, p.IsShaped) ∧ ∀ p ∈ ps.dropLast, IsLevel p.defaultValue :=
  isShaped_of_readParameters (isClear_ofText text) h

theorem readParameterList_shape_arrow :
    readParameterList "A<B, C> const& v = {1, 2}, int const&... n = p->x, y".toList =
        .ok [⟨"A<B, C> const&".toList, ['v'], "{1, 2}".toList⟩,
          ⟨"int const&...".toList, ['n'], "p->x, y".toList⟩] ∧
      FunctionParameter.IsShaped ⟨"A<B, C> const&".toList, ['v'], "{1, 2}".toList⟩ ∧
      FunctionParameter.IsShaped ⟨"int const&...".toList, ['n'], "p->x, y".toList⟩ ∧
      IsLevel "{1, 2}".toList ∧ ¬ IsLevel "p->x, y".toList := by
  have read : readParameterList "A<B, C> const& v = {1, 2}, int const&... n = p->x, y".toList =
      .ok [⟨"A<B, C> const&".toList, ['v'], "{1, 2}".toList⟩,
        ⟨"int const&...".toList, ['n'], "p->x, y".toList⟩] := by decide +kernel
  obtain ⟨shaped, level⟩ := readParameterList_shape read
  exact ⟨read, shaped _ (by simp), shaped _ (by simp), level _ List.mem_cons_self, by decide⟩

end HeaderForge
