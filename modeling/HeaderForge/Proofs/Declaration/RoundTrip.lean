import HeaderForge.Proofs.Declaration.Display

/-! When a declaration is read back. A display is read as what it shows but for one kind of
parameter: behind a type that is a single word, a name that begins like a qualifier is taken for
one, so that the type read there is a longer one. -/

namespace HeaderForge

open Text Cursor

variable {c e : Cursor} {p p' : FunctionParameter} {ps : List FunctionParameter}
  {d : Declaration} {text text' line r : Text}

/-- A parameter whose type is a single word and whose name begins like a qualifier. -/
def FunctionParameter.IsMistaken (p : FunctionParameter) : Prop :=
  (∀ ch ∈ p.typeName, isBlank ch = false) ∧ '<' ∉ p.typeName ∧ BeginsQualified p.name

theorem FunctionParameter.isMistaken_iff (ne : p.typeName ≠ []) :
    p.IsMistaken ↔ IsPlain p.typeName ∧ BeginsQualified p.name := by
  simp only [IsMistaken, IsPlain, IsWord, ne_eq, ne, not_false_eq_true, true_and, and_assoc]

theorem Qualifiers.not_beginsQualified (h : Qualifiers.none.EndAt r) : ¬ BeginsQualified r := by
  rw [BeginsQualified, not_or, not_or]
  exact ⟨h.reference rfl rfl, h.pack rfl, h.const rfl⟩

theorem Qualifiers.text_eq_nil_iff {q : Qualifiers} : q.text = [] ↔ q = .none := by
  obtain ⟨isConst, isReference, isPack⟩ := q
  cases isConst <;> cases isReference <;> cases isPack <;> decide

theorem readQualifiers_none (h : readQualifiers c = (.none, e)) : e = c := by
  obtain ⟨c₁, c₂, const, reference, pack⟩ := readQualifiers_eq_iff.1 h
  obtain ⟨found, -⟩ | ⟨-, -, rfl⟩ := passIf_eq pack
  · cases found
  obtain ⟨found, -⟩ | ⟨-, -, rfl⟩ := passIf_eq reference
  · cases found
  obtain ⟨found, -⟩ | ⟨-, -, rfl⟩ := passIf_eq const
  · cases found
  · rfl

theorem not_beginsQualified_of_readParameter (plain : IsPlain p.typeName) (name : IsName p.name)
    (stop : StopsAt (· ≠ ',') r)
    (h : readParameter text (ofText (p.display ++ r)) = .ok (p', e))
    (same : p'.typeName = p.typeName) : ¬ BeginsQualified p.name := by
  have clear : trimStart (p.display ++ r) = p.display ++ r := by
    rw [display_append]
    exact trimStart_append (trimStart_eq_self_iff.2 plain.solid) plain.1.1
  obtain ⟨behindType, -, typed, -⟩ := readParameter_eq_ok.1 h
  rw [same, ofText_rest clear, display_append] at typed
  obtain ⟨base, behindBase, q, type, qualifiers, whole⟩ := readQualifiedType_eq_ok.1 typed
  rw [readType_plain plain (stopsAt_cons.2 rfl)] at type
  cases type
  have none : q = .none := Qualifiers.text_eq_nil_iff.1 (List.self_eq_append_right.1 whole)
  rw [none] at qualifiers
  have ended := readQualifiers_endAt qualifiers
  have front := trimStart_append (t := (if p.defaultValue = [] then [] else
    " = ".toList ++ p.defaultValue) ++ r) (trimStart_eq_self_iff.2 name.solid) name.1
  rw [readQualifiers_none qualifiers, ofText_blank_cons rfl, ofText_rest front] at ended
  exact Qualifiers.not_beginsQualified (ended.of_append (stopsAt_default stop))

theorem readParameters_eq_cons (h : readParameters text c = .ok (p :: ps)) :
    ∃ e, readParameter text c = .ok (p, e) ∧ readParameters text e = .ok ps := by
  rw [readParameters] at h
  split at h
  · cases h
  · split at h
    · cases h
    · rename_i p' e read
      obtain ⟨rest, below, same⟩ := map_eq_ok_iff.1 h
      cases same
      exact ⟨e, read, below⟩

theorem typeName_ne_nil (clear : c.IsClear) (left : c.rest ≠ [])
    (h : readParameter text c = .ok (p, e)) : p.typeName ≠ [] := by
  obtain ⟨behindType, -, typed, -⟩ := readParameter_eq_ok.1 h
  obtain ⟨base, behindBase, q, type, -, whole⟩ := readQualifiedType_eq_ok.1 typed
  have ne : base ≠ [] := by
    obtain plain | templated := isPlain_or_isTemplated clear left type
    · exact plain.1.1
    · exact templated.ne_nil
  simp [whole, ne]

theorem not_isMistaken_of_readParameters_display (clear : c.IsClear)
    (h : readParameters text c = .ok ps)
    (again : readParameters text' (ofText (commaSeparated (ps.map (·.display)))) = .ok ps) :
    ∀ p ∈ ps, ¬ p.IsMistaken := by
  -- Once the first parameter is known to come back, the comma behind its display leads to the
  -- second.
  fun_induction readParameters text c generalizing ps with
  | case1 c done =>
    cases h
    simp
  | case2 c left e fault => cases h
  | case3 c left p e read ih =>
    obtain ⟨rest, below, rfl⟩ := map_eq_ok_iff.1 h
    obtain ⟨behindType, behindName, -, name, -⟩ := readParameter_eq_ok.1 read
    have stop := stopsAt_entries (rest.map (·.display))
    rw [List.map_cons, commaSeparated_cons] at again
    obtain ⟨e', first, more⟩ := readParameters_eq_cons again
    have named : IsPlain p.typeName → ¬ BeginsQualified p.name := fun plain =>
      not_beginsQualified_of_readParameter plain (readName?_spec name).1 stop first rfl
    obtain ⟨legible, outside, clear'⟩ := isLegible_of_readParameter clear left read named
    have shown := readParameter_display text' legible stop fun ne => outside fun none => ne (by
      rw [readParameters_of_done none] at below
      cases below
      rfl)
    rw [ofText_rest (display_append_clear legible _).1, shown] at first
    cases first
    rw [passComma_entries] at more
    refine List.forall_mem_cons.2 ⟨?_, ih clear' below more⟩
    rw [FunctionParameter.isMistaken_iff (typeName_ne_nil clear left read)]
    exact fun mistaken => named mistaken.1 mistaken.2

theorem readParameterList_of_display (h : readDeclaration line = .ok d)
    (again : readDeclaration d.display = .ok d) :
    readParameterList (commaSeparated (d.parameters.map (·.display))) = .ok d.parameters := by
  obtain ⟨head, list, tail, c, cut⟩ := readDeclaration_eq_ok.1 h
  obtain ⟨head', list', tail', c', cut'⟩ := readDeclaration_eq_ok.1 again
  obtain ⟨⟨isNodiscard, isConstexpr, modifiers⟩, -⟩ := readModifiers_spec cut.modifiers
  have modified := cut'.modifiers
  rw [Declaration.display_eq, Declaration.opening, modifiers] at modified
  simp only [List.append_assoc, List.cons_append] at modified
  rw [readModifiers_display] at modified
  have rest := cut'.rest
  cases modified
  rw [← List.append_assoc] at rest
  have front : '(' ∉ "auto ".toList ++ d.name :=
    List.not_mem_append (by decide) cut.name_word.2
  obtain ⟨-, behind⟩ := cut_at_mark front cut'.head_open rest
  obtain ⟨whole, -⟩ := cut_at_mark cut.displays_close cut'.list_close behind
  rw [whole]
  exact cut'.parameters

/-- A declaration that was read is read again from its display exactly if no parameter has a single
word for its type and a name that begins like a qualifier. -/
theorem readDeclaration_display_iff (h : readDeclaration line = .ok d) :
    readDeclaration d.display = .ok d ↔
      ¬ ∃ p ∈ d.parameters, (∀ ch ∈ p.typeName, isBlank ch = false) ∧ '<' ∉ p.typeName ∧
        (['&'] <+: p.name ∨ "...".toList <+: p.name ∨
          ∃ r, p.name = "const".toList ++ r ∧ ∀ ch ∈ r.head?, isWordChar ch = false) := by
  obtain ⟨head, list, tail, c, cut⟩ := readDeclaration_eq_ok.1 h
  constructor
  · rintro again ⟨p, mem, mistaken⟩
    exact not_isMistaken_of_readParameters_display (isClear_ofText list) cut.parameters
      (readParameterList_of_display h again) p mem mistaken
  · intro none
    refine readDeclaration_display (isLegible_of_readDeclaration h fun p mem plain begins => ?_)
    exact none ⟨p, mem, plain.1.2, plain.2, begins⟩

/-- The first `&` is read into the type, the second begins the name, and the display joins them. -/
theorem readDeclaration_display_iff_references :
    readDeclaration "constexpr R f(int & &x, A<B> & y = {1, 2})".toList =
        .ok ⟨[.constexpr], ['f'], [⟨"int&".toList, "&x".toList, []⟩,
          ⟨"A<B>&".toList, ['y'], "{1, 2}".toList⟩], ['R']⟩ ∧
      readDeclaration (Declaration.display ⟨[.constexpr], ['f'], [⟨"int&".toList, "&x".toList, []⟩,
          ⟨"A<B>&".toList, ['y'], "{1, 2}".toList⟩], ['R']⟩) ≠
        .ok ⟨[.constexpr], ['f'], [⟨"int&".toList, "&x".toList, []⟩,
          ⟨"A<B>&".toList, ['y'], "{1, 2}".toList⟩], ['R']⟩ := by
  have read : readDeclaration "constexpr R f(int & &x, A<B> & y = {1, 2})".toList =
      .ok ⟨[.constexpr], ['f'], [⟨"int&".toList, "&x".toList, []⟩,
        ⟨"A<B>&".toList, ['y'], "{1, 2}".toList⟩], ['R']⟩ := by decide +kernel
  refine ⟨read, fun again => (readDeclaration_display_iff read).1 again ?_⟩
  have plain : IsPlain "int&".toList := by decide
  exact ⟨_, List.mem_cons_self, plain.1.2, plain.2, Or.inl (by decide)⟩

end HeaderForge
