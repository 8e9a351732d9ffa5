import HeaderForge.Proofs.Declaration.Parameter

/-! Declarations read back. What is read from a line is displayed in the characters of that line
and a few marks, with the return type behind an arrow, and the display is read as the same
declaration, also when the blanks at its ends are left out. -/

namespace HeaderForge

open Text Cursor

variable {c e : Cursor} {q : Qualifiers} {p : FunctionParameter} {ps : List FunctionParameter}
  {d : Declaration} {ch : Char} {text line t : Text}

def FunctionParameter.ComesFrom (p : FunctionParameter) (t : Text) : Prop :=
  p.typeName ⊆ t ++ " const&...".toList ∧ p.name ⊆ t ∧ p.defaultValue ⊆ t

theorem Qualifiers.text_subset (q : Qualifiers) : q.text ⊆ " const&...".toList := by
  obtain ⟨isConst, isReference, isPack⟩ := q
  cases isConst <;> cases isReference <;> cases isPack <;> decide

theorem passIf_subset {b : Bool} {found : Option Cursor} (h : passIf found c = (b, e))
    (passed : ∀ e, found = some e → c.Passes e t) : e.rest ⊆ c.rest := by
  obtain ⟨-, found⟩ | ⟨-, -, rfl⟩ := passIf_eq h
  · exact (passed e found).subset.2
  · exact List.Subset.refl _

theorem readQualifiers_subset (h : readQualifiers c = (q, e)) : e.rest ⊆ c.rest := by
  obtain ⟨c₁, c₂, const, reference, pack⟩ := readQualifiers_eq_iff.1 h
  have first := passIf_subset const fun _ => passes_eatWord?
  have second := passIf_subset reference fun _ => passes_eat?
  have third := passIf_subset pack fun _ => passes_eat?
  exact List.Subset.trans (List.Subset.trans third second) first

theorem readDefault_subset (c : Cursor) :
    (readDefault c).1 ⊆ c.rest ∧ (readDefault c).2.rest ⊆ c.rest := by
  unfold readDefault
  split
  · rename_i e found
    have behind := (passes_eat? found).subset.2
    have item := (passes_readToComma e).subset
    exact ⟨List.Subset.trans item.1 behind, List.Subset.trans item.2 behind⟩
  · exact ⟨List.nil_subset _, List.Subset.refl _⟩

theorem passComma_subset (c : Cursor) : (passComma c).rest ⊆ c.rest := by
  unfold passComma
  cases found : c.eat? [','] with
  | none => exact List.Subset.refl _
  | some e => exact (passes_eat? found).subset.2

theorem comesFrom_of_readParameter (h : readParameter text c = .ok (p, e)) :
    p.ComesFrom c.rest ∧ e.rest ⊆ c.rest := by
  obtain ⟨behindType, behindName, typed, name, value, rfl⟩ := readParameter_eq_ok.1 h
  obtain ⟨base, behindBase, q, type, qualifiers, typeName⟩ := readQualifiedType_eq_ok.1 typed
  have based := (passes_readType type).subset
  have qualified := List.Subset.trans (readQualifiers_subset qualifiers) based.2
  have named := (passes_readName? name).subset
  have default := readDefault_subset behindName
  have left := List.Subset.trans named.2 qualified
  refine ⟨⟨?_, List.Subset.trans named.1 qualified, ?_⟩, ?_⟩
  · rw [typeName]
    exact List.append_subset.2 ⟨List.subset_append_of_subset_left _ based.1,
      List.subset_append_of_subset_right _ q.text_subset⟩
  · rw [value]
    exact List.Subset.trans default.1 left
  · exact List.Subset.trans (List.Subset.trans (passComma_subset _) default.2) left

theorem FunctionParameter.ComesFrom.trans {s : Text} (h : p.ComesFrom s) (sub : s ⊆ t) :
    p.ComesFrom t := by
  obtain ⟨type, name, default⟩ := h
  refine ⟨?_, List.Subset.trans name sub, List.Subset.trans default sub⟩
  intro ch hch
  have mem := type hch
  rw [List.mem_append] at mem ⊢
  exact mem.imp_left fun mem => sub mem

theorem comesFrom_of_readParameters (h : readParameters text c = .ok ps) :
    ∀ p ∈ ps, p.ComesFrom c.rest := by
  fun_induction readParameters text c generalizing ps with
  | case1 c done =>
    cases h
    simp
  | case2 c left e fault => cases h
  | case3 c left p d read ih =>
    obtain ⟨rest, below, rfl⟩ := map_eq_ok_iff.1 h
    obtain ⟨first, sub⟩ := comesFrom_of_readParameter read
    intro p' hp'
    rcases List.mem_cons.1 hp' with rfl | hp'
    · exact first
    · exact (ih below p' hp').trans sub

theorem mem_displays (h : ∀ p ∈ ps, p.ComesFrom t)
    (hch : ch ∈ commaSeparated (ps.map (·.display))) : ch ∈ t ∨ ch ∈ " const&...=,".toList := by
  have marks : " const&...".toList ⊆ " const&...=,".toList := by decide
  rcases mem_commaSeparated hch with ⟨entry, mem, inside⟩ | rfl | rfl
  · obtain ⟨p, hp, rfl⟩ := List.mem_map.1 mem
    obtain ⟨type, name, default⟩ := h p hp
    rcases mem_displayEntry inside with (hch | hch | hch) | rfl | rfl
    · exact (List.mem_append.1 (type hch)).imp_right fun mark => marks mark
    · exact Or.inl (name hch)
    · exact Or.inl (default hch)
    · exact Or.inr (by decide)
    · exact Or.inr (by decide)
  · exact Or.inr (by decide)
  · exact Or.inr (by decide)

theorem readModifiers_spec {ms : List Modifier} (h : readModifiers c = (ms, e)) :
    (∃ isNodiscard isConstexpr, ms = modifiersOf isNodiscard isConstexpr) ∧ e.rest ⊆ c.rest := by
  obtain ⟨isNodiscard, isConstexpr, c₁, nodiscard, constexpr, rfl⟩ := readModifiers_eq_iff.1 h
  have first := passIf_subset nodiscard fun _ => passes_eat?
  have second := passIf_subset constexpr fun _ => passes_eat?
  exact ⟨⟨isNodiscard, isConstexpr, rfl⟩, List.Subset.trans second first⟩

theorem readModifiers_display (isNodiscard isConstexpr : Bool) (t : Text) :
    readModifiers (ofText ((modifiersOf isNodiscard isConstexpr).flatMap
      (fun m => m.spelling ++ [' ']) ++ ("auto ".toList ++ t))) =
        (modifiersOf isNodiscard isConstexpr, ⟨"auto ".toList ++ t⟩) := by
  cases isNodiscard <;> cases isConstexpr <;> rfl

/-- A declaration that is displayed as it is read. -/
structure Declaration.IsLegible (d : Declaration) : Prop where
  modifiers : ∃ isNodiscard isConstexpr, d.modifiers = modifiersOf isNodiscard isConstexpr
  name : IsWord d.name
  name_open : '(' ∉ d.name
  list : readParameterList (commaSeparated (d.parameters.map (·.display))) = .ok d.parameters
  list_close : ')' ∉ commaSeparated (d.parameters.map (·.display))
  returnType : trim d.returnType = d.returnType

def Declaration.opening (d : Declaration) : Text :=
  d.modifiers.flatMap (fun m => m.spelling ++ [' ']) ++ ("auto ".toList ++ (d.name ++
    '(' :: commaSeparated (d.parameters.map (·.display))))

theorem Declaration.display_eq (d : Declaration) :
    d.display = d.opening ++ ')' :: (" -> ".toList ++ d.returnType) := by
  simp [Declaration.display, Declaration.opening]

theorem readDeclaration_opening (h : d.IsLegible) {tail : Text}
    (returned : ReturnsAs "auto".toList tail d.returnType) :
    readDeclaration (d.opening ++ ')' :: tail) = .ok d := by
  obtain ⟨isNodiscard, isConstexpr, modifiers⟩ := h.modifiers
  rw [readDeclaration_eq_ok]
  refine ⟨"auto ".toList ++ d.name, commaSeparated (d.parameters.map (·.display)), tail, _,
    ⟨?_, rfl, ?_, h.list_close, ⟨["auto".toList], ?_, returned⟩, h.list⟩⟩
  · have read := readModifiers_display isNodiscard isConstexpr (d.name ++
      '(' :: (commaSeparated (d.parameters.map (·.display)) ++ ')' :: tail))
    rw [← modifiers] at read
    simpa only [Declaration.opening, List.append_assoc, List.cons_append] using read
  · simp [h.name_open]
  · have auto : IsWord "auto".toList := ⟨by decide, by simp [isBlank]⟩
    have spaced := words_append_blank_cons (c := ' ') rfl "auto".toList d.name
    rw [auto.words_eq, h.name.words_eq] at spaced
    exact spaced

theorem returnsAs_display (h : trim t = t) : ReturnsAs "auto".toList (" -> ".toList ++ t) t := by
  rw [ReturnsAs, if_pos rfl]
  by_cases empty : t = []
  · rw [empty]
    exact ⟨[], rfl, rfl⟩
  · refine ⟨' ' :: t, ?_, ?_⟩
    · rw [trim_eq_self_iff] at h
      exact trimEnd_append (s := "-> ".toList) h.2 empty
    · rw [trim_cons_blank rfl, h]

theorem readDeclaration_display (h : d.IsLegible) : readDeclaration d.display = .ok d := by
  rw [Declaration.display_eq]
  exact readDeclaration_opening h (returnsAs_display h.returnType)

theorem trim_display (h : d.IsLegible) :
    trim d.display = d.opening ++ ')' :: trimEnd (" -> ".toList ++ d.returnType) := by
  obtain ⟨isNodiscard, isConstexpr, modifiers⟩ := h.modifiers
  have clear : trimStart d.opening = d.opening := by
    rw [Declaration.opening, modifiers]
    cases isNodiscard <;> cases isConstexpr <;> rfl
  rw [Declaration.display_eq, trim_append_cons rfl, clear]

theorem readDeclaration_trim_display (h : d.IsLegible) :
    readDeclaration (trim d.display) = .ok d := by
  rw [trim_display h]
  apply readDeclaration_opening h
  have returned := returnsAs_display h.returnType
  rw [ReturnsAs, if_pos rfl] at returned ⊢
  rwa [trim_trimEnd]

theorem readDeclaration_blank_cons (blank : isBlank ch = true)
    (h : readDeclaration line = .ok d) : readDeclaration (ch :: line) = .ok d := by
  obtain ⟨head, list, tail, c, cut⟩ := readDeclaration_eq_ok.1 h
  refine readDeclaration_eq_ok.2 ⟨head, list, tail, c, { cut with modifiers := ?_ }⟩
  rw [ofText_blank_cons blank, cut.modifiers]

section Cut

variable {head list tail : Text} (cut : CutAs line head list tail c d)

include cut

theorem CutAs.name_word : IsWord d.name ∧ '(' ∉ d.name := by
  obtain ⟨declared, words, -⟩ := cut.words
  have last : d.name ∈ Text.words head := by simp [words]
  exact ⟨isWord_of_mem_words last, fun mem => cut.head_open (mem_of_mem_words last mem)⟩

theorem CutAs.displays_close : ')' ∉ commaSeparated (d.parameters.map (·.display)) := by
  intro mem
  have drawn := comesFrom_of_readParameters cut.parameters
  obtain mem | mark := mem_displays drawn mem
  · exact cut.list_close (trimStart_subset list mem)
  · exact absurd mark (by decide)

theorem CutAs.trim_returnType : trim d.returnType = d.returnType := by
  obtain ⟨declared, words, returned⟩ := cut.words
  rw [ReturnsAs] at returned
  split at returned
  · obtain ⟨trailing, -, result⟩ := returned
    rw [result, trim_trim]
  · rw [returned]
    apply trim_of_no_blank
    intro ch hch
    obtain ⟨word, mem, hch⟩ := List.mem_flatten.1 hch
    exact (isWord_of_mem_words (t := head) (by simp [words, mem])).2 ch hch

end Cut

theorem isLegible_of_list (h : readDeclaration line = .ok d)
    (list : readParameterList (commaSeparated (d.parameters.map (·.display))) =
      .ok d.parameters) : d.IsLegible := by
  obtain ⟨head, list', tail, c, cut⟩ := readDeclaration_eq_ok.1 h
  exact ⟨(readModifiers_spec cut.modifiers).1, cut.name_word.1, cut.name_word.2, list,
    cut.displays_close, cut.trim_returnType⟩

theorem isLegible_of_readDeclaration (h : readDeclaration line = .ok d)
    (named : ∀ p ∈ d.parameters, IsPlain p.typeName → ¬ BeginsQualified p.name) :
    d.IsLegible := by
  obtain ⟨head, list, tail, c, cut⟩ := readDeclaration_eq_ok.1 h
  exact isLegible_of_list h (readParameterList_display cut.parameters named)

theorem CutAs.subset {head list tail : Text} (cut : CutAs line head list tail c d) :
    d.name ⊆ line ∧ list ⊆ line ∧ d.returnType ⊆ line := by
  obtain ⟨declared, words, returned⟩ := cut.words
  have whole : head ++ '(' :: (list ++ ')' :: tail) ⊆ line := by
    have sub := (readModifiers_spec cut.modifiers).2
    rw [← cut.rest]
    exact List.Subset.trans sub (trimStart_subset line)
  rw [List.append_subset, List.cons_subset, List.append_subset, List.cons_subset] at whole
  obtain ⟨headed, -, listed, -, tailed⟩ := whole
  have word : ∀ w ∈ declared ++ [d.name], w ⊆ line := by
    intro w mem
    rw [← words] at mem
    exact List.Subset.trans (mem_of_mem_words mem) headed
  refine ⟨word d.name (by simp), listed, ?_⟩
  rw [ReturnsAs] at returned
  split at returned
  · obtain ⟨trailing, arrow, result⟩ := returned
    have arrowed := trim_subset tail
    rw [arrow, List.append_subset] at arrowed
    rw [result]
    exact List.Subset.trans (List.Subset.trans (trim_subset trailing) arrowed.2) tailed
  · rw [returned]
    intro ch hch
    obtain ⟨w, mem, hch⟩ := List.mem_flatten.1 hch
    exact word w (List.mem_append_left _ mem) hch

/-- What a displayed declaration has beside the characters of its line. -/
def displayMarks : Text := "[[nodiscard]] constexpr auto (,&...=) -> ".toList

theorem spellings_subset (isNodiscard isConstexpr : Bool) :
    (modifiersOf isNodiscard isConstexpr).flatMap (fun m => m.spelling ++ [' ']) ⊆
      displayMarks := by
  cases isNodiscard <;> cases isConstexpr <;> decide

theorem mem_display_of_readDeclaration (h : readDeclaration line = .ok d)
    (hch : ch ∈ d.display) : ch ∈ line ∨ ch ∈ displayMarks := by
  have auto : "auto ".toList ⊆ displayMarks := by decide
  have listMarks : " const&...=,".toList ⊆ displayMarks := by decide
  have arrow : ") -> ".toList ⊆ displayMarks := by decide
  obtain ⟨head, list, tail, c, cut⟩ := readDeclaration_eq_ok.1 h
  obtain ⟨name, listed, returnType⟩ := cut.subset
  obtain ⟨⟨isNodiscard, isConstexpr, modifiers⟩, -⟩ := readModifiers_spec cut.modifiers
  simp only [Declaration.display, List.mem_append, List.mem_cons, modifiers] at hch
  rcases hch with ((((mark | mark) | mem) | rfl | mem) | mark) | mem
  · exact Or.inr (spellings_subset isNodiscard isConstexpr mark)
  · exact Or.inr (auto mark)
  · exact Or.inl (name mem)
  · exact Or.inr (by decide)
  · obtain mem | mark := mem_displays (comesFrom_of_readParameters cut.parameters) mem
    · exact Or.inl (listed (trimStart_subset list mem))
    · exact Or.inr (listMarks mark)
  · exact Or.inr (arrow mark)
  · exact Or.inl (returnType mem)

theorem newline_not_mem_display (h : readDeclaration line = .ok d) (single : '\n' ∉ line) :
    '\n' ∉ d.display := by
  intro mem
  obtain mem | mark := mem_display_of_readDeclaration h mem
  · exact single mem
  · exact absurd mark (by decide)

end HeaderForge
