import HeaderForge.Proofs.Declaration.Display
import HeaderForge.Proofs.Header.Scan
import HeaderForge.Proofs.Template.Display

/-! Headers read back. The definitions of a header, each written as a template line, a declaration
line and its body in braces, form a header with the same definitions. -/

namespace HeaderForge

open Text

variable {d : Definition} {fs : List Definition} {line : Text} {names : List Text} {number : Nat}
  {above : Option Text}

def Definition.source (d : Definition) : Text :=
  displayTemplateList d.templateParameters ++ '\n' :: (d.declaration.display ++
    "\n\x7b\n".toList ++ d.body ++ "\x7d\n".toList)

/-- A definition whose block has the lines it was written with. -/
structure Definition.IsLegible (d : Definition) : Prop where
  template : readTemplateParameters (displayTemplateList d.templateParameters) =
    .ok d.templateParameters
  template_line : '\n' ∉ displayTemplateList d.templateParameters
  declaration : readDeclaration (trim d.declaration.display) = .ok d.declaration
  declaration_line : '\n' ∉ d.declaration.display
  mark : isDeclarationLine d.declaration.display = true
  body : ∃ ls, d.body = ended ls ∧ ∀ l ∈ ls, '\n' ∉ l ∧ closesBody l = false

theorem isDeclarationLine_displayTemplateList (ps : List TemplateParameter) :
    isDeclarationLine (displayTemplateList ps) = false := by
  have front : displayTemplateList ps =
      "template ".toList ++ '<' :: (commaSeparated (ps.map (·.display)) ++ ['>']) := by
    unfold displayTemplateList
    rw [List.append_assoc]
    rfl
  rw [isDeclarationLine, front, trim_append_cons rfl]
  rfl

theorem isDeclarationLine_display {e : Declaration} (h : e.IsLegible)
    (modifiers : e.modifiers = [.nodiscard, .constexpr]) : isDeclarationLine e.display = true := by
  rw [isDeclarationLine, trim_display h, Declaration.opening, modifiers]
  rfl

theorem modifiers_of_isDeclarationLine {e : Declaration} (h : isDeclarationLine line = true)
    (read : readDeclaration (trim line) = .ok e) : e.modifiers = [.nodiscard, .constexpr] := by
  obtain ⟨head, list, tail, c, cut⟩ := readDeclaration_eq_ok.1 read
  rw [isDeclarationLine, List.isPrefixOf_iff_prefix] at h
  obtain ⟨r, split⟩ := h
  have modified := cut.modifiers
  rw [← split] at modified
  have both : readModifiers (.ofText (declarationMark ++ r)) =
      ([.nodiscard, .constexpr], .ofText r) := rfl
  rw [both] at modified
  exact (congrArg Prod.fst modified).symm

theorem lines_source {ls : List Text} (h : d.IsLegible) (body : d.body = ended ls)
    (single : ∀ l ∈ ls, '\n' ∉ l) (t : Text) :
    lines (d.source ++ t) = displayTemplateList d.templateParameters :: d.declaration.display ::
      ['\x7b'] :: (ls ++ ['\x7d'] :: lines t) := by
  have written : d.source ++ t = displayTemplateList d.templateParameters ++ '\n' ::
      (d.declaration.display ++ '\n' :: (['\x7b'] ++ '\n' :: (ended ls ++
        (['\x7d'] ++ '\n' :: t)))) := by
    rw [Definition.source, body]
    simp
  rw [written, lines_append_newline, lines_append_newline, lines_append_newline,
    lines_ended_append single, lines_append_newline, lines_of_newline_not_mem h.template_line,
    lines_of_newline_not_mem h.declaration_line, lines_of_newline_not_mem (by decide),
    lines_of_newline_not_mem (by decide)]
  rfl

theorem readLines_source (h : ∀ d ∈ fs, d.IsLegible) :
    readLines [] number above (lines (fs.flatMap (·.source))) = .ok fs := by
  -- Each block is taken whole, and the next begins below it.
  induction fs generalizing number above with
  | nil =>
    rw [List.flatMap_nil, lines_of_newline_not_mem List.not_mem_nil, readLines_pass rfl,
      readLines_nil]
  | cons d fs ih =>
    have legible := h d List.mem_cons_self
    obtain ⟨ls, body, inner⟩ := legible.body
    let b : Block := ⟨displayTemplateList d.templateParameters, ls, ['\x7d'],
      lines (fs.flatMap (·.source))⟩
    have cut : Block.cut (number + 1) (some b.template)
        (['\x7b'] :: (ls ++ ['\x7d'] :: b.below)) = .ok b :=
      Block.cut_eq_ok.2 ⟨rfl, _, rfl, rfl, fun l hl => (inner l hl).2, rfl⟩
    have read : b.read d.declaration.display = .ok d :=
      Block.read_eq_ok.2 ⟨legible.template, legible.declaration, body⟩
    have below : ∀ d ∈ fs, d.IsLegible := fun d hd => h d (List.mem_cons_of_mem _ hd)
    rw [List.flatMap_cons, lines_source legible body fun l hl => (inner l hl).1,
      readLines_pass (isDeclarationLine_displayTemplateList _),
      readLines_take legible.mark cut read, ih below]
    rfl

/-- No template parameter lacks both a name and a default, and no name of a parameter begins with a
qualifier. -/
structure Definition.IsUnambiguous (d : Definition) : Prop where
  template : ∀ p ∈ d.templateParameters, p.variableName ≠ [] ∨ p.defaultValue ≠ []
  named : ∀ p ∈ d.declaration.parameters, ¬ BeginsQualified p.name

theorem isLegible_of_read {b : Block} (mark : isDeclarationLine line = true)
    (read : b.read line = .ok d) (unambiguous : d.IsUnambiguous) (single : '\n' ∉ line)
    (template : '\n' ∉ b.template) (body : ∀ l ∈ b.body, '\n' ∉ l ∧ closesBody l = false) :
    d.IsLegible := by
  obtain ⟨list, declaration, lines⟩ := Block.read_eq_ok.1 read
  have legible := isLegible_of_readDeclaration declaration fun p hp _ => unambiguous.named p hp
  have trimmed : '\n' ∉ trim line := fun mem => single (trim_subset line mem)
  have display := readTemplateParameters_display list unambiguous.template []
  rw [List.append_nil] at display
  exact ⟨display, newline_not_mem_displayTemplateList list template,
    readDeclaration_trim_display legible, newline_not_mem_display declaration trimmed,
    isDeclarationLine_display legible (modifiers_of_isDeclarationLine mark declaration),
    b.body, lines, body⟩

theorem isLegible_of_readLines {ls : List Text} (single : ∀ l ∈ ls, '\n' ∉ l)
    (single' : ∀ l ∈ above, '\n' ∉ l) (h : readLines names number above ls = .ok fs)
    (unambiguous : ∀ d ∈ fs, d.IsUnambiguous) : ∀ d ∈ fs, d.IsLegible := by
  fun_induction readLines names number above ls generalizing fs with
  | case1 number above =>
    cases h
    simp
  | case2 number above line rest mark e cut => cases h
  | case3 number above line rest mark b cut e read => cases h
  | case4 number above line rest mark b cut d read ih =>
    obtain ⟨ds, below, rfl⟩ := map_eq_ok_iff.1 h
    obtain ⟨template, opening, rfl, -, body, -⟩ := Block.cut_eq_ok.1 cut
    have inside : ∀ l ∈ b.body, '\n' ∉ l := fun l hl => single l (by simp [hl])
    have later : ∀ d' ∈ ds, d'.IsLegible := by
      apply ih (fun l hl => single l (by simp [hl])) _ below
      · intro d' hd'
        apply unambiguous
        split
        · exact List.mem_cons_of_mem d hd'
        · exact hd'
      · intro l hl
        cases hl
        exact single b.closing (by simp)
    intro d' hd'
    split at hd'
    · rename_i wanted
      rcases List.mem_cons.1 hd' with rfl | hd'
      · refine isLegible_of_read mark read (unambiguous d' ?_) (single line List.mem_cons_self)
          (single' b.template template) fun l hl => ⟨inside l hl, body l hl⟩
        rw [if_pos wanted]
        exact List.mem_cons_self
      · exact later d' hd'
    · exact later d' hd'
  | case5 number above line rest mark ih =>
    refine ih (fun l hl => single l (List.mem_cons_of_mem line hl)) ?_ h unambiguous
    intro l hl
    cases hl
    exact single line List.mem_cons_self

/-- Written out again, the definitions of a header are read as they were. -/
theorem readHeader_source {text : Text} (h : readHeader text [] = .ok fs)
    (template : ∀ d ∈ fs, ∀ p ∈ d.templateParameters, p.variableName ≠ [] ∨ p.defaultValue ≠ [])
    (named : ∀ d ∈ fs, ∀ p ∈ d.declaration.parameters, ¬ BeginsQualified p.name) :
    readHeader (fs.flatMap (·.source)) [] = .ok fs := by
  have single : ∀ l ∈ lines text, '\n' ∉ l := fun l => newline_not_mem_of_mem_lines
  have legible := isLegible_of_readLines single (by simp) h
    fun d hd => ⟨template d hd, named d hd⟩
  exact readLines_source legible

theorem readHeader_source_pack :
    readHeader ("template <class A, int = 2>\n[[nodiscard]] constexpr A f(B<C, D> ".toList ++
        "const&... a, int n = 3)\n\x7b\n  return n;\n\x7d".toList) [] =
        .ok [⟨[⟨"class".toList, ['A'], []⟩, ⟨"int".toList, [], ['2']⟩],
          ⟨[.nodiscard, .constexpr], ['f'],
            [⟨"B<C, D> const&...".toList, ['a'], []⟩, ⟨"int".toList, ['n'], ['3']⟩], ['A']⟩,
          "  return n;\n".toList⟩] ∧
      readHeader ("template <class A, int  = 2>\n[[nodiscard]] constexpr auto f(B<C, D> ".toList ++
        "const&... a, int n = 3) -> A\n\x7b\n  return n;\n\x7d\n".toList) [] =
        .ok [⟨[⟨"class".toList, ['A'], []⟩, ⟨"int".toList, [], ['2']⟩],
          ⟨[.nodiscard, .constexpr], ['f'],
            [⟨"B<C, D> const&...".toList, ['a'], []⟩, ⟨"int".toList, ['n'], ['3']⟩], ['A']⟩,
          "  return n;\n".toList⟩] := by
  refine ⟨?read, readHeader_source ?read ?_ ?_⟩
  · decide +kernel
  · decide +kernel
  · decide +kernel

end HeaderForge
