import HeaderForge.Proofs.Bracket.Offset
import HeaderForge.Proofs.Header.Reparsing
import HeaderForge.Render.Format

/-! Signatures. Each definition of a header that was read is shown on one line, with no line feed
but the one behind it, and on that line its template list is delimited by the first `<` and the
`>` that closes it, so that the list and the declaration behind it are read back. -/

namespace HeaderForge

open Text

variable {d : Definition} {fs : List Definition} {names : List Text} {line text : Text}

/-- A line from which all of a definition but its body is read: the list from the line itself, the
declaration from what stands behind the partner of the first `<`. -/
structure Definition.ShownOn (d : Definition) (line : Text) : Prop where
  single : '\n' ∉ line
  template : readTemplateParameters line = .ok d.templateParameters
  declaration : ∃ first last behind, find? (· = '<') line = some first ∧
    indexOfClosing line first = .ok (some last) ∧
    slice? line (last + 1) (utf8Size line) = some behind ∧
    readDeclaration behind = .ok d.declaration

def Definition.signature (d : Definition) : Enclosed :=
  ⟨"template ".toList, commaSeparated (d.templateParameters.map (·.display)),
    ' ' :: d.declaration.display⟩

theorem Definition.text_signature (d : Definition) : d.signature.text = d.display := by
  unfold Definition.display displayTemplateList
  rw [List.append_assoc, List.append_assoc]
  rfl

theorem Definition.before_signature (d : Definition) : '<' ∉ d.signature.before := by
  change '<' ∉ "template ".toList
  decide

theorem Enclosed.find?_text {e : Enclosed} (h : '<' ∉ e.before) :
    find? (· = '<') e.text = some (utf8Size e.before) := by
  have front : e.text.takeWhile (· ≠ '<') = e.before := takeWhile_append_mark h _
  rw [find?_mark (by simp [Enclosed.text]), front]

theorem Enclosed.slice?_text (e : Enclosed) :
    slice? e.text (utf8Size e.before + 1 + utf8Size e.inside + 1) (utf8Size e.text) =
      some e.after := by
  have whole : e.text = (e.before ++ '<' :: e.inside) ++ '>' :: e.after := by
    simp [Enclosed.text]
  have size : utf8Size e.before + 1 + utf8Size e.inside =
      utf8Size (e.before ++ '<' :: e.inside) := by
    rw [utf8Size_append, utf8Size_cons]
    exact Nat.add_assoc ..
  rw [whole, size]
  exact slice?_behind rfl _ _

theorem Definition.IsLegible.shownOn (h : d.IsLegible) (unambiguous : d.IsUnambiguous) :
    d.ShownOn d.display := by
  have balanced := balanced_of_readTemplateParameters h.template
  have legible := isLegible_of_readDeclaration h.declaration
    fun p hp _ => unambiguous.named p hp
  refine ⟨?_, readTemplateParameters_append h.template _, utf8Size d.signature.before,
    utf8Size d.signature.before + 1 + utf8Size d.signature.inside, d.signature.after, ?_, ?_, ?_,
    readDeclaration_blank_cons rfl (readDeclaration_display legible)⟩
  · rw [Definition.display, List.mem_append, List.mem_cons, not_or, not_or]
    exact ⟨h.template_line, by decide, h.declaration_line⟩
  · rw [← d.text_signature, Enclosed.find?_text d.before_signature]
  · rw [← d.text_signature, Enclosed.indexOfClosing_text balanced]
  · rw [← d.text_signature, Enclosed.slice?_text]

/-- The signatures of a header that was read are lines, one for each definition in order, and each
is read back to all of its definition but the body. -/
theorem render_signatures (h : readHeader text names = .ok fs)
    (template : ∀ d ∈ fs, ∀ p ∈ d.templateParameters, p.variableName ≠ [] ∨ p.defaultValue ≠ [])
    (named : ∀ d ∈ fs, ∀ p ∈ d.declaration.parameters, ¬ BeginsQualified p.name) :
    (Format.signatures.render fs).count '\n' = fs.length ∧
      ∃ ls, Format.signatures.render fs = ended ls ∧ List.Forall₂ Definition.ShownOn fs ls := by
  have single : ∀ l ∈ lines text, '\n' ∉ l := fun l => newline_not_mem_of_mem_lines
  have legible := isLegible_of_readLines single (by simp) h
    fun d hd => ⟨template d hd, named d hd⟩
  have shown : ∀ d ∈ fs, d.ShownOn d.display :=
    fun d hd => (legible d hd).shownOn ⟨template d hd, named d hd⟩
  have written : Format.signatures.render fs = ended (fs.map (·.display)) := by
    rw [Format.render, ended, List.flatMap_map]
  constructor
  · rw [written, count_newline_ended, List.length_map]
    rw [List.forall_mem_map]
    exact fun d hd => (shown d hd).single
  · refine ⟨_, written, ?_⟩
    rw [List.forall₂_map_right_iff, List.forall₂_same]
    exact shown

theorem render_signatures_pair : ∃ fs,
    readHeader ("template <class A = B<C>, int = 2>\n[[nodiscard]] constexpr A f(B<C, D> ".toList ++
        "const&... a, int n = 3)\n\x7b\n  return n;\n\x7d\ntemplate <>\n".toList ++
        "[[nodiscard]] constexpr auto g() -> B<C>\n\x7b\n\x7d".toList) [] = .ok fs ∧
      fs.length = 2 ∧ (Format.signatures.render fs).count '\n' = fs.length ∧
      ∃ ls, Format.signatures.render fs = ended ls ∧ List.Forall₂ Definition.ShownOn fs ls := by
  refine ⟨[⟨[⟨"class".toList, ['A'], "B<C>".toList⟩, ⟨"int".toList, [], ['2']⟩],
      ⟨[.nodiscard, .constexpr], ['f'],
        [⟨"B<C, D> const&...".toList, ['a'], []⟩, ⟨"int".toList, ['n'], ['3']⟩], ['A']⟩,
      "  return n;\n".toList⟩,
    ⟨[], ⟨[.nodiscard, .constexpr], ['g'], [], "B<C>".toList⟩, []⟩],
    ?read, rfl, render_signatures ?read ?_ ?_⟩
  · decide +kernel
  · decide +kernel
  · decide +kernel

end HeaderForge
