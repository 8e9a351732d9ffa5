import HeaderForge.Checked.Signature
import HeaderForge.Proofs.Checked.Cursor

/-! No check of a template list or a declaration fails. The parts that are cut out by offsets are
those that the marks and brackets cut out, and a word is as long as its place in the text. -/

namespace HeaderForge

open Text

section Suffix

variable {c d : Cursor} {t x : Text}

theorem suffix_qualify {found : Option Cursor} (taken typeName : Text)
    (h : ∀ d, found = some d → Cursor.Passes c d x) :
    (qualify found taken typeName c).2.rest <:+ c.rest := by
  cases found with
  | none => exact List.suffix_rfl
  | some d => exact (h d rfl).suffix

theorem suffix_readQualifiedType (h : readQualifiedType c = .ok (t, d)) : d.rest <:+ c.rest := by
  unfold readQualifiedType at h
  split at h
  · cases h
  · rename_i typeName c₁ read
    rw [Except.ok.injEq] at h
    have first := suffix_qualify (c := c₁) " const".toList typeName
      fun _ => Cursor.passes_eatWord? (t := "const".toList)
    generalize qualify (c₁.eatWord? "const".toList) " const".toList typeName c₁ = q₂ at h first
    have second := suffix_qualify (c := q₂.2) ['&'] q₂.1
      fun _ => Cursor.passes_eat? (t := ['&'])
    generalize qualify (q₂.2.eat? ['&']) ['&'] q₂.1 q₂.2 = q₃ at h second
    have third := suffix_qualify (c := q₃.2) "...".toList q₃.1
      fun _ => Cursor.passes_eat? (t := "...".toList)
    rw [h] at third
    exact third.trans (second.trans (first.trans (Cursor.passes_readType read).suffix))

theorem suffix_readDefault (c : Cursor) : (readDefault c).2.rest <:+ c.rest := by
  unfold readDefault
  split
  · rename_i d eaten
    exact (Cursor.passes_readToComma d).suffix.trans (Cursor.passes_eat? eaten).suffix
  · exact List.suffix_rfl

theorem suffix_readParameter {text : Text} {p : FunctionParameter}
    (h : readParameter text c = .ok (p, d)) : d.rest <:+ c.rest := by
  unfold readParameter at h
  split at h
  · cases h
  · rename_i typeName c₁ type
    split at h
    · cases h
    · rename_i name c₂ named
      simp only [Except.ok.injEq, Prod.mk.injEq] at h
      obtain ⟨-, rfl⟩ := h
      have behind : (readDefault c₂).2.rest <:+ c.rest :=
        (suffix_readDefault c₂).trans
          ((Cursor.passes_readName? named).suffix.trans (suffix_readQualifiedType type))
      cases comma : (readDefault c₂).2.eat? [','] with
      | none => exact behind
      | some c₃ => exact (Cursor.passes_eat? comma).suffix.trans behind

theorem suffix_take (m : Modifier) (c : Cursor) :
    (readModifiers.take m c).2.rest <:+ c.rest := by
  unfold readModifiers.take
  split
  · rename_i d eaten
    exact (Cursor.passes_eat? eaten).suffix
  · exact List.suffix_rfl

theorem suffix_readModifiers (c : Cursor) : (readModifiers c).2.rest <:+ c.rest :=
  (suffix_take .constexpr _).trans (suffix_take .nodiscard c)

end Suffix

theorem Text.prefix_of_words_trim {t w : Text} {ws : List Text} (h : words (trim t) = w :: ws) :
    w <+: trim t := by
  rcases words_cases (trim t) with ⟨-, none⟩ | ⟨v, w', r, blank, word, split, more⟩
  · rw [h] at none
    cases none
  · rw [h] at more
    cases more
    have solid : trimStart (w ++ r) = w ++ r :=
      trimStart_append (trimStart_of_no_blank word.2) word.1
    have front := trimStart_trim t
    rw [split, trimStart_append_blank blank, solid, ← split] at front
    exact ⟨r, front⟩

namespace Checked

variable {t : Text} {c : HeaderForge.Cursor}

theorem readTemplateEntry_eq (entry : Text) :
    readTemplateEntry entry = some (HeaderForge.readTemplateEntry entry) := by
  unfold readTemplateEntry HeaderForge.readTemplateEntry
  dsimp only
  cases found : words (trim entry) with
  | nil => rfl
  | cons typeName others =>
    cases others with
    | nil => rfl
    | cons =>
      obtain ⟨r, split⟩ := prefix_of_words_trim found
      have behind := slice?_back typeName r
      have drop : (trim entry).drop typeName.length = r := by rw [← split, List.drop_left]
      rw [split] at behind
      dsimp only
      rw [behind, drop]
      rfl

theorem readTemplateEntries_eq (entries : List Text) :
    readTemplateEntries entries = some (HeaderForge.readTemplateEntries entries) := by
  induction entries with
  | nil => rfl
  | cons entry entries ih =>
    rw [readTemplateEntries, readTemplateEntry_eq, HeaderForge.readTemplateEntries, some_bind]
    cases HeaderForge.readTemplateEntry entry with
    | error e => rfl
    | ok p =>
      dsimp only
      rw [ih]
      rfl

theorem slice?_inside (e : Enclosed) :
    slice? e.text (utf8Size e.before + 1) (utf8Size e.before + 1 + utf8Size e.inside) =
      some e.inside :=
  slice?_eq_some_iff.2 ⟨e.before ++ ['<'], '>' :: e.after, by simp [Enclosed.text],
    utf8Size_append .., rfl⟩

theorem readTemplateParameters_eq (small : utf8Size t < 2 ^ 31) :
    readTemplateParameters t = some (HeaderForge.readTemplateParameters t) := by
  unfold readTemplateParameters HeaderForge.readTemplateParameters
  by_cases mark : '<' ∈ t
  · rw [find?_mark mark, if_pos mark]
    dsimp only
    rw [expectClosing_angle small mark, some_bind]
    cases cut : Enclosed.ofText? t with
    | none => rfl
    | some e =>
      obtain ⟨rfl, front, -⟩ := Enclosed.ofText?_eq_some_iff.1 cut
      have first : e.text.takeWhile (· ≠ '<') = e.before := takeWhile_append_mark front _
      rw [Enclosed.text, utf8Size_append] at small
      dsimp only
      rw [first, add?_eq (by omega), some_bind, slice?_inside, some_bind]
      split
      · rfl
      · exact readTemplateEntries_eq _
  · rw [find?_mark_eq_none mark, if_neg mark]
    rfl

theorem qualify_placed (found : Option HeaderForge.Cursor) (taken typeName : Text) :
    qualify (found.map (Cursor.placed t)) taken typeName (.placed t c) =
      ((HeaderForge.qualify found taken typeName c).1,
        .placed t (HeaderForge.qualify found taken typeName c).2) := by
  cases found <;> rfl

section Placed

variable (small : utf8Size t < 2 ^ 31)
include small

theorem readQualifiedType_placed (h : c.rest <:+ t) : readQualifiedType (.placed t c) =
    some ((HeaderForge.readQualifiedType c).map fun (x, d) => (x, .placed t d)) := by
  rw [readQualifiedType, Cursor.readType_placed small h, HeaderForge.readQualifiedType, some_bind]
  cases read : c.readType with
  | error e => rfl
  | ok taken =>
    obtain ⟨typeName, c₁⟩ := taken
    have behind : c₁.rest <:+ t := (HeaderForge.Cursor.passes_readType read).suffix.trans h
    have first := suffix_qualify (c := c₁) " const".toList typeName
      fun _ => HeaderForge.Cursor.passes_eatWord? (t := "const".toList)
    dsimp only [Except.map]
    rw [Cursor.eatWord?_placed small behind, some_bind, qualify_placed]
    dsimp only
    -- What is found so far is all that the next step sees.
    generalize HeaderForge.qualify (c₁.eatWord? "const".toList) " const".toList typeName c₁ = q₂
      at first ⊢
    have second := suffix_qualify (c := q₂.2) ['&'] q₂.1
      fun _ => HeaderForge.Cursor.passes_eat? (t := ['&'])
    rw [Cursor.eat?_placed small (first.trans behind), some_bind, qualify_placed]
    dsimp only
    generalize HeaderForge.qualify (q₂.2.eat? ['&']) ['&'] q₂.1 q₂.2 = q₃ at second ⊢
    rw [Cursor.eat?_placed small (second.trans (first.trans behind)), some_bind, qualify_placed]
    rfl

theorem readDefault_placed (h : c.rest <:+ t) : readDefault (.placed t c) =
    some ((HeaderForge.readDefault c).1, .placed t (HeaderForge.readDefault c).2) := by
  rw [readDefault, Cursor.eat?_placed small h, HeaderForge.readDefault, some_bind]
  cases eaten : c.eat? ['='] with
  | none => rfl
  | some d =>
    exact Cursor.readToComma_placed small
      ((HeaderForge.Cursor.passes_eat? eaten).suffix.trans h)

theorem readParameter_placed (text : Text) (h : c.rest <:+ t) :
    readParameter text (.placed t c) =
      some ((HeaderForge.readParameter text c).map fun (p, d) => (p, .placed t d)) := by
  rw [readParameter, readQualifiedType_placed small h, HeaderForge.readParameter, some_bind]
  cases type : HeaderForge.readQualifiedType c with
  | error e => rfl
  | ok taken =>
    obtain ⟨typeName, c₁⟩ := taken
    have behind : c₁.rest <:+ t := (suffix_readQualifiedType type).trans h
    dsimp only [Except.map]
    rw [Cursor.readName?_placed small behind, some_bind]
    cases named : c₁.readName? with
    | none => rfl
    | some taken =>
      obtain ⟨name, c₂⟩ := taken
      have behind' : c₂.rest <:+ t :=
        (HeaderForge.Cursor.passes_readName? named).suffix.trans behind
      dsimp only [Option.map_some]
      rw [readDefault_placed small behind', some_bind]
      dsimp only
      rw [Cursor.eat?_placed small ((suffix_readDefault c₂).trans behind'), some_bind]
      cases (HeaderForge.readDefault c₂).2.eat? [','] <;> rfl

theorem readParameters_placed (text : Text) (h : c.rest <:+ t) :
    readParameters text (.placed t c) = some (HeaderForge.readParameters text c) := by
  fun_induction HeaderForge.readParameters text c with
  | case1 c done =>
    rw [readParameters, Cursor.rest?_placed h, some_bind, if_pos done]
    rfl
  | case2 c left e fault =>
    rw [readParameters, Cursor.rest?_placed h, some_bind, if_neg left,
      readParameter_placed small text h, fault]
    rfl
  | case3 c left p d read ih =>
    have passed := suffix_readParameter read
    have progress : (Cursor.placed t d).left < (Cursor.placed t c).left := by
      rw [Cursor.left_placed h, Cursor.left_placed (passed.trans h)]
      exact utf8Size_lt_of_suffix passed (length_readParameter_lt read)
    rw [readParameters, Cursor.rest?_placed h, some_bind, if_neg left,
      readParameter_placed small text h, read]
    change (smaller? Cursor.left (.placed t c) (.placed t d) >>= _) = _
    rw [smaller?_bind progress]
    dsimp only
    rw [ih (passed.trans h)]
    rfl

theorem readParameterList_eq :
    readParameterList t = some (HeaderForge.readParameterList t) := by
  have whole : (HeaderForge.Cursor.ofText t).rest <:+ t := List.dropWhile_suffix _
  rw [readParameterList, Cursor.ofText?_eq small]
  exact readParameters_placed small t whole

theorem takeModifier_placed (m : Modifier) (h : c.rest <:+ t) : takeModifier m (.placed t c) =
    some ((readModifiers.take m c).1, .placed t (readModifiers.take m c).2) := by
  rw [takeModifier, Cursor.eat?_placed small h, readModifiers.take]
  cases c.eat? m.spelling <;> rfl

theorem readModifiers_placed (h : c.rest <:+ t) : readModifiers (.placed t c) =
    some ((HeaderForge.readModifiers c).1, .placed t (HeaderForge.readModifiers c).2) := by
  rw [readModifiers, takeModifier_placed small _ h, some_bind]
  dsimp only
  rw [takeModifier_placed small _ ((suffix_take .nodiscard c).trans h)]
  rfl

theorem readDeclaration_eq : readDeclaration t = some (HeaderForge.readDeclaration t) := by
  have whole : (HeaderForge.Cursor.ofText t).rest <:+ t := List.dropWhile_suffix _
  have left := (suffix_readModifiers (.ofText t)).trans whole
  rw [readDeclaration, Cursor.ofText?_eq small, HeaderForge.readDeclaration, some_bind,
    readModifiers_placed small whole, some_bind]
  generalize HeaderForge.readModifiers (.ofText t) = modified at left ⊢
  obtain ⟨modifiers, c⟩ := modified
  dsimp only at left ⊢
  rw [Cursor.rest?_placed left, some_bind]
  obtain ⟨rest⟩ := c
  have size := Nat.lt_of_le_of_lt (utf8Size_le_of_suffix left) small
  dsimp only at size ⊢
  by_cases opening : '(' ∈ rest
  · obtain ⟨head, afterOpen, rfl, front⟩ := List.eq_append_cons_of_mem opening
    rw [utf8Size_append, utf8Size_cons] at size
    rw [find?_mark opening, takeWhile_append_mark front, dropWhile_append_mark front]
    dsimp only
    rw [slice?_front, some_bind]
    cases (words head).getLast? with
    | none => rfl
    | some name =>
      dsimp only
      rw [add?_eq (by omega), some_bind, slice?_behind rfl, some_bind]
      by_cases closing : ')' ∈ afterOpen
      · obtain ⟨list, tail, rfl, inside⟩ := List.eq_append_cons_of_mem closing
        rw [utf8Size_append, utf8Size_cons] at size
        rw [find?_mark closing, takeWhile_append_mark inside, dropWhile_append_mark inside]
        dsimp only
        rw [slice?_front, some_bind, readParameterList_eq (by omega), some_bind]
        cases HeaderForge.readParameterList list with
        | error e => rfl
        | ok parameters =>
          dsimp only
          split
          · rw [add?_eq (by omega), some_bind, slice?_behind rfl, some_bind]
            cases stripPrefix? "->".toList (trim tail) <;> rfl
          · rfl
      · rw [find?_mark_eq_none closing, dropWhile_ne_eq_nil closing]
        rfl
  · rw [find?_mark_eq_none opening, dropWhile_ne_eq_nil opening]
    rfl

end Placed
end Checked
end HeaderForge
