import HeaderForge.Definition

/-! Displayed entries. They bring no character with them but a blank, an equals sign and the commas
between them. -/

namespace HeaderForge

variable {ch : Char}

theorem intercalate_cons (separator e : Text) (es : List Text) :
    separator.intercalate (e :: es) = e ++ es.flatMap (separator ++ ·) := by
  induction es generalizing e with
  | nil => simp
  | cons e' es ih =>
    rw [List.intercalate_cons_cons, ih, List.flatMap_cons, List.append_assoc, List.append_assoc]

theorem commaSeparated_cons (e : Text) (es : List Text) :
    commaSeparated (e :: es) = e ++ es.flatMap (", ".toList ++ ·) := intercalate_cons _ e es

theorem mem_commaSeparated {es : List Text} (h : ch ∈ commaSeparated es) :
    (∃ e ∈ es, ch ∈ e) ∨ ch = ',' ∨ ch = ' ' := by
  cases es with
  | nil => cases h
  | cons e es =>
    rw [commaSeparated_cons, List.mem_append, List.mem_flatMap] at h
    rcases h with h | ⟨e', he', h⟩
    · exact Or.inl ⟨e, List.mem_cons_self, h⟩
    · rw [List.mem_append] at h
      rcases h with h | h
      · exact Or.inr (by simpa using h)
      · exact Or.inl ⟨e', List.mem_cons_of_mem e he', h⟩

theorem mem_displayEntry {typeName name defaultValue : Text}
    (h : ch ∈ displayEntry typeName name defaultValue) :
    (ch ∈ typeName ∨ ch ∈ name ∨ ch ∈ defaultValue) ∨ ch = '=' ∨ ch = ' ' := by
  by_cases empty : defaultValue = []
  · simp only [displayEntry, if_pos empty, List.append_nil, List.mem_append, List.mem_cons] at h
    grind
  · simp only [displayEntry, if_neg empty, List.mem_append, List.mem_cons] at h
    have sign : ∀ c ∈ " = ".toList, c = '=' ∨ c = ' ' := by simp
    grind

theorem filter_displayEntry {q : Char → Bool} (blank : q ' ' = false) (sign : q '=' = false)
    (typeName name defaultValue : Text) : (displayEntry typeName name defaultValue).filter q =
      typeName.filter q ++ (name.filter q ++ defaultValue.filter q) := by
  by_cases empty : defaultValue = []
  · simp [displayEntry, empty, blank]
  · simp [displayEntry, empty, blank, sign]

theorem filter_commaSeparated {q : Char → Bool} (blank : q ' ' = false) (comma : q ',' = false)
    (es : List Text) : (commaSeparated es).filter q = es.flatMap (·.filter q) := by
  cases es with
  | nil => rfl
  | cons e es =>
    rw [commaSeparated_cons, List.filter_append, List.filter_flatMap, List.flatMap_cons]
    simp [blank, comma]

theorem splitOn_commaSeparated {e : Text} {es : List Text} (h : ∀ e' ∈ e :: es, ',' ∉ e') :
    (commaSeparated (e :: es)).splitOn ',' = e :: es.map (' ' :: ·) := by
  rw [commaSeparated_cons]
  induction es generalizing e with
  | nil =>
    rw [List.flatMap_nil, List.append_nil]
    exact List.splitOn_eq_singleton (h e List.mem_cons_self)
  | cons e' es ih =>
    have first : ',' ∉ e := h e List.mem_cons_self
    have rest : ∀ e'' ∈ (' ' :: e') :: es, ',' ∉ e'' := by
      intro e'' mem
      rcases List.mem_cons.1 mem with rfl | mem
      · simpa using h e' (by simp)
      · exact h e'' (by simp [mem])
    have next : e ++ (e' :: es).flatMap (", ".toList ++ ·) =
        e ++ ',' :: ((' ' :: e') ++ es.flatMap (", ".toList ++ ·)) := by
      rw [List.flatMap_cons]
      rfl
    rw [next, List.splitOn_append_cons_self_of_not_mem first, ih rest]
    rfl

end HeaderForge
