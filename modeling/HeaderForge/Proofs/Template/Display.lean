import HeaderForge.Proofs.Bracket.Balance
import HeaderForge.Proofs.Display
import HeaderForge.ReadError
import HeaderForge.Proofs.Text.Blank
import HeaderForge.Proofs.Text.Line
import HeaderForge.Template
import Mathlib.Data.List.Forall2

/-! Template lists read back. An entry falls into its type and what follows, cut at the first
equals sign; the entries displayed fall into the same parts, leave the same brackets open as those
of the line, and so are read as the same list, whatever follows them. -/

namespace HeaderForge

open Text

variable {e t line : Text} {p : TemplateParameter} {ps : List TemplateParameter} {ch : Char}

/-- A cut of an entry behind its type and at its first equals sign, if it has one. -/
structure EntryCut (e rest name value : Text) (p : TemplateParameter) : Prop where
  type : IsWord p.typeName
  entry : trim e = p.typeName ++ rest
  stop : StopsAt (!isBlank ·) rest
  more : trim rest ≠ []
  sign : '=' ∉ name ∧ (trim rest = name ∧ value = [] ∨ trim rest = name ++ '=' :: value)
  variableName : p.variableName = trim name
  defaultValue : p.defaultValue = trim value

theorem readTemplateEntry_eq_ok :
    readTemplateEntry e = .ok p ↔ ∃ rest name value, EntryCut e rest name value p := by
  constructor
  · intro h
    unfold readTemplateEntry at h
    dsimp only at h
    split at h
    · rename_i typeName second others words
      have ne : trim e ≠ [] := by
        rw [← trim_trim, ← words_ne_nil_iff, words]
        exact List.cons_ne_nil _ _
      obtain ⟨word, rest, entry, stop⟩ := front_spec (trimStart_trim e) ne
      have split := word.words_append stop
      rw [← entry, words, List.cons_eq_cons] at split
      obtain ⟨rfl, left⟩ := split
      have more : trim rest ≠ [] := by
        rw [← words_ne_nil_iff, ← left]
        exact List.cons_ne_nil _ _
      have behind : (front (trim e) ++ rest).drop (front (trim e)).length = rest :=
        List.drop_left ..
      rw [← entry] at behind
      rw [behind] at h
      cases h
      exact ⟨rest, _, _, word, entry, stop, more, cut_at_mark_iff.2 ⟨rfl, rfl⟩, rfl, rfl⟩
    · cases h
  · rintro ⟨rest, name, value, cut⟩
    obtain ⟨second, others, words⟩ := List.exists_cons_of_ne_nil (words_ne_nil_iff.2 cut.more)
    obtain ⟨named, valued⟩ := cut_at_mark_iff.1 cut.sign
    simp only [readTemplateEntry, cut.entry, cut.type.words_append cut.stop, words, List.drop_left,
      ← named, ← valued, ← cut.variableName, ← cut.defaultValue]

theorem EntryCut.subset {rest name value : Text} (cut : EntryCut e rest name value p) :
    p.typeName ⊆ e ∧ p.variableName ⊆ e ∧ p.defaultValue ⊆ e := by
  have whole := trim_subset e
  rw [cut.entry, List.append_subset] at whole
  have behind := List.Subset.trans (trim_subset rest) whole.2
  have parts : name ⊆ e ∧ value ⊆ e := by
    rcases cut.sign.2 with ⟨split, rfl⟩ | split
    · rw [split] at behind
      exact ⟨behind, List.nil_subset e⟩
    · rw [split, List.append_subset, List.cons_subset] at behind
      exact ⟨behind.1, behind.2.2⟩
  rw [cut.variableName, cut.defaultValue]
  exact ⟨whole.1, List.Subset.trans (trim_subset name) parts.1,
    List.Subset.trans (trim_subset value) parts.2⟩

theorem EntryCut.filter_display {rest name value : Text} (cut : EntryCut e rest name value p)
    {q : Char → Bool} (blank : ∀ c, isBlank c = true → q c = false) (sign : q '=' = false) :
    p.display.filter q = e.filter q := by
  have parts : rest.filter q = name.filter q ++ value.filter q := by
    rw [← filter_trim blank rest]
    rcases cut.sign.2 with ⟨split, rfl⟩ | split
    · rw [split, List.filter_nil, List.append_nil]
    · rw [split, List.filter_append, List.filter_cons_of_neg (by simp [sign])]
  rw [TemplateParameter.display, filter_displayEntry (blank ' ' rfl) sign, cut.variableName,
    cut.defaultValue, filter_trim blank, filter_trim blank, ← parts, ← List.filter_append,
    ← cut.entry, filter_trim blank]

theorem EntryCut.sign_not_mem {rest name value : Text} (cut : EntryCut e rest name value p) :
    '=' ∉ p.variableName := by
  rw [cut.variableName]
  exact fun mem => cut.sign.1 (trim_subset name mem)

theorem EntryCut.trimmed {rest name value : Text} (cut : EntryCut e rest name value p) :
    trim p.variableName = p.variableName ∧ trim p.defaultValue = p.defaultValue := by
  rw [cut.variableName, cut.defaultValue, trim_trim, trim_trim]
  exact ⟨rfl, rfl⟩

/-- A template parameter that is displayed as it is read. -/
structure TemplateParameter.IsLegible (p : TemplateParameter) : Prop where
  type : IsWord p.typeName
  name : trim p.variableName = p.variableName
  name_sign : '=' ∉ p.variableName
  default : trim p.defaultValue = p.defaultValue
  named : p.variableName ≠ [] ∨ p.defaultValue ≠ []

theorem isLegible_of_readTemplateEntry (h : readTemplateEntry e = .ok p)
    (named : p.variableName ≠ [] ∨ p.defaultValue ≠ []) : p.IsLegible := by
  obtain ⟨rest, name, value, cut⟩ := readTemplateEntry_eq_ok.1 h
  exact ⟨cut.type, cut.trimmed.1, cut.sign_not_mem, cut.trimmed.2, named⟩

theorem readTemplateEntry_display (h : p.IsLegible) : readTemplateEntry p.display = .ok p := by
  obtain ⟨-, named⟩ := trim_eq_self_iff.1 h.name
  obtain ⟨-, valued⟩ := trim_eq_self_iff.1 h.default
  rw [readTemplateEntry_eq_ok]
  by_cases empty : p.defaultValue = []
  · have ne : p.variableName ≠ [] := h.named.resolve_right fun more => more empty
    have spaced : trimEnd (' ' :: p.variableName) = ' ' :: p.variableName :=
      trimEnd_append (s := [' ']) named ne
    have written : p.display = p.typeName ++ ' ' :: p.variableName := by
      simp [TemplateParameter.display, displayEntry, empty]
    have trimmed : trim (' ' :: p.variableName) = p.variableName := by
      rw [trim_cons_blank rfl, h.name]
    refine ⟨' ' :: p.variableName, p.variableName, [], h.type, ?_, stopsAt_cons.2 rfl, ?_,
      ⟨h.name_sign, Or.inl ⟨trimmed, rfl⟩⟩, h.name.symm, empty⟩
    · rw [written, h.type.trim_append spaced]
    · rwa [trimmed]
  · have spaced : trimEnd (' ' :: p.defaultValue) = ' ' :: p.defaultValue :=
      trimEnd_append (s := [' ']) valued empty
    -- the blank before the sign is trimmed away if no name stands before it
    let name := trimStart (p.variableName ++ [' '])
    let rest := ' ' :: (p.variableName ++ [' ']) ++ '=' :: ' ' :: p.defaultValue
    have written : p.display = p.typeName ++ rest := by
      simp [TemplateParameter.display, displayEntry, empty, rest]
    have trimmed : trim rest = name ++ '=' :: ' ' :: p.defaultValue := by
      rw [trim_append_cons rfl, trimStart_cons_blank rfl, spaced]
    refine ⟨rest, name, ' ' :: p.defaultValue, h.type, ?_, stopsAt_cons.2 rfl, ?_,
      ⟨?_, Or.inr trimmed⟩, ?_, ?_⟩
    · rw [written, h.type.trim_append]
      rw [trimEnd_append_cons rfl, spaced]
    · simp [trimmed]
    · intro mem
      simpa [h.name_sign] using trimStart_subset _ mem
    · rw [trim_trimStart, trim_append_blank (allBlank_cons.2 ⟨rfl, allBlank_nil⟩), h.name]
    · rw [trim_cons_blank rfl, h.default]

theorem readTemplateEntries_eq_ok {es : List Text} : readTemplateEntries es = .ok ps ↔
    List.Forall₂ (fun e p => readTemplateEntry e = .ok p) es ps := by
  induction es generalizing ps with
  | nil =>
    rw [List.forall₂_nil_left_iff, readTemplateEntries, Except.ok.injEq, eq_comm]
  | cons e es ih =>
    rw [readTemplateEntries, List.forall₂_cons_left_iff]
    cases read : readTemplateEntry e with
    | error fault => simp
    | ok first =>
      simp only [map_eq_ok_iff, ih, Except.ok.injEq]
      constructor
      · rintro ⟨rest, entries, rfl⟩
        exact ⟨first, rest, rfl, entries, rfl⟩
      · rintro ⟨_, rest, rfl, entries, rfl⟩
        exact ⟨rest, entries, rfl⟩

theorem readTemplateEntry_blank_cons (h : isBlank ch = true) (e : Text) :
    readTemplateEntry (ch :: e) = readTemplateEntry e := by
  rw [readTemplateEntry, readTemplateEntry, trim_cons_blank h]

theorem readTemplateEntries_displays_iff (comma : ∀ p ∈ ps, ',' ∉ p.display) (ne : ps ≠ []) :
    readTemplateEntries ((commaSeparated (ps.map (·.display))).splitOn ',') = .ok ps ↔
      ∀ p ∈ ps, readTemplateEntry p.display = .ok p := by
  cases ps with
  | nil => exact absurd rfl ne
  | cons p ps =>
    have entries : ∀ e ∈ (p :: ps).map (·.display), ',' ∉ e := List.forall_mem_map.2 comma
    rw [List.map_cons] at entries ⊢
    rw [splitOn_commaSeparated entries, readTemplateEntries_eq_ok, List.forall₂_cons,
      List.map_map, List.forall₂_map_left_iff, List.forall₂_same, List.forall_mem_cons]
    simp only [Function.comp_apply, readTemplateEntry_blank_cons (show isBlank ' ' = true from rfl)]

theorem readTemplateParameters_text {e : Enclosed} (before : '<' ∉ e.before)
    (balanced : Balanced '<' '>' e.inside) : readTemplateParameters e.text =
      if trim e.inside = [] then .ok [] else readTemplateEntries (e.inside.splitOn ',') := by
  have mark : '<' ∈ e.text := by simp [Enclosed.text]
  rw [readTemplateParameters, if_pos mark,
    Enclosed.ofText?_eq_some_iff.2 ⟨rfl, before, balanced⟩]

theorem readTemplateParameters_eq_ok : readTemplateParameters line = .ok ps ↔
    ∃ e : Enclosed, line = e.text ∧ '<' ∉ e.before ∧ Balanced '<' '>' e.inside ∧
      (trim e.inside = [] ∧ ps = [] ∨
        trim e.inside ≠ [] ∧ readTemplateEntries (e.inside.splitOn ',') = .ok ps) := by
  constructor
  · intro h
    unfold readTemplateParameters at h
    split at h
    · split at h
      · cases h
      · rename_i e cut
        obtain ⟨whole, before, balanced⟩ := Enclosed.ofText?_eq_some_iff.1 cut
        refine ⟨e, whole, before, balanced, ?_⟩
        split at h
        · rename_i empty
          cases h
          exact Or.inl ⟨empty, rfl⟩
        · rename_i more
          exact Or.inr ⟨more, h⟩
    · cases h
  · rintro ⟨e, rfl, before, balanced, parts⟩
    rw [readTemplateParameters_text before balanced]
    rcases parts with ⟨empty, rfl⟩ | ⟨more, read⟩
    · rw [if_pos empty]
    · rw [if_neg more, read]

theorem balanced_displays {inside : Text} (balanced : Balanced '<' '>' inside)
    (read : List.Forall₂ (fun e p => readTemplateEntry e = .ok p) (inside.splitOn ',') ps) :
    Balanced '<' '>' (commaSeparated (ps.map (·.display))) := by
  let q : Char → Bool := fun c => c = '<' ∨ c = '>'
  have blank : ∀ c, isBlank c = true → q c = false := by
    intro c hc
    simp only [q, decide_eq_false_iff_not, not_or]
    refine ⟨?_, ?_⟩ <;> rintro rfl <;> exact absurd hc (by decide)
  have same : (inside.splitOn ',').flatMap (·.filter q) =
      (ps.map (·.display)).flatMap (·.filter q) := by
    generalize inside.splitOn ',' = es at read
    induction read with
    | nil => rfl
    | cons read _ ih =>
      obtain ⟨rest, name, value, cut⟩ := readTemplateEntry_eq_ok.1 read
      rw [List.flatMap_cons, List.map_cons, List.flatMap_cons, ih,
        cut.filter_display blank (by decide)]
  rw [flatMap_filter_splitOn (by decide), ← filter_commaSeparated (by decide) (by decide)] at same
  exact (balanced_congr same).1 balanced

theorem balanced_of_readTemplateParameters (h : readTemplateParameters line = .ok ps) :
    Balanced '<' '>' (commaSeparated (ps.map (·.display))) := by
  obtain ⟨e, -, -, balanced, ⟨-, rfl⟩ | ⟨-, read⟩⟩ := readTemplateParameters_eq_ok.1 h
  · rfl
  · exact balanced_displays balanced (readTemplateEntries_eq_ok.1 read)

theorem readTemplateParameters_append (h : readTemplateParameters line = .ok ps) (t : Text) :
    readTemplateParameters (line ++ t) = .ok ps := by
  obtain ⟨e, whole, before, balanced, parts⟩ := readTemplateParameters_eq_ok.1 h
  refine readTemplateParameters_eq_ok.2
    ⟨{ e with after := e.after ++ t }, ?_, before, balanced, parts⟩
  rw [whole]
  simp [Enclosed.text]

theorem exists_entry_of_mem {es : List Text} (read : readTemplateEntries es = .ok ps)
    (hp : p ∈ ps) : ∃ e ∈ es, readTemplateEntry e = .ok p := by
  rw [readTemplateEntries_eq_ok] at read
  induction read with
  | nil => cases hp
  | @cons e p' es ps read _ ih =>
    rcases List.mem_cons.1 hp with rfl | hp
    · exact ⟨e, List.mem_cons_self, read⟩
    · obtain ⟨e', he', read'⟩ := ih hp
      exact ⟨e', List.mem_cons_of_mem e he', read'⟩

theorem mem_display_of_readTemplateEntry (read : readTemplateEntry e = .ok p)
    (hch : ch ∈ p.display) : ch ∈ e ∨ ch = '=' ∨ ch = ' ' := by
  obtain ⟨rest, name, value, cut⟩ := readTemplateEntry_eq_ok.1 read
  obtain ⟨type, named, valued⟩ := cut.subset
  refine (mem_displayEntry hch).imp_left ?_
  rintro (mem | mem | mem)
  · exact type mem
  · exact named mem
  · exact valued mem

theorem comma_not_mem_display {inside : Text}
    (read : readTemplateEntries (inside.splitOn ',') = .ok ps) : ∀ p ∈ ps, ',' ∉ p.display := by
  intro p hp mem
  obtain ⟨entry, he, read⟩ := exists_entry_of_mem read hp
  rcases mem_display_of_readTemplateEntry read mem with mem | sign | sign
  · exact not_mem_of_mem_splitOn he mem
  · exact absurd sign (by decide)
  · exact absurd sign (by decide)

theorem ne_nil_of_readTemplateEntries {inside : Text}
    (read : readTemplateEntries (inside.splitOn ',') = .ok ps) : ps ≠ [] := by
  rintro rfl
  have none := readTemplateEntries_eq_ok.1 read
  rw [List.forall₂_nil_right_iff] at none
  exact List.splitOn_ne_nil ',' inside none

theorem trim_displays_ne_nil (words : ∀ p ∈ ps, IsWord p.typeName) (ne : ps ≠ []) :
    trim (commaSeparated (ps.map (·.display))) ≠ [] := by
  obtain ⟨p, rest, rfl⟩ := List.exists_cons_of_ne_nil ne
  have first := words p List.mem_cons_self
  intro blank
  rw [trim_eq_nil_iff] at blank
  obtain ⟨ch, word, split⟩ := List.exists_cons_of_ne_nil first.1
  have solid : isBlank ch = false := first.2 ch (by simp [split])
  have mem : ch ∈ commaSeparated ((p :: rest).map (·.display)) := by
    rw [List.map_cons, commaSeparated_cons, TemplateParameter.display, displayEntry, split]
    simp
  rw [blank ch mem] at solid
  cases solid

/-- The display of entries that were read is delimited by its own brackets, whatever comes to stand
behind it, and its entries are read again one by one. -/
theorem readTemplateParameters_displays_iff {inside : Text} (balanced : Balanced '<' '>' inside)
    (read : readTemplateEntries (inside.splitOn ',') = .ok ps) (t : Text) :
    readTemplateParameters (displayTemplateList ps ++ t) = .ok ps ↔
      ∀ p ∈ ps, readTemplateEntry p.display = .ok p := by
  have written : displayTemplateList ps ++ t =
      Enclosed.text ⟨"template ".toList, commaSeparated (ps.map (·.display)), t⟩ := by
    unfold displayTemplateList
    rw [List.append_assoc, List.append_assoc]
    rfl
  have words : ∀ p ∈ ps, IsWord p.typeName := by
    intro p hp
    obtain ⟨entry, -, read⟩ := exists_entry_of_mem read hp
    obtain ⟨rest, name, value, cut⟩ := readTemplateEntry_eq_ok.1 read
    exact cut.type
  have ne := ne_nil_of_readTemplateEntries read
  have displayed := balanced_displays balanced (readTemplateEntries_eq_ok.1 read)
  have front : '<' ∉ "template ".toList := by decide
  rw [written, readTemplateParameters_text front displayed, if_neg (trim_displays_ne_nil words ne),
    readTemplateEntries_displays_iff (comma_not_mem_display read) ne]

theorem readTemplateParameters_display (h : readTemplateParameters line = .ok ps)
    (named : ∀ p ∈ ps, p.variableName ≠ [] ∨ p.defaultValue ≠ []) (t : Text) :
    readTemplateParameters (displayTemplateList ps ++ t) = .ok ps := by
  obtain ⟨e, -, -, balanced, ⟨-, rfl⟩ | ⟨-, read⟩⟩ := readTemplateParameters_eq_ok.1 h
  · have front : '<' ∉ "template ".toList := by decide
    exact readTemplateParameters_text (e := ⟨"template ".toList, [], t⟩) front rfl
  · rw [readTemplateParameters_displays_iff balanced read]
    intro p hp
    obtain ⟨entry, -, read⟩ := exists_entry_of_mem read hp
    exact readTemplateEntry_display (isLegible_of_readTemplateEntry read (named p hp))

theorem newline_not_mem_displayTemplateList (h : readTemplateParameters line = .ok ps)
    (single : '\n' ∉ line) : '\n' ∉ displayTemplateList ps := by
  obtain ⟨e, rfl, -, -, parts⟩ := readTemplateParameters_eq_ok.1 h
  have inside : '\n' ∉ e.inside := by
    intro mem
    apply single
    simp [Enclosed.text, mem]
  have entries : ∀ p ∈ ps, '\n' ∉ p.display := by
    intro p hp mem
    rcases parts with ⟨-, rfl⟩ | ⟨-, read⟩
    · cases hp
    obtain ⟨entry, he, read⟩ := exists_entry_of_mem read hp
    rcases mem_display_of_readTemplateEntry read mem with mem | mark | mark
    · exact inside (subset_of_mem_splitOn he mem)
    · exact absurd mark (by decide)
    · exact absurd mark (by decide)
  have list : '\n' ∉ commaSeparated (ps.map (·.display)) := by
    intro mem
    rcases mem_commaSeparated mem with ⟨entry, he, mem⟩ | mark | mark
    · obtain ⟨p, hp, rfl⟩ := List.mem_map.1 he
      exact entries p hp mem
    · exact absurd mark (by decide)
    · exact absurd mark (by decide)
  have front : '\n' ∉ "template <".toList := by decide
  unfold displayTemplateList
  rw [List.mem_append, List.mem_append, not_or, not_or]
  exact ⟨⟨front, list⟩, by decide⟩

end HeaderForge
