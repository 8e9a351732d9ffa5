import HeaderForge.Proofs.Text.Stop
import HeaderForge.Text.Basic
import Mathlib.Data.List.DropRight

/-! Trimming and words. A text is some blanks, its trimmed form and some blanks, and its words are
the pieces that a blank separates, so that the words joined are the text without its blanks. -/

namespace HeaderForge.Text

variable {s t w : Text} {c : Char}

def AllBlank (t : Text) : Prop := ∀ c ∈ t, isBlank c = true

instance (t : Text) : Decidable (AllBlank t) := decidable_of_iff _ List.all_eq_true

def IsWord (t : Text) : Prop := t ≠ [] ∧ ∀ c ∈ t, isBlank c = false

instance (t : Text) : Decidable (IsWord t) :=
  decidable_of_iff (t ≠ [] ∧ t.all (!isBlank ·) = true) (by simp [IsWord])

theorem allBlank_nil : AllBlank [] := by simp [AllBlank]

theorem allBlank_cons : AllBlank (c :: t) ↔ isBlank c = true ∧ AllBlank t := by simp [AllBlank]

theorem trimStart_append_blank (h : AllBlank w) : trimStart (w ++ t) = trimStart t :=
  List.dropWhile_append_of_pos h

theorem trimEnd_append_blank (h : AllBlank w) : trimEnd (t ++ w) = trimEnd t := by
  unfold trimEnd
  rw [List.reverse_append, List.dropWhile_append_of_pos]
  intro c hc
  exact h c (List.mem_reverse.1 hc)

theorem stopsAt_blank_append {p : Char → Bool} (solid : ∀ c, isBlank c = true → p c = false)
    (blank : AllBlank w) (stop : StopsAt p t) : StopsAt p (w ++ t) := by
  cases w with
  | nil => exact stop
  | cons c w => exact stopsAt_cons.2 (solid c (allBlank_cons.1 blank).1)

theorem trimStart_spec (t : Text) : ∃ w, AllBlank w ∧ t = w ++ trimStart t :=
  ⟨t.takeWhile isBlank, fun _ hc => List.mem_takeWhile_imp hc,
    List.takeWhile_append_dropWhile.symm⟩

theorem trimEnd_spec (t : Text) : ∃ w, AllBlank w ∧ t = trimEnd t ++ w :=
  ⟨t.rtakeWhile isBlank, fun _ hc => List.mem_rtakeWhile_imp hc,
    List.rdropWhile_append_rtakeWhile.symm⟩

theorem trim_spec (t : Text) : ∃ w w', AllBlank w ∧ AllBlank w' ∧ t = w ++ (trim t ++ w') := by
  obtain ⟨w, hw, front⟩ := trimStart_spec t
  obtain ⟨w', hw', back⟩ := trimEnd_spec (trimStart t)
  refine ⟨w, w', hw, hw', ?_⟩
  rw [trim, ← back]
  exact front

@[simp] theorem trimStart_nil : trimStart [] = [] := rfl

theorem trimStart_cons_blank (h : isBlank c = true) : trimStart (c :: t) = trimStart t := by
  simp [trimStart, h]

theorem trimStart_eq_self_iff : trimStart t = t ↔ StopsAt isBlank t := by
  constructor
  · intro h
    rw [← h]
    exact stopsAt_dropWhile isBlank t
  · exact dropWhile_append_stop (s := []) (by simp)

@[simp] theorem trimStart_trimStart (t : Text) : trimStart (trimStart t) = trimStart t :=
  List.dropWhile_idempotent isBlank t

@[simp] theorem trimEnd_trimEnd (t : Text) : trimEnd (trimEnd t) = trimEnd t :=
  List.rdropWhile_idempotent isBlank t

theorem trimStart_append (hs : trimStart s = s) (ne : s ≠ []) : trimStart (s ++ t) = s ++ t := by
  rw [trimStart_eq_self_iff, StopsAt] at hs ⊢
  rwa [List.head?_append_of_ne_nil _ ne]

theorem trimStart_of_append (h : trimStart (s ++ t) = s ++ t) : trimStart s = s := by
  rw [trimStart_eq_self_iff] at h ⊢
  intro c hc
  refine h c ?_
  cases s with
  | nil => cases hc
  | cons x s => exact hc

theorem trimEnd_append (ht : trimEnd t = t) (ne : t ≠ []) : trimEnd (s ++ t) = s ++ t := by
  change List.rdropWhile isBlank t = t at ht
  change List.rdropWhile isBlank (s ++ t) = s ++ t
  rw [List.rdropWhile_eq_self_iff] at ht ⊢
  intro _
  rw [List.getLast_append_of_ne_nil _ ne]
  exact ht ne

theorem trimEnd_append_cons (h : isBlank c = false) (s t : Text) :
    trimEnd (s ++ c :: t) = s ++ c :: trimEnd t := by
  have mark : trimEnd [c] = [c] := by simp [trimEnd, h]
  have solid : trimEnd (c :: trimEnd t) = c :: trimEnd t := by
    by_cases empty : trimEnd t = []
    · rw [empty, mark]
    · exact trimEnd_append (s := [c]) (List.rdropWhile_idempotent isBlank t) empty
  obtain ⟨w, blank, split⟩ := trimEnd_spec t
  have whole : s ++ c :: t = s ++ c :: trimEnd t ++ w := by
    rw [List.append_assoc, List.cons_append, ← split]
  rw [whole, trimEnd_append_blank blank, trimEnd_append solid (List.cons_ne_nil c _)]

theorem trimStart_append_cons (h : isBlank c = false) (s t : Text) :
    trimStart (s ++ c :: t) = trimStart s ++ c :: t := by
  obtain ⟨w, blank, split⟩ := trimStart_spec s
  by_cases empty : trimStart s = []
  · rw [empty, List.append_nil] at split
    rw [split, trimStart_append_blank blank, trimStart_eq_self h, ← split, empty]
    rfl
  · conv_lhs => rw [split, List.append_assoc, trimStart_append_blank blank]
    exact trimStart_append (List.dropWhile_idempotent isBlank s) empty

theorem trim_append_cons (h : isBlank c = false) (s t : Text) :
    trim (s ++ c :: t) = trimStart s ++ c :: trimEnd t := by
  rw [trim, trimStart_append_cons h, trimEnd_append_cons h]

theorem trimStart_trimEnd (h : trimStart t = t) : trimStart (trimEnd t) = trimEnd t := by
  obtain ⟨w, -, back⟩ := trimEnd_spec t
  rw [trimStart_eq_self_iff] at h ⊢
  intro c hc
  refine h c ?_
  rw [back]
  cases e : trimEnd t with
  | nil => simp [e] at hc
  | cons d r => simpa [e] using hc

@[simp] theorem trimStart_trim (t : Text) : trimStart (trim t) = trim t :=
  trimStart_trimEnd (trimStart_trimStart t)

@[simp] theorem trimEnd_trim (t : Text) : trimEnd (trim t) = trim t := trimEnd_trimEnd _

@[simp] theorem trim_trim (t : Text) : trim (trim t) = trim t := by
  rw [trim, trimStart_trim, trimEnd_trim]

theorem trim_eq_self_iff : trim t = t ↔ trimStart t = t ∧ trimEnd t = t := by
  constructor
  · intro h
    rw [← h]
    simp
  · rintro ⟨front, back⟩
    rw [trim, front, back]

theorem trim_blank_append (h : AllBlank w) : trim (w ++ t) = trim t := by
  rw [trim, trimStart_append_blank h, trim]

theorem trim_cons_blank (h : isBlank c = true) (t : Text) : trim (c :: t) = trim t := by
  rw [trim, trimStart_cons_blank h, trim]

theorem trim_append_blank (h : AllBlank w) : trim (t ++ w) = trim t := by
  obtain ⟨v, hv, front⟩ := trimStart_spec t
  cases e : trimStart t with
  | nil =>
    rw [e, List.append_nil] at front
    rw [front, trim_blank_append hv]
    have blank : trim w = trim (w ++ []) := by rw [List.append_nil]
    rw [blank, trim_blank_append h]
    have empty : trim v = trim (v ++ []) := by rw [List.append_nil]
    rw [empty, trim_blank_append hv]
  | cons c r =>
    have start : trimStart (trimStart t ++ w) = trimStart t ++ w :=
      trimStart_append (trimStart_trimStart t) (by simp [e])
    conv_lhs => rw [front, List.append_assoc, trim_blank_append hv]
    rw [trim, start, trimEnd_append_blank h, trim]

@[simp] theorem trim_trimStart (t : Text) : trim (trimStart t) = trim t := by
  rw [trim, trimStart_trimStart, trim]

@[simp] theorem trim_trimEnd (t : Text) : trim (trimEnd t) = trim t := by
  obtain ⟨w, blank, split⟩ := trimEnd_spec t
  conv_rhs => rw [split, trim_append_blank blank]

theorem trim_eq_nil_iff : trim t = [] ↔ AllBlank t := by
  constructor
  · intro h
    obtain ⟨w, w', hw, hw', e⟩ := trim_spec t
    rw [e, h]
    intro c hc
    rcases List.mem_append.1 hc with hc | hc
    · exact hw c hc
    · exact hw' c hc
  · intro h
    have empty : trim t = trim (t ++ []) := by rw [List.append_nil]
    rw [empty, trim_blank_append h]
    rfl

theorem trim_subset (t : Text) : trim t ⊆ t := by
  obtain ⟨w, w', -, -, e⟩ := trim_spec t
  conv_rhs => rw [e]
  exact List.subset_append_of_subset_right w (List.subset_append_left _ w')

theorem trimStart_subset (t : Text) : trimStart t ⊆ t := (List.dropWhile_sublist isBlank).subset

theorem filter_trim {q : Char → Bool} (hq : ∀ c, isBlank c = true → q c = false) (t : Text) :
    (trim t).filter q = t.filter q := by
  have none_of {w : Text} (h : AllBlank w) : w.filter q = [] :=
    List.filter_eq_nil_iff.2 fun c hc => by simp [hq c (h c hc)]
  obtain ⟨w, w', hw, hw', e⟩ := trim_spec t
  conv_rhs => rw [e]
  rw [List.filter_append, List.filter_append, none_of hw, none_of hw', List.append_nil,
    List.nil_append]

@[simp] theorem withoutBlanks_trim (t : Text) : withoutBlanks (trim t) = withoutBlanks t :=
  filter_trim (by simp) t

theorem withoutBlanks_cons (h : isBlank c = false) :
    withoutBlanks (c :: t) = c :: withoutBlanks t := by
  simp [withoutBlanks, h]

theorem withoutBlanks_of_blank (h : AllBlank w) : withoutBlanks w = [] :=
  List.filter_eq_nil_iff.2 fun c hc => by simp [h c hc]

@[simp] theorem withoutBlanks_trimStart (t : Text) :
    withoutBlanks (trimStart t) = withoutBlanks t := by
  obtain ⟨w, hw, e⟩ := trimStart_spec t
  conv_rhs => rw [e, withoutBlanks_append, withoutBlanks_of_blank hw, List.nil_append]

theorem withoutBlanks_of_no_blank (h : ∀ c ∈ t, isBlank c = false) : withoutBlanks t = t :=
  List.filter_eq_self.2 fun c hc => by simp [h c hc]

theorem IsWord.withoutBlanks (h : IsWord t) : withoutBlanks t = t :=
  withoutBlanks_of_no_blank h.2

theorem trimStart_of_no_blank (h : ∀ c ∈ t, isBlank c = false) : trimStart t = t :=
  trimStart_eq_self_iff.2 fun c hc => h c (List.mem_of_mem_head? hc)

theorem trimEnd_of_no_blank (h : ∀ c ∈ t, isBlank c = false) : trimEnd t = t := by
  change List.rdropWhile isBlank t = t
  rw [List.rdropWhile_eq_self_iff]
  intro ne
  simp [h _ (List.getLast_mem ne)]

theorem trim_of_no_blank (h : ∀ c ∈ t, isBlank c = false) : trim t = t :=
  trim_eq_self_iff.2 ⟨trimStart_of_no_blank h, trimEnd_of_no_blank h⟩

theorem IsWord.trim_append (h : IsWord s) (ht : trimEnd t = t) : trim (s ++ t) = s ++ t := by
  have clear : trimStart s = s := trimStart_of_no_blank h.2
  rw [trim, trimStart_append clear h.1]
  by_cases empty : t = []
  · rw [empty, List.append_nil, trimEnd_of_no_blank h.2]
  · exact trimEnd_append ht empty

theorem words_append_blank_cons (h : isBlank c = true) (s t : Text) :
    words (s ++ c :: t) = words s ++ words t := by
  rw [words, List.splitOnP_append_cons s t h, List.filter_append]
  rfl

@[simp] theorem words_nil : words [] = [] := by simp [words]

theorem words_blank_append (h : AllBlank w) : words (w ++ t) = words t := by
  induction w with
  | nil => rfl
  | cons c w ih =>
    obtain ⟨hc, hw⟩ := allBlank_cons.1 h
    have first := words_append_blank_cons hc [] (w ++ t)
    rw [words_nil, List.nil_append, List.nil_append] at first
    rw [List.cons_append, first, ih hw]

theorem words_of_allBlank (h : AllBlank t) : words t = [] := by
  have := words_blank_append (t := []) h
  rwa [List.append_nil, words_nil] at this

theorem IsWord.words_eq (h : IsWord t) : words t = [t] := by
  rw [words, List.splitOnP_eq_singleton h.2]
  simp [h.1]

theorem IsWord.words_append (h : IsWord s) (ht : StopsAt (!isBlank ·) t) :
    words (s ++ t) = s :: words t := by
  cases t with
  | nil => rw [List.append_nil, h.words_eq, words_nil]
  | cons c t =>
    have hc : isBlank c = true := by simpa using stopsAt_cons.1 ht
    have rest := words_append_blank_cons hc [] t
    rw [words_nil, List.nil_append, List.nil_append] at rest
    rw [words_append_blank_cons hc, h.words_eq, rest]
    rfl

def front (t : Text) : Text := t.takeWhile (!isBlank ·)

theorem front_spec (h : trimStart t = t) (ne : t ≠ []) :
    IsWord (front t) ∧ ∃ r, t = front t ++ r ∧ StopsAt (!isBlank ·) r := by
  refine ⟨⟨?_, ?_⟩, t.dropWhile (!isBlank ·), List.takeWhile_append_dropWhile.symm,
    stopsAt_dropWhile _ t⟩
  · cases t with
    | nil => exact absurd rfl ne
    | cons c t =>
      have hc := stopsAt_cons.1 (trimStart_eq_self_iff.1 h)
      simp [front, hc]
  · intro c hc
    simpa using List.mem_takeWhile_imp hc

theorem words_cases (t : Text) :
    (AllBlank t ∧ words t = []) ∨
      ∃ v w r, AllBlank v ∧ IsWord w ∧ t = v ++ (w ++ r) ∧ words t = w :: words r := by
  obtain ⟨v, hv, split⟩ := trimStart_spec t
  by_cases ne : trimStart t = []
  · rw [ne, List.append_nil] at split
    rw [split]
    exact Or.inl ⟨hv, words_of_allBlank hv⟩
  · obtain ⟨word, r, rest, stop⟩ := front_spec (trimStart_trimStart t) ne
    refine Or.inr ⟨v, front (trimStart t), r, hv, word, ?_, ?_⟩
    · rwa [← rest]
    · conv_lhs => rw [split, words_blank_append hv, rest, word.words_append stop]

theorem words_ne_nil_iff : words t ≠ [] ↔ trim t ≠ [] := by
  rw [ne_eq, ne_eq, trim_eq_nil_iff, not_iff_not]
  constructor
  · intro h
    rcases words_cases t with ⟨blank, -⟩ | ⟨v, w, r, -, -, -, e⟩
    · exact blank
    · rw [h] at e
      cases e
  · exact words_of_allBlank

theorem isWord_of_mem_words (h : w ∈ words t) : IsWord w := by
  generalize e : words t = ws at h
  induction ws generalizing t with
  | nil => cases h
  | cons u us ih =>
    rcases words_cases t with ⟨-, none⟩ | ⟨v, first, r, -, word, -, split⟩
    · rw [none] at e
      cases e
    · rw [split] at e
      cases e
      rcases List.mem_cons.1 h with rfl | h
      · exact word
      · exact ih rfl h

theorem flatten_words (t : Text) : (words t).flatten = withoutBlanks t := by
  generalize e : words t = ws
  induction ws generalizing t with
  | nil =>
    rcases words_cases t with ⟨blank, -⟩ | ⟨v, first, r, -, -, -, split⟩
    · rw [withoutBlanks_of_blank blank]
      rfl
    · rw [split] at e
      cases e
  | cons u us ih =>
    rcases words_cases t with ⟨-, none⟩ | ⟨v, first, r, blank, word, text, split⟩
    · rw [none] at e
      cases e
    · rw [split] at e
      cases e
      rw [List.flatten_cons, ih r rfl, text, withoutBlanks_append, withoutBlanks_append,
        withoutBlanks_of_blank blank, word.withoutBlanks, List.nil_append]

theorem mem_of_mem_words (h : w ∈ words t) : w ⊆ t := by
  intro c hc
  have joined : c ∈ (words t).flatten := List.mem_flatten_of_mem h hc
  rw [flatten_words] at joined
  exact List.mem_of_mem_filter joined

end HeaderForge.Text
