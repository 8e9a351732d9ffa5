import HeaderForge.Proofs.Header.Scan
import Mathlib.Data.List.Chain
import Mathlib.Data.List.Forall2
import Mathlib.Data.List.GetD
import Mathlib.Data.List.Sort

/-! The blocks of a header by their places. The lines of a header are counted from zero, a block
reaches from its declaration line to the line that closes its body, and a segmentation is a list of
blocks in order that leaves no declaration line outside. A header has at most one segmentation;
reading gives the definitions of its blocks if there is one, and the fault of the first block that
breaks a condition if there is none. -/

namespace HeaderForge

def lineAt (ls : List Text) (i : Nat) : Text := ls.getD i []

/-- The places of a declaration line and of the line that closes its body. -/
structure Span where
  first : Nat
  last : Nat
  body_le : first + 2 ≤ last

namespace Span

def Before (s t : Span) : Prop := s.last < t.first

structure IsBlock (ls : List Text) (s : Span) : Prop where
  template : 1 ≤ s.first
  declaration : isDeclarationLine (lineAt ls s.first) = true
  opens : opensBody (lineAt ls (s.first + 1)) = true
  closes : closesBody (lineAt ls s.last) = true
  body : ∀ i, s.first + 2 ≤ i → i < s.last → closesBody (lineAt ls i) = false

structure Holds (ls : List Text) (s : Span) (d : Definition) : Prop where
  templateParameters :
    readTemplateParameters (lineAt ls (s.first - 1)) = .ok d.templateParameters
  declaration : readDeclaration (Text.trim (lineAt ls s.first)) = .ok d.declaration
  body : d.body = Text.ended ((ls.take s.last).drop (s.first + 2))

end Span

/-- The blocks of the lines before place `n`. -/
structure Segmented (ls : List Text) (n : Nat) (spans : List Span) : Prop where
  ordered : spans.IsChain Span.Before
  blocks : ∀ s ∈ spans, s.IsBlock ls ∧ ∃ d, s.Holds ls d
  within : ∀ s ∈ spans, s.last < n
  covered : ∀ i < n, isDeclarationLine (lineAt ls i) = true → ∃ s ∈ spans, s.first ≤ i ∧ i ≤ s.last

/-- The first condition that the block of the declaration line at `i` breaks. -/
inductive FaultAt (ls : List Text) (i : Nat) : ReadError → Prop
  | noTemplate (top : i = 0) : FaultAt ls i (.missingTemplateLine (i + 1))
  | unopened (above : 1 ≤ i) (shut : opensBody (lineAt ls (i + 1)) = false) :
      FaultAt ls i (.missingBodyOpen (i + 2) (Text.trim (lineAt ls (i + 1))))
  | unclosed (above : 1 ≤ i) (opens : opensBody (lineAt ls (i + 1)) = true)
      (open_ : ∀ c, i + 2 ≤ c → closesBody (lineAt ls c) = false) :
      FaultAt ls i (.unterminatedBody (i + 1))
  | templateList {e : ReadError} (above : 1 ≤ i) (opens : opensBody (lineAt ls (i + 1)) = true)
      (c : Nat) (low : i + 2 ≤ c) (closes : closesBody (lineAt ls c) = true)
      (fault : readTemplateParameters (lineAt ls (i - 1)) = .error e) : FaultAt ls i e
  | declaration {e : ReadError} (above : 1 ≤ i) (opens : opensBody (lineAt ls (i + 1)) = true)
      (c : Nat) (low : i + 2 ≤ c) (closes : closesBody (lineAt ls c) = true)
      (ps : List TemplateParameter)
      (list : readTemplateParameters (lineAt ls (i - 1)) = .ok ps)
      (fault : readDeclaration (Text.trim (lineAt ls i)) = .error e) : FaultAt ls i e

variable {ls pre rest : List Text} {i m n : Nat} {spans spans' : List Span} {s t : Span}

instance : Trans Span.Before Span.Before Span.Before where
  trans {s t u} h h' := by
    have room := t.body_le
    unfold Span.Before at *
    omega

theorem lineAt_append (i : Nat) : lineAt (pre ++ rest) (pre.length + i) = lineAt rest i := by
  simp [lineAt, List.getElem?_append_right]

theorem lineAt_length (line : Text) : lineAt (pre ++ line :: rest) pre.length = line :=
  lineAt_append 0

theorem lineAt_above {template : Text} (h : pre.getLast? = some template) (rest : List Text) :
    1 ≤ pre.length ∧ lineAt (pre ++ rest) (pre.length - 1) = template := by
  obtain ⟨init, rfl⟩ := List.getLast?_eq_some_iff.1 h
  simp [lineAt]

theorem lt_length_of_declaration (h : isDeclarationLine (lineAt ls i) = true) :
    i < ls.length := by
  by_contra past
  rw [lineAt, List.getD_eq_default _ _ (Nat.not_lt.1 past)] at h
  cases h

theorem Span.IsBlock.eq (hs : s.IsBlock ls) (ht : t.IsBlock ls) (first : s.first = t.first) :
    s = t := by
  have last : s.last = t.last := by
    rcases Nat.lt_trichotomy s.last t.last with lt | eq | gt
    · have body := ht.body s.last (first ▸ s.body_le) lt
      rw [hs.closes] at body
      cases body
    · exact eq
    · have body := hs.body t.last (first ▸ t.body_le) gt
      rw [ht.closes] at body
      cases body
  cases s
  cases t
  simp_all

theorem Segmented.pairwise (h : Segmented ls n spans) : spans.Pairwise Span.Before :=
  List.isChain_iff_pairwise.1 h.ordered

theorem Span.eq_of_overlap (h : spans.Pairwise Span.Before) (hs : s ∈ spans) (ht : t ∈ spans)
    (reach : s.first ≤ t.last) (reach' : t.first ≤ s.last) : s = t := by
  induction spans with
  | nil => cases hs
  | cons u us ih =>
    obtain ⟨front, back⟩ := List.pairwise_cons.1 h
    rw [List.mem_cons] at hs ht
    rcases hs with rfl | hs <;> rcases ht with rfl | ht
    · rfl
    · have apart : s.last < t.first := front t ht
      omega
    · have apart : t.last < s.first := front s hs
      omega
    · exact ih back hs ht

/-- A block of one segmentation belongs to every other that reaches it. By induction on where the
block begins: the other has a block around that line, which begins there or is a block of the
first segmentation as well and overlaps it. -/
theorem Segmented.mem_of_mem (h : Segmented ls m spans) (h' : Segmented ls n spans')
    (hs : s ∈ spans) (reach : s.first < n) : s ∈ spans' := by
  obtain ⟨k, hk⟩ : ∃ k, k = s.first := ⟨_, rfl⟩
  induction k using Nat.strong_induction_on generalizing m n spans spans' s with
  | _ k ih =>
    have block := (h.blocks s hs).1
    obtain ⟨t, ht, before, after⟩ := h'.covered s.first reach block.declaration
    rcases Nat.eq_or_lt_of_le before with same | earlier
    · rwa [block.eq (h'.blocks t ht).1 same.symm]
    · have room := s.body_le
      have bound := h.within s hs
      have ht' : t ∈ spans := ih t.first (hk ▸ earlier) h' h ht (by omega) rfl
      rwa [Span.eq_of_overlap h.pairwise hs ht' after (by omega)]

theorem Segmented.unique (h : Segmented ls n spans) (h' : Segmented ls n spans') :
    spans = spans' := by
  have : Std.Irrefl Span.Before := ⟨fun s before => by
    have room := s.body_le
    unfold Span.Before at before
    omega⟩
  have : Std.Antisymm Span.Before := ⟨fun s t before before' => by
    have room := s.body_le
    have room' := t.body_le
    unfold Span.Before at before before'
    omega⟩
  apply h.pairwise.eq_of_mem_iff h'.pairwise
  intro s
  constructor
  · intro hs
    have room := s.body_le
    have bound := h.within s hs
    exact h.mem_of_mem h' hs (by omega)
  · intro hs
    have room := s.body_le
    have bound := h'.within s hs
    exact h'.mem_of_mem h hs (by omega)

theorem Segmented.exists_first (h : Segmented ls i spans) (h' : Segmented ls n spans')
    (mark : isDeclarationLine (lineAt ls i) = true) (reach : i < n) :
    ∃ s ∈ spans', s.first = i := by
  obtain ⟨s, hs, before, after⟩ := h'.covered i reach mark
  rcases Nat.eq_or_lt_of_le before with same | earlier
  · exact ⟨s, hs, same⟩
  · have bound := h.within s (h'.mem_of_mem h hs earlier)
    omega

theorem segmented_nil : Segmented ls 0 [] where
  ordered := List.isChain_nil
  blocks := by simp
  within := by simp
  covered := by simp

theorem Segmented.pass (h : Segmented ls n spans)
    (mark : isDeclarationLine (lineAt ls n) = false) : Segmented ls (n + 1) spans where
  ordered := h.ordered
  blocks := h.blocks
  within s hs := Nat.lt_succ_of_lt (h.within s hs)
  covered i bound marked := by
    rcases Nat.eq_or_lt_of_le (Nat.le_of_lt_succ bound) with rfl | above
    · rw [mark] at marked
      cases marked
    · exact h.covered i above marked

theorem Segmented.take (h : Segmented ls s.first spans) (block : s.IsBlock ls) {d : Definition}
    (holds : s.Holds ls d) : Segmented ls (s.last + 1) (spans ++ [s]) where
  ordered := by
    apply h.ordered.append (List.isChain_singleton s)
    intro t ht u hu
    cases hu
    exact h.within t (List.mem_of_mem_getLast? ht)
  blocks t ht := by
    rcases List.mem_append.1 ht with ht | ht
    · exact h.blocks t ht
    · rw [List.mem_singleton.1 ht]
      exact ⟨block, d, holds⟩
  within t ht := by
    rcases List.mem_append.1 ht with ht | ht
    · have bound := h.within t ht
      have room := s.body_le
      omega
    · rw [List.mem_singleton.1 ht]
      exact Nat.lt_succ_self _
  covered i bound marked := by
    by_cases above : i < s.first
    · obtain ⟨t, ht, around⟩ := h.covered i above marked
      exact ⟨t, List.mem_append_left _ ht, around⟩
    · exact ⟨s, by simp, by omega, by omega⟩

variable {line : Text} {b : Block}

def Block.span (pre : List Text) (b : Block) : Span where
  first := pre.length
  last := pre.length + (b.body.length + 2)
  body_le := by omega

theorem Block.isBlock_span (mark : isDeclarationLine line = true)
    (cut : Block.cut (pre.length + 1) pre.getLast? rest = .ok b) :
    (b.span pre).IsBlock (pre ++ line :: rest) := by
  obtain ⟨template, opening, split, opens, body, closes⟩ := Block.cut_eq_ok.1 cut
  have place (k : Nat) : lineAt (pre ++ line :: rest) (pre.length + k) =
      lineAt (line :: opening :: (b.body ++ b.closing :: b.below)) k := by
    rw [lineAt_append, split]
  constructor
  · exact (lineAt_above template []).1
  · change isDeclarationLine (lineAt _ (pre.length + 0)) = true
    rw [place]
    exact mark
  · change opensBody (lineAt _ (pre.length + 1)) = true
    rw [place]
    exact opens
  · change closesBody (lineAt _ (pre.length + (b.body.length + 2))) = true
    rw [place]
    simpa [lineAt] using closes
  · intro i low high
    change pre.length + 2 ≤ i at low
    change i < pre.length + (b.body.length + 2) at high
    obtain ⟨k, rfl⟩ : ∃ k, i = pre.length + (k + 2) := ⟨i - pre.length - 2, by omega⟩
    have bound : k < b.body.length := by omega
    rw [place]
    have here : lineAt (line :: opening :: (b.body ++ b.closing :: b.below)) (k + 2) =
        b.body[k] := by
      simp [lineAt, List.getElem?_append_left bound, bound]
    rw [here]
    exact body _ (List.getElem_mem bound)

theorem Block.template_span (cut : Block.cut (pre.length + 1) pre.getLast? rest = .ok b) :
    lineAt (pre ++ line :: rest) (pre.length - 1) = b.template :=
  (lineAt_above (Block.cut_eq_ok.1 cut).1 _).2

theorem Block.holds_span {d : Definition}
    (cut : Block.cut (pre.length + 1) pre.getLast? rest = .ok b) (read : b.read line = .ok d) :
    (b.span pre).Holds (pre ++ line :: rest) d := by
  obtain ⟨template, opening, split, -⟩ := Block.cut_eq_ok.1 cut
  have here : lineAt (pre ++ line :: rest) pre.length = line := lineAt_length line
  obtain ⟨list, declaration, body⟩ := Block.read_eq_ok.1 read
  constructor
  · change readTemplateParameters (lineAt _ (pre.length - 1)) = _
    rw [Block.template_span cut, list]
  · change readDeclaration (Text.trim (lineAt _ pre.length)) = _
    rw [here, declaration]
  · change _ = Text.ended (((pre ++ line :: rest).take (pre.length + (b.body.length + 2))).drop
      (pre.length + 2))
    rw [split, List.take_length_add_append, List.drop_length_add_append, body]
    simp

theorem Block.exists_through (line : Text)
    (cut : Block.cut (pre.length + 1) pre.getLast? rest = .ok b) :
    ∃ through, pre ++ line :: rest = through ++ b.below ∧
      through.length = (b.span pre).last + 1 ∧ through.getLast? = some b.closing := by
  obtain ⟨-, opening, split, -⟩ := Block.cut_eq_ok.1 cut
  refine ⟨(pre ++ line :: opening :: b.body) ++ [b.closing], ?_, ?_, List.getLast?_concat⟩
  · rw [split]
    simp
  · change _ = pre.length + (b.body.length + 2) + 1
    simp only [List.length_append, List.length_cons, List.length_nil]

theorem faultAt_of_cut_error {e : ReadError}
    (cut : Block.cut (pre.length + 1) pre.getLast? rest = .error e) :
    FaultAt (pre ++ line :: rest) pre.length e := by
  have next : lineAt (pre ++ line :: rest) (pre.length + 1) = rest.headD [] := by
    rw [lineAt_append]
    cases rest <;> rfl
  have positive (h : pre.getLast? ≠ none) : 1 ≤ pre.length := by
    rw [Nat.one_le_iff_ne_zero, ne_eq, List.length_eq_zero_iff]
    intro empty
    exact h (by rw [empty]; rfl)
  rcases Block.cut_eq_error cut with ⟨top, rfl⟩ | ⟨above, shut, rfl⟩ | ⟨above, opens, body, rfl⟩
  · exact .noTemplate (List.length_eq_zero_iff.2 (List.getLast?_eq_none_iff.1 top))
  · rw [← next] at shut ⊢
    exact .unopened (positive above) shut
  · rw [← next] at opens
    apply FaultAt.unclosed (positive above) opens
    intro c low
    obtain ⟨k, rfl⟩ : ∃ k, c = pre.length + (k + 2) := ⟨c - pre.length - 2, by omega⟩
    rw [lineAt_append]
    cases at_ : rest.tail[k]? with
    | none =>
      have empty : lineAt (line :: rest) (k + 2) = [] := by
        rw [List.getElem?_tail] at at_
        simp [lineAt, at_]
      rw [empty]
      rfl
    | some l =>
      have here : lineAt (line :: rest) (k + 2) = l := by
        rw [List.getElem?_tail] at at_
        simp [lineAt, at_]
      rw [here]
      exact body l (List.mem_of_getElem? at_)

theorem faultAt_of_read_error {e : ReadError} (mark : isDeclarationLine line = true)
    (cut : Block.cut (pre.length + 1) pre.getLast? rest = .ok b) (read : b.read line = .error e) :
    FaultAt (pre ++ line :: rest) pre.length e := by
  have block := Block.isBlock_span mark cut
  have here : lineAt (pre ++ line :: rest) pre.length = line := lineAt_length line
  rcases Block.read_eq_error.1 read with fault | ⟨ps, list, fault⟩
  · rw [← Block.template_span cut] at fault
    exact .templateList block.template block.opens _ (b.span pre).body_le block.closes fault
  · rw [← Block.template_span cut] at list
    rw [← here] at fault
    exact .declaration block.template block.opens _ (b.span pre).body_le block.closes ps list fault

def Continues (ls : List Text) (spans : List Span) : Except ReadError (List Definition) → Prop
  | .ok ds => ∃ more, Segmented ls ls.length (spans ++ more) ∧ List.Forall₂ (Span.Holds ls) more ds
  | .error e => ∃ i more, Segmented ls i (spans ++ more) ∧
      isDeclarationLine (lineAt ls i) = true ∧ FaultAt ls i e

theorem readLines_continues (number : Nat) (above : Option Text) (rest pre : List Text)
    (spans : List Span) (numbered : number = pre.length + 1) (last : above = pre.getLast?)
    (h : Segmented (pre ++ rest) pre.length spans) :
    Continues (pre ++ rest) spans (readLines [] number above rest) := by
  fun_induction readLines [] number above rest generalizing pre spans with
  | case1 =>
    refine ⟨[], ?_, .nil⟩
    rw [List.append_nil] at h ⊢
    rwa [List.append_nil]
  | case2 number above line rest mark e cut =>
    subst numbered last
    refine ⟨pre.length, [], ?_, ?_, faultAt_of_cut_error cut⟩
    · rwa [List.append_nil]
    · rwa [lineAt_length]
  | case3 number above line rest mark b cut e read =>
    subst numbered last
    refine ⟨pre.length, [], ?_, ?_, faultAt_of_read_error mark cut read⟩
    · rwa [List.append_nil]
    · rwa [lineAt_length]
  | case4 number above line rest mark b cut d read ih =>
    subst numbered last
    have holds := Block.holds_span cut read
    have taken := h.take (s := b.span pre) (Block.isBlock_span mark cut) holds
    obtain ⟨through, whole, length, closing⟩ := Block.exists_through line cut
    rw [whole, ← length] at taken
    rw [whole] at holds ⊢
    have next := ih through (spans ++ [b.span pre]) ?_ closing.symm taken
    · cases result : readLines [] (pre.length + 1 + b.body.length + 3) (some b.closing) b.below with
      | ok ds =>
        rw [result] at next
        obtain ⟨more, segmented, held⟩ := next
        rw [List.append_assoc] at segmented
        exact ⟨b.span pre :: more, segmented, .cons holds held⟩
      | error e =>
        rw [result] at next
        obtain ⟨i, more, segmented, fault⟩ := next
        rw [List.append_assoc] at segmented
        exact ⟨i, b.span pre :: more, segmented, fault⟩
    · rw [length]
      change _ = pre.length + (b.body.length + 2) + 1 + 1
      omega
  | case5 number above line rest mark ih =>
    subst numbered last
    have here : lineAt (pre ++ line :: rest) pre.length = line := lineAt_length line
    have passed := h.pass (by rw [here]; simpa using mark)
    have whole : pre ++ line :: rest = (pre ++ [line]) ++ rest := by simp
    rw [whole] at passed ⊢
    exact ih (pre ++ [line]) spans (by simp) (by simp) (by simpa using passed)

theorem Span.Holds.eq {d d' : Definition} (h : s.Holds ls d) (h' : s.Holds ls d') : d = d' := by
  obtain ⟨list, declaration, body⟩ := h
  obtain ⟨list', declaration', body'⟩ := h'
  rw [list] at list'
  rw [declaration] at declaration'
  cases d
  cases d'
  simp_all

theorem Span.Holds.not_faultAt {d : Definition} {e : ReadError} (h : s.Holds ls d)
    (block : s.IsBlock ls) : ¬ FaultAt ls s.first e := by
  intro fault
  cases fault with
  | noTemplate top => exact absurd block.template (by omega)
  | unopened above shut =>
    rw [block.opens] at shut
    cases shut
  | unclosed above opens never =>
    have closes := never s.last s.body_le
    rw [block.closes] at closes
    cases closes
  | templateList above opens c low closes fault =>
    rw [h.templateParameters] at fault
    cases fault
  | declaration above opens c low closes ps list fault =>
    rw [h.declaration] at fault
    cases fault

theorem FaultAt.eq {e e' : ReadError} (h : FaultAt ls i e) (h' : FaultAt ls i e') : e = e' := by
  cases h with
  | noTemplate top =>
    cases h' with
    | noTemplate => rfl
    | _ => omega
  | unopened above shut =>
    cases h' with
    | unopened => rfl
    | _ => grind
  | unclosed above opens never =>
    cases h' with
    | unclosed => rfl
    | _ => grind
  | templateList above opens c low closes fault =>
    cases h' with
    | templateList _ _ _ _ _ fault' => simp_all
    | _ => grind
  | declaration above opens c low closes ps list fault =>
    cases h' with
    | declaration _ _ _ _ _ _ _ fault' => simp_all
    | _ => grind

/-- Reading a header gives definitions exactly when its lines fall into blocks, these blocks are
then the only ones and each holds its definition; and it gives a fault exactly when that is the
first fault of the first declaration line whose block cannot be read. -/
theorem readHeader_segmentation (text : Text) :
    (∀ fs, readHeader text [] = .ok fs ↔
      ∃ spans, Segmented text.lines text.lines.length spans ∧
        List.Forall₂ (Span.Holds text.lines) spans fs) ∧
    (∀ spans spans', Segmented text.lines text.lines.length spans →
      Segmented text.lines text.lines.length spans' → spans = spans') ∧
    (∀ e, readHeader text [] = .error e ↔
      ∃ i spans, Segmented text.lines i spans ∧
        isDeclarationLine (lineAt text.lines i) = true ∧ FaultAt text.lines i e) := by
  have scanned : Continues text.lines [] (readHeader text []) :=
    readLines_continues 1 none text.lines [] [] rfl rfl segmented_nil
  have clash {i n : Nat} {e : ReadError} {upper spans : List Span}
      (before : Segmented text.lines i upper)
      (mark : isDeclarationLine (lineAt text.lines i) = true)
      (fault : FaultAt text.lines i e) (whole : Segmented text.lines n spans) : n ≤ i := by
    by_contra reach
    obtain ⟨s, hs, rfl⟩ := before.exists_first whole mark (Nat.not_le.1 reach)
    obtain ⟨block, d, holds⟩ := whole.blocks s hs
    exact holds.not_faultAt block fault
  refine ⟨fun fs => ⟨?_, ?_⟩, fun spans spans' => Segmented.unique, fun e => ⟨?_, ?_⟩⟩
  · intro result
    rw [result] at scanned
    exact scanned
  · rintro ⟨spans, segmented, held⟩
    cases result : readHeader text [] with
    | ok ds =>
      rw [result] at scanned
      obtain ⟨spans', segmented', held'⟩ := scanned
      have same : spans' = spans := segmented'.unique segmented
      rw [same] at held'
      have unique : Relator.RightUnique (Span.Holds text.lines) := fun _ _ _ => Span.Holds.eq
      rw [List.right_unique_forall₂' unique held' held]
    | error e =>
      rw [result] at scanned
      obtain ⟨i, upper, before, mark, fault⟩ := scanned
      have past := clash before mark fault segmented
      have inside := lt_length_of_declaration mark
      omega
  · intro result
    rw [result] at scanned
    exact scanned
  · rintro ⟨i, upper, before, mark, fault⟩
    cases result : readHeader text [] with
    | ok ds =>
      rw [result] at scanned
      obtain ⟨spans, segmented, -⟩ := scanned
      have past := clash before mark fault segmented
      have inside := lt_length_of_declaration mark
      omega
    | error e' =>
      rw [result] at scanned
      obtain ⟨i', upper', before', mark', fault'⟩ := scanned
      have low := clash before mark fault before'
      have high := clash before' mark' fault' before
      have same : i = i' := by omega
      subst same
      rw [fault.eq fault']

end HeaderForge
