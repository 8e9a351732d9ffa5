import HeaderForge.Proofs.Bracket.Balance
import HeaderForge.Proofs.Header.Fault
import HeaderForge.Proofs.Text.Blank
import Mathlib.Data.List.Forall2

/-! Headers that differ in blanks at the ends of their lines. Two such headers are read side by
side: they pass, cut and take the same lines, tell the same kinds of fault on the same lines, and
give definitions that differ at most in the lines of their bodies, and there only as the headers
do. -/

namespace HeaderForge

open Text

/-- Two faults of one kind, on one line if the kind tells a line. -/
def ReadError.Alike (e e' : ReadError) : Prop := e.ctorIdx = e'.ctorIdx ∧ e.line? = e'.line?

inductive Agree {α : Type} (R : α → α → Prop) : Except ReadError α → Except ReadError α → Prop
  | error {e e' : ReadError} (alike : e.Alike e') : Agree R (.error e) (.error e')
  | ok {a b : α} (related : R a b) : Agree R (.ok a) (.ok b)

theorem Agree.map {α β : Type} {R : α → α → Prop} {S : β → β → Prop} {f g : α → β}
    {x y : Except ReadError α} (h : Agree R x y) (lift : ∀ a b, R a b → S (f a) (g b)) :
    Agree S (x.map f) (y.map g) := by
  cases h with
  | error alike => exact .error alike
  | ok related => exact .ok (lift _ _ related)

theorem Agree.imp {α : Type} {R S : α → α → Prop} {x y : Except ReadError α} (h : Agree R x y)
    (lift : ∀ a b, R a b → S a b) : Agree S x y := by
  cases h with
  | error alike => exact .error alike
  | ok related => exact .ok (lift _ _ related)

theorem Agree.of_error {α : Type} {R : α → α → Prop} {e : ReadError} {y : Except ReadError α}
    (h : Agree R (.error e) y) : ∃ e', y = .error e' ∧ e.Alike e' := by
  cases h with
  | error alike => exact ⟨_, rfl, alike⟩

theorem Agree.of_ok {α : Type} {R : α → α → Prop} {a : α} {y : Except ReadError α}
    (h : Agree R (.ok a) y) : ∃ b, y = .ok b ∧ R a b := by
  cases h with
  | ok related => exact ⟨_, rfl, related⟩

variable {ρ : Text → Text → Prop} {names : List Text} {number : Nat} {above above' : Option Text}
  {line line' : Text} {ls ls' us us' : List Text} {b b' : Block} {d d' : Definition}

theorem mem_trim_iff {c : Char} (h : isBlank c = false) (t : Text) : c ∈ trim t ↔ c ∈ t := by
  have same := filter_trim (q := (· = c)) (by rintro x blank; simp; rintro rfl; simp_all) t
  constructor
  · exact fun mem => trim_subset t mem
  · intro mem
    have kept : c ∈ t.filter (· = c) := by simp [mem]
    rw [← same] at kept
    exact List.mem_of_mem_filter kept

namespace Enclosed

def trimmed (e : Enclosed) : Enclosed := ⟨trimStart e.before, e.inside, trimEnd e.after⟩

theorem text_trimmed (e : Enclosed) : e.trimmed.text = trim e.text := by
  rw [text, text, trim_append_cons rfl, trimEnd_append_cons rfl]
  rfl

theorem ofText?_trim (t : Text) : ofText? (trim t) = (ofText? t).map trimmed := by
  cases cut : ofText? t with
  | some e =>
    obtain ⟨rfl, before, balanced⟩ := ofText?_eq_some_iff.1 cut
    exact ofText?_eq_some_iff.2
      ⟨e.text_trimmed.symm, fun mem => before (trimStart_subset _ mem), balanced⟩
  | none =>
    cases cut' : ofText? (trim t) with
    | none => rfl
    | some e =>
      obtain ⟨whole, before, balanced⟩ := ofText?_eq_some_iff.1 cut'
      obtain ⟨w, w', blank, -, split⟩ := trim_spec t
      have front : '<' ∉ w ++ e.before := by
        rw [List.mem_append, not_or]
        exact ⟨fun mem => absurd (blank _ mem) (by decide), before⟩
      have found : ofText? t = some ⟨w ++ e.before, e.inside, e.after ++ w'⟩ := by
        rw [ofText?_eq_some_iff]
        refine ⟨?_, front, balanced⟩
        rw [split, whole]
        simp [text]
      rw [cut] at found
      cases found

end Enclosed

theorem readTemplateParameters_agree (h : trim line = trim line') :
    Agree Eq (readTemplateParameters line) (readTemplateParameters line') := by
  have mark : '<' ∈ line ↔ '<' ∈ line' := by
    rw [← mem_trim_iff rfl line, h, mem_trim_iff rfl]
  have cuts := Enclosed.ofText?_trim line
  rw [h, Enclosed.ofText?_trim] at cuts
  rw [readTemplateParameters, readTemplateParameters]
  by_cases inside : '<' ∈ line
  · rw [if_pos inside, if_pos (mark.1 inside)]
    cases cut : Enclosed.ofText? line with
    | none =>
      rw [cut] at cuts
      rw [Option.map_eq_none_iff.1 cuts]
      exact .error ⟨rfl, rfl⟩
    | some e =>
      rw [cut] at cuts
      obtain ⟨e', cut', same⟩ := Option.map_eq_some_iff.1 cuts
      have list : e'.inside = e.inside := by
        change e'.trimmed.inside = e.trimmed.inside
        rw [same]
      simp only [cut', list]
      cases (if trim e.inside = [] then .ok [] else readTemplateEntries (e.inside.splitOn ',')) with
      | error e => exact .error ⟨rfl, rfl⟩
      | ok ps => exact .ok rfl
  · rw [if_neg inside, if_neg (mt mark.2 inside)]
    exact .error ⟨rfl, rfl⟩

theorem isDeclarationLine_congr (h : trim line = trim line') :
    isDeclarationLine line = isDeclarationLine line' := by
  rw [isDeclarationLine, isDeclarationLine, h]

namespace Block

def trimmed (b : Block) : Block :=
  ⟨trim b.template, b.body.map trim, trim b.closing, b.below.map trim⟩

theorem cut_trim (number : Nat) (above : Option Text) (rest : List Text) :
    cut number (above.map trim) (rest.map trim) = (cut number above rest).map trimmed := by
  have closes : (fun l => !closesBody l) ∘ trim = fun l => !closesBody l := by
    funext l
    simp [closesBody]
  cases above with
  | none => rfl
  | some template =>
    cases rest with
    | nil => rfl
    | cons opening rest =>
      have opens : opensBody (trim opening) = opensBody opening := by simp [opensBody]
      simp only [Option.map_some, List.map_cons, cut, opens, trim_trim, List.dropWhile_map,
        List.takeWhile_map, closes]
      cases opensBody opening with
      | true => cases rest.dropWhile (!closesBody ·) <;> rfl
      | false => rfl

theorem cut_error_congr {e : ReadError} (top : above.map trim = above'.map trim)
    (same : ls.map trim = ls'.map trim) (h : cut number above ls = .error e) :
    cut number above' ls' = .error e := by
  have whole := cut_trim number above ls
  rw [top, same, cut_trim, h] at whole
  exact map_eq_error_iff.1 whole

theorem cut_ok_congr (top : above.map trim = above'.map trim)
    (same : ls.map trim = ls'.map trim) (h : cut number above ls = .ok b) :
    ∃ b', cut number above' ls' = .ok b' ∧ b.trimmed = b'.trimmed := by
  have whole := cut_trim number above ls
  rw [top, same, cut_trim, h] at whole
  obtain ⟨b', cut', trimmed⟩ := map_eq_ok_iff.1 whole
  exact ⟨b', cut', trimmed.symm⟩

end Block

def Inner (ρ : Text → Text → Prop) (ls ls' : List Text) : Prop :=
  List.Forall₂ ρ ls.dropLast ls'.dropLast

theorem Inner.of_append (h : Inner ρ (us ++ ls) (us' ++ ls')) (upper : us.length = us'.length)
    (ne : ls ≠ []) (ne' : ls' ≠ []) : List.Forall₂ ρ us us' ∧ Inner ρ ls ls' := by
  rw [Inner, List.dropLast_append_of_ne_nil ne, List.dropLast_append_of_ne_nil ne'] at h
  constructor
  · have front := List.forall₂_take_append _ _ _ h
    rwa [← upper, List.take_left] at front
  · have back := List.forall₂_drop_append _ _ _ h
    rwa [← upper, List.drop_left] at back

theorem Inner.tail (h : Inner ρ (line :: ls) (line' :: ls')) (same : ls.length = ls'.length) :
    Inner ρ ls ls' := by
  cases ls with
  | nil =>
    rw [List.length_eq_zero_iff.1 same.symm]
    exact .nil
  | cons l ls =>
    have ne' : ls' ≠ [] := List.ne_nil_of_length_pos (by simp [← same])
    have split : Inner ρ ([line] ++ l :: ls) ([line'] ++ ls') := h
    exact (split.of_append rfl (List.cons_ne_nil l ls) ne').2

theorem Block.inner_cut (cut : Block.cut number above ls = .ok b)
    (cut' : Block.cut number above' ls' = .ok b') (same : b.trimmed = b'.trimmed)
    (h : Inner ρ (line :: ls) (line' :: ls')) :
    List.Forall₂ ρ b.body b'.body ∧ Inner ρ b.below b'.below := by
  obtain ⟨-, opening, split, -⟩ := Block.cut_eq_ok.1 cut
  obtain ⟨-, opening', split', -⟩ := Block.cut_eq_ok.1 cut'
  have bodies : b.body.length = b'.body.length := by
    simpa [trimmed] using congrArg (·.body.length) same
  have belows : b.below.length = b'.below.length := by
    simpa [trimmed] using congrArg (·.below.length) same
  rw [split, split'] at h
  have whole : Inner ρ ([line, opening] ++ (b.body ++ b.closing :: b.below))
    ([line', opening'] ++ (b'.body ++ b'.closing :: b'.below)) := h
  have below := whole.of_append rfl (by simp) (by simp)
  obtain ⟨body, closing⟩ := below.2.of_append bodies (by simp) (by simp)
  exact ⟨body, closing.tail belows⟩

/-- Definitions that are the same up to the lines of their bodies, which are in a relation. -/
structure Definition.SameUpTo (ρ : Text → Text → Prop) (d d' : Definition) : Prop where
  templateParameters : d.templateParameters = d'.templateParameters
  declaration : d.declaration = d'.declaration
  body : ∃ ls ls', d.body = ended ls ∧ d'.body = ended ls' ∧ List.Forall₂ ρ ls ls'

theorem Block.read_agree (template : trim b.template = trim b'.template)
    (same : trim line = trim line') (body : List.Forall₂ ρ b.body b'.body) :
    Agree (Definition.SameUpTo ρ) (b.read line) (b'.read line') := by
  have list := readTemplateParameters_agree template
  unfold Block.read
  rw [same]
  generalize readTemplateParameters b.template = x at list
  generalize readTemplateParameters b'.template = y at list
  cases list with
  | error alike => exact .error alike
  | ok equal =>
    subst equal
    cases readDeclaration (trim line') with
    | error e => exact .error ⟨rfl, rfl⟩
    | ok declaration => exact .ok ⟨rfl, rfl, _, _, rfl, rfl, body⟩

theorem isWanted_congr (h : d.declaration = d'.declaration) :
    isWanted names d = isWanted names d' := by
  rw [isWanted, isWanted, h]

theorem readLines_agree (top : above.map trim = above'.map trim)
    (same : ls.map trim = ls'.map trim) (inner : Inner ρ ls ls') :
    Agree (List.Forall₂ (Definition.SameUpTo ρ)) (readLines names number above ls)
      (readLines names number above' ls') := by
  -- Both runs are at the same place at every step.
  fun_induction readLines names number above ls generalizing above' ls' with
  | case1 number above =>
    rw [List.map_nil, eq_comm, List.map_eq_nil_iff] at same
    rw [same, readLines_nil]
    exact .ok .nil
  | case2 number above line rest mark e cut =>
    obtain ⟨line', rest', rfl, first, later⟩ := List.map_eq_cons_iff.1 same.symm
    have cut' := Block.cut_error_congr top later.symm cut
    rw [isDeclarationLine_congr first.symm] at mark
    rw [readLines_cut_error mark cut']
    exact .error ⟨rfl, rfl⟩
  | case3 number above line rest mark b cut e read =>
    obtain ⟨line', rest', rfl, first, later⟩ := List.map_eq_cons_iff.1 same.symm
    obtain ⟨b', cut', trimmed⟩ := Block.cut_ok_congr top later.symm cut
    obtain ⟨body, -⟩ := Block.inner_cut cut cut' trimmed inner
    have reads := Block.read_agree (congrArg Block.template trimmed) first.symm body
    rw [read] at reads
    obtain ⟨e', read', alike⟩ := reads.of_error
    rw [isDeclarationLine_congr first.symm] at mark
    rw [readLines_read_error mark cut' read']
    exact .error alike
  | case4 number above line rest mark b cut d read ih =>
    obtain ⟨line', rest', rfl, first, later⟩ := List.map_eq_cons_iff.1 same.symm
    obtain ⟨b', cut', trimmed⟩ := Block.cut_ok_congr top later.symm cut
    obtain ⟨body, below⟩ := Block.inner_cut cut cut' trimmed inner
    have reads := Block.read_agree (congrArg Block.template trimmed) first.symm body
    rw [read] at reads
    obtain ⟨d', read', related⟩ := reads.of_ok
    have closing : (some b.closing).map trim = (some b'.closing).map trim :=
      congrArg some (congrArg Block.closing trimmed)
    have next := ih closing (congrArg Block.below trimmed) below
    rw [isDeclarationLine_congr first.symm] at mark
    rw [readLines_take mark cut' read', ← body.length_eq]
    refine next.map fun ds ds' more => ?_
    rw [isWanted_congr related.declaration]
    split
    · exact .cons related more
    · exact more
  | case5 number above line rest mark ih =>
    obtain ⟨line', rest', rfl, first, later⟩ := List.map_eq_cons_iff.1 same.symm
    have size : rest.length = rest'.length := by simpa using congrArg List.length later.symm
    rw [isDeclarationLine_congr first.symm] at mark
    rw [readLines_pass (by simpa using mark)]
    exact ih (by simp [first]) later.symm (inner.tail size)

theorem readHeader_agree {t t' : Text} (same : (lines t).map trim = (lines t').map trim)
    (inner : Inner ρ (lines t) (lines t')) :
    Agree (List.Forall₂ (Definition.SameUpTo ρ)) (readHeader t names) (readHeader t' names) :=
  readLines_agree rfl same inner

def SameLine (l l' : Text) : Prop := ('\n' ∉ l ∧ '\n' ∉ l') ∧ trim l = trim l'

theorem forall₂_sameLine (same : ls.map trim = ls'.map trim) (single : ∀ l ∈ ls, '\n' ∉ l)
    (single' : ∀ l ∈ ls', '\n' ∉ l) : List.Forall₂ SameLine ls ls' := by
  induction ls generalizing ls' with
  | nil =>
    rw [List.map_nil, eq_comm, List.map_eq_nil_iff] at same
    rw [same]
    exact .nil
  | cons l ls ih =>
    obtain ⟨l', ls', rfl, first, later⟩ := List.map_eq_cons_iff.1 same.symm
    rw [List.forall_mem_cons] at single single'
    exact .cons ⟨⟨single.1, single'.1⟩, first.symm⟩ (ih later.symm single.2 single'.2)

theorem inner_of_forall₂ (h : List.Forall₂ ρ ls ls') : Inner ρ ls ls' := by
  rw [Inner, List.dropLast_eq_take, List.dropLast_eq_take, h.length_eq]
  exact List.forall₂_take _ h

theorem map_trim_lines_ended (h : List.Forall₂ SameLine ls ls') :
    (lines (ended ls)).map trim = (lines (ended ls')).map trim := by
  induction h with
  | nil => rfl
  | cons first _ ih =>
    obtain ⟨⟨single, single'⟩, same⟩ := first
    rw [ended_cons, ended_cons, lines_append_newline, lines_append_newline,
      lines_of_newline_not_mem single, lines_of_newline_not_mem single', List.map_append,
      List.map_append, ih, List.map_singleton, List.map_singleton, same]

structure Definition.SameTrimmed (d d' : Definition) : Prop where
  templateParameters : d.templateParameters = d'.templateParameters
  declaration : d.declaration = d'.declaration
  body : (lines d.body).map trim = (lines d'.body).map trim

theorem Definition.SameUpTo.sameTrimmed (h : d.SameUpTo SameLine d') : d.SameTrimmed d' := by
  obtain ⟨ls, ls', body, body', same⟩ := h.body
  refine ⟨h.templateParameters, h.declaration, ?_⟩
  rw [body, body', map_trim_lines_ended same]

def Text.withReturns (t : Text) : Text := t.flatMap fun c => if c = '\n' then ['\r', '\n'] else [c]

theorem Text.withReturns_of_not_mem {t : Text} (h : '\n' ∉ t) : withReturns t = t := by
  induction t with
  | nil => rfl
  | cons c t ih =>
    rw [List.mem_cons, not_or] at h
    rw [withReturns, List.flatMap_cons, if_neg (Ne.symm h.1)]
    exact congrArg (c :: ·) (ih h.2)

theorem Text.withReturns_append_newline {s : Text} (h : '\n' ∉ s) (t : Text) :
    withReturns (s ++ '\n' :: t) = s ++ ['\r'] ++ '\n' :: withReturns t := by
  have upper := withReturns_of_not_mem h
  unfold withReturns at upper ⊢
  rw [List.flatMap_append, upper, List.flatMap_cons]
  simp

def Returned (l l' : Text) : Prop := '\n' ∉ l ∧ l' = l ++ ['\r']

theorem lines_withReturns (t : Text) :
    (lines t).map trim = (lines (withReturns t)).map trim ∧
      Inner Returned (lines t) (lines (withReturns t)) := by
  induction t using mark_induction '\n' with
  | last t absent =>
    rw [withReturns_of_not_mem absent, lines_of_newline_not_mem absent]
    exact ⟨rfl, .nil⟩
  | next s t absent ih =>
    obtain ⟨same, inner⟩ := ih
    have absent' : '\n' ∉ s ++ ['\r'] := by simp [absent]
    have blank : AllBlank ['\r'] := by simp [AllBlank, isBlank]
    rw [withReturns_append_newline absent, lines_append_newline, lines_append_newline,
      lines_of_newline_not_mem absent, lines_of_newline_not_mem absent', List.map_append,
      List.map_append, same, List.map_singleton, List.map_singleton, trim_append_blank blank]
    refine ⟨rfl, ?_⟩
    have more (t : Text) : lines t ≠ [] := List.splitOn_ne_nil '\n' t
    rw [Inner, List.dropLast_append_of_ne_nil (more t), List.dropLast_append_of_ne_nil (more _)]
    exact .cons ⟨absent, rfl⟩ inner

theorem ended_of_returned (h : List.Forall₂ Returned ls ls') :
    ended ls' = withReturns (ended ls) := by
  induction h with
  | nil => rfl
  | cons first _ ih =>
    obtain ⟨single, rfl⟩ := first
    rw [ended_cons, ended_cons, withReturns_append_newline single, ih]

theorem Definition.SameUpTo.eq_withReturns (h : d.SameUpTo Returned d') :
    { d with body := withReturns d.body } = d' := by
  obtain ⟨ls, ls', body, body', returned⟩ := h.body
  rw [body, ← ended_of_returned returned, ← body', h.templateParameters, h.declaration]

/-- Headers whose lines are the same when trimmed agree, and so do the definitions read from them
and the lines of their bodies; and a header with a carriage return before every line feed has the
same definitions, with a carriage return before every line feed of their bodies. -/
theorem readHeader_trim (names : List Text) :
    (∀ t t', (lines t).map trim = (lines t').map trim →
      Agree (List.Forall₂ Definition.SameTrimmed) (readHeader t names) (readHeader t' names)) ∧
    (∀ t, Agree (fun ds ds' => ds' = ds.map fun d => { d with body := withReturns d.body })
      (readHeader t names) (readHeader (withReturns t) names)) := by
  constructor
  · intro t t' same
    have single (t : Text) : ∀ l ∈ lines t, '\n' ∉ l := fun l => newline_not_mem_of_mem_lines
    have inner := inner_of_forall₂ (forall₂_sameLine same (single t) (single t'))
    exact (readHeader_agree same inner).imp
      fun ds ds' related => related.imp fun d d' => Definition.SameUpTo.sameTrimmed
  · intro t
    obtain ⟨same, inner⟩ := lines_withReturns t
    refine (readHeader_agree same inner).imp fun ds ds' related => ?_
    have mapped := List.forall₂_map_left_iff.2
      (related.imp fun d d' => Definition.SameUpTo.eq_withReturns)
    rw [List.forall₂_eq_eq_eq] at mapped
    exact mapped.symm

theorem readHeader_trim_indented : ∃ d,
    readHeader "template <class T>\n[[nodiscard]] constexpr T f()\n\x7b\nx\n\x7d\n".toList [] =
        .ok [d] ∧
      (lines "template <class T>\n[[nodiscard]] constexpr T f()\n\x7b\nx\n\x7d\n".toList).map trim =
        (lines (" template <class T> \n\t[[nodiscard]] constexpr T f()\r\n \x7b\n  x ".toList ++
          "\n\x7d\t\n ".toList)).map trim ∧
      Agree (List.Forall₂ Definition.SameTrimmed)
        (readHeader
          "template <class T>\n[[nodiscard]] constexpr T f()\n\x7b\nx\n\x7d\n".toList [])
        (readHeader (" template <class T> \n\t[[nodiscard]] constexpr T f()\r\n \x7b\n  x ".toList
          ++ "\n\x7d\t\n ".toList) []) := by
  refine ⟨⟨[⟨"class".toList, ['T'], []⟩], ⟨[.nodiscard, .constexpr], ['f'], [], ['T']⟩,
    "x\n".toList⟩, ?_, ?same, (readHeader_trim []).1 _ _ ?same⟩
  · decide +kernel
  · decide +kernel

end HeaderForge
