import HeaderForge.Cursor.Step
import HeaderForge.Proofs.Cursor.Reading
import HeaderForge.Text.Offset

/-! Runs of a cursor. Whatever is asked of it and in whatever order, a cursor stands at a place of
its text that no blank follows. A step that succeeds passes what it tells and blanks behind it, any
other leaves the cursor where it was, so that what was told and the gaps in between are the part of
the text that the run has passed. -/

namespace HeaderForge.Cursor

open Text

variable {c d : Cursor} {s : Step} {steps : List Step} {a : Answer} {text t w : Text}

/-- What a step may tell, and where it may lead. -/
inductive Outcome (c : Cursor) : Step → Answer → Cursor → Prop
  | eaten {t : Text} {d : Cursor} : c.Passes d t → Outcome c (.eat t) (.eaten true) d
  | eatenWord {t : Text} {d : Cursor} : c.Passes d t → Outcome c (.eatWord t) (.eaten true) d
  | absent {t : Text} : Outcome c (.eat t) (.eaten false) c
  | absentWord {t : Text} : Outcome c (.eatWord t) (.eaten false) c
  | type {t : Text} {d : Cursor} : c.Passes d t → Outcome c .readType (.taken t) d
  | unclosed : Outcome c .readType (.failed (.unbalancedAngle c.rest)) c
  | name {t : Text} {d : Cursor} : c.Passes d t → Outcome c .readName (.taken t) d
  | nameless : Outcome c .readName .nothing c
  | item {t : Text} {d : Cursor} : c.Passes d t → Outcome c .readToComma (.taken t) d

def Step.passed : Step → Answer → Option Text
  | .eat t, .eaten true => some t
  | .eatWord t, .eaten true => some t
  | _, .taken t => some t
  | _, _ => none

theorem Outcome.passed_cases (h : Outcome c s a d) :
    (∃ x, s.passed a = some x ∧ c.Passes d x) ∨ s.passed a = none ∧ d = c := by
  cases h with
  | eaten passes => exact Or.inl ⟨_, rfl, passes⟩
  | eatenWord passes => exact Or.inl ⟨_, rfl, passes⟩
  | absent => exact Or.inr ⟨rfl, rfl⟩
  | absentWord => exact Or.inr ⟨rfl, rfl⟩
  | type passes => exact Or.inl ⟨_, rfl, passes⟩
  | unclosed => exact Or.inr ⟨rfl, rfl⟩
  | name passes => exact Or.inl ⟨_, rfl, passes⟩
  | nameless => exact Or.inr ⟨rfl, rfl⟩
  | item passes => exact Or.inl ⟨_, rfl, passes⟩

theorem readType_eq_error {e : ReadError} (h : c.readType = .error e) :
    e = .unbalancedAngle c.rest := by
  unfold readType typeLength at h
  dsimp only at h
  split at h
  · split at h
    · cases h
    · cases h
      rfl
  · cases h

theorem outcome_perform (c : Cursor) (s : Step) : Outcome c s (c.perform s).1 (c.perform s).2 := by
  cases s with
  | eat t =>
    rw [perform]
    cases found : c.eat? t with
    | none => exact .absent
    | some d => exact .eaten (passes_eat? found)
  | eatWord t =>
    rw [perform]
    cases found : c.eatWord? t with
    | none => exact .absentWord
    | some d => exact .eatenWord (passes_eatWord? found)
  | readType =>
    rw [perform]
    cases read : c.readType with
    | error e =>
      rw [readType_eq_error read]
      exact .unclosed
    | ok taken => exact .type (passes_readType read)
  | readName =>
    rw [perform]
    cases read : c.readName? with
    | none => exact .nameless
    | some taken => exact .name (passes_readName? read)
  | readToComma => exact .item (passes_readToComma c)

theorem isClear_perform (clear : c.IsClear) (s : Step) : (c.perform s).2.IsClear := by
  cases s with
  | eat t =>
    rw [perform]
    cases found : c.eat? t with
    | none => exact clear
    | some d => exact isClear_of_eat? found
  | eatWord t =>
    rw [perform]
    cases found : c.eatWord? t with
    | none => exact clear
    | some d => exact isClear_of_eatWord? found
  | readType =>
    rw [perform]
    cases read : c.readType with
    | error e => exact clear
    | ok taken => exact isClear_of_readType read
  | readName =>
    rw [perform]
    cases read : c.readName? with
    | none => exact clear
    | some taken => exact isClear_of_readName? read
  | readToComma => exact isClear_ofText _

/-- A cursor has left some whole characters of a text behind it, and no blank stands in front. -/
structure StandsIn (text : Text) (c : Cursor) : Prop where
  place : ∃ n behind, splitAt? text n = some (behind, c.rest)
  clear : StopsAt isBlank c.rest

theorem standsIn_iff : c.StandsIn text ↔ c.rest <:+ text ∧ c.IsClear := by
  rw [IsClear, trimStart_eq_self_iff]
  constructor
  · rintro ⟨⟨n, behind, place⟩, clear⟩
    exact ⟨⟨behind, (splitAt?_eq_some_iff.1 place).1.symm⟩, clear⟩
  · rintro ⟨⟨behind, rfl⟩, clear⟩
    exact ⟨⟨_, behind, splitAt?_append behind c.rest⟩, clear⟩

theorem StandsIn.perform (h : c.StandsIn text) (s : Step) : (c.perform s).2.StandsIn text := by
  rw [standsIn_iff] at h ⊢
  refine ⟨?_, isClear_perform h.2 s⟩
  obtain ⟨x, -, passes⟩ | ⟨-, same⟩ := (outcome_perform c s).passed_cases
  · exact passes.suffix.trans h.1
  · rw [same]
    exact h.1

theorem standsIn_ofText (text : Text) : (ofText text).StandsIn text := by
  obtain ⟨w, -, split⟩ := trimStart_spec text
  exact standsIn_iff.2 ⟨⟨w, split.symm⟩, isClear_ofText text⟩

def path (c : Cursor) (steps : List Step) : List Cursor := c :: (c.run steps).map Prod.snd

def last (c : Cursor) (steps : List Step) : Cursor :=
  (c.path steps).getLast (List.cons_ne_nil _ _)

/-- What the steps of a run that succeed have eaten or read, in order. -/
def passedBy (c : Cursor) (steps : List Step) : List Text :=
  (steps.zip (c.run steps)).filterMap fun asked => asked.1.passed asked.2.1

theorem path_cons : c.path (s :: steps) = c :: (c.perform s).2.path steps := rfl

theorem last_cons : c.last (s :: steps) = (c.perform s).2.last steps :=
  List.getLast_cons (List.cons_ne_nil _ _)

theorem passedBy_cons : c.passedBy (s :: steps) =
    (s.passed (c.perform s).1).toList ++ (c.perform s).2.passedBy steps := by
  rw [passedBy, run, List.zip_cons_cons, List.filterMap_cons]
  dsimp only
  cases s.passed (c.perform s).1 <;> rfl

theorem StandsIn.path (h : c.StandsIn text) (steps : List Step) :
    ∀ d ∈ c.path steps, d.StandsIn text := by
  induction steps generalizing c with
  | nil => exact List.forall_mem_singleton.2 h
  | cons s steps ih =>
    rw [path_cons, List.forall_mem_cons]
    exact ⟨h, ih (h.perform s)⟩

theorem outcome_run (c : Cursor) {i : Nat} (asked : steps[i]? = some s) :
    ∃ b a d, (c.path steps)[i]? = some b ∧ (c.run steps)[i]? = some (a, d) ∧
      Outcome b s a d := by
  induction steps generalizing c i with
  | nil => cases asked
  | cons s' steps ih =>
    cases i with
    | zero =>
      cases asked
      exact ⟨c, _, _, rfl, rfl, outcome_perform c s⟩
    | succ i => exact ih (c.perform _).2 asked

theorem rest_eq (c : Cursor) (steps : List Step) :
    ∃ gaps, gaps.length = (c.passedBy steps).length ∧ (∀ w ∈ gaps, AllBlank w) ∧
      c.rest = (List.zipWith (· ++ ·) (c.passedBy steps) gaps).flatten ++ (c.last steps).rest := by
  -- A step that succeeds adds what it told and the gap behind it.
  induction steps generalizing c with
  | nil => exact ⟨[], rfl, by simp, rfl⟩
  | cons s steps ih =>
    obtain ⟨gaps, size, blank, behind⟩ := ih (c.perform s).2
    rw [passedBy_cons, last_cons]
    obtain ⟨x, told, w, gap, front⟩ | ⟨silent, same⟩ := (outcome_perform c s).passed_cases
    · refine ⟨w :: gaps, ?_, List.forall_mem_cons.2 ⟨gap, blank⟩, ?_⟩
      · rw [told, List.length_cons, size]
        rfl
      · rw [front, behind, told]
        simp
    · rw [silent]
      rw [same] at behind
      rw [same] at size ⊢
      exact ⟨gaps, size, blank, behind⟩

/-- At every time of a run the cursor stands at a place in the text that no blank follows. Each step
has its outcome. What the steps have eaten and read, with blanks in front and behind each, is the
part of the text that the run has passed. -/
theorem run_rebuilds (text : Text) (steps : List Step) :
    (∀ c ∈ (ofText text).path steps, c.StandsIn text) ∧
    (∀ (i : Nat) s, steps[i]? = some s → ∃ c a d, ((ofText text).path steps)[i]? = some c ∧
      ((ofText text).run steps)[i]? = some (a, d) ∧ Outcome c s a d) ∧
    ∃ front gaps, AllBlank front ∧ (∀ w ∈ gaps, AllBlank w) ∧
      gaps.length = ((ofText text).passedBy steps).length ∧
      text = front ++ ((List.zipWith (· ++ ·) ((ofText text).passedBy steps) gaps).flatten ++
        ((ofText text).last steps).rest) := by
  refine ⟨(standsIn_ofText text).path steps, fun i s asked => outcome_run _ asked, ?_⟩
  obtain ⟨front, blank, split⟩ := trimStart_spec text
  obtain ⟨gaps, size, gapped, whole⟩ := rest_eq (ofText text) steps
  refine ⟨front, gaps, blank, gapped, size, ?_⟩
  rw [← whole]
  exact split

/-- The type is refused where it stands, and the steps behind it go on from there. -/
theorem run_rebuilds_unclosed :
    [Step.readType, .eat "v<".toList, .readName][1]? = some (.eat "v<".toList) ∧
      (ofText " v<3 x".toList).run [.readType, .eat "v<".toList, .readName] =
        [(.failed (.unbalancedAngle "v<3 x".toList), ⟨"v<3 x".toList⟩),
          (.eaten true, ⟨"3 x".toList⟩), (.taken ['3'], ⟨['x']⟩)] ∧
      Outcome ⟨"v<3 x".toList⟩ (.eat "v<".toList) (.eaten true) ⟨"3 x".toList⟩ ∧
      StandsIn " v<3 x".toList ⟨"3 x".toList⟩ := by
  have asked : [Step.readType, .eat "v<".toList, .readName][1]? = some (.eat "v<".toList) := rfl
  have told : (ofText " v<3 x".toList).run [.readType, .eat "v<".toList, .readName] =
      [(.failed (.unbalancedAngle "v<3 x".toList), ⟨"v<3 x".toList⟩),
        (.eaten true, ⟨"3 x".toList⟩), (.taken ['3'], ⟨['x']⟩)] := by decide +kernel
  obtain ⟨stands, outcomes, -⟩ :=
    run_rebuilds " v<3 x".toList [.readType, .eat "v<".toList, .readName]
  obtain ⟨c, a, d, before, behind, outcome⟩ := outcomes 1 _ asked
  rw [path, told] at before stands
  rw [told] at behind
  cases before
  cases behind
  exact ⟨asked, told, outcome, stands _ (by simp)⟩

end HeaderForge.Cursor
