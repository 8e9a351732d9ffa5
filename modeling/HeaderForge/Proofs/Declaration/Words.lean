import HeaderForge.Proofs.Declaration.Display

/-! The words of a declaration. Up to the parameters a line is words between blanks: modifiers, the
pieces of the return type and the name. Modifiers are taken by their spelling, from the front of the
text and not as words, so the other words are read whole exactly if the first of them does not begin
with a modifier that is still looked for. -/

namespace HeaderForge

open Text Cursor

/-- Words in their order, with blanks between each two of them and perhaps around them. -/
inductive Text.Spaced : List Text → Text → Prop
  | blank {v : Text} : AllBlank v → Spaced [] v
  | word {ws : List Text} {v w t : Text} : AllBlank v → IsWord w → StopsAt (!isBlank ·) t →
      Spaced ws t → Spaced (w :: ws) (v ++ (w ++ t))

variable {line head list tail r w t : Text} {ws types : List Text} {ms : List Modifier}
  {ps : List FunctionParameter} {d : Declaration} {m : Modifier} {c : Cursor}
  {isNodiscard isConstexpr : Bool}

theorem Text.Spaced.words_eq (h : Spaced ws head) : words head = ws := by
  induction h with
  | blank blank => exact words_of_allBlank blank
  | word blank word stop _ ih => rw [words_blank_append blank, word.words_append stop, ih]

theorem Text.spaced_iff : Spaced ws head ↔ words head = ws := by
  refine ⟨Spaced.words_eq, fun h => ?_⟩
  induction ws generalizing head with
  | nil =>
    have none : trim head = [] := by
      by_contra ne
      exact words_ne_nil_iff.2 ne h
    exact .blank (trim_eq_nil_iff.1 none)
  | cons w ws ih =>
    obtain ⟨v, blank, lead⟩ := trimStart_spec head
    have ne : trimStart head ≠ [] := by
      intro none
      rw [lead, none, List.append_nil, words_of_allBlank blank] at h
      cases h
    obtain ⟨word, t, rest, stop⟩ := front_spec (trimStart_trimStart head) ne
    rw [rest] at lead
    rw [lead, words_blank_append blank, word.words_append stop] at h
    obtain ⟨rfl, more⟩ := List.cons.inj h
    have spaced := Spaced.word blank word stop (ih more)
    rwa [← lead] at spaced

instance (ws : List Text) (t : Text) : Decidable (Spaced ws t) := decidable_of_iff _ spaced_iff.symm

/-- The words that are left when a modifier is taken from the front of the first, if that begins
with it. -/
def Modifier.takenFrom (m : Modifier) : List Text → Option (List Text)
  | [] => none
  | w :: ws => (stripPrefix? m.spelling w).map fun r => if r = [] then ws else r :: ws

def modifiersBefore (ws : List Text) : List Modifier × List Text :=
  let first := Modifier.nodiscard.takenFrom ws
  let second := Modifier.constexpr.takenFrom (first.getD ws)
  (modifiersOf first.isSome second.isSome, second.getD (first.getD ws))

def modifiersBehind (isNodiscard isConstexpr : Bool) : List Modifier :=
  if isConstexpr then [] else if isNodiscard then [.constexpr] else [.nodiscard, .constexpr]

theorem Modifier.isWord_spelling (m : Modifier) : IsWord m.spelling := by
  cases m <;> decide

theorem Modifier.open_not_mem_spelling (m : Modifier) : '(' ∉ m.spelling := by
  cases m <;> decide

theorem Modifier.takenFrom_append (m : Modifier) (w : Text) (ws : List Text) :
    m.takenFrom ((m.spelling ++ w) :: ws) = some (if w = [] then ws else w :: ws) := by
  rw [takenFrom, stripPrefix?_eq_some.2 rfl, Option.map_some]

theorem Modifier.takenFrom_eq_none_iff : m.takenFrom (w :: ws) = none ↔ ¬ m.spelling <+: w := by
  simp [takenFrom, stripPrefix?, List.isPrefixOf_iff_prefix]

theorem Modifier.prefix_of_append (stop : StopsAt (!isBlank ·) t)
    (h : m.spelling <+: w ++ (t ++ '(' :: r)) : m.spelling <+: w := by
  refine prefix_of_prefix_append h fun ch hch mem => ?_
  cases t with
  | nil =>
    cases hch
    exact m.open_not_mem_spelling mem
  | cons ch' t =>
    cases hch
    have blank : isBlank ch = true := by simpa using stopsAt_cons.1 stop
    rw [m.isWord_spelling.2 ch mem] at blank
    cases blank

theorem passIf_modifier (m : Modifier) (spaced : Spaced ws head) (opens : '(' ∉ head) (r : Text) :
    ∃ left, passIf ((ofText (head ++ '(' :: r)).eat? m.spelling) (ofText (head ++ '(' :: r)) =
        ((m.takenFrom ws).isSome, ofText (left ++ '(' :: r)) ∧
      '(' ∉ left ∧ Spaced ((m.takenFrom ws).getD ws) left := by
  cases spaced with
  | blank blank =>
    have absent : ¬ m.spelling <+: '(' :: r := fun front =>
      m.isWord_spelling.1 (List.prefix_nil.1 (m.prefix_of_append (t := []) stopsAt_nil front))
    refine ⟨head, ?_, opens, .blank blank⟩
    rw [ofText_blank_append blank, ofText_cons rfl, eat?_eq_none absent]
    rfl
  | @word ws v w t blank word stop spaced =>
    have stands : ofText (v ++ (w ++ t) ++ '(' :: r) = ⟨w ++ (t ++ '(' :: r)⟩ := by
      have clear := trimStart_append (t := t ++ '(' :: r) (trimStart_of_no_blank word.2) word.1
      rw [List.append_assoc, ofText_blank_append blank, List.append_assoc, ofText_rest clear]
    by_cases front : m.spelling <+: w
    · obtain ⟨w, rfl⟩ := front
      rw [List.append_assoc, ← List.append_assoc, List.mem_append, not_or] at opens
      rw [stands, List.append_assoc, eat?_append, Modifier.takenFrom_append]
      refine ⟨w ++ t, by rw [List.append_assoc]; rfl, opens.2, ?_⟩
      by_cases ne : w = []
      · simpa [ne] using spaced
      · have rest : IsWord w := ⟨ne, fun ch mem => word.2 ch (List.mem_append_right _ mem)⟩
        simpa [ne] using Spaced.word allBlank_nil rest stop spaced
    · have absent : ¬ m.spelling <+: w ++ (t ++ '(' :: r) :=
        mt (Modifier.prefix_of_append stop) front
      rw [Modifier.takenFrom_eq_none_iff.2 front, stands, eat?_eq_none absent, ← stands]
      exact ⟨_, rfl, opens, .word blank word stop spaced⟩

theorem readModifiers_words (spaced : Spaced ws head) (opens : '(' ∉ head) (r : Text) :
    ∃ left, readModifiers (ofText (head ++ '(' :: r)) =
        ((modifiersBefore ws).1, ofText (left ++ '(' :: r)) ∧
      '(' ∉ left ∧ Spaced (modifiersBefore ws).2 left := by
  obtain ⟨behind, nodiscard, opens, spaced⟩ := passIf_modifier .nodiscard spaced opens r
  obtain ⟨left, constexpr, opens, spaced⟩ := passIf_modifier .constexpr spaced opens r
  exact ⟨left, readModifiers_eq_iff.2 ⟨_, _, _, nodiscard, constexpr, rfl⟩, opens, spaced⟩

/-- How a line is answered that has the modifiers `ms`, the words `ws` for its return type and name,
the parameters `ps` and a tail behind them: the last word is the name, those before it are joined
to the return type, and `auto` stands for the type behind the arrow. -/
structure IsAnswer (line tail : Text) (ps : List FunctionParameter) (ms : List Modifier)
    (ws : List Text) (answer : Except ReadError Declaration) : Prop where
  read : ∀ types name returnType, ws = types ++ [name] →
    ReturnsAs types.flatten tail returnType → answer = .ok ⟨ms, name, ps, returnType⟩
  unreturned : ∀ types name, ws = types ++ [name] → types.flatten = "auto".toList →
    ¬ "->".toList <+: trim tail → answer = .error (.missingTrailingReturn line)
  unnamed : ws = [] → answer = .error (.missingFunctionName line)

theorem returnsAs_self (plain : t ≠ "auto".toList) : ReturnsAs t tail t := by
  rw [ReturnsAs, if_neg plain]

theorem isAnswer_of_readModifiers (modified : readModifiers (ofText line) = (ms, c))
    (rest : c.rest = head ++ '(' :: (list ++ ')' :: tail)) (opens : '(' ∉ head)
    (closes : ')' ∉ list) (read : readParameterList list = .ok ps) :
    IsAnswer line tail ps ms (words head) (readDeclaration line) := by
  refine ⟨fun types name returnType split returned => ?_, fun types name split auto none => ?_,
    fun none => ?_⟩
  · exact readDeclaration_eq_ok.2
      ⟨head, list, tail, c, modified, rest, opens, closes, ⟨types, split, returned⟩, read⟩
  · have arrow : stripPrefix? "->".toList (trim tail) = .none := by
      simpa [stripPrefix?, List.isPrefixOf_iff_prefix] using none
    unfold readDeclaration
    rw [modified]
    simp only [rest, dropWhile_append_mark opens, takeWhile_append_mark opens,
      dropWhile_append_mark closes, takeWhile_append_mark closes, split, read,
      List.getLast?_concat, List.dropLast_concat, auto, arrow, if_true]
  · unfold readDeclaration
    rw [modified]
    simp only [rest, dropWhile_append_mark opens, takeWhile_append_mark opens, none,
      List.getLast?_nil]

theorem IsAnswer.modifiers_eq (h : IsAnswer line tail ps ms ws (.ok d)) : d.modifiers = ms := by
  obtain rfl | ⟨types, name, rfl⟩ := List.eq_nil_or_concat' ws
  · cases h.unnamed rfl
  · by_cases auto : types.flatten = "auto".toList
    · by_cases arrow : "->".toList <+: trim tail
      · obtain ⟨trailing, split⟩ := arrow
        have returned : ReturnsAs types.flatten tail (trim trailing) := by
          rw [ReturnsAs, if_pos auto]
          exact ⟨trailing, split.symm, rfl⟩
        cases h.read types name _ rfl returned
        rfl
      · cases h.unreturned types name rfl auto arrow
    · cases h.read types name _ rfl (returnsAs_self auto)
      rfl

theorem Modifier.takenFrom_spelling (m : Modifier) (ws : List Text) :
    m.takenFrom (m.spelling :: ws) = some ws := by
  simpa using m.takenFrom_append [] ws

theorem takenFrom_constexpr (ws : List Text) :
    Modifier.nodiscard.takenFrom (Modifier.constexpr.spelling :: ws) = none :=
  Modifier.takenFrom_eq_none_iff.2 (by decide)

theorem modifiersOf_inj {b₁ b₂ c₁ c₂ : Bool} :
    modifiersOf b₁ c₁ = modifiersOf b₂ c₂ ↔ b₁ = b₂ ∧ c₁ = c₂ := by
  revert b₁ b₂ c₁ c₂
  decide

theorem modifiersBefore_of_clear
    (clear : ∀ m ∈ modifiersBehind isNodiscard isConstexpr, ¬ m.spelling <+: w) :
    modifiersBefore ((modifiersOf isNodiscard isConstexpr).map Modifier.spelling ++ w :: ws) =
      (modifiersOf isNodiscard isConstexpr, w :: ws) := by
  have kept : ∀ m ∈ modifiersBehind isNodiscard isConstexpr, m.takenFrom (w :: ws) = none :=
    fun m mem => Modifier.takenFrom_eq_none_iff.2 (clear m mem)
  -- A modifier that is written is the first word when it is looked for, and one that is not leaves
  -- the words as they are.
  cases isNodiscard <;> cases isConstexpr <;>
    simp_all [modifiersBehind, modifiersBefore, modifiersOf, Modifier.takenFrom_spelling,
      takenFrom_constexpr]

theorem modifiersBefore_fst_ne (mem : m ∈ modifiersBehind isNodiscard isConstexpr)
    (front : m.spelling <+: w) :
    (modifiersBefore ((modifiersOf isNodiscard isConstexpr).map Modifier.spelling ++ w :: ws)).1 ≠
      modifiersOf isNodiscard isConstexpr := by
  have taken : m.takenFrom (w :: ws) ≠ none := by
    rwa [Ne, Modifier.takenFrom_eq_none_iff, not_not]
  intro same
  obtain ⟨first, second⟩ := modifiersOf_inj.1 same
  cases isNodiscard <;> cases isConstexpr <;> cases m <;>
    simp_all [modifiersBehind, modifiersOf, Modifier.takenFrom_spelling]

theorem isAnswer_of_spaced (spaced : Spaced ws head) (opens : '(' ∉ head) (closes : ')' ∉ list)
    (read : readParameterList list = .ok ps)
    (split : line = head ++ '(' :: (list ++ ')' :: tail)) :
    IsAnswer line tail ps (modifiersBefore ws).1 (modifiersBefore ws).2 (readDeclaration line) := by
  obtain ⟨left, modified, opens, spaced⟩ :=
    readModifiers_words spaced opens (list ++ ')' :: tail)
  obtain ⟨v, blank, lead⟩ := trimStart_spec left
  have same : words (trimStart left) = (modifiersBefore ws).2 := by
    rw [← spaced.words_eq, ← words_blank_append blank, ← lead]
  rw [← same]
  rw [← split] at modified
  refine isAnswer_of_readModifiers modified (trimStart_append_cons rfl left _) ?_ closes read
  exact fun mem => opens (trimStart_subset left mem)

theorem flatten_ne_auto (front : m.spelling <+: w) (split : w :: ws = types ++ [t]) :
    types.flatten ≠ "auto".toList := by
  intro auto
  cases types with
  | nil => cases auto
  | cons w' types =>
    obtain ⟨rfl, -⟩ := List.cons.inj split
    rw [List.flatten_cons] at auto
    have reaches : m.spelling <+: "auto".toList := by
      rw [← auto]
      exact front.trans (List.prefix_append _ _)
    revert reaches
    cases m <;> decide

/-- A line is answered from its words, and it is answered with the modifiers that are written, and
with every other word whole, exactly if the first of those begins with no modifier that is still
looked for behind them. -/
theorem readDeclaration_words (isNodiscard isConstexpr : Bool) (tail : Text)
    (spaced : Spaced ((modifiersOf isNodiscard isConstexpr).map Modifier.spelling ++ w :: ws) head)
    (opens : '(' ∉ head) (closes : ')' ∉ list) (read : readParameterList list = .ok ps) :
    let line := head ++ '(' :: (list ++ ')' :: tail)
    let written := modifiersOf isNodiscard isConstexpr
    let found := modifiersBefore (written.map Modifier.spelling ++ w :: ws)
    IsAnswer line tail ps found.1 found.2 (readDeclaration line) ∧
      (IsAnswer line tail ps written (w :: ws) (readDeclaration line) ↔
        ∀ m ∈ modifiersBehind isNodiscard isConstexpr, ¬ m.spelling <+: w) := by
  intro line written found
  have answer : IsAnswer line tail ps found.1 found.2 (readDeclaration line) :=
    isAnswer_of_spaced spaced opens closes read rfl
  refine ⟨answer, fun whole m mem front => ?_, fun clear => ?_⟩
  · obtain ⟨types, name, split⟩ := (List.eq_nil_or_concat' (w :: ws)).resolve_left (by simp)
    have plain : types.flatten ≠ "auto".toList := flatten_ne_auto front split
    rw [whole.read types name _ split (returnsAs_self plain)] at answer
    exact modifiersBefore_fst_ne mem front answer.modifiers_eq.symm
  · have kept : found = (written, w :: ws) := modifiersBefore_of_clear clear
    rwa [kept] at answer

theorem readDeclaration_words_behind_constexpr :
    let line := "constexpr constexpr_t const\tf (int x);".toList
    let others := ["constexpr_t".toList, "const".toList, "f".toList]
    Spaced ("constexpr".toList :: others) "constexpr constexpr_t const\tf ".toList ∧
      IsAnswer line [';'] [⟨"int".toList, ['x'], []⟩] [.constexpr] others
        (readDeclaration line) := by
  intro line others
  have spaced : Spaced ("constexpr".toList :: others) "constexpr constexpr_t const\tf ".toList := by
    decide
  have read : readParameterList "int x".toList = .ok [⟨"int".toList, ['x'], []⟩] := by
    decide +kernel
  have answered := readDeclaration_words false true [';'] spaced (by decide) (by decide) read
  exact ⟨spaced, answered.2.2 (by decide)⟩

/-- The front of `constexpr_t` is taken for a modifier, and the return type begins behind it. -/
theorem readDeclaration_words_glued :
    let line := "[[nodiscard]] constexpr_t f()".toList
    let others := ["constexpr_t".toList, "f".toList]
    Spaced ("[[nodiscard]]".toList :: others) "[[nodiscard]] constexpr_t f".toList ∧
      readDeclaration line = .ok ⟨[.nodiscard, .constexpr], ['f'], [], "_t".toList⟩ ∧
      ¬ IsAnswer line [] [] [.nodiscard] others (readDeclaration line) := by
  intro line others
  have read : readDeclaration line = .ok ⟨[.nodiscard, .constexpr], ['f'], [], "_t".toList⟩ := by
    decide +kernel
  refine ⟨by decide, read, fun whole => ?_⟩
  rw [read] at whole
  cases whole.modifiers_eq

end HeaderForge
