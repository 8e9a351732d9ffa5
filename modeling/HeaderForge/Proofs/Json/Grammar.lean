import HeaderForge.Proofs.Text.Stop
import HeaderForge.Render.JsonReader

/-! The grammar of JSON texts whose only scalars are strings. It says which texts denote a value,
and the reader answers on exactly these, with that value; so a text denotes one value at most. -/

namespace HeaderForge.Json

variable {c : Char} {t r w s : Text} {v : Json}

def Spaces (t : Text) : Prop := ∀ c ∈ t, isSpace c = true

inductive Character : Text → Char → Prop
  | plain {c : Char} (h : isPlain c = true) : Character [c] c
  | short {e c : Char} (h : shortEscape? e = some c) : Character ['\\', e] c
  | unit {digits : Text} {n : Nat} (h : codeUnit? digits = some n) (scalar : n.isValidChar) :
      Character ("\\u".toList ++ digits) (Char.ofNat n)
  | pair {digits digits' : Text} {high low : Nat} {c : Char} (h : codeUnit? digits = some high)
      (h' : codeUnit? digits' = some low) (joined : surrogatePair? high low = some c) :
      Character ("\\u".toList ++ (digits ++ ("\\u".toList ++ digits'))) c

inductive Characters : Text → Text → Prop
  | done : Characters ['"'] []
  | more {p q : Text} {c : Char} {s : Text} (first : Character p c) (rest : Characters q s) :
      Characters (p ++ q) (c :: s)

inductive Key : Text → Text → Prop
  | mk {w q w' key : Text} (before : Spaces w) (string : Characters q key) (after : Spaces w') :
      Key (w ++ '"' :: (q ++ (w' ++ [':']))) key

mutual

/-- The texts of a value, with blanks around it. -/
inductive Denotes : Text → Json → Prop
  | text {w q w' s : Text} (before : Spaces w) (string : Characters q s) (after : Spaces w') :
      Denotes (w ++ '"' :: (q ++ w')) (.text s)
  | none {w u w' : Text} (before : Spaces w) (inside : Spaces u) (after : Spaces w') :
      Denotes (w ++ '[' :: (u ++ ']' :: w')) (.array [])
  | array {w t w' : Text} {items : List Json} (before : Spaces w) (inside : Items t items)
      (after : Spaces w') : Denotes (w ++ '[' :: (t ++ w')) (.array items)
  | empty {w u w' : Text} (before : Spaces w) (inside : Spaces u) (after : Spaces w') :
      Denotes (w ++ '{' :: (u ++ '}' :: w')) (.object [])
  | object {w t w' : Text} {members : List (Text × Json)} (before : Spaces w)
      (inside : Members t members) (after : Spaces w') :
      Denotes (w ++ '{' :: (t ++ w')) (.object members)

inductive Items : Text → List Json → Prop
  | last {t : Text} {v : Json} (item : Denotes t v) : Items (t ++ [']']) [v]
  | more {t u : Text} {v : Json} {vs : List Json} (item : Denotes t v) (rest : Items u vs) :
      Items (t ++ ',' :: u) (v :: vs)

inductive Members : Text → List (Text × Json) → Prop
  | last {k t key : Text} {v : Json} (name : Key k key) (value : Denotes t v) :
      Members (k ++ (t ++ ['}'])) [(key, v)]
  | more {k t u key : Text} {v : Json} {ms : List (Text × Json)} (name : Key k key)
      (value : Denotes t v) (rest : Members u ms) :
      Members (k ++ (t ++ ',' :: u)) ((key, v) :: ms)

end

theorem length_lt_append_cons (p : Text) (c : Char) (r : Text) :
    r.length < (p ++ c :: r).length := by
  rw [List.length_append, List.length_cons]
  omega

theorem skipSpaces_append (h : Spaces w) (t : Text) : skipSpaces (w ++ t) = skipSpaces t :=
  List.dropWhile_append_of_pos h

theorem skipSpaces_cons (h : isSpace c = false) (t : Text) : skipSpaces (c :: t) = c :: t := by
  simp [skipSpaces, h]

theorem skipSpaces_append_cons (h : Spaces w) (solid : isSpace c = false) :
    skipSpaces (w ++ c :: t) = c :: t := by
  rw [skipSpaces_append h, skipSpaces_cons solid]

theorem skipSpaces_spec (t : Text) : ∃ w, Spaces w ∧ t = w ++ skipSpaces t :=
  ⟨t.takeWhile isSpace, fun _ h => List.mem_takeWhile_imp h,
    List.takeWhile_append_dropWhile.symm⟩

theorem skipSpaces_eq_cons (h : skipSpaces t = c :: r) : ∃ w, Spaces w ∧ t = w ++ c :: r := by
  obtain ⟨w, blank, split⟩ := skipSpaces_spec t
  rw [h] at split
  exact ⟨w, blank, split⟩

theorem length_lt_of_skipSpaces (h : skipSpaces t = c :: r) : r.length < t.length := by
  obtain ⟨w, -, rfl⟩ := skipSpaces_eq_cons h
  exact length_lt_append_cons w c r

theorem readCodeUnit_eq_some_iff {n : Nat} : readCodeUnit t = some (n, r) ↔
    ∃ digits, codeUnit? digits = some n ∧ t = "\\u".toList ++ (digits ++ r) := by
  have size {digits : Text} (h : codeUnit? digits = some n) : digits.length = 4 := by
    unfold codeUnit? at h
    split at h
    · rfl
    · cases h
  unfold readCodeUnit
  constructor
  · intro h
    split at h
    · rename_i rest front
      obtain ⟨n', code, whole⟩ := Option.map_eq_some_iff.1 h
      cases whole
      refine ⟨rest.take 4, code, ?_⟩
      rw [List.take_append_drop]
      exact Text.stripPrefix?_eq_some.1 front
    · cases h
  · rintro ⟨digits, code, rfl⟩
    rw [Text.stripPrefix?_eq_some.2 rfl]
    dsimp only
    rw [List.take_left' (size code), List.drop_left' (size code), code]
    rfl

theorem readCodeUnit_eq_none (h : ¬ "\\u".toList <+: t) : readCodeUnit t = none := by
  cases read : readCodeUnit t with
  | none => rfl
  | some found =>
    obtain ⟨digits, -, rfl⟩ := readCodeUnit_eq_some_iff.1 read
    exact absurd (List.prefix_append ..) h

theorem readCharacter_eq_some_iff :
    readCharacter t = some (c, r) ↔ ∃ p, Character p c ∧ t = p ++ r := by
  constructor
  · intro h
    unfold readCharacter at h
    split at h
    · rename_i n rest unit
      obtain ⟨digits, code, rfl⟩ := readCodeUnit_eq_some_iff.1 unit
      split at h
      · rename_i scalar
        cases h
        exact ⟨_, .unit code scalar, by simp⟩
      · simp only [Option.bind_eq_bind, Option.bind_eq_some_iff, Option.pure_def, Option.some.injEq,
          Prod.exists, Prod.mk.injEq] at h
        obtain ⟨low, rest', unit', c', joined, rfl, rfl⟩ := h
        obtain ⟨digits', code', rfl⟩ := readCodeUnit_eq_some_iff.1 unit'
        exact ⟨_, .pair code code' joined, by simp⟩
    · split at h
      · rename_i e rest _
        obtain ⟨c', escape, whole⟩ := Option.map_eq_some_iff.1 h
        cases whole
        exact ⟨_, .short escape, rfl⟩
      · split at h
        · rename_i plain
          cases h
          exact ⟨_, .plain plain, rfl⟩
        · cases h
      · cases h
  · rintro ⟨p, spelled, rfl⟩
    cases spelled with
    | plain plain =>
      have slash : c ≠ '\\' := by
        rintro rfl
        cases plain
      have other : readCodeUnit (c :: r) = none :=
        readCodeUnit_eq_none fun front => slash (List.cons_prefix_cons.1 front).1.symm
      rw [List.singleton_append]
      unfold readCharacter
      rw [other]
      dsimp only
      split
      · rename_i split
        cases split
        exact absurd rfl slash
      · rename_i split
        cases split
        rw [if_pos plain]
      · rename_i split
        cases split
    | @short e _ escape =>
      have letter : e ≠ 'u' := by
        rintro rfl
        cases escape
      have other : readCodeUnit ('\\' :: e :: r) = none := by
        refine readCodeUnit_eq_none fun front => letter ?_
        exact (List.cons_prefix_cons.1 (List.cons_prefix_cons.1 front).2).1.symm
      rw [List.cons_append, List.singleton_append]
      unfold readCharacter
      rw [other]
      change (shortEscape? e).map (·, r) = some (c, r)
      rw [escape]
      rfl
    | unit code scalar =>
      have unit := readCodeUnit_eq_some_iff (r := r) |>.2 ⟨_, code, rfl⟩
      rw [List.append_assoc]
      unfold readCharacter
      rw [unit]
      exact if_pos scalar
    | @pair digits digits' high low _ code code' joined =>
      have unit := readCodeUnit_eq_some_iff (r := "\\u".toList ++ (digits' ++ r)) |>.2
        ⟨digits, code, rfl⟩
      have unit' := readCodeUnit_eq_some_iff (r := r) |>.2 ⟨digits', code', rfl⟩
      have surrogate : ¬ high.isValidChar := by
        unfold surrogatePair? at joined
        split at joined
        · rename_i range
          rintro (low | high) <;> omega
        · cases joined
      simp only [List.append_assoc]
      unfold readCharacter
      rw [unit]
      dsimp only
      rw [if_neg surrogate, unit']
      simp [joined]

theorem Character.exists_cons {p : Text} (h : Character p c) : ∃ e q, e ≠ '"' ∧ p = e :: q := by
  cases h with
  | plain plain =>
    refine ⟨_, _, ?_, rfl⟩
    rintro rfl
    cases plain
  | short => exact ⟨_, _, by decide, rfl⟩
  | unit => exact ⟨'\\', _, by decide, rfl⟩
  | pair => exact ⟨'\\', _, by decide, rfl⟩

theorem characters_of_readCharacters (t : Text) {s r : Text} (h : readCharacters t = some (s, r)) :
    ∃ q, Characters q s ∧ t = q ++ r := by
  rw [readCharacters.eq_def] at h
  split at h
  · cases h
    exact ⟨_, .done, rfl⟩
  · simp only [Option.bind_eq_bind, Option.bind_eq_some_iff, Option.pure_def, Option.some.injEq,
      Prod.exists, Prod.mk.injEq, Subtype.exists, smaller?_eq_some_iff] at h
    obtain ⟨c, _, first, u, shorter, rfl, s, _, rest, rfl, rfl⟩ := h
    obtain ⟨q, string, rfl⟩ := characters_of_readCharacters u rest
    obtain ⟨p, spelled, rfl⟩ := readCharacter_eq_some_iff.1 first
    exact ⟨_, .more spelled string, (List.append_assoc ..).symm⟩
termination_by t.length

theorem readCharacters_eq_some_iff :
    readCharacters t = some (s, r) ↔ ∃ q, Characters q s ∧ t = q ++ r := by
  constructor
  · exact characters_of_readCharacters t
  · rintro ⟨q, string, rfl⟩
    induction string with
    | done => rw [List.singleton_append, readCharacters]
    | @more p q c s first rest ih =>
      obtain ⟨e, p', open', rfl⟩ := first.exists_cons
      have read := readCharacter_eq_some_iff.2 ⟨_, first, List.append_assoc (e :: p') q r⟩
      rw [readCharacters.eq_def]
      split
      · rename_i whole
        cases whole
        exact absurd rfl open'
      · rw [read, Option.bind_eq_bind, Option.bind_some]
        dsimp only
        have shorter : (q ++ r).length < (e :: p' ++ q ++ r).length := by
          simp only [List.length_append, List.length_cons]
          omega
        rw [smaller?_bind shorter]
        dsimp only
        rw [ih]
        rfl

theorem readKey_eq_some_iff :
    readKey t = some (s, r) ↔ ∃ k, Key k s ∧ t = k ++ r := by
  constructor
  · intro h
    unfold readKey at h
    split at h
    · rename_i rest opening
      obtain ⟨w, before, rfl⟩ := skipSpaces_eq_cons opening
      simp only [Option.bind_eq_bind, Option.bind_eq_some_iff, Prod.exists] at h
      obtain ⟨key, u, read, colon⟩ := h
      obtain ⟨q, string, rfl⟩ := readCharacters_eq_some_iff.1 read
      split at colon
      · rename_i rest' found
        cases colon
        obtain ⟨w', after, rfl⟩ := skipSpaces_eq_cons found
        exact ⟨_, .mk before string after, by simp⟩
      · cases colon
    · cases h
  · rintro ⟨k, ⟨before, string, after⟩, rfl⟩
    rename_i w q w'
    have read := readCharacters_eq_some_iff.2 ⟨_, string, (rfl : _ = q ++ (w' ++ ':' :: r))⟩
    simp only [List.append_assoc, List.cons_append, List.nil_append]
    unfold readKey
    rw [skipSpaces_append_cons before (by decide)]
    change (readCharacters (q ++ (w' ++ ':' :: r))).bind _ = _
    rw [read, Option.bind_some]
    dsimp only
    rw [skipSpaces_append_cons after (by decide)]
    rfl

theorem Key.length_lt (h : Key t s) (r : Text) : r.length < (t ++ r).length := by
  cases h with
  | mk =>
    rw [List.length_append, List.length_append, List.length_cons]
    omega

mutual

theorem denotes_of_readValue (t : Text) {v : Json} {r : Text} (h : readValue t = some (v, r)) :
    ∃ p, Denotes p v ∧ t = p ++ r := by
  rw [readValue] at h
  split at h
  · rename_i rest opening
    obtain ⟨w, before, rfl⟩ := skipSpaces_eq_cons opening
    simp only [Option.bind_eq_bind, Option.bind_eq_some_iff, Option.pure_def, Option.some.injEq,
      Prod.exists, Prod.mk.injEq] at h
    obtain ⟨s, u, read, rfl, rfl⟩ := h
    obtain ⟨q, string, rfl⟩ := readCharacters_eq_some_iff.1 read
    obtain ⟨w', after, split⟩ := skipSpaces_spec u
    refine ⟨_, .text before string after, ?_⟩
    simp [← split]
  · rename_i rest opening
    split at h
    · rename_i rest' closing
      cases h
      obtain ⟨w, before, rfl⟩ := skipSpaces_eq_cons opening
      obtain ⟨u, inside, rfl⟩ := skipSpaces_eq_cons closing
      obtain ⟨w', after, split⟩ := skipSpaces_spec rest'
      refine ⟨_, .none before inside after, ?_⟩
      simp [← split]
    · simp only [Option.bind_eq_bind, Option.bind_eq_some_iff, Option.pure_def, Option.some.injEq,
        Prod.exists, Prod.mk.injEq, Subtype.exists, smaller?_eq_some_iff] at h
      obtain ⟨rest, shorter, rfl, vs, u, read, rfl, rfl⟩ := h
      obtain ⟨p, inside, rfl⟩ := items_of_readItems rest read
      obtain ⟨w, before, rfl⟩ := skipSpaces_eq_cons opening
      obtain ⟨w', after, split⟩ := skipSpaces_spec u
      refine ⟨_, .array before inside after, ?_⟩
      simp [← split]
  · rename_i rest opening
    split at h
    · rename_i rest' closing
      cases h
      obtain ⟨w, before, rfl⟩ := skipSpaces_eq_cons opening
      obtain ⟨u, inside, rfl⟩ := skipSpaces_eq_cons closing
      obtain ⟨w', after, split⟩ := skipSpaces_spec rest'
      refine ⟨_, .empty before inside after, ?_⟩
      simp [← split]
    · simp only [Option.bind_eq_bind, Option.bind_eq_some_iff, Option.pure_def, Option.some.injEq,
        Prod.exists, Prod.mk.injEq, Subtype.exists, smaller?_eq_some_iff] at h
      obtain ⟨rest, shorter, rfl, ms, u, read, rfl, rfl⟩ := h
      obtain ⟨p, inside, rfl⟩ := members_of_readMembers rest read
      obtain ⟨w, before, rfl⟩ := skipSpaces_eq_cons opening
      obtain ⟨w', after, split⟩ := skipSpaces_spec u
      refine ⟨_, .object before inside after, ?_⟩
      simp [← split]
  · cases h
termination_by (t.length, 0)

theorem items_of_readItems (t : Text) {vs : List Json} {r : Text}
    (h : readItems t = some (vs, r)) : ∃ p, Items p vs ∧ t = p ++ r := by
  rw [readItems] at h
  simp only [Option.bind_eq_bind, Option.bind_eq_some_iff, Prod.exists] at h
  obtain ⟨v, u, read, h⟩ := h
  obtain ⟨p, valued, split⟩ := denotes_of_readValue t read
  split at h
  · cases h
    exact ⟨_, .last valued, by simp [split]⟩
  · simp only [Option.bind_eq_some_iff, Option.pure_def, Option.some.injEq, Prod.exists,
      Prod.mk.injEq, Subtype.exists, smaller?_eq_some_iff] at h
    obtain ⟨u, shorter, rfl, vs, _, rest, rfl, rfl⟩ := h
    obtain ⟨p', others, rfl⟩ := items_of_readItems u rest
    exact ⟨_, .more valued others, by simp [split]⟩
  · cases h
termination_by (t.length, 1)

theorem members_of_readMembers (t : Text) {ms : List (Text × Json)} {r : Text}
    (h : readMembers t = some (ms, r)) : ∃ p, Members p ms ∧ t = p ++ r := by
  rw [readMembers] at h
  simp only [Option.bind_eq_bind, Option.bind_eq_some_iff, Prod.exists, Subtype.exists,
    smaller?_eq_some_iff] at h
  obtain ⟨key, _, name, u, shorter, rfl, v, u', read, h⟩ := h
  obtain ⟨k, named, split⟩ := readKey_eq_some_iff.1 name
  obtain ⟨p, valued, rfl⟩ := denotes_of_readValue u read
  split at h
  · cases h
    exact ⟨_, .last named valued, by simp [split]⟩
  · simp only [Option.bind_eq_some_iff, Option.pure_def, Option.some.injEq, Prod.exists,
      Prod.mk.injEq, Subtype.exists, smaller?_eq_some_iff] at h
    obtain ⟨u, shorter', rfl, ms, _, rest, rfl, rfl⟩ := h
    obtain ⟨p', others, rfl⟩ := members_of_readMembers u rest
    exact ⟨_, .more named valued others, by simp [split]⟩
  · cases h
termination_by (t.length, 1)

end

theorem Denotes.opens (h : Denotes t v) (r : Text) :
    ∃ c q, c ≠ ']' ∧ skipSpaces (t ++ r) = c :: q := by
  have front {w q : Text} {c : Char} (before : Spaces w) (solid : isSpace c = false) :
      skipSpaces (w ++ c :: q ++ r) = c :: (q ++ r) := by
    rw [List.append_assoc, List.cons_append, skipSpaces_append_cons before solid]
  cases h with
  | text before => exact ⟨_, _, by decide, front before (by decide)⟩
  | none before => exact ⟨_, _, by decide, front before (by decide)⟩
  | array before => exact ⟨_, _, by decide, front before (by decide)⟩
  | empty before => exact ⟨_, _, by decide, front before (by decide)⟩
  | object before => exact ⟨_, _, by decide, front before (by decide)⟩

theorem Items.opens {vs : List Json} (h : Items t vs) (r : Text) :
    ∃ c q, c ≠ ']' ∧ skipSpaces (t ++ r) = c :: q := by
  cases h with
  | last item =>
    rw [List.append_assoc]
    exact item.opens _
  | more item =>
    rw [List.append_assoc]
    exact item.opens _

theorem Members.opens {ms : List (Text × Json)} (h : Members t ms) (r : Text) :
    ∃ q, skipSpaces (t ++ r) = '"' :: q := by
  have front {k key : Text} (h : Key k key) (r : Text) :
      ∃ q, skipSpaces (k ++ r) = '"' :: q := by
    cases h with
    | mk before =>
      rw [List.append_assoc, List.cons_append, skipSpaces_append_cons before (by decide)]
      exact ⟨_, rfl⟩
  cases h with
  | last name =>
    rw [List.append_assoc]
    exact front name _
  | more name =>
    rw [List.append_assoc]
    exact front name _

theorem readValue_text (opening : skipSpaces t = '"' :: r) :
    readValue t = (readCharacters r).bind fun a => some (.text a.1, skipSpaces a.2) := by
  rw [readValue, opening]
  rfl

theorem readValue_none {u : Text} (opening : skipSpaces t = '[' :: u)
    (closing : skipSpaces u = ']' :: r) : readValue t = some (.array [], skipSpaces r) := by
  simp only [readValue, opening, closing]

theorem readValue_empty {u : Text} (opening : skipSpaces t = '{' :: u)
    (closing : skipSpaces u = '}' :: r) : readValue t = some (.object [], skipSpaces r) := by
  simp only [readValue, opening, closing]

theorem readValue_array {u : Text} (opening : skipSpaces t = '[' :: u)
    (front : skipSpaces u = c :: r) (other : c ≠ ']') :
    readValue t = (readItems u).bind fun a => some (.array a.1, skipSpaces a.2) := by
  simp only [readValue, opening, front]
  split
  · rename_i whole
    cases whole
    exact absurd rfl other
  · rw [smaller?_bind (length_lt_of_skipSpaces opening)]
    rfl

theorem readValue_object {u : Text} (opening : skipSpaces t = '{' :: u)
    (front : skipSpaces u = c :: r) (other : c ≠ '}') :
    readValue t = (readMembers u).bind fun a => some (.object a.1, skipSpaces a.2) := by
  simp only [readValue, opening, front]
  split
  · rename_i whole
    cases whole
    exact absurd rfl other
  · rw [smaller?_bind (length_lt_of_skipSpaces opening)]
    rfl

mutual

theorem readValue_append {t : Text} {v : Json} (h : Denotes t v) (r : Text) :
    readValue (t ++ r) = some (v, skipSpaces r) := by
  cases h with
  | @text w q w' s before string after =>
    have read := readCharacters_eq_some_iff.2 ⟨_, string, (rfl : _ = q ++ (w' ++ r))⟩
    simp only [List.append_assoc, List.cons_append]
    rw [readValue_text (skipSpaces_append_cons before (by decide)), read, Option.bind_some,
      skipSpaces_append after]
  | none before inside after =>
    simp only [List.append_assoc, List.cons_append]
    rw [readValue_none (skipSpaces_append_cons before (by decide))
      (skipSpaces_append_cons inside (by decide)), skipSpaces_append after]
  | @array w u w' vs before inside after =>
    obtain ⟨c, q, other, front⟩ := inside.opens (w' ++ r)
    simp only [List.append_assoc, List.cons_append]
    rw [readValue_array (skipSpaces_append_cons before (by decide)) front other,
      readItems_append inside, Option.bind_some, skipSpaces_append after]
  | empty before inside after =>
    simp only [List.append_assoc, List.cons_append]
    rw [readValue_empty (skipSpaces_append_cons before (by decide))
      (skipSpaces_append_cons inside (by decide)), skipSpaces_append after]
  | @object w u w' ms before inside after =>
    obtain ⟨q, front⟩ := inside.opens (w' ++ r)
    simp only [List.append_assoc, List.cons_append]
    rw [readValue_object (skipSpaces_append_cons before (by decide)) front (by decide),
      readMembers_append inside, Option.bind_some, skipSpaces_append after]

theorem readItems_append {t : Text} {vs : List Json} (h : Items t vs) (r : Text) :
    readItems (t ++ r) = some (vs, r) := by
  cases h with
  | @last t v item =>
    have read := readValue_append item (']' :: r)
    rw [skipSpaces_cons (by decide)] at read
    rw [List.append_assoc, List.singleton_append, readItems, read]
    rfl
  | @more t u v vs item rest =>
    have read := readValue_append item (',' :: (u ++ r))
    rw [skipSpaces_cons (by decide)] at read
    rw [List.append_assoc, List.cons_append, readItems, read]
    change (smaller? List.length _ (u ++ r) >>= _) = _
    rw [smaller?_bind (length_lt_append_cons ..)]
    change (readItems (u ++ r)).bind _ = _
    rw [readItems_append rest r]
    rfl

theorem readMembers_append {t : Text} {ms : List (Text × Json)} (h : Members t ms) (r : Text) :
    readMembers (t ++ r) = some (ms, r) := by
  cases h with
  | @last k t key v name value =>
    have named := readKey_eq_some_iff.2 ⟨_, name, (rfl : _ = k ++ (t ++ '}' :: r))⟩
    have read := readValue_append value ('}' :: r)
    rw [skipSpaces_cons (by decide)] at read
    rw [List.append_assoc, List.append_assoc, List.singleton_append, readMembers, named]
    change (smaller? List.length _ (t ++ '}' :: r) >>= _) = _
    rw [smaller?_bind (name.length_lt _)]
    change (readValue (t ++ '}' :: r)).bind _ = _
    rw [read]
    rfl
  | @more k t u key v ms name value rest =>
    have named := readKey_eq_some_iff.2 ⟨_, name, (rfl : _ = k ++ (t ++ ',' :: (u ++ r)))⟩
    have read := readValue_append value (',' :: (u ++ r))
    rw [skipSpaces_cons (by decide)] at read
    have shorter := length_lt_append_cons (k ++ t) ',' (u ++ r)
    rw [List.append_assoc] at shorter
    rw [List.append_assoc, List.append_assoc, List.cons_append, readMembers, named]
    change (smaller? List.length _ (t ++ ',' :: (u ++ r)) >>= _) = _
    rw [smaller?_bind (name.length_lt _)]
    change (readValue (t ++ ',' :: (u ++ r))).bind _ = _
    rw [read]
    change (smaller? List.length _ (u ++ r) >>= _) = _
    rw [smaller?_bind shorter]
    change (readMembers (u ++ r)).bind _ = _
    rw [readMembers_append rest r]
    rfl

end

/-- The reader answers on the texts of the grammar and on no other. -/
theorem decode?_eq_some_iff : decode? t = some v ↔ Denotes t v := by
  unfold decode?
  constructor
  · intro h
    split at h
    · rename_i read
      cases h
      obtain ⟨p, denotes, rfl⟩ := denotes_of_readValue t read
      rwa [List.append_nil]
    · cases h
  · intro h
    have read := readValue_append h []
    rw [List.append_nil] at read
    rw [read]
    rfl

theorem Denotes.unique {v' : Json} (h : Denotes t v) (h' : Denotes t v') : v = v' := by
  have := decode?_eq_some_iff.2 h'
  rw [decode?_eq_some_iff.2 h] at this
  exact Option.some.inj this

end HeaderForge.Json
