import HeaderForge.Proofs.Json.Grammar
import Mathlib.Data.List.Forall2

/-! What is rendered denotes what it was rendered from, in both layouts: a layout only decides which
blanks stand between the parts, and every character of a string has a spelling. -/

namespace HeaderForge.Json

variable {t w w' : Text} {v : Json} {key : Text}

theorem spaces_nil : Spaces [] := by simp [Spaces]

theorem Spaces.append (h : Spaces w) (h' : Spaces w') : Spaces (w ++ w') := by
  intro c at_
  rcases List.mem_append.1 at_ with at_ | at_
  exacts [h c at_, h' c at_]

theorem spaces_lineBreak (layout : Layout) (depth : Nat) : Spaces (layout.lineBreak depth) := by
  cases layout with
  | compact => exact spaces_nil
  | indented =>
    intro c at_
    rcases List.mem_cons.1 at_ with rfl | at_
    · decide
    · rw [List.eq_of_mem_replicate at_]
      decide

theorem Denotes.pad (h : Denotes t v) (before : Spaces w) (after : Spaces w') :
    Denotes (w ++ (t ++ w')) v := by
  cases h with
  | text before' string after' =>
    simpa using Denotes.text (before.append before') string (after'.append after)
  | none before' inside after' =>
    simpa using Denotes.none (before.append before') inside (after'.append after)
  | array before' inside after' =>
    simpa using Denotes.array (before.append before') inside (after'.append after)
  | empty before' inside after' =>
    simpa using Denotes.empty (before.append before') inside (after'.append after)
  | object before' inside after' =>
    simpa using Denotes.object (before.append before') inside (after'.append after)

theorem Key.pad (h : Key t key) (before : Spaces w) : Key (w ++ t) key := by
  cases h with
  | mk before' string after =>
    simpa using Key.mk (before.append before') string after

theorem codeUnit?_hexByte (n : Nat) (h : n < 0x20) :
    codeUnit? ('0' :: '0' :: hexByte n) = some n := by
  decide +revert

theorem character_escape (c : Char) : Character (escape c) c := by
  unfold escape
  split
  all_goals try exact .short rfl
  rename_i quote slash _ _ _ _ _
  split
  · rename_i control
    have unit := Character.unit (codeUnit?_hexByte c.toNat control) c.valid
    rwa [Char.ofNat_toNat] at unit
  · rename_i high
    refine .plain ?_
    unfold isPlain
    simp only [Bool.and_eq_true, decide_eq_true_eq]
    exact ⟨⟨by omega, quote⟩, slash⟩

theorem characters_quote (t : Text) : Characters (t.flatMap escape ++ ['"']) t := by
  induction t with
  | nil => exact .done
  | cons c t ih =>
    rw [List.flatMap_cons, List.append_assoc]
    exact .more (character_escape c) ih

theorem denotes_quote (t : Text) : Denotes (quote t) (.text t) := by
  have spelled := Denotes.text spaces_nil (characters_quote t) spaces_nil
  rwa [List.append_nil] at spelled

theorem key_quote (key : Text) : Key (quote key ++ [':']) key := by
  simpa [quote] using Key.mk spaces_nil (characters_quote key) spaces_nil

def Member (t : Text) (m : Text × Json) : Prop :=
  ∃ k u, Key k m.1 ∧ Denotes u m.2 ∧ t = k ++ u

theorem member_render (layout : Layout) (key : Text) (h : Denotes t v) :
    Member (quote key ++ layout.colon ++ t) (key, v) := by
  cases layout with
  | compact => exact ⟨_, _, key_quote key, h, rfl⟩
  | indented =>
    have blank : Spaces [' '] := by simp [Spaces, isSpace]
    refine ⟨_, _, key_quote key, h.pad blank spaces_nil, ?_⟩
    simp [Layout.colon]

theorem items_intercalate {ts : List Text} {vs : List Json} (before : Spaces w)
    (after : Spaces w') (h : Denotes t v) (rest : List.Forall₂ Denotes ts vs) :
    Items (w ++ ((',' :: w).intercalate (t :: ts) ++ (w' ++ [']']))) (v :: vs) := by
  induction rest generalizing t v with
  | nil =>
    rw [List.intercalate_singleton]
    simpa using Items.last (h.pad before after)
  | cons h' _ ih =>
    rw [List.intercalate_cons_cons]
    simpa using Items.more (h.pad before spaces_nil) (ih h')

theorem members_intercalate {ts : List Text} {m : Text × Json} {ms : List (Text × Json)}
    (before : Spaces w) (after : Spaces w') (h : Member t m) (rest : List.Forall₂ Member ts ms) :
    Members (w ++ ((',' :: w).intercalate (t :: ts) ++ (w' ++ ['}']))) (m :: ms) := by
  induction rest generalizing t m with
  | nil =>
    obtain ⟨k, u, name, value, rfl⟩ := h
    rw [List.intercalate_singleton]
    simpa using Members.last (name.pad before) (value.pad spaces_nil after)
  | cons h' _ ih =>
    obtain ⟨k, u, name, value, rfl⟩ := h
    rw [List.intercalate_cons_cons]
    simpa using Members.more (name.pad before) value (ih h')

theorem denotes_enclose_array (layout : Layout) (depth : Nat) {ts : List Text} {vs : List Json}
    (h : List.Forall₂ Denotes ts vs) : Denotes (enclose layout depth '[' ']' ts) (.array vs) := by
  cases h with
  | nil => exact .none spaces_nil spaces_nil spaces_nil
  | cons first rest =>
    have inside := items_intercalate (spaces_lineBreak layout (depth + 1))
      (spaces_lineBreak layout depth) first rest
    simpa [enclose] using Denotes.array spaces_nil inside spaces_nil

theorem denotes_enclose_object (layout : Layout) (depth : Nat) {ts : List Text}
    {ms : List (Text × Json)} (h : List.Forall₂ Member ts ms) :
    Denotes (enclose layout depth '{' '}' ts) (.object ms) := by
  cases h with
  | nil => exact .empty spaces_nil spaces_nil spaces_nil
  | cons first rest =>
    have inside := members_intercalate (spaces_lineBreak layout (depth + 1))
      (spaces_lineBreak layout depth) first rest
    simpa [enclose] using Denotes.object spaces_nil inside spaces_nil

theorem getLast?_enclose (layout : Layout) (depth : Nat) (opening closing : Char)
    (ts : List Text) : (enclose layout depth opening closing ts).getLast? = some closing := by
  cases ts with
  | nil => rfl
  | cons => exact List.getLast?_concat

mutual

theorem denotes_render (layout : Layout) (depth : Nat) :
    (v : Json) → Denotes (render layout depth v) v
  | .text t => denotes_quote t
  | .array items => denotes_enclose_array layout depth (denotes_renderItems layout _ items)
  | .object members => denotes_enclose_object layout depth (member_renderMembers layout _ members)

theorem denotes_renderItems (layout : Layout) (depth : Nat) :
    (items : List Json) → List.Forall₂ Denotes (renderItems layout depth items) items
  | [] => .nil
  | item :: items =>
    .cons (denotes_render layout depth item) (denotes_renderItems layout depth items)

theorem member_renderMembers (layout : Layout) (depth : Nat) : (members : List (Text × Json)) →
    List.Forall₂ Member (renderMembers layout depth members) members
  | [] => .nil
  | (key, value) :: members =>
    .cons (member_render layout key (denotes_render layout depth value))
      (member_renderMembers layout depth members)

end

theorem newline_not_mem_quote (t : Text) : '\n' ∉ quote t := by
  have escaped (c : Char) : '\n' ∉ escape c := by
    unfold escape
    split
    all_goals try decide
    rename_i feed _ _
    split
    · rename_i control
      have digits : ∀ n < 0x20, '\n' ∉ "\\u00".toList ++ hexByte n := by decide
      exact digits _ control
    · rw [List.mem_singleton]
      exact fun same => feed same.symm
  simp [quote, escaped]

theorem newline_not_mem_enclose {opening closing : Char} {depth : Nat} {ts : List Text}
    (left : opening ≠ '\n') (right : closing ≠ '\n') (h : ∀ t ∈ ts, '\n' ∉ t) :
    '\n' ∉ enclose .compact depth opening closing ts := by
  have joined : '\n' ∉ [','].intercalate ts := by
    induction ts with
    | nil => simp
    | cons t ts ih =>
      have own := h t List.mem_cons_self
      have others := ih fun u at_ => h u (List.mem_cons_of_mem _ at_)
      cases ts with
      | nil => simpa using own
      | cons u ts =>
        rw [List.intercalate_cons_cons]
        simpa [own] using others
  cases ts with
  | nil => simp [enclose, left.symm, right.symm]
  | cons t ts => simpa [enclose, Layout.lineBreak, left.symm, right.symm] using joined

mutual

theorem newline_not_mem_render (depth : Nat) : (v : Json) → '\n' ∉ render .compact depth v
  | .text t => newline_not_mem_quote t
  | .array items =>
    newline_not_mem_enclose (by decide) (by decide) (newline_not_mem_renderItems _ items)
  | .object members =>
    newline_not_mem_enclose (by decide) (by decide) (newline_not_mem_renderMembers _ members)

theorem newline_not_mem_renderItems (depth : Nat) :
    (items : List Json) → ∀ t ∈ renderItems .compact depth items, '\n' ∉ t
  | [] => by simp [renderItems]
  | item :: items => by
    rw [renderItems, List.forall_mem_cons]
    exact ⟨newline_not_mem_render depth item, newline_not_mem_renderItems depth items⟩

theorem newline_not_mem_renderMembers (depth : Nat) :
    (members : List (Text × Json)) → ∀ t ∈ renderMembers .compact depth members, '\n' ∉ t
  | [] => by simp [renderMembers]
  | (key, value) :: members => by
    rw [renderMembers, List.forall_mem_cons]
    refine ⟨?_, newline_not_mem_renderMembers depth members⟩
    simp [newline_not_mem_quote, Layout.colon, newline_not_mem_render depth value]

end

end HeaderForge.Json
