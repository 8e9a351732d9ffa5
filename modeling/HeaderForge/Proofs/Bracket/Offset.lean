import HeaderForge.Proofs.Bracket.Balance
import HeaderForge.Text.Offset

/-! Bracket matching by byte offset. A bracket is one byte and no byte of a wider character is a
bracket, so the bytes of a text have the partners that its characters have. -/

namespace HeaderForge

open Text

theorem utf8EncodeChar_of_ascii {c : Char} (ascii : c.toNat < 0x80) :
    String.utf8EncodeChar c = [UInt8.ofNat c.toNat] := by
  rw [String.utf8EncodeChar]
  exact if_pos (Nat.le_of_lt_succ ascii)

theorem utf8EncodeChar_of_wide {c : Char} (wide : 0x80 ≤ c.toNat) :
    ∀ b ∈ String.utf8EncodeChar c, 0x80 ≤ b.toNat := by
  change 0x80 ≤ c.val.toNat at wide
  unfold String.utf8EncodeChar
  dsimp only
  rw [if_neg (by omega)]
  split
  · simp only [List.forall_mem_cons, UInt8.toNat_ofNat', List.not_mem_nil, false_implies,
      implies_true, and_true]
    omega
  · split
    · simp only [List.forall_mem_cons, UInt8.toNat_ofNat', List.not_mem_nil, false_implies,
        implies_true, and_true]
      omega
    · simp only [List.forall_mem_cons, UInt8.toNat_ofNat', List.not_mem_nil, false_implies,
        implies_true, and_true]
      omega

theorem ofNat_toNat_inj {c d : Char} (hc : c.toNat < 0x80) (hd : d.toNat < 0x80) :
    UInt8.ofNat c.toNat = UInt8.ofNat d.toNat ↔ c = d := by
  constructor
  · intro h
    have code := congrArg UInt8.toNat h
    rw [UInt8.toNat_ofNat', UInt8.toNat_ofNat'] at code
    apply Char.toNat_inj.1
    omega
  · rintro rfl
    rfl

theorem utf8_cons (c : Char) (t : Text) : utf8 (c :: t) = String.utf8EncodeChar c ++ utf8 t := by
  simp [utf8]

section Partner

variable {α : Type} [DecidableEq α] {opener closer : α} {depth : Nat} {s : List α}

theorem closingIndex_append_of_not_mem (h : opener ∉ s) (h' : closer ∉ s) (l : List α) :
    closingIndex opener closer depth (s ++ l) =
      (closingIndex opener closer depth l).map (s.length + ·) := by
  induction s with
  | nil => simp
  | cons x s ih =>
    rw [List.mem_cons, not_or] at h h'
    rw [List.cons_append, closingIndex_cons, bracketStep, if_neg (Ne.symm h.1),
      if_neg (Ne.symm h'.1)]
    dsimp only
    rw [ih h.2 h'.2, Option.map_map]
    congr 1
    funext n
    simp only [Function.comp_apply, List.length_cons]
    omega

end Partner

/-- The partner of a bracket has as many bytes before it as the characters before it take. -/
theorem closingIndex_utf8 {o c : Char} (ho : o.toNat < 0x80) (hc : c.toNat < 0x80) (depth : Nat)
    (t : Text) :
    closingIndex (UInt8.ofNat o.toNat) (UInt8.ofNat c.toNat) depth (utf8 t) =
      (closingIndex o c depth t).map fun n => utf8Size (t.take n) := by
  induction t generalizing depth with
  | nil => rfl
  | cons x t ih =>
    have size : x.utf8Size = (String.utf8EncodeChar x).length :=
      (String.length_utf8EncodeChar x).symm
    have later (depth : Nat) : ((closingIndex o c depth t).map fun n => utf8Size (t.take n)).map
        (x.utf8Size + ·) = ((closingIndex o c depth t).map (· + 1)).map
          fun n => utf8Size ((x :: t).take n) := by
      rw [Option.map_map, Option.map_map]
      rfl
    rw [utf8_cons]
    by_cases ascii : x.toNat < 0x80
    · have step : bracketStep (UInt8.ofNat o.toNat) (UInt8.ofNat c.toNat) depth
          (UInt8.ofNat x.toNat) = bracketStep o c depth x := by
        simp only [bracketStep, ofNat_toNat_inj ascii ho, ofNat_toNat_inj ascii hc]
      have one : x.utf8Size = 1 := by rw [size, utf8EncodeChar_of_ascii ascii]; rfl
      rw [utf8EncodeChar_of_ascii ascii, List.singleton_append, closingIndex_cons, step,
        closingIndex_cons]
      cases bracketStep o c depth x with
      | none => rfl
      | some depth' =>
        dsimp only
        rw [ih, ← later, one]
        congr 1
        funext n
        exact Nat.add_comm n 1
    · have wide := utf8EncodeChar_of_wide (Nat.not_lt.1 ascii)
      have apart {d : Char} (hd : d.toNat < 0x80) :
          UInt8.ofNat d.toNat ∉ String.utf8EncodeChar x := by
        intro mem
        have high := wide _ mem
        rw [UInt8.toNat_ofNat'] at high
        omega
      have passed : bracketStep o c depth x = some depth := by
        rw [bracketStep, if_neg (by rintro rfl; exact ascii ho),
          if_neg (by rintro rfl; exact ascii hc)]
      rw [closingIndex_append_of_not_mem (apart ho) (apart hc), ih, ← size, later,
        closingIndex_cons, passed]

theorem indexOfClosing_angle (before rest : Text) :
    indexOfClosing (before ++ '<' :: rest) (utf8Size before) =
      .ok ((closingIndex '<' '>' 0 rest).map fun n =>
        utf8Size before + 1 + utf8Size (rest.take n)) := by
  have bytes : utf8 (before ++ '<' :: rest) = utf8 before ++ 0x3C :: utf8 rest := by
    rw [utf8_append, utf8_cons]
    rfl
  have opener : (utf8 before ++ 0x3C :: utf8 rest)[utf8Size before]? = some 0x3C := by
    rw [← length_utf8, List.getElem?_append_right (Nat.le_refl _), Nat.sub_self]
    rfl
  have behind : (utf8 before ++ 0x3C :: utf8 rest).drop (utf8Size before + 1) = utf8 rest := by
    rw [← length_utf8, List.drop_append]
    simp
  have partner := closingIndex_utf8 (o := '<') (c := '>') (by decide) (by decide) 0 rest
  rw [indexOfClosing]
  simp only [bytes, opener, behind]
  change Except.ok ((closingIndex (UInt8.ofNat '<'.toNat) (UInt8.ofNat '>'.toNat) 0
    (utf8 rest)).map (utf8Size before + 1 + ·)) = _
  rw [partner, Option.map_map]
  rfl

theorem Enclosed.indexOfClosing_text {e : Enclosed} (balanced : Balanced '<' '>' e.inside) :
    indexOfClosing e.text (utf8Size e.before) =
      .ok (some (utf8Size e.before + 1 + utf8Size e.inside)) := by
  rw [Enclosed.text, indexOfClosing_angle, closingIndex_of_balanced (by decide) balanced]
  simp

end HeaderForge
