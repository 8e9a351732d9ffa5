import HeaderForge.Proofs.Header.Scan
import HeaderForge.ReadError

/-! Which faults tell a line. Only the faults of a block do; what is wrong with a template list or
with a declaration is told with the text it was found in. -/

namespace HeaderForge

namespace ReadError

def line? : ReadError → Option Nat
  | missingTemplateLine line => some line
  | missingBodyOpen line _ => some line
  | unterminatedBody line => some line
  | _ => none

theorem shiftLine_of_line?_eq_none {e : ReadError} (h : e.line? = none) (count : Nat) :
    e.shiftLine count = e := by
  cases e with
  | missingTemplateLine line => cases h
  | missingBodyOpen line found => cases h
  | unterminatedBody line => cases h
  | _ => rfl

end ReadError

theorem readTemplateEntries_line? {entries : List Text} {e : ReadError}
    (h : readTemplateEntries entries = .error e) : e.line? = none := by
  induction entries with
  | nil => cases h
  | cons entry entries ih =>
    rw [readTemplateEntries] at h
    split at h
    · rename_i fault
      cases h
      rw [readTemplateEntry] at fault
      split at fault
      · cases fault
      · cases fault
        rfl
    · exact ih (map_eq_error_iff.1 h)

theorem readTemplateParameters_line? {line : Text} {e : ReadError}
    (h : readTemplateParameters line = .error e) : e.line? = none := by
  rw [readTemplateParameters] at h
  split at h
  · split at h
    · cases h
      rfl
    · split at h
      · cases h
      · exact readTemplateEntries_line? h
  · cases h
    rfl

theorem readQualifiedType_line? {c : Cursor} {e : ReadError}
    (h : readQualifiedType c = .error e) : e.line? = none := by
  rw [readQualifiedType] at h
  split at h
  · rename_i fault
    cases h
    rw [Cursor.readType, Cursor.typeLength] at fault
    split at fault
    · split at fault
      · cases fault
      · cases fault
        rfl
    · cases fault
  · cases h

theorem readParameter_line? {text : Text} {c : Cursor} {e : ReadError}
    (h : readParameter text c = .error e) : e.line? = none := by
  rw [readParameter] at h
  split at h
  · rename_i fault
    cases h
    exact readQualifiedType_line? fault
  · split at h
    · cases h
      rfl
    · cases h

theorem readParameters_line? {text : Text} {c : Cursor} {e : ReadError}
    (h : readParameters text c = .error e) : e.line? = none := by
  fun_induction readParameters text c with
  | case1 => cases h
  | case2 c left e' fault =>
    cases h
    exact readParameter_line? fault
  | case3 c left p d read ih => exact ih (map_eq_error_iff.1 h)

theorem readDeclaration_line? {line : Text} {e : ReadError}
    (h : readDeclaration line = .error e) : e.line? = none := by
  unfold readDeclaration at h
  dsimp only at h
  split at h
  · cases h
    rfl
  · split at h
    · cases h
      rfl
    · split at h
      · cases h
        rfl
      · split at h
        · rename_i fault
          cases h
          exact readParameters_line? fault
        · split at h
          · split at h
            · cases h
              rfl
            · cases h
          · cases h

theorem Block.read_line? {b : Block} {line : Text} {e : ReadError} (h : b.read line = .error e) :
    e.line? = none := by
  rcases Block.read_eq_error.1 h with fault | ⟨ps, -, fault⟩
  · exact readTemplateParameters_line? fault
  · exact readDeclaration_line? fault

end HeaderForge
