import HeaderForge.Catalog.Basic
import Mathlib.Data.List.Nodup

/-! Catalogs in order. A catalog is accepted when every name in it is an identifier and no list has
a name twice; nothing is asked of names in two lists. The lists are looked at in their order and
each from its front, and the names seen so far are those in front: the first name that is no
identifier or stands in front already is reported with its list. -/

namespace HeaderForge

variable {n : Text} {c : Catalog} {list : NameList} {seen ns : List Text} {fault : CatalogFault}

def isNameChar (d : Char) : Bool := d.isAlphanum || d == '_'

theorem isNameChar_of_isIdentifier (h : isIdentifier n = true) : ∀ d ∈ n, isNameChar d = true := by
  cases n with
  | nil => cases h
  | cons c rest =>
    rw [isIdentifier, Bool.and_eq_true, List.all_eq_true] at h
    obtain ⟨first, later⟩ := h
    intro d hd
    cases List.mem_cons.1 hd with
    | inl same =>
      rw [same, isNameChar, Char.isAlphanum, Bool.or_right_comm, first, Bool.true_or]
    | inr mem => exact later d mem

theorem not_mem_of_isIdentifier {d : Char} (h : isIdentifier n = true)
    (outside : isNameChar d = false) : d ∉ n := by
  intro mem
  rw [isNameChar_of_isIdentifier h d mem] at outside
  cases outside

namespace Catalog

/-- Every name is an identifier, and no list has a name twice. -/
structure InOrder (c : Catalog) : Prop where
  identifiers : ∀ list, ∀ n ∈ c.names list, isIdentifier n = true
  distinct : ∀ list, (c.names list).Nodup

theorem InOrder.not_mem {d : Char} (h : c.InOrder) (outside : isNameChar d = false) :
    ∀ list, ∀ n ∈ c.names list, d ∉ n :=
  fun list n hn => not_mem_of_isIdentifier (h.identifiers list n hn) outside

theorem firstFault_eq_none_iff : firstFault list seen ns = none ↔
    (∀ n ∈ ns, isIdentifier n = true ∧ n ∉ seen) ∧ ns.Nodup := by
  induction ns generalizing seen with
  | nil => simp [firstFault]
  | cons n ns ih =>
    rw [firstFault, List.forall_mem_cons, List.nodup_cons]
    by_cases identifier : isIdentifier n = true
    · by_cases known : n ∈ seen
      · simp [identifier, known]
      · simp only [identifier, known, Bool.not_true, Bool.false_eq_true, if_false, ih,
          List.mem_cons, not_or, not_false_eq_true, true_and, and_true]
        grind
    · simp [identifier]

theorem validate_eq_ok_iff : c.validate = .ok () ↔ c.InOrder := by
  have faultless : c.validate = .ok () ↔
      NameList.all.findSome? (fun list => firstFault list [] (c.names list)) = none := by
    unfold validate
    split
    · rename_i found
      simp [found]
    · rename_i found
      simp [found]
  have every (list : NameList) : list ∈ NameList.all := by cases list <;> decide
  simp only [faultless, List.findSome?_eq_none_iff, every, firstFault_eq_none_iff,
    List.not_mem_nil, not_false_eq_true, and_true, true_implies, forall_and]
  exact ⟨fun ⟨identifiers, distinct⟩ => ⟨identifiers, distinct⟩,
    fun h => ⟨h.identifiers, h.distinct⟩⟩

end Catalog

def BeginsName (d : Char) : Prop := 'A' ≤ d ∧ d ≤ 'Z' ∨ 'a' ≤ d ∧ d ≤ 'z' ∨ d = '_'

def ContinuesName (d : Char) : Prop := BeginsName d ∨ '0' ≤ d ∧ d ≤ '9'

/-- A name as C++ has them. -/
def IsIdentifier (n : Text) : Prop :=
  ∃ first rest, n = first :: rest ∧ BeginsName first ∧ ∀ d ∈ rest, ContinuesName d

theorem beginsName_iff {d : Char} : BeginsName d ↔ (d.isAlpha || d == '_') = true := by
  have upper : d.isUpper = true ↔ 'A' ≤ d ∧ d ≤ 'Z' := decide_eq_true_iff
  have lower : d.isLower = true ↔ 'a' ≤ d ∧ d ≤ 'z' := by
    change (decide ('a' ≤ d) && decide (d ≤ 'z')) = true ↔ _
    rw [Bool.and_eq_true, decide_eq_true_iff, decide_eq_true_iff]
  have letter : d.isAlpha = (d.isUpper || d.isLower) := rfl
  rw [letter, Bool.or_eq_true, Bool.or_eq_true, upper, lower, beq_iff_eq, or_assoc, BeginsName]

theorem continuesName_iff {d : Char} : ContinuesName d ↔ isNameChar d = true := by
  simp only [ContinuesName, beginsName_iff, isNameChar, Char.isAlphanum, Char.isDigit, Char.le_def,
    Bool.or_eq_true, Bool.and_eq_true, decide_eq_true_eq, ge_iff_le]
  exact or_right_comm

theorem isIdentifier_iff : isIdentifier n = true ↔ IsIdentifier n := by
  cases n with
  | nil => simp [isIdentifier, IsIdentifier]
  | cons first rest =>
    rw [isIdentifier, Bool.and_eq_true, ← beginsName_iff, List.all_eq_true]
    simp only [IsIdentifier, List.cons.injEq, continuesName_iff, isNameChar]
    constructor
    · rintro ⟨begins, continues⟩
      exact ⟨first, rest, ⟨rfl, rfl⟩, begins, continues⟩
    · rintro ⟨_, _, ⟨rfl, rfl⟩, begins, continues⟩
      exact ⟨begins, continues⟩

example : isIdentifier "pos\n".toList = false ∧ isIdentifier "größe".toList = false := by decide

namespace Catalog

def AreSound (ns : List Text) : Prop := (∀ n ∈ ns, IsIdentifier n) ∧ ns.Nodup

/-- The fault of the first name of a list that is no identifier or equals one in front of it. -/
def FaultIn (list : NameList) (ns : List Text) (fault : CatalogFault) : Prop :=
  ∃ front n behind, ns = front ++ n :: behind ∧ AreSound front ∧
    (¬ IsIdentifier n ∧ fault = .notIdentifier list n ∨ n ∈ front ∧ fault = .repeated list n)

def lists (c : Catalog) : List (NameList × List Text) :=
  [(.types, c.common ++ c.advanced), (.unary, c.unary), (.binarySymmetric, c.binarySymmetric),
    (.binaryAsymmetric, c.binaryAsymmetric)]

/-- The fault of the first list that has one. -/
def FirstFault (c : Catalog) (fault : CatalogFault) : Prop :=
  ∃ before list ns after, c.lists = before ++ (list, ns) :: after ∧
    (∀ l ∈ before, AreSound l.2) ∧ FaultIn list ns fault

theorem firstFault_cons (sound : isIdentifier n = true ∧ n ∉ seen) (ns : List Text) :
    firstFault list seen (n :: ns) = firstFault list (n :: seen) ns := by
  rw [firstFault, if_neg (by simp [sound.1]), if_neg sound.2]

theorem firstFault_cons_eq_some_iff (unsound : ¬ (isIdentifier n = true ∧ n ∉ seen)) :
    firstFault list seen (n :: ns) = some fault ↔
      isIdentifier n = false ∧ fault = .notIdentifier list n ∨
        isIdentifier n = true ∧ n ∈ seen ∧ fault = .repeated list n := by
  rw [firstFault]
  by_cases identifier : isIdentifier n = true
  · have known : n ∈ seen := not_not.1 fun new => unsound ⟨identifier, new⟩
    simp [identifier, known, eq_comm]
  · simp [identifier, eq_comm]

theorem firstFault_eq_some_iff : firstFault list seen ns = some fault ↔
    ∃ front n behind, ns = front ++ n :: behind ∧ firstFault list seen front = none ∧
      (isIdentifier n = false ∧ fault = .notIdentifier list n ∨
        isIdentifier n = true ∧ (n ∈ seen ∨ n ∈ front) ∧ fault = .repeated list n) := by
  -- A name is compared with the names seen before the list and with those in front of it.
  induction ns generalizing seen with
  | nil => simp [firstFault]
  | cons m ns ih =>
    by_cases sound : isIdentifier m = true ∧ m ∉ seen
    · rw [firstFault_cons sound, ih]
      constructor
      · rintro ⟨front, n, behind, rfl, clear, kind⟩
        refine ⟨m :: front, n, behind, rfl, ?_, ?_⟩
        · rwa [firstFault_cons sound]
        · simpa only [List.mem_cons, or_assoc, or_left_comm] using kind
      · rintro ⟨front, n, behind, split, clear, kind⟩
        cases front with
        | nil =>
          cases split
          simp [sound.1, sound.2] at kind
        | cons m' front =>
          cases split
          rw [firstFault_cons sound] at clear
          refine ⟨front, n, behind, rfl, clear, ?_⟩
          simpa only [List.mem_cons, or_assoc, or_left_comm] using kind
    · rw [firstFault_cons_eq_some_iff sound]
      constructor
      · intro kind
        exact ⟨[], m, ns, rfl, rfl, by simpa using kind⟩
      · rintro ⟨front, n, behind, split, clear, kind⟩
        cases front with
        | nil =>
          cases split
          simpa using kind
        | cons m' front =>
          cases split
          rw [firstFault_eq_none_iff] at clear
          exact absurd (clear.1 m List.mem_cons_self) sound

theorem areSound_iff (list : NameList) : AreSound ns ↔ firstFault list [] ns = none := by
  simp [firstFault_eq_none_iff, AreSound, isIdentifier_iff]

theorem faultIn_iff : FaultIn list ns fault ↔ firstFault list [] ns = some fault := by
  rw [firstFault_eq_some_iff]
  refine exists₃_congr fun front n behind => and_congr_right fun _ => ?_
  rw [← areSound_iff list]
  refine and_congr_right fun sound => ?_
  have known : n ∈ front → isIdentifier n = true := fun mem => isIdentifier_iff.2 (sound.1 n mem)
  rw [← isIdentifier_iff, Bool.not_eq_true]
  grind

theorem validate_eq_error_iff : c.validate = .error fault ↔ c.FirstFault fault := by
  have reported : c.validate = .error fault ↔
      c.lists.findSome? (fun l => firstFault l.1 [] l.2) = some fault := by
    unfold validate
    split
    · rename_i found
      change c.lists.findSome? (fun l => firstFault l.1 [] l.2) = _ at found
      simp [found]
    · rename_i found
      change c.lists.findSome? (fun l => firstFault l.1 [] l.2) = _ at found
      simp [found]
  rw [reported, List.findSome?_eq_some_iff, FirstFault]
  simp only [Prod.exists]
  refine exists₄_congr fun before list ns after => ?_
  rw [faultIn_iff, and_comm (a := ∀ l ∈ before, _)]
  exact and_congr_right' (and_congr_right' (forall₂_congr fun l _ => (areSound_iff l.1).symm))

theorem inOrder_iff : c.InOrder ↔
    (∀ n ∈ c.common ++ c.advanced ++ c.unary ++ c.binarySymmetric ++ c.binaryAsymmetric,
      IsIdentifier n) ∧
    (c.common ++ c.advanced).Nodup ∧ c.unary.Nodup ∧ c.binarySymmetric.Nodup ∧
      c.binaryAsymmetric.Nodup := by
  constructor
  · rintro ⟨identifiers, distinct⟩
    refine ⟨?_, distinct .types, distinct .unary, distinct .binarySymmetric,
      distinct .binaryAsymmetric⟩
    simp only [List.forall_mem_append, ← isIdentifier_iff]
    have types := List.forall_mem_append.1 (identifiers .types)
    exact ⟨⟨⟨types, identifiers .unary⟩, identifiers .binarySymmetric⟩,
      identifiers .binaryAsymmetric⟩
  · rintro ⟨identifiers, types, unary, symmetric, asymmetric⟩
    simp only [List.forall_mem_append, ← isIdentifier_iff] at identifiers
    obtain ⟨⟨⟨named, unaryNamed⟩, symmetricNamed⟩, asymmetricNamed⟩ := identifiers
    constructor
    · intro list
      cases list with
      | types => exact List.forall_mem_append.2 named
      | unary => exact unaryNamed
      | binarySymmetric => exact symmetricNamed
      | binaryAsymmetric => exact asymmetricNamed
    · intro list
      cases list with
      | types => exact types
      | unary => exact unary
      | binarySymmetric => exact symmetric
      | binaryAsymmetric => exact asymmetric

/-- A catalog is accepted exactly if all its names are identifiers and no list has a name twice,
common and advanced types being one list. Any other is refused with the fault of the first name
that is no identifier or equals one in front of it in its list. -/
theorem validate_firstFault (c : Catalog) :
    (c.validate = .ok () ↔
      (∀ n ∈ c.common ++ c.advanced ++ c.unary ++ c.binarySymmetric ++ c.binaryAsymmetric,
        IsIdentifier n) ∧
      (c.common ++ c.advanced).Nodup ∧ c.unary.Nodup ∧ c.binarySymmetric.Nodup ∧
        c.binaryAsymmetric.Nodup) ∧
    ∀ fault, c.validate = .error fault ↔ c.FirstFault fault :=
  ⟨validate_eq_ok_iff.trans inOrder_iff, fun _ => validate_eq_error_iff⟩

end Catalog
end HeaderForge
