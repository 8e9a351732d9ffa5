import HeaderForge.Command.Arguments
import HeaderForge.ReadError
import Mathlib.Data.List.TakeWhile

/-! Arguments with and without a long flag. A flag stands for itself wherever an argument that is
not positional may stand, so leaving it out leaves out its option and changes nothing else. -/

namespace HeaderForge.Command

variable {key : Type} {switches : List (Switch key)} {s : Switch key} {args : List Text}
  {found : Arguments key}

namespace Switch

def argument (s : Switch key) : Text := '-' :: '-' :: s.long

/-- A switch without a value that its long name leads to. -/
structure IsLongFlag (switches : List (Switch key)) (s : Switch key) : Prop where
  named : s.long ≠ [] ∧ '=' ∉ s.long
  leads : (switches.find? fun s' => s'.long == s.long) = some s
  bare : s.arity = .flag

theorem IsLongFlag.readLong (flag : IsLongFlag switches s) :
    readLong switches s.long = ([(s.key, [])], .ok none) := by
  have passes : ∀ c ∈ s.long, decide (c ≠ '=') = true := by
    intro c hc
    simpa using ne_of_mem_of_not_mem hc flag.named.2
  have name : s.long.takeWhile (· ≠ '=') = s.long := List.takeWhile_eq_self_iff.2 passes
  have value : s.long.dropWhile (· ≠ '=') = [] := List.dropWhile_eq_nil_iff.2 passes
  rw [Switch.readLong]
  simp only [name, flag.leads, value, attach, if_pos flag.bare]

theorem IsLongFlag.readAll_erase (flag : IsLongFlag switches s) {pending : Option (Switch key)}
    (h : readAll switches pending args = (found, none)) (none : found.positionals = [])
    (mem : s.argument ∈ args) : ∃ before behind,
      found.options = before ++ (s.key, []) :: behind ∧
        readAll switches pending (args.erase s.argument) = (⟨before ++ behind, []⟩, .none) := by
  have dashed {a : Text} (plain : ∀ c name, a = '-' :: c :: name → False) : a ≠ s.argument :=
    fun same => plain _ _ same
  have further {a : Text} {rest : List Text} (other : a ≠ s.argument)
      (mem : s.argument ∈ a :: rest) : s.argument ∈ rest ∧
        (a :: rest).erase s.argument = a :: rest.erase s.argument :=
    ⟨(List.mem_cons.1 mem).resolve_left (Ne.symm other),
      List.erase_cons_tail (by simpa using other)⟩
  -- The flag is met where no value is pending, and what stands before and behind it is read
  -- alike without it.
  fun_induction readAll switches pending args generalizing found with
  | case1 => cases mem
  | case2 => cases mem
  | case3 => cases h
  | case4 pending rest c name free ended =>
    cases h
    obtain ⟨rfl, rfl⟩ := ended
    cases none
    exact absurd (List.cons.inj (List.cons.inj (List.mem_singleton.1 mem)).2).2 flag.named.1
  | case5 => cases h
  | case6 pending rest c name free going options next one args refusal read ih =>
    cases h
    by_cases same : '-' :: c :: name = s.argument
    · cases same
      rw [if_pos rfl, flag.readLong] at one
      cases one
      have erased : (('-' :: '-' :: s.long) :: rest).erase s.argument = rest :=
        List.erase_cons_head _ rest
      rw [Option.not_isSome_iff_eq_none.1 free, erased, read]
      obtain ⟨options, positionals⟩ := args
      cases none
      exact ⟨[], options, rfl, rfl⟩
    · obtain ⟨mem, erased⟩ := further same mem
      obtain ⟨before, behind, split, without⟩ := ih read none mem
      refine ⟨options ++ before, behind, by simp [split], ?_⟩
      rw [erased, readAll, if_neg free, if_neg going]
      simp only [one, without, List.append_assoc]
  | case7 a rest args refusal read plain ih =>
    cases h
    cases none
  | case8 a rest s' options r value plain =>
    rw [value] at h
    cases h
  | case9 a rest s' options next value args refusal read plain ih =>
    rw [value, read] at h
    cases h
    obtain ⟨mem, erased⟩ := further (dashed plain) mem
    obtain ⟨before, behind, split, without⟩ := ih read none mem
    refine ⟨options ++ before, behind, by simp [split], ?_⟩
    rw [erased, readAll]
    · simp only [value, without, List.append_assoc]
    · exact plain

variable [DecidableEq key]

theorem read_eq_ok_iff {takesPositionals : Bool} :
    read switches takesPositionals args = .ok found ↔ readAll switches none args = (found, none) ∧
      (∀ s ∈ switches, isRepeated found.options s = false) ∧
      (takesPositionals = false → found.positionals = []) := by
  unfold read
  constructor
  · intro h
    split at h
    rename_i found' refusal all
    split at h
    · cases h
    rename_i once
    split at h
    · cases h
    rename_i bare
    split at h
    · cases h
    cases h
    refine ⟨all, ?_, ?_⟩
    · simpa using once
    · rintro rfl
      simpa using bare
  · rintro ⟨all, once, bare⟩
    have never : switches.any (isRepeated found.options) = false := by simpa using once
    have taken : (!takesPositionals && !found.positionals.isEmpty) = false := by
      cases takesPositionals with
      | true => rfl
      | false => simp [bare rfl]
    simp only [all, never, taken, Bool.false_eq_true, if_false]

theorem isRepeated_of_append {before behind : List (key × Text)} {option : key × Text}
    (h : isRepeated (before ++ option :: behind) s = false) :
    isRepeated (before ++ behind) s = false := by
  have fewer : (before ++ behind).Sublist (before ++ option :: behind) :=
    (List.sublist_cons_self option behind).append_left before
  have count := fewer.countP_le (p := fun x => decide (x.1 = s.key))
  simp only [isRepeated, Bool.and_eq_false_iff, decide_eq_false_iff_not] at h ⊢
  exact h.imp id fun once => by omega

theorem IsLongFlag.not_has (flag : IsLongFlag switches s) {before behind : List (key × Text)}
    (once : isRepeated (before ++ (s.key, []) :: behind) s = false) (ps : List Text) :
    (⟨before ++ behind, ps⟩ : Arguments key).has s.key = false := by
  have whole : (before ++ (s.key, []) :: behind).countP (fun x => decide (x.1 = s.key)) =
      (before ++ behind).countP (fun x => decide (x.1 = s.key)) + 1 := by
    simp only [List.countP_append, List.countP_cons, decide_true, if_true]
    omega
  rw [isRepeated, whole, flag.bare] at once
  have single := of_decide_eq_false ((Bool.and_eq_false_iff.1 once).resolve_left (by decide))
  have none : (before ++ behind).countP (fun x => decide (x.1 = s.key)) = 0 := by omega
  rw [Arguments.has, List.any_eq_false]
  exact List.countP_eq_zero.1 none

/-- Accepted arguments that take no positional ones are accepted without one of their flags, and
then hold the same options but for that flag. -/
theorem IsLongFlag.read_erase (flag : IsLongFlag switches s)
    (h : read switches false args = .ok found) (mem : s.argument ∈ args) :
    ∃ without, read switches false (args.erase s.argument) = .ok without ∧
      found.has s.key = true ∧ without.has s.key = false ∧
      ∀ k ≠ s.key, found.values k = without.values k ∧ found.has k = without.has k := by
  obtain ⟨all, once, bare⟩ := read_eq_ok_iff.1 h
  obtain ⟨before, behind, split, without⟩ := flag.readAll_erase all (bare rfl) mem
  obtain ⟨options, positionals⟩ := found
  cases bare rfl
  cases split
  refine ⟨⟨before ++ behind, []⟩, read_eq_ok_iff.2 ⟨without, fun s' mem => ?_, fun _ => rfl⟩, ?_,
    flag.not_has (once s (List.mem_of_find?_eq_some flag.leads)) [], fun k ne => ?_⟩
  · exact isRepeated_of_append (once s' mem)
  · simp [Arguments.has]
  · simp [Arguments.values, Arguments.has, Ne.symm ne]

end Switch
end HeaderForge.Command
