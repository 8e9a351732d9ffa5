import HeaderForge.Stub
import Mathlib.Data.List.Infix
import Mathlib.Order.Bounds.Basic
import Mathlib.Order.MinMax

/-! Indentation. The depth is not the indents less the unindents, since an unindent at depth zero
does nothing. It is the greatest such surplus that a run of instructions at the end has, the empty
run included. Instructions that never unindent more than they indented, and as often in all, can
therefore be put anywhere without a change to what the others write. -/

namespace HeaderForge.Writer

variable {depth : Nat} {i : Instruction} {is block front behind : List Instruction}

def surplus (is : List Instruction) : Int := is.count .indent - is.count .unindent

theorem surplus_append (is js : List Instruction) :
    surplus (is ++ js) = surplus is + surplus js := by
  simp only [surplus, List.count_append]
  omega

theorem nextDepth_eq (depth : Nat) (i : Instruction) :
    (i.nextDepth depth : Int) = max 0 (depth + surplus [i]) := by
  cases i with
  | line t => simp [Instruction.nextDepth, surplus]
  | blank => simp [Instruction.nextDepth, surplus]
  | indent =>
    have one : surplus [.indent] = 1 := rfl
    rw [one, Instruction.nextDepth]
    omega
  | unindent =>
    have one : surplus [.unindent] = -1 := rfl
    rw [one, Instruction.nextDepth]
    omega

theorem finalDepth_concat (depth : Nat) (is : List Instruction) (i : Instruction) :
    finalDepth depth (is ++ [i]) = i.nextDepth (finalDepth depth is) :=
  finalDepth_append depth is [i]

theorem isGreatest_nextDepth (h : IsGreatest (surplus '' {s | s <:+ is}) depth)
    (i : Instruction) : IsGreatest (surplus '' {s | s <:+ is ++ [i]}) (i.nextDepth depth) := by
  obtain ⟨⟨longest, atEnd, attained⟩, bound⟩ := h
  rw [nextDepth_eq]
  constructor
  · rcases max_choice 0 (depth + surplus [i]) with none | some
    · exact ⟨[], List.nil_suffix, none.symm⟩
    · refine ⟨longest ++ [i], List.suffix_concat_iff.2 (Or.inr ⟨longest, rfl, atEnd⟩), ?_⟩
      rw [some, surplus_append, attained]
  · rintro n ⟨s, atEnd', rfl⟩
    rcases List.suffix_concat_iff.1 atEnd' with rfl | ⟨t, rfl, inner⟩
    · exact le_max_left 0 _
    · have below : surplus t ≤ depth := bound ⟨t, inner, rfl⟩
      rw [surplus_append]
      omega

theorem isGreatest_finalDepth (is : List Instruction) :
    IsGreatest (surplus '' {s | s <:+ is}) (finalDepth 0 is) := by
  -- From the end, where the depth takes one step.
  induction is using List.reverseRecOn with
  | nil =>
    refine ⟨⟨[], List.suffix_rfl, rfl⟩, ?_⟩
    rintro n ⟨s, atEnd, rfl⟩
    rw [List.suffix_nil.1 atEnd]
    exact le_rfl
  | append_singleton is i ih =>
    rw [finalDepth_concat]
    exact isGreatest_nextDepth ih i

theorem finalDepth_eq (covered : ∀ s, s <+: is → 0 ≤ depth + surplus s) :
    (finalDepth depth is : Int) = depth + surplus is := by
  induction is using List.reverseRecOn with
  | nil => simp [finalDepth, surplus]
  | append_singleton is i ih =>
    have before := ih fun s atFront => covered s (atFront.trans (List.prefix_append is [i]))
    have last := covered _ List.prefix_rfl
    rw [surplus_append] at last ⊢
    rw [finalDepth_concat, nextDepth_eq, before]
    omega

theorem length_outputs (depth : Nat) (is : List Instruction) :
    (outputs depth is).length = is.length := by
  induction is generalizing depth with
  | nil => rfl
  | cons i is ih => rw [outputs, List.length_cons, ih, List.length_cons]

theorem outputs_eq (depth : Nat) (is : List Instruction) :
    outputs depth is =
      List.zipWith (fun before i => i.output (finalDepth depth before)) is.inits is := by
  induction is generalizing depth with
  | nil => rfl
  | cons i is ih =>
    rw [outputs, ih, List.inits_cons, List.zipWith_cons_cons, List.zipWith_map_left]
    rfl

/-- Put between others, some instructions leave what each of the others writes as it was. -/
structure LeavesOthers (front block behind : List Instruction) : Prop where
  before : (outputs 0 (front ++ block ++ behind)).take front.length =
    (outputs 0 (front ++ behind)).take front.length
  after : (outputs 0 (front ++ block ++ behind)).drop (front.length + block.length) =
    (outputs 0 (front ++ behind)).drop front.length

theorem leavesOthers_of_finalDepth
    (h : finalDepth (finalDepth 0 front) block = finalDepth 0 front) :
    LeavesOthers front block behind := by
  constructor
  · rw [List.append_assoc, outputs_append, List.take_left' (length_outputs 0 front),
      outputs_append, List.take_left' (length_outputs 0 front)]
  · have size : (outputs 0 (front ++ block)).length = front.length + block.length := by
      rw [length_outputs, List.length_append]
    rw [outputs_append, List.drop_left' size, outputs_append,
      List.drop_left' (length_outputs 0 front), finalDepth_append, h]

/-- As many unindents as indents, and in no front of them more. -/
structure Paired (block : List Instruction) : Prop where
  level : block.count .indent = block.count .unindent
  covered : ∀ s, s <+: block → s.count .unindent ≤ s.count .indent

theorem Paired.finalDepth_eq (h : Paired block) (depth : Nat) : finalDepth depth block = depth := by
  have covered (s : List Instruction) (atFront : s <+: block) : 0 ≤ depth + surplus s := by
    have enough := h.covered s atFront
    rw [surplus]
    omega
  have level : surplus block = 0 := by rw [surplus, h.level, Int.sub_self]
  have same := Writer.finalDepth_eq covered
  rw [level] at same
  omega

/-- Each instruction writes at the greatest surplus of indents over unindents that a run of
instructions directly before it has. So an unindent for which there is no indent takes nothing from
a later one, and paired instructions change nothing that others write. -/
theorem write_indented (is : List Instruction) :
    write is = (List.zipWith (fun before i =>
        match i with
        | .line t => List.replicate (4 * finalDepth 0 before) ' ' ++ t ++ ['\n']
        | .blank => ['\n']
        | .indent => []
        | .unindent => []) is.inits is).flatten ∧
      (∀ before, IsGreatest (surplus '' {s | s <:+ before}) (finalDepth 0 before)) ∧
      (∀ front behind, (∀ s, s <:+ front → surplus s ≤ 0) →
        LeavesOthers front [.unindent] behind) ∧
      ∀ front block behind, Paired block → LeavesOthers front block behind := by
  refine ⟨congrArg List.flatten (outputs_eq 0 is), isGreatest_finalDepth, ?_, ?_⟩
  · intro front behind none
    obtain ⟨s, atEnd, attained⟩ := (isGreatest_finalDepth front).1
    have outermost : finalDepth 0 front = 0 := by
      have least := none s atEnd
      omega
    refine leavesOthers_of_finalDepth ?_
    rw [outermost]
    rfl
  · intro front block behind paired
    exact leavesOthers_of_finalDepth (paired.finalDepth_eq _)

theorem write_indented_surplus :
    (∀ s, s <:+ [.indent, .unindent] → surplus s ≤ 0) ∧
      Paired [.indent, .line ['y'], .unindent] ∧
      LeavesOthers [.indent, .unindent] [.unindent] [.indent, .line ['x']] ∧
      LeavesOthers [.unindent, .indent] [.indent, .line ['y'], .unindent] [.line ['x']] ∧
      write [.indent, .unindent, .unindent, .indent, .line ['x']] = "    x\n".toList := by
  have none : ∀ s, s <:+ [.indent, .unindent] → surplus s ≤ 0 := by
    have each : ∀ s ∈ [.indent, .unindent].tails, surplus s ≤ 0 := by decide
    exact fun s atEnd => each s ((List.mem_tails s _).2 atEnd)
  have paired : Paired [.indent, .line ['y'], .unindent] := by
    have each : ∀ s ∈ [.indent, .line ['y'], .unindent].inits,
        s.count Instruction.unindent ≤ s.count .indent := by decide
    exact ⟨by decide, fun s atFront => each s ((List.mem_inits s _).2 atFront)⟩
  obtain ⟨written, -, lone, block⟩ :=
    write_indented [.indent, .unindent, .unindent, .indent, .line ['x']]
  exact ⟨none, paired, lone _ _ none, block _ _ _ paired, written.trans (by decide)⟩

end HeaderForge.Writer
