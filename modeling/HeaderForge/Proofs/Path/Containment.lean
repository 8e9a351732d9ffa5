import HeaderForge.Plan
import HeaderForge.Proofs.Catalog.Validation

/-! Where a plan puts the headers of types. A relative path behind another adds its pieces to those
of the other, whether the other ends in a slash or not, and it has the components of the other
before its own, however the other is spelled, unless it begins with a `.`. The file name made from
an identifier does not and is no `..`, so each header is right below the directory, and headers of
different types are different paths. -/

namespace HeaderForge

namespace Path

variable {p q : Path} {n : Text} {s t : List Text}

theorem segments_nil : segments ⟨[]⟩ = [] := rfl

theorem segments_append_slash (s t : Text) :
    segments ⟨s ++ '/' :: t⟩ = segments ⟨s⟩ ++ segments ⟨t⟩ := by
  rw [segments, List.splitOn_append_cons_self, List.filter_append]
  rfl

theorem segments_join (relative : q.isAbsolute = false) :
    (p.join q).segments = p.segments ++ q.segments := by
  obtain ⟨s⟩ := p
  unfold join
  rw [relative, if_neg Bool.false_ne_true]
  by_cases empty : s = []
  · subst empty
    rw [segments_nil]
    rfl
  · by_cases slash : s.getLast? = some '/'
    · obtain ⟨front, rfl⟩ := List.getLast?_eq_some_iff.1 slash
      rw [if_pos (by simp [slash]), segments_append_slash, segments_nil, List.append_nil]
      rw [List.append_assoc]
      exact segments_append_slash front q.text
    · rw [if_neg (by simp [empty, slash])]
      exact segments_append_slash s q.text

theorem isAbsolute_piece (slash : '/' ∉ n) : isAbsolute ⟨n⟩ = false := by
  cases n with
  | nil => rfl
  | cons c rest =>
    have first : c ≠ '/' := fun same => slash (by simp [same])
    simpa [isAbsolute] using first

theorem segments_piece (ne : n ≠ []) (slash : '/' ∉ n) : segments ⟨n⟩ = [n] := by
  rw [segments, List.splitOn_eq_singleton slash]
  simp [ne]

def stepsOf (pieces : List Text) : List Component :=
  (pieces.filter (!isIdle ·)).map Component.ofSegment

theorem stepsOf_append (s t : List Text) : stepsOf (s ++ t) = stepsOf s ++ stepsOf t := by
  rw [stepsOf, List.filter_append, List.map_append]
  rfl

theorem components_of_absolute (h : p.isAbsolute = true) :
    p.components = .root :: stepsOf p.segments := by
  rw [components, if_pos h]
  rfl

theorem components_of_here (h : p.isAbsolute = false) (front : p.segments = ['.'] :: s) :
    p.components = .here :: stepsOf s := by
  rw [components, h, front]
  rfl

theorem components_of_relative (h : p.isAbsolute = false) (front : p.segments.head? ≠ some ['.']) :
    p.components = stepsOf p.segments := by
  rw [components, h, if_neg Bool.false_ne_true]
  split
  · rename_i here
    rw [here] at front
    exact absurd rfl front
  · rfl

theorem isAbsolute_join (relative : q.isAbsolute = false) :
    (p.join q).isAbsolute = p.isAbsolute := by
  obtain ⟨s⟩ := p
  unfold join
  rw [relative, if_neg Bool.false_ne_true]
  cases s with
  | nil => exact relative
  | cons c s => split <;> rfl

theorem components_join (relative : q.isAbsolute = false)
    (front : q.segments.head? ≠ some ['.']) :
    (p.join q).components = p.components ++ q.components := by
  have pieces := segments_join relative (p := p)
  have start := isAbsolute_join relative (p := p)
  rw [components_of_relative relative front]
  cases absolute : p.isAbsolute with
  | true =>
    rw [components_of_absolute absolute, components_of_absolute (start.trans absolute), pieces,
      stepsOf_append, List.cons_append]
  | false =>
    by_cases here : p.segments.head? = some ['.']
    · obtain ⟨s, split⟩ := List.head?_eq_some_iff.1 here
      rw [split, List.cons_append] at pieces
      rw [components_of_here absolute split, components_of_here (start.trans absolute) pieces,
        stepsOf_append, List.cons_append]
    · have front' : (p.join q).segments.head? ≠ some ['.'] := by
        rw [pieces, List.head?_append]
        cases first : p.segments.head? with
        | none => exact front
        | some piece => rwa [first] at here
      rw [components_of_relative absolute here,
        components_of_relative (start.trans absolute) front', pieces, stepsOf_append]

theorem components_name {n : Text} (ne : n ≠ []) (slash : '/' ∉ n) (here : n ≠ ['.'])
    (up : n ≠ "..".toList) : components ⟨n⟩ = [.name n] := by
  have piece := segments_piece ne slash
  have moves : isIdle n = false := by simp [isIdle, ne, here]
  have segment : Component.ofSegment n = .name n := if_neg up
  rw [components_of_relative (isAbsolute_piece slash) (by simp [piece, here]), piece, stepsOf,
    List.filter_cons_of_pos (by simp [moves]), List.filter_nil, List.map_singleton, segment]

theorem components_join_name {n : Text} (ne : n ≠ []) (slash : '/' ∉ n) (here : n ≠ ['.'])
    (up : n ≠ "..".toList) : (p.join ⟨n⟩).components = p.components ++ [.name n] := by
  have front : (segments ⟨n⟩).head? ≠ some ['.'] := by simp [segments_piece ne slash, here]
  rw [components_join (isAbsolute_piece slash) front, components_name ne slash here up]

end Path

namespace Destination

variable {type : Text} (d : Destination)

theorem slash_not_mem (h : isIdentifier type = true) : '/' ∉ type ++ ".hh".toList :=
  List.not_mem_append (not_mem_of_isIdentifier h rfl) (by decide)

theorem segments_headerPath (h : isIdentifier type = true) :
    (d.headerPath type).segments = d.outDir.segments ++ [type ++ ".hh".toList] := by
  have absent := slash_not_mem h
  rw [headerPath, Path.segments_join (Path.isAbsolute_piece absent),
    Path.segments_piece (by simp) absent]

end Destination

variable {type : Text} {c : Catalog}

theorem Destination.components_headerPath (d : Destination) (h : isIdentifier type = true) :
    (d.headerPath type).components = d.outDir.components ++ [.name (type ++ ".hh".toList)] := by
  have apart (s : Text) (none : 'h' ∉ s) : type ++ ".hh".toList ≠ s := by
    rintro rfl
    exact none (List.mem_append_right _ (by decide))
  exact Path.components_join_name (apart _ (by decide)) (slash_not_mem h) (apart _ (by decide))
    (apart _ (by decide))

/-- The header of each type is a file of its own name right in the directory for headers, and no two
of these headers have the same path. -/
theorem plan_contained (valid : c.validate = .ok ()) (d : Destination) :
    ∃ headers, plan c d = .ok (⟨d.defaultHeader, Stub.defaultHeader⟩ :: headers) ∧
      headers.map (·.path.components) =
        c.common.map (fun type => d.outDir.components ++ [.name (type ++ ".hh".toList)]) ∧
      headers.Pairwise fun f g => f.path.components ≠ g.path.components := by
  have order := Catalog.validate_eq_ok_iff.1 valid
  have named : ∀ type ∈ c.common, isIdentifier type = true :=
    fun type mem => order.identifiers .types type (List.mem_append_left _ mem)
  have distinct : c.common.Nodup := (order.distinct .types).of_append_left
  have places : (c.common.map fun type => (⟨d.headerPath type,
      Stub.header type c d.includePath⟩ : PlannedFile)).map (·.path.components) =
        c.common.map (fun type => d.outDir.components ++ [.name (type ++ ".hh".toList)]) := by
    rw [List.map_map]
    exact List.map_congr_left fun type mem => d.components_headerPath (named type mem)
  refine ⟨_, ?_, places, ?_⟩
  · rw [plan, valid]
    rfl
  · rw [← List.pairwise_map (R := (· ≠ ·)), places]
    refine List.Nodup.map (fun type other same => ?_) distinct
    have last := List.append_cancel_left same
    exact List.append_cancel_right (Component.name.inj (List.cons.inj last).1)

/-- The directory is absolute, has pieces that name nothing and leads up. -/
theorem plan_contained_up :
    Catalog.validate ⟨["pos".toList, "_2".toList], [], [], [], []⟩ = .ok () ∧
      ∃ headers, plan ⟨["pos".toList, "_2".toList], [], [], [], []⟩
          ⟨⟨"//a/./../b/.".toList⟩, ⟨[]⟩, []⟩ = .ok (⟨⟨[]⟩, Stub.defaultHeader⟩ :: headers) ∧
        headers.map (·.path.components) =
          [[.root, .name ['a'], .up, .name ['b'], .name "pos.hh".toList],
            [.root, .name ['a'], .up, .name ['b'], .name "_2.hh".toList]] ∧
        headers.Pairwise fun f g => f.path.components ≠ g.path.components := by
  have valid : Catalog.validate ⟨["pos".toList, "_2".toList], [], [], [], []⟩ = .ok () := by decide
  exact ⟨valid, plan_contained valid ⟨⟨"//a/./../b/.".toList⟩, ⟨[]⟩, []⟩⟩

end HeaderForge
