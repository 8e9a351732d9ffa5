import HeaderForge.Proofs.Files.Generation

/-! Generating again. On the tree that a generation left, all directories are there and every path
leads to a file, so each delivery puts a file in the place of a file. One that another will replace
makes no difference, and the last one at a place puts there what is there: the tree ends as it
was. -/

namespace HeaderForge

open FileTree

variable {t u : FileTree} {l : Location} {x y : ByteArray} {f : PlannedFile}
  {files : List PlannedFile} {c : Catalog} {d : Destination} {paths : List Path}

theorem writeFiles_cons (holds : t.Holds f.path l) (files : List PlannedFile) :
    writeFiles t (f :: files) =
      writeFiles (t.put l (.file (Text.encode f.contents))) files := by
  rw [writeFiles, holds.deliver]

theorem grows_put (h : t.entryAt l = some (.file x)) (y : ByteArray) :
    t.Grows (t.put l (.file y)) :=
  .put_file (by simp [h]) y

theorem writeFiles_put (held : ∀ f ∈ files, ∃ m, t.Holds f.path m)
    (at_l : t.entryAt l = some (.file y)) (coming : ∃ f ∈ files, t.locate f.path = .ok l)
    (x : ByteArray) : writeFiles (t.put l (.file x)) files = writeFiles t files := by
  -- The file at hand is put before or after the one that will be replaced.
  induction files generalizing t y with
  | nil => simp at coming
  | cons f files ih =>
    rw [List.forall_mem_cons] at held
    obtain ⟨⟨m, holds⟩, held⟩ := held
    have grown := grows_put at_l x
    rw [writeFiles_cons holds, writeFiles_cons (holds.mono grown)]
    by_cases same : l = m
    · rw [same, put_put]
    · obtain ⟨z, at_m⟩ := holds.file
      have next := grows_put at_m (Text.encode f.contents)
      rw [put_comm at_l same]
      refine ih (fun g mem => ?_) (by rw [entryAt_put_ne t same, at_l]) ?_
      · obtain ⟨k, holds'⟩ := held g mem
        exact ⟨k, holds'.mono next⟩
      · obtain ⟨g, mem, place⟩ := coming
        rcases List.mem_cons.1 mem with rfl | mem
        · rw [holds.place] at place
          cases place
          exact absurd rfl same
        · exact ⟨g, mem, next.locate place⟩

theorem writeFiles_of_held (held : ∀ f ∈ files, ∃ l, t.Holds f.path l)
    (last : ∀ l f, t.lastAt l files = some f →
      t.entryAt l = some (.file (Text.encode f.contents))) :
    writeFiles t files = (t, .ok ()) := by
  induction files with
  | nil => rfl
  | cons f files ih =>
    rw [List.forall_mem_cons] at held
    obtain ⟨⟨l, holds⟩, held⟩ := held
    have behind : ∀ m g, t.lastAt m files = some g →
        t.entryAt m = some (.file (Text.encode g.contents)) := by
      intro m g more
      exact last m g (by rw [lastAt_cons, more, Option.some_or])
    rw [writeFiles_cons holds]
    cases more : t.lastAt l files with
    | none =>
      have here : t.lastAt l (f :: files) = some f := by
        rw [lastAt_cons, more, Option.none_or, if_pos holds.place]
      rw [put_self (last l f here)]
      exact ih held behind
    | some g =>
      obtain ⟨y, at_l⟩ := holds.file
      obtain ⟨mem, place⟩ := lastAt_spec more
      rw [writeFiles_put held at_l ⟨g, mem, place⟩]
      exact ih held behind

theorem Delivered.again (h : Delivered t u files) : writeFiles u files = (u, .ok ()) :=
  writeFiles_of_held h.held h.written

/-- A generation that succeeded succeeds again on the tree that it left, tells the same paths and
changes nothing. -/
theorem generate_idempotent (h : generate t c d = (u, .ok paths)) :
    generate u c d = (u, .ok paths) := by
  obtain ⟨files, planned, wrote, told⟩ := generate_eq_ok_iff.1 h
  exact generate_eq_ok_iff.2 ⟨files, planned, (delivered_of_writeFiles wrote).again, told⟩

/-- Both paths lead to one place, the one through a directory that is made for it. -/
theorem generate_idempotent_shared :
    ∃ u, generate
        ⟨[([['w']], .directory), ([['o']], .directory), ([['o'], "p.hh".toList], .file ⟨#[0]⟩)],
          [['w']]⟩
        ⟨[['p']], [['q']], [['f']], [], [['g']]⟩
        ⟨⟨".././o/".toList⟩, ⟨"/n/../o//p.hh".toList⟩, ['i']⟩ =
        (u, .ok [⟨"/n/../o//p.hh".toList⟩, ⟨".././o/p.hh".toList⟩]) ∧
      generate u ⟨[['p']], [['q']], [['f']], [], [['g']]⟩
        ⟨⟨".././o/".toList⟩, ⟨"/n/../o//p.hh".toList⟩, ['i']⟩ =
        (u, .ok [⟨"/n/../o//p.hh".toList⟩, ⟨".././o/p.hh".toList⟩]) := by
  have run := generate_of_paths
    ⟨[([['w']], .directory), ([['o']], .directory), ([['o'], "p.hh".toList], .file ⟨#[0]⟩)],
      [['w']]⟩
    ⟨[['p']], [['q']], [['f']], [], [['g']]⟩
    ⟨⟨".././o/".toList⟩, ⟨"/n/../o//p.hh".toList⟩, ['i']⟩
    [⟨"/n/../o//p.hh".toList⟩, ⟨".././o/p.hh".toList⟩] (by decide +kernel)
  exact ⟨_, run, generate_idempotent run⟩

end HeaderForge
