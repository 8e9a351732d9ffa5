import HeaderForge.Checked.Header
import HeaderForge.Proofs.Checked.Signature
import HeaderForge.Proofs.Header.Scan

/-! No check of a header fails: the places of its lines are no more than its bytes, and every line
is no longer than the whole. So each reader gives what it gives without checks. -/

namespace HeaderForge

open Text

theorem Text.utf8Size_le_of_mem_lines {t line : Text} (h : line ∈ lines t) :
    utf8Size line ≤ utf8Size t := by
  unfold lines at h
  induction t using mark_induction '\n' with
  | last t absent =>
    rw [List.splitOn_eq_singleton absent, List.mem_singleton] at h
    rw [h]
  | next s t absent ih =>
    rw [List.splitOn_append_cons_self_of_not_mem absent, List.mem_cons] at h
    rw [utf8Size_append, utf8Size_cons]
    rcases h with rfl | h
    · omega
    · have below := ih h
      omega

theorem Text.length_lines_le (t : Text) : (lines t).length ≤ utf8Size t + 1 := by
  have size := length_le_utf8Size t
  have feeds := List.count_le_length (a := '\n') (l := t)
  rw [length_lines]
  omega

theorem Text.utf8Size_trim_le (t : Text) : utf8Size (trim t) ≤ utf8Size t := by
  obtain ⟨w, w', -, -, split⟩ := trim_spec t
  have size := congrArg utf8Size split
  rw [utf8Size_append, utf8Size_append] at size
  omega

namespace Checked

variable {pre rest : List Text} {line template : Text}

theorem linesBetween?_append (a b c : List Text) :
    linesBetween? (a ++ (b ++ c)) a.length (a.length + b.length) = some b := by
  have inside : a.length + b.length ≤ (a ++ (b ++ c)).length := by
    rw [List.length_append, List.length_append]
    omega
  rw [linesBetween?, if_pos ⟨Nat.le_add_right .., inside⟩, ← List.append_assoc, List.take_left',
    List.drop_left]
  exact List.length_append

theorem findIdx?_eq {α : Type} (p : α → Bool) (l : List α) : l.findIdx? p =
    match l.dropWhile (!p ·) with
    | [] => none
    | _ :: _ => some (l.takeWhile (!p ·)).length := by
  induction l with
  | nil => rfl
  | cons a l ih =>
    rw [List.findIdx?_cons, ih, List.dropWhile_cons, List.takeWhile_cons]
    cases p a with
    | true => rfl
    | false => cases l.dropWhile (!p ·) <;> rfl

theorem readBody_eq (number : Nat) (few : (pre ++ rest).length < 2 ^ 32)
    (list : utf8Size template < 2 ^ 31) (own : utf8Size line < 2 ^ 31) :
    readBody (pre ++ rest) number pre.length template (trim line) =
      some (match rest.dropWhile (!closesBody ·) with
        | [] => .error (.unterminatedBody number)
        | closing :: below =>
          (Block.read ⟨template, rest.takeWhile (!closesBody ·), closing, below⟩ line).map
            fun d => (d, pre.length + (rest.takeWhile (!closesBody ·)).length + 1)) := by
  have below := linesBetween?_append pre rest []
  rw [List.append_nil, ← List.length_append] at below
  rw [List.length_append] at few
  have room : min pre.length (pre ++ rest).length = pre.length := by
    rw [List.length_append]
    omega
  rw [readBody, room, below, some_bind, findIdx?_eq]
  cases closed : rest.dropWhile (!closesBody ·) with
  | nil => rfl
  | cons closing below =>
    have split := List.takeWhile_append_dropWhile (p := (!closesBody ·)) (l := rest)
    rw [closed] at split
    generalize rest.takeWhile (!closesBody ·) = body at split ⊢
    have lines := linesBetween?_append pre body (closing :: below)
    rw [split] at lines
    have inside := congrArg List.length split
    rw [List.length_append, List.length_cons] at inside
    dsimp only
    rw [add?_eq (by omega), some_bind, readTemplateParameters_eq list, some_bind, lines,
      readDeclaration_eq (Nat.lt_of_le_of_lt (utf8Size_trim_le line) own), Block.read]
    cases HeaderForge.readTemplateParameters template with
    | error e => rfl
    | ok templateParameters =>
      dsimp only
      rw [some_bind]
      cases HeaderForge.readDeclaration (trim line) with
      | error e => rfl
      | ok declaration =>
        dsimp only
        rw [some_bind, add?_eq (by omega)]
        rfl

theorem readBlock_eq (few : (pre ++ line :: rest).length < 2 ^ 32)
    (small : ∀ l ∈ pre ++ line :: rest, utf8Size l < 2 ^ 31) :
    readBlock (pre ++ line :: rest) pre.length (trim line) =
      some (match Block.cut (pre.length + 1) pre.getLast? rest with
        | .error e => .error e
        | .ok b => (b.read line).map fun d => (d, pre.length + b.body.length + 3)) := by
  have own := small line (by simp)
  have size : pre.length < 2 ^ 32 := by
    rw [List.length_append] at few
    omega
  rw [readBlock, add?_eq (by omega), some_bind, add?_eq (by omega)]
  cases above : pre.getLast? with
  | none =>
    rw [List.getLast?_eq_none_iff.1 above]
    rfl
  | some template =>
    have pos : 1 ≤ pre.length := by
      rw [Nat.one_le_iff_ne_zero, ne_eq, List.length_eq_zero_iff]
      rintro rfl
      cases above
    have here : (pre ++ line :: rest)[pre.length - 1]? = some template := by
      rw [List.getElem?_append_left (by omega), ← List.getLast?_eq_getElem?, above]
    have list : utf8Size template < 2 ^ 31 := small template (List.mem_of_getElem? here)
    have next : (pre ++ line :: rest)[pre.length + 1]? = rest.head? := by
      rw [List.getElem?_append_right (Nat.le_succ _), Nat.succ_sub (Nat.le_refl _), Nat.sub_self]
      cases rest <;> rfl
    rw [sub?_eq pos]
    dsimp only
    rw [here, some_bind, some_bind, next]
    cases rest with
    | nil => rfl
    | cons opening rest =>
      have found : ((opening :: rest).head?.map trim).getD [] = trim opening := rfl
      rw [found, Block.cut]
      by_cases opens : trim opening = ['{']
      · have open_ : opensBody opening = true := beq_iff_eq.2 opens
        have split : pre ++ line :: opening :: rest = (pre ++ [line, opening]) ++ rest := by simp
        have first : (pre ++ [line, opening]).length = pre.length + 2 := List.length_append
        rw [split] at few
        have body := readBody_eq (pre.length + 1) few list own
        rw [first, ← split] at body
        rw [if_pos opens, if_pos open_, body]
        cases rest.dropWhile (!closesBody ·) with
        | nil => rfl
        | cons closing below =>
          have place : pre.length + 2 + (rest.takeWhile (!closesBody ·)).length + 1 =
            pre.length + (rest.takeWhile (!closesBody ·)).length + 3 := by omega
          rw [place]
      · have shut : opensBody opening = false := beq_eq_false_iff_ne.2 opens
        rw [if_neg opens, shut]
        rfl

theorem fewer_left {below : Nat} (h : pre.length < below) :
    (pre ++ line :: rest).length - below < (pre ++ line :: rest).length - pre.length := by
  rw [List.length_append, List.length_cons]
  omega

section Step

variable {names : List Text} {e : ReadError} {d : Definition} {below : Nat}

theorem readLines_of_line (names pre : List Text) (line : Text) (rest : List Text) :
    readLines names (pre ++ line :: rest) pre.length =
      (if isDeclarationLine line then do
        match ← readBlock (pre ++ line :: rest) pre.length (trim line) with
        | .error e => return .error e
        | .ok (d, below) =>
            let ⟨below, _⟩ ← smaller? ((pre ++ line :: rest).length - ·) pre.length below
            return (← readLines names (pre ++ line :: rest) below).map
              fun ds => if isWanted names d then d :: ds else ds
      else do
        let next ← add? pre.length 1
        let ⟨next, _⟩ ← smaller? ((pre ++ line :: rest).length - ·) pre.length next
        readLines names (pre ++ line :: rest) next) := by
  have found : (pre ++ line :: rest)[pre.length]? = some line := by simp
  rw [readLines, if_pos (by simp), found, some_bind]
  rfl

theorem readLines_fault (mark : isDeclarationLine line)
    (fault : readBlock (pre ++ line :: rest) pre.length (trim line) = some (.error e)) :
    readLines names (pre ++ line :: rest) pre.length = some (.error e) := by
  rw [readLines_of_line, if_pos mark, fault]
  rfl

theorem readLines_block (mark : isDeclarationLine line)
    (block : readBlock (pre ++ line :: rest) pre.length (trim line) = some (.ok (d, below)))
    (passed : pre.length < below) : readLines names (pre ++ line :: rest) pre.length =
      (readLines names (pre ++ line :: rest) below).map
        (·.map fun ds => if isWanted names d then d :: ds else ds) := by
  rw [readLines_of_line, if_pos mark, block, some_bind]
  dsimp only
  rw [smaller?_bind (fewer_left passed)]
  cases readLines names (pre ++ line :: rest) below <;> rfl

theorem readLines_other (other : ¬ isDeclarationLine line) (few : pre.length + 1 < 2 ^ 64) :
    readLines names (pre ++ line :: rest) pre.length =
      readLines names (pre ++ line :: rest) (pre.length + 1) := by
  rw [readLines_of_line, if_neg other, add?_eq few, some_bind,
    smaller?_bind (fewer_left (Nat.lt_succ_self _))]

end Step

/-- From any place on, the lines below it are read as they are without places. The lines `pre` above
the place stand for what the readers without places carry along: the number of the next line and
the line above it. -/
theorem readLines_eq (names : List Text) (number : Nat) (above : Option Text)
    (few : (pre ++ rest).length < 2 ^ 32) (small : ∀ l ∈ pre ++ rest, utf8Size l < 2 ^ 31)
    (numbered : number = pre.length + 1) (last : above = pre.getLast?) :
    readLines names (pre ++ rest) pre.length =
      some (HeaderForge.readLines names number above rest) := by
  fun_induction HeaderForge.readLines names number above rest generalizing pre with
  | case1 number above =>
    rw [readLines, if_neg (by simp)]
    rfl
  | case2 number above line rest mark e fault =>
    subst numbered last
    refine readLines_fault mark ?_
    rw [readBlock_eq few small, fault]
  | case3 number above line rest mark b cut e fault =>
    subst numbered last
    refine readLines_fault mark ?_
    rw [readBlock_eq few small, cut]
    dsimp only
    rw [fault]
    rfl
  | case4 number above line rest mark b cut d read ih =>
    subst numbered last
    obtain ⟨-, opening, below, -⟩ := Block.cut_eq_ok.1 cut
    have whole : pre ++ line :: rest =
        ((pre ++ line :: opening :: b.body) ++ [b.closing]) ++ b.below := by simp [below]
    have size : ((pre ++ line :: opening :: b.body) ++ [b.closing]).length =
        pre.length + b.body.length + 3 := by
      simp only [List.length_append, List.length_cons, List.length_nil]
      omega
    have block := readBlock_eq few small
    rw [cut] at block
    dsimp only at block
    rw [read] at block
    rw [whole] at few small
    have next := ih few small (by rw [size]; omega) List.getLast?_concat.symm
    rw [size, ← whole] at next
    rw [readLines_block mark block (by omega), next]
    rfl
  | case5 number above line rest mark ih =>
    subst numbered last
    have whole : pre ++ line :: rest = (pre ++ [line]) ++ rest := by simp
    have size : (pre ++ [line]).length = pre.length + 1 := List.length_append
    have bound : pre.length + 1 < 2 ^ 64 := by
      rw [List.length_append] at few
      omega
    rw [readLines_other mark bound]
    rw [whole] at few small ⊢
    have next := ih few small (by rw [size]) List.getLast?_concat.symm
    rwa [size] at next

theorem readHeader_eq {t : Text} (small : utf8Size t < 2 ^ 31) (names : List Text) :
    readHeader t names = some (HeaderForge.readHeader t names) := by
  have few : ([] ++ lines t).length < 2 ^ 32 :=
    Nat.lt_of_le_of_lt (length_lines_le t) (by omega)
  refine readLines_eq names 1 none few ?_ rfl rfl
  intro line at_
  exact Nat.lt_of_le_of_lt (utf8Size_le_of_mem_lines at_) small

end Checked

/-- On a text of less than 2^31 bytes no check of any reader fails, and each reader ends: it gives
what it gives without checks. -/
theorem readers_checked {text : Text} (small : utf8Size text < 2 ^ 31) :
    (∀ start, Checked.indexOfClosing text start = some (indexOfClosing text start)) ∧
      Checked.readTemplateParameters text = some (readTemplateParameters text) ∧
      Checked.readParameterList text = some (readParameterList text) ∧
      Checked.readDeclaration text = some (readDeclaration text) ∧
      ∀ names, Checked.readHeader text names = some (readHeader text names) :=
  ⟨Checked.indexOfClosing_eq small, Checked.readTemplateParameters_eq small,
    Checked.readParameterList_eq small, Checked.readDeclaration_eq small,
    Checked.readHeader_eq small⟩

theorem readers_checked_wide :
    utf8Size "f\u00a0<é β>".toList < 2 ^ 31 ∧
      Checked.indexOfClosing "f\u00a0<é β>".toList 3 = some (.ok (some 9)) ∧
      Checked.readTemplateParameters "f\u00a0<é β>".toList =
        some (.ok [⟨['é'], ['β'], []⟩]) := by
  have small : utf8Size "f\u00a0<é β>".toList < 2 ^ 31 := by decide
  obtain ⟨partner, list, -⟩ := readers_checked small
  exact ⟨small, (partner 3).trans (by rfl), list.trans (by rfl)⟩

end HeaderForge
