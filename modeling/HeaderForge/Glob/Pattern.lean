import HeaderForge.Text.Basic

/-! Wildcard patterns. `?` is any character, `*` any run of characters, `[a-z]` a character of a
class and `[!a-z]` one outside it; `**` must be a whole component and stands for any directories.
Nothing is special about a dot in front of a name, and case matters. -/

namespace HeaderForge.Glob

structure CharRange where
  first : Char
  last : Char
  deriving DecidableEq, Repr

def CharRange.contains (r : CharRange) (c : Char) : Bool :=
  r.first.val ≤ c.val && c.val ≤ r.last.val

inductive Token
  | char (c : Char)
  | anyChar
  | anyRun
  | anyDirectories
  | oneOf (ranges : List CharRange)
  | noneOf (ranges : List CharRange)
  deriving DecidableEq, Repr

inductive Complaint
  | invalidRange
  | tooManyStars
  | notWholeComponent
  deriving DecidableEq, Repr

structure PatternFault where
  position : Nat
  complaint : Complaint
  deriving DecidableEq, Repr

def Complaint.message : Complaint → Text
  | invalidRange => "invalid range pattern".toList
  | tooManyStars => "wildcards are either regular \x60*\x60 or recursive \x60**\x60".toList
  | notWholeComponent => "recursive wildcards must form a single path component".toList

def PatternFault.message (f : PatternFault) : Text :=
  "Pattern syntax error near position ".toList ++ Text.decimal f.position ++ ": ".toList ++
    f.complaint.message

def ranges : Text → List CharRange
  | a :: '-' :: b :: rest => ⟨a, b⟩ :: ranges rest
  | a :: rest => ⟨a, a⟩ :: ranges rest
  | [] => []

/-- The class behind an opening bracket and what follows it. A closing bracket in the first place
of a class belongs to it. -/
def readClass : Text → Option (Token × Text)
  | '!' :: c :: rest =>
      if ']' ∈ rest then
        some (.noneOf (ranges (c :: rest.takeWhile (· ≠ ']'))), (rest.dropWhile (· ≠ ']')).drop 1)
      else none
  | ['!'] => none
  | c :: rest =>
      if ']' ∈ rest then
        some (.oneOf (ranges (c :: rest.takeWhile (· ≠ ']'))), (rest.dropWhile (· ≠ ']')).drop 1)
      else none
  | [] => none

theorem length_readClass_lt {t rest : Text} {k : Token} (h : readClass t = some (k, rest)) :
    rest.length < t.length := by
  have shorter (s : Text) : ((s.dropWhile (· ≠ ']')).drop 1).length ≤ s.length := by
    have := (List.dropWhile_sublist (fun c : Char => decide (c ≠ ']')) (l := s)).length_le
    simp only [List.length_drop]
    omega
  unfold readClass at h
  split at h
  · split at h
    · simp only [Option.some.injEq, Prod.mk.injEq] at h
      obtain ⟨-, rfl⟩ := h
      exact Nat.lt_of_le_of_lt (shorter _) (by simp only [List.length_cons]; omega)
    · cases h
  · cases h
  · split at h
    · simp only [Option.some.injEq, Prod.mk.injEq] at h
      obtain ⟨-, rfl⟩ := h
      exact Nat.lt_of_le_of_lt (shorter _) (by simp)
    · cases h
  · cases h

def readTokens (pos : Nat) (previous : Option Char) : Text → Except PatternFault (List Token)
  | [] => .ok []
  | '?' :: rest => (readTokens (pos + 1) (some '?') rest).map (.anyChar :: ·)
  | '*' :: '*' :: '*' :: _ => .error ⟨pos + 2, .tooManyStars⟩
  | '*' :: '*' :: rest =>
      if previous.all (· == '/') then
        match rest with
        | [] => .ok [.anyDirectories]
        | '/' :: rest => (readTokens (pos + 3) (some '/') rest).map (.anyDirectories :: ·)
        | _ => .error ⟨pos + 2, .notWholeComponent⟩
      else .error ⟨pos - 1, .notWholeComponent⟩
  | '*' :: rest => (readTokens (pos + 1) (some '*') rest).map (.anyRun :: ·)
  | '[' :: rest =>
      match _h : readClass rest with
      | none => .error ⟨pos, .invalidRange⟩
      | some (k, after) =>
          (readTokens (pos + 1 + (rest.length - after.length)) (some ']') after).map (k :: ·)
  | c :: rest => (readTokens (pos + 1) (some c) rest).map (.char c :: ·)
termination_by t => t.length
decreasing_by
  all_goals simp only [List.length_cons]
  all_goals first
    | omega
    | exact Nat.lt_succ_of_lt (length_readClass_lt _h)

def tokens (t : Text) : Except PatternFault (List Token) := readTokens 0 none t

def Token.rest? : Token → Text → Option Text
  | .char d, c :: rest => if c = d then some rest else none
  | .anyChar, _ :: rest => some rest
  | .oneOf rs, c :: rest => if rs.any (·.contains c) then some rest else none
  | .noneOf rs, c :: rest => if rs.any (·.contains c) then none else some rest
  | _, _ => none

def ends : Text → List Text
  | [] => [[]]
  | c :: rest => (c :: rest) :: ends rest

/-- The ends of a name that can be left behind a token, given those that can be left before it, the
longest first. A run leaves any end of the longest, and so of all of them. -/
def Token.leave : Token → List Text → List Text
  | .anyRun, longest :: _ => ends longest
  | .anyDirectories, longest :: _ => ends longest
  | k, before => before.filterMap k.rest?

def fits (ks : List Token) (name : Text) : Bool :=
  (ks.foldl (fun before k => k.leave before) [name]).any (·.isEmpty)

def spelling? : List Token → Option Text
  | [] => some []
  | .char c :: ks => (spelling? ks).map (c :: ·)
  | _ :: _ => none

end HeaderForge.Glob
