/-! Text is a list of characters, so that every reader is a recursion on what it reads. Offsets in
messages count the bytes of the UTF-8 form: the offset of a place is the size of the text before it.
Files hold the UTF-8 bytes of a text, and bytes that are not UTF-8 are no text. Blank characters are
those of the Unicode property White_Space; trimming, words and the text without its blanks are
all taken over this one class. A reader that goes on from where another stopped does so only if less
is left than before, so that it ends whatever the other does. -/

namespace HeaderForge

abbrev Text := List Char

namespace Text

def utf8 (t : Text) : List UInt8 := t.flatMap String.utf8EncodeChar

def utf8Size : Text → Nat
  | [] => 0
  | c :: t => c.utf8Size + utf8Size t

theorem length_utf8 (t : Text) : (utf8 t).length = utf8Size t := by
  induction t with
  | nil => rfl
  | cons c t ih =>
    rw [utf8, List.flatMap_cons, List.length_append, String.length_utf8EncodeChar, utf8Size, ← ih,
      utf8]

@[simp] theorem utf8_append (s t : Text) : utf8 (s ++ t) = utf8 s ++ utf8 t := by
  simp [utf8]

@[simp] theorem utf8Size_append (s t : Text) : utf8Size (s ++ t) = utf8Size s + utf8Size t := by
  rw [← length_utf8, utf8_append, List.length_append, length_utf8, length_utf8]

/-- The lines of a text: the pieces between its line feeds, so that a text with no line feed is
one line and a final line feed is followed by an empty line. A carriage return stays in its line. -/
def lines (t : Text) : List Text := t.splitOn '\n'

def stripPrefix? (p t : Text) : Option Text :=
  if p.isPrefixOf t then some (t.drop p.length) else none

theorem stripPrefix?_eq_some {p t rest : Text} :
    stripPrefix? p t = some rest ↔ t = p ++ rest := by
  unfold stripPrefix?
  split
  · rename_i h
    obtain ⟨s, rfl⟩ := List.isPrefixOf_iff_prefix.1 h
    simp [eq_comm]
  · rename_i h
    simp only [reduceCtorEq, false_iff]
    rintro rfl
    exact h (List.isPrefixOf_iff_prefix.2 (List.prefix_append ..))

def decimal (n : Nat) : Text := Nat.toDigits 10 n

/-- Texts in the order of their code points, which is that of their UTF-8 bytes. -/
def lt (s t : Text) : Bool := s.lex t (·.val < ·.val)

def le (s t : Text) : Bool := !lt t s

def encode (t : Text) : ByteArray := (String.ofList t).toUTF8

def decode? (bytes : ByteArray) : Option Text := (String.fromUTF8? bytes).map (·.toList)

theorem decode?_encode (t : Text) : decode? (encode t) = some t := by
  have h : (encode t).IsValidUTF8 := (String.ofList t).isValidUTF8
  unfold decode? String.fromUTF8?
  rw [dif_pos h]
  exact congrArg some String.toList_ofList

def isBlank (c : Char) : Bool :=
  let n := c.toNat
  (9 ≤ n && n ≤ 13) || n == 0x20 || n == 0x85 || n == 0xA0 || n == 0x1680 ||
    (0x2000 ≤ n && n ≤ 0x200A) || n == 0x2028 || n == 0x2029 || n == 0x202F ||
    n == 0x205F || n == 0x3000

def trimStart (t : Text) : Text := t.dropWhile isBlank

def trimEnd (t : Text) : Text := (t.reverse.dropWhile isBlank).reverse

def trim (t : Text) : Text := trimEnd (trimStart t)

theorem length_trimStart_le (t : Text) : (trimStart t).length ≤ t.length :=
  (List.dropWhile_sublist isBlank).length_le

theorem trimStart_eq_self {c : Char} {t : Text} (h : isBlank c = false) :
    trimStart (c :: t) = c :: t := by
  simp [trimStart, h]

def words (t : Text) : List Text := (t.splitOnP isBlank).filter (!·.isEmpty)

def withoutBlanks (t : Text) : Text := t.filter (!isBlank ·)

@[simp] theorem withoutBlanks_append (s t : Text) :
    withoutBlanks (s ++ t) = withoutBlanks s ++ withoutBlanks t := by
  simp [withoutBlanks]

end Text

section Progress

variable {α β : Type} {size : α → Nat} {a b : α}

def smaller? (size : α → Nat) (a b : α) : Option { b : α // size b < size a } :=
  if h : size b < size a then some ⟨b, h⟩ else none

theorem smaller?_eq_some_iff {c : { b : α // size b < size a }} :
    smaller? size a b = some c ↔ c.1 = b := by
  unfold smaller?
  split
  · rw [Option.some.injEq, Subtype.ext_iff, eq_comm]
  · rename_i large
    refine iff_of_false nofun ?_
    rintro rfl
    exact large c.2

theorem smaller?_bind (h : size b < size a) (f : { b : α // size b < size a } → Option β) :
    (smaller? size a b >>= f) = f ⟨b, h⟩ := by
  rw [smaller?_eq_some_iff (c := ⟨b, h⟩) |>.2 rfl]
  rfl

end Progress

end HeaderForge
