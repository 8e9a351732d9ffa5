import HeaderForge.Path
import HeaderForge.Text.Basic

/-! File trees: regular files and directories under one root, and the directory that relative
paths start from. A path is followed piece by piece, and each piece needs an existing directory to
start from; `..` at the root stays there. What fails changes nothing. -/

namespace HeaderForge

inductive Reason
  | notFound
  | alreadyExists
  | notDirectory
  | isDirectory
  | invalidUtf8
  | nulInPath
  deriving DecidableEq, Repr

def Reason.message : Reason → Text
  | notFound => "No such file or directory (os error 2)".toList
  | alreadyExists => "File exists (os error 17)".toList
  | notDirectory => "Not a directory (os error 20)".toList
  | isDirectory => "Is a directory (os error 21)".toList
  | invalidUtf8 => "stream did not contain valid UTF-8".toList
  | nulInPath => "file name contained an unexpected NUL byte".toList

structure FileFault where
  path : Path
  reason : Reason
  deriving DecidableEq, Repr

def FileFault.message (f : FileFault) : Text := f.path.text ++ ": ".toList ++ f.reason.message

abbrev Location := List Text

inductive Entry
  | file (contents : ByteArray)
  | directory

structure FileTree where
  entries : List (Location × Entry)
  workingDirectory : Location

namespace FileTree

def entryAt (t : FileTree) (l : Location) : Option Entry :=
  if l = [] then some .directory else t.entries.lookup l

def putEntry (l : Location) (e : Entry) : List (Location × Entry) → List (Location × Entry)
  | [] => [(l, e)]
  | x :: entries => if x.1 = l then (l, e) :: entries else x :: putEntry l e entries

theorem lookup_putEntry_self (l : Location) (e : Entry) (entries : List (Location × Entry)) :
    (putEntry l e entries).lookup l = some e := by
  induction entries with
  | nil => simp [putEntry]
  | cons x entries ih =>
    obtain ⟨k, v⟩ := x
    by_cases h : k = l
    · simp [putEntry, h]
    · simp [putEntry, h, List.lookup_cons, beq_false_of_ne (Ne.symm h), ih]

theorem lookup_putEntry_ne {l m : Location} (h : m ≠ l) (e : Entry)
    (entries : List (Location × Entry)) :
    (putEntry l e entries).lookup m = entries.lookup m := by
  induction entries with
  | nil => simp [putEntry, List.lookup_cons, beq_false_of_ne h]
  | cons x entries ih =>
    obtain ⟨k, v⟩ := x
    by_cases hk : k = l
    · subst hk
      simp [putEntry, List.lookup_cons, beq_false_of_ne h]
    · simp [putEntry, hk, List.lookup_cons, ih]

def put (t : FileTree) (l : Location) (e : Entry) : FileTree :=
  { t with entries := putEntry l e t.entries }

theorem entryAt_put_self (t : FileTree) {l : Location} (h : l ≠ []) (e : Entry) :
    (t.put l e).entryAt l = some e := by
  simp [entryAt, put, h, lookup_putEntry_self]

theorem entryAt_put_ne (t : FileTree) {l m : Location} (h : m ≠ l) (e : Entry) :
    (t.put l e).entryAt m = t.entryAt m := by
  simp [entryAt, put, lookup_putEntry_ne h]

def step (t : FileTree) (l : Location) (piece : Text) : Except Reason Location :=
  match t.entryAt l with
  | none => .error .notFound
  | some (.file _) => .error .notDirectory
  | some .directory =>
      .ok (if piece = ['.'] then l else if piece = ['.', '.'] then l.dropLast else l ++ [piece])

/-- The location that a path leads to, at which something may stand or not. -/
def locate (t : FileTree) (p : Path) : Except Reason Location :=
  if '\x00' ∈ p.text then .error .nulInPath
  else if p.text = [] then .error .notFound
  else p.segments.foldlM t.step (if p.isAbsolute then [] else t.workingDirectory)

def find (t : FileTree) (p : Path) : Except Reason Entry :=
  match t.locate p with
  | .error r => .error r
  | .ok l =>
    match t.entryAt l with
    | none => .error .notFound
    | some (.file contents) =>
        if p.text.getLast? = some '/' then .error .notDirectory else .ok (.file contents)
    | some .directory => .ok .directory

def isFile (t : FileTree) (p : Path) : Bool :=
  match t.find p with
  | .ok (.file _) => true
  | _ => false

def isDirectory (t : FileTree) (p : Path) : Bool :=
  match t.find p with
  | .ok .directory => true
  | _ => false

def contains (t : FileTree) (p : Path) : Bool := (t.find p).isOk

def readText (t : FileTree) (p : Path) : Except FileFault Text :=
  match t.find p with
  | .error r => .error ⟨p, r⟩
  | .ok .directory => .error ⟨p, .isDirectory⟩
  | .ok (.file contents) =>
    match Text.decode? contents with
    | some text => .ok text
    | none => .error ⟨p, .invalidUtf8⟩

def makeDirectory (t : FileTree) (p : Path) : Except Reason FileTree :=
  match t.locate p with
  | .error r => .error r
  | .ok l =>
    match t.entryAt l with
    | some _ => .error .alreadyExists
    | none => .ok (t.put l .directory)

/-- Makes the first of the paths a directory, each of the others leading to the one before it.
A missing parent is made first; what was made stays, even if a later step fails. -/
def makeAll (t : FileTree) : List Path → FileTree × Except Reason Unit
  | [] => (t, .error .notFound)
  | p :: parents =>
      if p.text = [] then (t, .ok ())
      else
        match t.makeDirectory p with
        | .ok u => (u, .ok ())
        | .error .notFound =>
          match t.makeAll parents with
          | (u, .error r) => (u, .error r)
          | (u, .ok ()) =>
            match u.makeDirectory p with
            | .ok v => (v, .ok ())
            | .error r => (u, if u.isDirectory p then .ok () else .error r)
        | .error r => (t, if t.isDirectory p then .ok () else .error r)

def makeDirectories (t : FileTree) (p : Path) : FileTree × Except Reason Unit :=
  t.makeAll p.ancestors

def write (t : FileTree) (p : Path) (contents : ByteArray) : Except Reason FileTree :=
  match t.locate p with
  | .error r => .error r
  | .ok l =>
      if p.text.getLast? = some '/' then .error .isDirectory
      else
        match t.entryAt l with
        | some .directory => .error .isDirectory
        | _ => .ok (t.put l (.file contents))

/-- Makes the directory of a file, unless the path names none, and writes the file. -/
def deliver (t : FileTree) (p : Path) (contents : ByteArray) :
    FileTree × Except FileFault Unit :=
  match p.parent? with
  | none => finish t
  | some parent =>
      if parent.text = [] then finish t
      else
        match t.makeDirectories parent with
        | (u, .error r) => (u, .error ⟨parent, r⟩)
        | (u, .ok ()) => finish u
where
  finish (t : FileTree) : FileTree × Except FileFault Unit :=
    match t.write p contents with
    | .ok u => (u, .ok ())
    | .error r => (t, .error ⟨p, r⟩)

def inside (t : FileTree) (l : Location) : List Location :=
  (t.entries.map (·.1)).filter fun m => l.isPrefixOf m && m.length > l.length

def below (t : FileTree) (l : Location) : List Location :=
  (t.inside l).mergeSort fun m n => !n.lex m Text.lt

def children (t : FileTree) (l : Location) : List Text :=
  (t.inside l).filterMap fun m =>
    match m.drop l.length with
    | [n] => some n
    | _ => none

def listing (t : FileTree) : List Text :=
  let l := t.workingDirectory
  let shown := (t.below l).map fun m =>
    ['/'].intercalate (m.drop l.length) ++
      match t.entryAt m with
      | some .directory => ['/']
      | _ => []
  shown.mergeSort Text.le

end FileTree
end HeaderForge
