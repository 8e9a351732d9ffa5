import HeaderForge.Text.Basic

/-! Command line arguments. A short option takes its value as `-nX`, `-n=X` or `-n X`, a long one
as `--name=X` or `--name X`; short flags may share one dash. Two dashes end the options, a lone
dash is no option, and an argument of its own that begins with a dash is no value. -/

namespace HeaderForge.Command

inductive Arity
  | flag
  | single
  | many
  deriving DecidableEq, Repr

structure Switch (key : Type) where
  key : key
  short : Option Char
  long : Text
  arity : Arity
  mayBeEmpty : Bool

structure Arguments (key : Type) where
  options : List (key × Text)
  positionals : List Text

inductive Refusal
  | usage
  | help
  deriving DecidableEq, Repr

namespace Switch

variable {key : Type}

/-- One argument read: the options found in it, and what comes after them: nothing, an option that
still needs a value, or a refusal. -/
abbrev Found (key : Type) := List (key × Text) × Except Refusal (Option (Switch key))

def attach (s : Switch key) : (value : Option Text) → Found key
  | none => if s.arity = .flag then ([(s.key, [])], .ok none) else ([], .ok (some s))
  | some v =>
      if s.arity = .flag then ([], .error .usage)
      else if v.isEmpty && !s.mayBeEmpty then ([], .error .usage)
      else ([(s.key, v)], .ok none)

def readShort (switches : List (Switch key)) : Text → Found key
  | [] => ([], .ok none)
  | c :: rest =>
    match switches.find? fun s => s.short == some c with
    | none => ([], .error (if c = 'h' then .help else .usage))
    | some s =>
      if s.arity = .flag then
        let (found, after) := readShort switches rest
        ((s.key, []) :: found, after)
      else
        match rest with
        | [] => s.attach none
        | '=' :: value => s.attach (some value)
        | value => s.attach (some value)

def readLong (switches : List (Switch key)) (t : Text) : Found key :=
  let name := t.takeWhile (· ≠ '=')
  match switches.find? fun s => s.long == name with
  | none => ([], .error (if t = "help".toList then .help else .usage))
  | some s =>
    match t.dropWhile (· ≠ '=') with
    | [] => s.attach none
    | _ :: value => s.attach (some value)

def readAll (switches : List (Switch key)) :
    (pending : Option (Switch key)) → List Text → Arguments key × Option Refusal
  | none, [] => (⟨[], []⟩, none)
  | some _, [] => (⟨[], []⟩, some .usage)
  | pending, a :: rest =>
    match a with
    | '-' :: c :: name =>
      if pending.isSome then (⟨[], []⟩, some .usage)
      else if c = '-' ∧ name = [] then (⟨[], rest⟩, none)
      else
        match (if c = '-' then readLong switches name else readShort switches (c :: name)) with
        | (found, .error r) => (⟨found, []⟩, some r)
        | (found, .ok pending) =>
            let (args, refusal) := readAll switches pending rest
            ({ args with options := found ++ args.options }, refusal)
    | _ =>
      match pending with
      | none =>
          let (args, refusal) := readAll switches none rest
          ({ args with positionals := a :: args.positionals }, refusal)
      | some s =>
        match s.attach (some a) with
        | (found, .error r) => (⟨found, []⟩, some r)
        | (found, .ok _) =>
            let (args, refusal) := readAll switches none rest
            ({ args with options := found ++ args.options }, refusal)

def isRepeated [DecidableEq key] (options : List (key × Text)) (s : Switch key) : Bool :=
  s.arity != .many && decide (1 < options.countP (·.1 = s.key))

/-- Reads the arguments of a command, which takes positional ones or none. They are judged in their
order, so a repeated option or a positional one in vain is refused although help is asked for
behind it. -/
def read [DecidableEq key] (switches : List (Switch key)) (takesPositionals : Bool)
    (args : List Text) : Except Refusal (Arguments key) :=
  match readAll switches none args with
  | (found, refusal) =>
    if switches.any (isRepeated found.options) then .error .usage
    else if !takesPositionals && !found.positionals.isEmpty then .error .usage
    else
      match refusal with
      | some r => .error r
      | none => .ok found

end Switch

namespace Arguments

variable {key : Type} [DecidableEq key]

def values (args : Arguments key) (k : key) : List Text :=
  (args.options.filter (·.1 = k)).map (·.2)

def value? (args : Arguments key) (k : key) : Option Text := (args.values k).head?

def has (args : Arguments key) (k : key) : Bool := args.options.any (·.1 = k)

end Arguments
end HeaderForge.Command
