import HeaderForge.Toml.Quoted
import HeaderForge.Toml.Value

/-! Numbers and moments. Integers must fit in 64 bits, a float must not be so large that it rounds
to infinity, and a moment must be on the calendar and the clock. -/

namespace HeaderForge.Toml.Reader

def digits (p : Char → Bool) : Reader Text := do
  let first ← char p
  return first :: (← bounded more)
where
  more : (limit : Text) → Reader Text
    | [] => pure []
    | _ :: limit =>
      (do
        let _ ← accept ['_']
        let d ← char p
        return d :: (← more limit)) <|> pure []

def decimalValue (digits : Text) : Nat :=
  digits.foldl (fun n c => 10 * n + (c.toNat - '0'.toNat)) 0

def sign : Reader Bool :=
  (exactly ['-'] *> pure true) <|> (exactly ['+'] *> pure false) <|> pure false

def wholeDigits : Reader Text := do
  match ← peek with
  | some '0' => do
    exactly ['0']
    return ['0']
  | _ => digits (·.isDigit)

def based (mark : Text) (base : Nat) (p : Char → Bool) : Reader Nat := do
  exactly mark
  return (← digits p).foldl (fun n c => base * n + hexValue [c]) 0

def integer : Reader Value := do
  let unsigned := based "0x".toList 16 isHexDigit <|>
    based "0o".toList 8 (fun c => '0' ≤ c && c ≤ '7') <|>
    based "0b".toList 2 fun c => c == '0' || c == '1'
  let n : Int ← (do return Int.ofNat (← unsigned)) <|> do
    let negative ← sign
    let n := decimalValue (← wholeDigits)
    return if negative then -Int.ofNat n else Int.ofNat n
  if Int64.minValue.toInt ≤ n && n ≤ Int64.maxValue.toInt then return .integer n else failure

/-- Whether `m · 10 ^ e` rounds to infinity as a double: it is at least half a step above the
largest finite one. The number of digits settles it unless the value is near that bound. -/
def roundsToInfinity (m : Nat) (e : Int) : Bool :=
  let bound := (Nat.pow 2 54 - 1) * Nat.pow 2 970
  let magnitude := (Nat.toDigits 10 m).length + e
  if m = 0 then false
  else if magnitude < 300 then false
  else if magnitude > 320 then true
  else if 0 ≤ e then bound ≤ m * Nat.pow 10 e.toNat
  else bound * Nat.pow 10 (-e).toNat ≤ m

def fraction : Reader Text := do
  exactly ['.']
  digits (·.isDigit)

def exponent : Reader Int := do
  exactly ['e'] <|> exactly ['E']
  let negative ← sign
  let n := decimalValue (← digits (·.isDigit))
  return if negative then -Int.ofNat n else Int.ofNat n

def finiteFloat : Reader Unit := do
  let negative ← sign
  let whole ← wholeDigits
  let (part, power) ← (do return ([], ← exponent)) <|> do
    let part ← fraction
    return (part, ← exponent <|> pure 0)
  if !negative && roundsToInfinity (decimalValue (whole ++ part)) (power - part.length) then
    failure

def float : Reader Value := do
  let (spelling, _) ← spelled (finiteFloat <|> do
    let _ ← sign
    exactly "inf".toList <|> exactly "nan".toList)
  return .float spelling

def field (n low high : Nat) : Reader Nat := do
  let v := decimalValue (← chars (·.isDigit) n)
  if low ≤ v && v ≤ high then return v else failure

def daysIn (year month : Nat) : Nat :=
  if month = 2 then
    if year % 4 = 0 && (year % 100 ≠ 0 || year % 400 = 0) then 29 else 28
  else if month = 4 ∨ month = 6 ∨ month = 9 ∨ month = 11 then 30
  else 31

def date : Reader Unit := do
  let year ← field 4 0 9999
  exactly ['-']
  let month ← field 2 1 12
  exactly ['-']
  let _ ← field 2 1 (daysIn year month)

def time : Reader Unit := do
  let _ ← field 2 0 23
  exactly [':']
  let _ ← field 2 0 59
  exactly [':']
  let _ ← field 2 0 60
  (do
    exactly ['.']
    let _ ← char (·.isDigit)
    let _ ← run (·.isDigit)) <|> pure ()

def zone : Reader Unit :=
  exactly ['Z'] <|> exactly ['z'] <|> do
    exactly ['+'] <|> exactly ['-']
    let _ ← field 2 0 23
    exactly [':']
    let _ ← field 2 0 59

def moment : Reader Value := do
  let (spelling, _) ← spelled ((do
    date
    (do
      exactly ['T'] <|> exactly ['t'] <|> exactly [' ']
      time
      zone <|> pure ()) <|> pure ()) <|> time)
  return .moment spelling

def boolean : Reader Value :=
  (exactly "true".toList *> pure (.boolean true)) <|>
  (exactly "false".toList *> pure (.boolean false))

def scalar : Reader Value :=
  (do return .string (← string)) <|> moment <|> float <|> integer <|> boolean

end HeaderForge.Toml.Reader
