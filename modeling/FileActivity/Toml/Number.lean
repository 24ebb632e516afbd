/-
# Numbers, truth values and instants in TOML

Integers have 64 bits and a sign; underscores may stand between digits.  A date or time is checked
against the calendar and kept as written.
-/
import FileActivity.Decimal.Binary64
import FileActivity.Toml.Text
import FileActivity.Toml.Value

namespace FileActivity.Toml

/-! ## Digits -/

/-- Reads a run of digits in which single underscores may stand between digits; the first digit is
read.  Gives the digits without the underscores. -/
def digitRun (isDigit : Char → Bool) : Reader (List Char)
  | [] => none
  | c :: cs => if isDigit c then some (more [c] cs) else none
where
  /-- The digits that follow those read so far. -/
  more (read : List Char) : List Char → List Char × List Char
    | '_' :: d :: cs => if isDigit d then more (d :: read) cs else (read.reverse, '_' :: d :: cs)
    | c :: cs => if isDigit c then more (c :: read) cs else (read.reverse, c :: cs)
    | [] => (read.reverse, [])

/-- Reads an optional sign; true for minus. -/
def sign : List Char → Bool × List Char
  | '-' :: cs => (true, cs)
  | '+' :: cs => (false, cs)
  | cs => (false, cs)

/-- Reads a decimal number without leading zeros. -/
def decimalDigits : Reader (List Char)
  | '0' :: cs => some (['0'], cs)
  | cs => digitRun Char.isDigit cs

/-- The number that digits stand for in a base. -/
def digitsValue (base : Nat) (digits : List Char) : Nat :=
  digits.foldl (fun n c => n * base + (hexDigit? c).getD 0) 0

/-! ## Integers -/

/-- An integer, if it fits. -/
def fitting (n : Int) : Option Value :=
  if Value.minInteger ≤ n ∧ n ≤ Value.maxInteger then some (.integer n) else none

/-- Reads the digits of an integer in a base other than ten. -/
def basedInteger (base : Nat) (isDigit : Char → Bool) : Reader Value := fun cs => do
  let (digits, rest) ← digitRun isDigit cs
  return (← fitting (digitsValue base digits), rest)

/-- Reads an integer. -/
def integer : Reader Value
  | '0' :: 'x' :: cs => basedInteger 16 (fun c => (hexDigit? c).isSome) cs
  | '0' :: 'o' :: cs => basedInteger 8 (fun c => '0' ≤ c && c ≤ '7') cs
  | '0' :: 'b' :: cs => basedInteger 2 (fun c => c == '0' || c == '1') cs
  | cs => do
    let (negative, rest) := sign cs
    let (digits, rest) ← decimalDigits rest
    let n : Int := digitsValue 10 digits
    return (← fitting (if negative then -n else n), rest)

/-! ## Floats -/

/-- Reads the exponent of a float, if there is one. -/
def exponent : List Char → Option (Option Int × List Char)
  | c :: cs =>
    if c = 'e' ∨ c = 'E' then do
      let (negative, rest) := sign cs
      let (digits, rest) ← digitRun Char.isDigit rest
      let n : Int := digitsValue 10 digits
      return (some (if negative then -n else n), rest)
    else some (none, c :: cs)
  | [] => some (none, [])

/-- Reads a float: digits with a fraction, an exponent or both.  Infinity and what is not a
number are spelled out; a positive number out of range is refused. -/
def float : Reader Value := fun cs => do
  let (negative, rest) := sign cs
  let signed (x : Float) : Value := .float (if negative then -x else x)
  match rest with
  | 'i' :: 'n' :: 'f' :: rest => return (signed (1 / 0), rest)
  | 'n' :: 'a' :: 'n' :: rest => return (signed (0 / 0), rest)
  | rest =>
    let (whole, rest) ← decimalDigits rest
    let (fraction, rest) ← match rest with
      | '.' :: rest => (digitRun Char.isDigit rest).map fun (f, rest) => (some f, rest)
      | rest => some (none, rest)
    let (power, rest) ← exponent rest
    if fraction.isNone && power.isNone then none
    else
      let places := (fraction.getD []).length
      let digits := whole ++ fraction.getD []
      let x := Binary64.ofDecimal (digitsValue 10 digits) digits.length (power.getD 0 - places)
      if x.isInf && !negative then none else some (signed x, rest)

/-! ## Instants -/

/-- Reads exactly `count` digits as a number between `low` and `high`. -/
def fixedDigits (count low high : Nat) : Reader Nat := fun cs =>
  let digits := cs.take count
  let n := digitsValue 10 digits
  if digits.length = count ∧ digits.all Char.isDigit ∧ low ≤ n ∧ n ≤ high then
    some (n, cs.drop count)
  else none

/-- The number of days of a month. -/
def daysOfMonth (year month : Nat) : Nat :=
  match month with
  | 2 => if year % 4 = 0 ∧ (year % 100 ≠ 0 ∨ year % 400 = 0) then 29 else 28
  | 4 | 6 | 9 | 11 => 30
  | _ => 31

/-- Takes a date. -/
def skipDate (cs : List Char) : Option (List Char) := do
  let (year, rest) ← fixedDigits 4 0 9999 cs
  let (month, rest) ← fixedDigits 2 1 12 (← expect '-' rest)
  let (_, rest) ← fixedDigits 2 1 (daysOfMonth year month) (← expect '-' rest)
  return rest

/-- Takes a fraction of a second, if there is one. -/
def skipFraction : List Char → List Char
  | '.' :: c :: cs => if c.isDigit then cs.dropWhile Char.isDigit else '.' :: c :: cs
  | cs => cs

/-- Takes a time of day. -/
def skipTime (cs : List Char) : Option (List Char) := do
  let (_, rest) ← fixedDigits 2 0 23 cs
  let (_, rest) ← fixedDigits 2 0 59 (← expect ':' rest)
  let (_, rest) ← fixedDigits 2 0 60 (← expect ':' rest)
  return skipFraction rest

/-- Takes the distance from universal time, if there is one. -/
def skipOffset (cs : List Char) : Option (List Char) :=
  match cs with
  | 'Z' :: rest => some rest
  | 'z' :: rest => some rest
  | c :: rest =>
    if c = '+' ∨ c = '-' then do
      let (_, rest) ← fixedDigits 2 0 23 rest
      let (_, rest) ← fixedDigits 2 0 59 (← expect ':' rest)
      return rest
    else some cs
  | [] => some []

/-- Takes a time that follows a date, with its offset, if there is one. -/
def skipTimeOfDate (cs : List Char) : Option (List Char) :=
  match cs with
  | c :: rest =>
    if c = 'T' ∨ c = 't' ∨ c = ' ' then
      match skipTime rest with
      | some rest => skipOffset rest
      | none => some cs
    else some cs
  | [] => some []

/-- Reads a date, a time, or both. -/
def instant : Reader Value := fun cs => do
  let rest ← match skipDate cs with
    | some rest => skipTimeOfDate rest
    | none => skipTime cs
  return (.datetime (String.ofList (cs.take (cs.length - rest.length))), rest)

/-! ## Scalars -/

/-- Takes a word. -/
def word (w : String) : Skipper := fun cs =>
  if w.toList.isPrefixOf cs then some (cs.drop w.length) else none

/-- Reads a value that holds no other values. -/
def scalar : Reader Value
  | [] => none
  | c :: cs =>
    if c = '"' ∨ c = '\x27' then do
      let (text, rest) ← anyText (c :: cs)
      return (.string text, rest)
    else if c = 't' then (word "true" (c :: cs)).map (.boolean true, ·)
    else if c = 'f' then (word "false" (c :: cs)).map (.boolean false, ·)
    else (instant (c :: cs)).or ((float (c :: cs)).or (integer (c :: cs)))

end FileActivity.Toml
