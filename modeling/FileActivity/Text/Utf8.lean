/-
# UTF-8

Bytes as characters and back.  The reader is a machine that takes one byte at a time and, where
the bytes are no character, gives up at the first byte that no character allows: the bytes so
far are one invalid part, and that byte starts anew.
-/

namespace FileActivity.Utf8

/-- The bytes of one character. -/
def encodeChar (c : Char) : List UInt8 :=
  let n := c.toNat
  if n < 0x80 then [n.toUInt8]
  else if n < 0x800 then [(0xc0 + n / 0x40).toUInt8, (0x80 + n % 0x40).toUInt8]
  else if n < 0x10000 then
    [(0xe0 + n / 0x1000).toUInt8, (0x80 + n / 0x40 % 0x40).toUInt8, (0x80 + n % 0x40).toUInt8]
  else
    [(0xf0 + n / 0x40000).toUInt8, (0x80 + n / 0x1000 % 0x40).toUInt8,
      (0x80 + n / 0x40 % 0x40).toUInt8, (0x80 + n % 0x40).toUInt8]

/-- The bytes of a text. -/
def encode (cs : List Char) : List UInt8 := cs.flatMap encodeChar

/-- Where the reader stands between two bytes. -/
inductive State where
  /-- Between characters. -/
  | start
  /-- Inside a character: its value so far, the number of bytes to come, and the least and the
  greatest byte that may come next. -/
  | inside (value more low high : Nat)
  deriving DecidableEq, Repr

/-- Reads the first byte of a character: what is complete, and where the reader stands. -/
def first (b : UInt8) : List (Option Char) × State :=
  let n := b.toNat
  if n < 0x80 then ([some (Char.ofNat n)], .start)
  else if n < 0xc2 then ([none], .start)
  else if n < 0xe0 then ([], .inside (n - 0xc0) 1 0x80 0xbf)
  else if n = 0xe0 then ([], .inside 0 2 0xa0 0xbf)
  else if n = 0xed then ([], .inside 0xd 2 0x80 0x9f)
  else if n < 0xf0 then ([], .inside (n - 0xe0) 2 0x80 0xbf)
  else if n = 0xf0 then ([], .inside 0 3 0x90 0xbf)
  else if n < 0xf4 then ([], .inside (n - 0xf0) 3 0x80 0xbf)
  else if n = 0xf4 then ([], .inside 4 3 0x80 0x8f)
  else ([none], .start)

/-- Reads one byte: the characters it completes (`none` for an invalid part), and where the reader
stands after it. -/
def step : State → UInt8 → List (Option Char) × State
  | .start, b => first b
  | .inside value more low high, b =>
    if low ≤ b.toNat && b.toNat ≤ high then
      let value := value * 0x40 + b.toNat % 0x40
      if more ≤ 1 then ([some (Char.ofNat value)], .start)
      else ([], .inside value (more - 1) 0x80 0xbf)
    else (none :: (first b).1, (first b).2)

/-- The characters of the bytes that follow a state, `none` standing for each maximal invalid
part. -/
def read : State → List UInt8 → List (Option Char)
  | .start, [] => []
  | .inside .., [] => [none]
  | s, b :: rest => (step s b).1 ++ read (step s b).2 rest

/-- The text of some bytes, each maximal invalid part shown as U+FFFD. -/
def decodeLossy (bytes : List UInt8) : List Char := (read .start bytes).map (·.getD '\uFFFD')

/-- The text of some bytes, if they are valid throughout. -/
def decode? (bytes : List UInt8) : Option (List Char) := (read .start bytes).mapM id

@[simp] theorem encode_cons (c : Char) (cs : List Char) :
    encode (c :: cs) = encodeChar c ++ encode cs := rfl

@[simp] theorem encode_append (xs ys : List Char) : encode (xs ++ ys) = encode xs ++ encode ys := by
  simp [encode]

end FileActivity.Utf8
