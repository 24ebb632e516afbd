/-
# Entropy preview

The summary of a write that every record carries: the score of the bytes that were looked at,
then the scores of up to fifteen consecutive windows of them, so that an encrypted body behind a
plain header can be told from uniform noise.
-/
import FileActivity.Entropy

namespace FileActivity

/-! ## Cutting a list into windows -/

/-- Cuts a list into pieces of `size` elements, the last one possibly shorter. -/
def windows {α : Type} (size : Nat) : Nat → List α → List (List α)
  | 0, _ => []
  | _, [] => []
  | fuel + 1, x :: xs => (x :: xs).take size :: windows size fuel ((x :: xs).drop size)

/-- The consecutive pieces of at most `size` elements that make up a list. -/
def chunks {α : Type} (size : Nat) (xs : List α) : List (List α) := windows size xs.length xs

@[simp] theorem chunks_nil {α : Type} (size : Nat) : chunks size ([] : List α) = [] := rfl

/-! ## The preview -/

/-- Bytes of a preview. -/
def previewLength : Nat := 16

/-- Windows that follow the score of the whole sample. -/
def profileWindows : Nat := previewLength - 1

/-- The randomness summary of a write. -/
structure Preview where
  bytes : List UInt8
  length_eq : bytes.length = previewLength
  deriving DecidableEq, Repr

namespace Preview

/-- The preview of a record that writes nothing. -/
def zeroed : Preview := ⟨List.replicate previewLength 0, by simp⟩

instance : Inhabited Preview := ⟨zeroed⟩

/-- The first bytes of a list, filled up with zeros to the length of a preview. -/
def ofBytes (bytes : List UInt8) : Preview :=
  ⟨bytes.take previewLength ++ List.replicate (previewLength - bytes.length) 0, by
    simp only [List.length_append, List.length_take, List.length_replicate]; omega⟩

/-- The bytes of a buffer that a preview looks at: at most `budget` leading ones. -/
def sample (buffer : List UInt8) (budget : Nat) : List UInt8 := buffer.take budget

/-- The number of bytes in a window of a sample of `n` bytes: as few as fill no more than
fifteen. -/
def windowSize (n : Nat) : Nat := (n + profileWindows - 1) / profileWindows

/-- The preview of the first `budget` bytes of a buffer. -/
def compute (buffer : List UInt8) (budget : Nat) : Preview :=
  let seen := sample buffer budget
  if seen.isEmpty then zeroed
  else ofBytes (Entropy.score seen :: (chunks (windowSize seen.length) seen).map Entropy.score)

/-- The score of the whole sample. -/
def score (p : Preview) : UInt8 := p.bytes.headD 0

/-- The scores of the windows. -/
def profile (p : Preview) : List UInt8 := p.bytes.tail

@[ext] theorem ext {p q : Preview} (h : p.bytes = q.bytes) : p = q := by
  cases p; cases q; simp_all

end Preview

end FileActivity
