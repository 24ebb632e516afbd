/-
# The buffer of a bounded text

A bounded text stands for a buffer of a fixed number of units and a count of those in use.  The
units of a source are copied into the buffer one by one, as long as there is room before its
last unit, and counted as they are copied (`fill`).  What comes of it is the buffer of the
bounded text, with zeros behind the units in use, so texts can be compared by their buffers, and
read back from them up to the first zero unit.

Main statement: `laid_out`.
-/
import FileActivity.Proofs.Record.RoundTrip

namespace FileActivity.BoundedText

variable {capacity : Nat} {source us : List UInt16} {s t : BoundedText capacity}

/-! ## Buffers -/

/-- A buffer of units, and how many of them are in use. -/
structure Buffer where
  units : List UInt16
  used : Nat
  deriving DecidableEq, Repr

/-- A buffer of zeros, none of them in use. -/
def Buffer.blank (capacity : Nat) : Buffer := ⟨List.replicate capacity 0, 0⟩

/-- Puts a unit behind those in use. -/
def Buffer.push (b : Buffer) (u : UInt16) : Buffer := ⟨b.units.set b.used u, b.used + 1⟩

/-- Copies units into a buffer, one by one, until the source or the room for it ends. -/
def fill (capacity : Nat) : List UInt16 → Buffer → Buffer
  | [], b => b
  | u :: us, b => if b.used < maxLength capacity then fill capacity us (b.push u) else b

/-- The buffer of a text. -/
def buffer (t : BoundedText capacity) : Buffer := ⟨t.raw, t.length⟩

/-! ## Copying -/

theorem buffer_empty : (empty : BoundedText capacity).buffer = Buffer.blank capacity := rfl

/-- Copying the units of a text gives the text. -/
theorem ofUnits_units (t : BoundedText capacity) : ofUnits t.units = t := by
  ext1
  exact List.take_of_length_le t.length_le

theorem units_ofUnits_concat (h : t.length < maxLength capacity) (u : UInt16) :
    (ofUnits (t.units ++ [u]) : BoundedText capacity).units = t.units ++ [u] := by
  apply List.take_of_length_le
  rw [List.length_append, List.length_singleton]
  exact h

/-- One more unit takes the place of a zero. -/
theorem push_buffer (h : t.length < maxLength capacity) (u : UInt16) :
    t.buffer.push u = (ofUnits (t.units ++ [u]) : BoundedText capacity).buffer := by
  have hroom : capacity - t.units.length = capacity - (t.units.length + 1) + 1 := by
    unfold length maxLength at h
    omega
  unfold buffer Buffer.push raw length
  rw [units_ofUnits_concat h, List.length_append, List.length_singleton,
    List.set_append_right _ _ (Nat.le_refl _), Nat.sub_self, hroom, List.replicate_succ,
    List.set_cons_zero, List.append_assoc, List.singleton_append]

/-- **Copying units one by one** into the buffer of a text puts them behind its own, as far as
they fit. -/
theorem fill_buffer (t : BoundedText capacity) (source : List UInt16) :
    fill capacity source t.buffer
      = (ofUnits (t.units ++ source) : BoundedText capacity).buffer := by
  induction source generalizing t with
  | nil => rw [fill, List.append_nil, ofUnits_units]
  | cons u us ih =>
    rw [fill]
    split
    · next hroom =>
      rw [push_buffer hroom, ih, units_ofUnits_concat hroom, List.append_assoc,
        List.singleton_append]
    · next hfull =>
      have hlength : t.units.length = capacity - 1 :=
        Nat.le_antisymm t.length_le (Nat.le_of_not_lt hfull)
      have hsame : ofUnits (t.units ++ u :: us) = t := by
        ext1
        rw [units_ofUnits]
        exact List.take_left' hlength
      rw [hsame]

theorem fill_blank (source : List UInt16) :
    fill capacity source (Buffer.blank capacity)
      = (ofUnits source : BoundedText capacity).buffer := by
  rw [← buffer_empty, fill_buffer, units_empty, List.nil_append]

/-- A buffer of one unit holds no text, and one of four holds three units of it. -/
example :
    fill 1 [7, 8] (Buffer.blank 1) = ⟨[0], 0⟩ ∧ fill 4 [7, 0, 8, 9] (Buffer.blank 4)
      = ⟨[7, 0, 8, 0], 3⟩ := by
  decide

/-! ## The units in use -/

theorem take_raw (t : BoundedText capacity) : t.raw.take t.length = t.units := List.take_left

theorem drop_raw (t : BoundedText capacity) :
    t.raw.drop t.length = List.replicate (capacity - t.length) 0 :=
  List.drop_left

/-- Texts with the same buffer have the same units in use. -/
theorem buffer_inj : s.buffer = t.buffer ↔ s.units = t.units := by
  constructor
  · intro h
    rw [buffer, buffer, Buffer.mk.injEq] at h
    rw [← take_raw s, ← take_raw t, h.1, h.2]
  · intro h
    rw [BoundedText.ext h]

/-- How the units of a source are laid out in the buffer of a text. -/
structure LaidOut (source : List UInt16) (t : BoundedText capacity) : Prop where
  /-- They are copied one by one into a blank buffer. -/
  copied : t.buffer = fill capacity source (Buffer.blank capacity)
  /-- The buffer is of its fixed size. -/
  size : t.raw.length = capacity
  /-- All units are in use that fit before the last unit of the buffer. -/
  length_eq : t.length = min (capacity - 1) source.length
  /-- The units in use are the first ones of the source. -/
  front : t.raw.take t.length = source.take t.length
  /-- All units behind them are zero. -/
  zeros : t.raw.drop t.length = List.replicate (capacity - t.length) 0

theorem laidOut_ofUnits (source : List UInt16) :
    LaidOut source (ofUnits source : BoundedText capacity) where
  copied := (fill_blank source).symm
  size := length_raw _
  length_eq := List.length_take
  front := by
    rw [take_raw, length, units_ofUnits, List.length_take, List.take_eq_take_min]
  zeros := drop_raw _

/-- **Bounded texts are laid out in their buffers**, whatever they are built from and however
small the buffer is.

* A text is empty, or built from the units of a source, which are those of a string or of a
  displayed path, or of a buffer up to its first zero.  The first units of the source are copied
  into the buffer, all that fit before its last unit, and everything behind them is zero.
* So texts are equal exactly if their buffers and counts are, and exactly if their units in use are.
* A text is built again from its units in use.
* Read back from its buffer, a text is cut before its first zero unit, and so is itself exactly
  if it has none. -/
theorem laid_out (capacity : Nat) :
    (LaidOut [] (empty : BoundedText capacity)
      ∧ (∀ source, LaidOut source (ofUnits source : BoundedText capacity))
      ∧ (∀ s : String, LaidOut (Utf16.encode s.toList) (ofString s : BoundedText capacity))
      ∧ (∀ p : Path, LaidOut (Utf16.encode p.display.toList) (ofPath p : BoundedText capacity))
      ∧ ∀ source, LaidOut (source.takeWhile (· != 0)) (ofTerminated source : BoundedText capacity))
    ∧ (∀ s t : BoundedText capacity, (s = t ↔ s.buffer = t.buffer)
      ∧ (s.buffer = t.buffer ↔ s.units = t.units))
    ∧ (∀ t : BoundedText capacity,
        t.units = t.buffer.units.take t.buffer.used ∧ ofUnits t.units = t)
    ∧ ∀ t : BoundedText capacity,
      (ofTerminated t.raw : BoundedText capacity).units = t.units.takeWhile (· != 0)
      ∧ (ofTerminated t.raw = t ↔ 0 ∉ t.units) := by
  refine ⟨⟨?empty, laidOut_ofUnits, fun s => laidOut_ofUnits _, fun p => laidOut_ofUnits _,
    fun source => laidOut_ofUnits _⟩,
      fun s t => ⟨⟨fun h => by rw [h], fun h => BoundedText.ext (buffer_inj.mp h)⟩,
    buffer_inj⟩, fun t => ⟨(take_raw t).symm, ofUnits_units t⟩, fun t => ?terminated⟩
  case empty =>
    have hempty : (empty : BoundedText capacity) = ofUnits [] := (ofUnits_units empty).symm
    rw [hempty]
    exact laidOut_ofUnits []
  case terminated =>
    rw [ofTerminated_raw, beforeZero_eq_self_iff]
    exact ⟨rfl, Iff.rfl⟩

end FileActivity.BoundedText
