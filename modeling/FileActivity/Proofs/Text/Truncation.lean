/-
# What a bounded text shows

A bounded text keeps the first units of a text, and the cut may fall between the two halves of a
surrogate pair. What is shown of it is then the characters that were kept whole and one
replacement character for the half that was left over (`decode_take_encode`).

Main statement: `shows_true_prefix`.
-/
import FileActivity.Proofs.Text.Utf8
import FileActivity.Text.Bounded

namespace FileActivity

namespace Utf16

variable {c : Char} {cs ps qs : List Char} {m : Nat}

/-! ## Characters by their units -/

/-- The number of units of a text. -/
def unitLength (cs : List Char) : Nat := (encode cs).length

@[simp] theorem unitLength_nil : unitLength [] = 0 := rfl

@[simp] theorem unitLength_cons (c : Char) (cs : List Char) :
    unitLength (c :: cs) = width c + unitLength cs := by
  rw [unitLength, encode_cons, List.length_append, length_encodeChar]
  rfl

theorem unitLength_append (xs ys : List Char) :
    unitLength (xs ++ ys) = unitLength xs + unitLength ys := by
  rw [unitLength, encode_append, List.length_append]
  rfl

theorem width_pos (c : Char) : 0 < width c := by
  unfold width
  split
  · exact Nat.one_pos
  · exact Nat.two_pos

theorem width_le_two (c : Char) : width c ≤ 2 := by
  unfold width
  split <;> omega

theorem toNat_toUInt16 {n : Nat} (h : n < 0x10000) : n.toUInt16.toNat = n :=
  Nat.mod_eq_of_lt h

/-- A character takes one unit that is no surrogate, or a pair of surrogates, and is read back
from them. -/
theorem encodeChar_cases (c : Char) :
    (∃ u, encodeChar c = [u] ∧ isHigh u = false ∧ single u = c)
    ∨ ∃ u v, encodeChar c = [u, v] ∧ isHigh u = true ∧ isLow v = true ∧ pair u v = c := by
  have hrange := Utf8.toNat_range c
  unfold encodeChar
  split
  · next hnarrow =>
    left
    have hunit := toNat_toUInt16 hnarrow
    have hhigh : isHigh c.toNat.toUInt16 = false := by
      simp only [isHigh, hunit, Bool.and_eq_false_iff, decide_eq_false_iff_not]
      omega
    have hlow : isLow c.toNat.toUInt16 = false := by
      simp only [isLow, hunit, Bool.and_eq_false_iff, decide_eq_false_iff_not]
      omega
    refine ⟨_, rfl, hhigh, ?_⟩
    rw [single, hhigh, hlow, hunit]
    exact Char.ofNat_toNat c
  · next hwide =>
    right
    have hfirst := toNat_toUInt16 (show 0xd800 + (c.toNat - 0x10000) / 0x400 < 0x10000 by omega)
    have hsecond := toNat_toUInt16 (show 0xdc00 + (c.toNat - 0x10000) % 0x400 < 0x10000 by omega)
    refine ⟨_, _, rfl, ?_, ?_, ?_⟩
    · simp only [isHigh, hfirst, Bool.and_eq_true, decide_eq_true_eq]
      omega
    · simp only [isLow, hsecond, Bool.and_eq_true, decide_eq_true_eq]
      omega
    · have hsum : 0x10000 + (0xd800 + (c.toNat - 0x10000) / 0x400 - 0xd800) * 0x400
          + (0xdc00 + (c.toNat - 0x10000) % 0x400 - 0xdc00) = c.toNat := by omega
      rw [pair, hfirst, hsecond, hsum]
      exact Char.ofNat_toNat c

/-- Half a pair is shown as the replacement character. -/
theorem decode_half {u : UInt16} (hu : isHigh u = true) : decode [u] = ['\uFFFD'] := by
  show [single u] = ['\uFFFD']
  rw [single, hu]
  rfl

/-! ## The longest prefix that fits -/

/-- The longest beginning of a text that takes at most `m` units, in whole characters. -/
structure LongestWithin (m : Nat) (cs ps : List Char) : Prop where
  isPrefix : ps <+: cs
  fits : unitLength ps ≤ m
  longest : ∀ qs, qs <+: cs → unitLength qs ≤ m → qs <+: ps

/-- A character that is left out although a unit is left over is one of two units. -/
theorem LongestWithin.exists_wide (h : LongestWithin m cs ps) (hhalf : unitLength ps + 1 = m)
    (hcut : m < unitLength cs) : ∃ c, ps ++ [c] <+: cs ∧ width c = 2 := by
  obtain ⟨rest, rfl⟩ := h.isPrefix
  cases rest with
  | nil =>
    rw [List.append_nil] at hcut
    omega
  | cons c rest =>
    have hnext : ps ++ [c] <+: ps ++ c :: rest :=
      ⟨rest, by rw [List.append_assoc, List.singleton_append]⟩
    refine ⟨c, hnext, Nat.le_antisymm (width_le_two c) (Nat.le_of_not_lt fun hone => ?_)⟩
    -- had it one unit, it would fit as well
    have hunits : unitLength (ps ++ [c]) ≤ m := by
      rw [unitLength_append, unitLength_cons, unitLength_nil]
      omega
    have hlonger := (h.longest _ hnext hunits).length_le
    rw [List.length_append, List.length_singleton] at hlonger
    omega

/-- Takes characters as long as their units fit. -/
def takeWithin : Nat → List Char → List Char
  | _, [] => []
  | m, c :: cs => if width c ≤ m then c :: takeWithin (m - width c) cs else []

theorem longestWithin_takeWithin (m : Nat) (cs : List Char) :
    LongestWithin m cs (takeWithin m cs) := by
  induction cs generalizing m with
  | nil => exact ⟨List.nil_prefix, Nat.zero_le m, fun qs hqs _ => hqs⟩
  | cons c cs ih =>
    rw [takeWithin]
    split
    · next hwidth =>
      obtain ⟨hbegins, hfits, hlongest⟩ := ih (m - width c)
      refine ⟨List.cons_prefix_cons.mpr ⟨rfl, hbegins⟩, ?_, fun qs hqs hunits => ?_⟩
      · rw [unitLength_cons]
        omega
      · cases qs with
        | nil => exact List.nil_prefix
        | cons d qs =>
          obtain ⟨rfl, hrest⟩ := List.cons_prefix_cons.mp hqs
          rw [unitLength_cons] at hunits
          exact List.cons_prefix_cons.mpr ⟨rfl, hlongest qs hrest (by omega)⟩
    · next hwidth =>
      refine ⟨List.nil_prefix, Nat.zero_le m, fun qs hqs hunits => ?_⟩
      cases qs with
      | nil => exact List.nil_prefix
      | cons d qs =>
        -- the first character alone is too wide
        obtain ⟨rfl, -⟩ := List.cons_prefix_cons.mp hqs
        rw [unitLength_cons] at hunits
        omega

theorem takeWithin_of_unitLength_le (h : unitLength cs ≤ m) : takeWithin m cs = cs :=
  have hlongest := longestWithin_takeWithin m cs
  hlongest.isPrefix.eq_of_length_le (hlongest.longest cs (List.prefix_refl cs) h).length_le

/-- What is left over where a text is cut: one unit if the cut falls inside a pair, none
otherwise. -/
theorem unitLength_takeWithin (h : m ≤ unitLength cs) :
    unitLength (takeWithin m cs) = m ∨ unitLength (takeWithin m cs) + 1 = m := by
  induction cs generalizing m with
  | nil => exact .inl (Nat.le_zero.mp h).symm
  | cons c cs ih =>
    rw [unitLength_cons] at h
    have hpos := width_pos c
    have hle := width_le_two c
    rw [takeWithin]
    split
    · rw [unitLength_cons]
      rcases ih (m := m - width c) (by omega) with hrest | hrest
      · left; omega
      · right; omega
    · rw [unitLength_nil]
      omega

/-! ## Reading units that were cut -/

/-- **Units that were cut** are read as the characters that were kept whole, and a replacement
character if a unit was left over. -/
theorem decode_take_encode (m : Nat) (cs : List Char) :
    decode ((encode cs).take m)
      = takeWithin m cs ++ if unitLength (takeWithin m cs) < min m (unitLength cs) then ['\uFFFD']
        else [] := by
  induction cs generalizing m with
  | nil => simp [takeWithin]
  | cons c cs ih =>
    rw [encode_cons, takeWithin, unitLength_cons]
    -- what one character does to the three lengths
    have hstep : ∀ n, unitLength (c :: takeWithin n cs)
        < min (n + width c) (width c + unitLength cs)
        ↔ unitLength (takeWithin n cs) < min n (unitLength cs) := by
      intro n
      rw [unitLength_cons]
      omega
    rcases encodeChar_cases c with ⟨u, hunits, hu, hread⟩ | ⟨u, v, hunits, hu, hv, hread⟩
    · have hwidth : width c = 1 := by rw [← length_encodeChar, hunits]; rfl
      cases m with
      | zero => simp [hwidth]
      | succ m =>
        have hfits : width c ≤ m + 1 := by omega
        have hrest : m + 1 - width c = m := by omega
        rw [hunits, List.singleton_append, List.take_succ_cons, decode_cons_of_not_high hu, hread,
          ih, if_pos hfits, hrest, List.cons_append]
        simp only [← hstep m, hwidth]
    · have hwidth : width c = 2 := by rw [← length_encodeChar, hunits]; rfl
      match m with
      | 0 => simp [hwidth]
      | 1 =>
        -- the cut falls inside the pair
        have hhalf : decode (([u, v] ++ encode cs).take 1) = ['\uFFFD'] := decode_half hu
        rw [hunits, hhalf, if_neg (by omega), unitLength_nil, if_pos (by omega)]
        rfl
      | m + 2 =>
        have hfits : width c ≤ m + 2 := by omega
        have hrest : m + 2 - width c = m := by omega
        have htake : ([u, v] ++ encode cs).take (m + 2) = u :: v :: (encode cs).take m := rfl
        rw [hunits, htake, decode_pair hu hv, hread, ih, if_pos hfits, hrest, List.cons_append]
        simp only [← hstep m, hwidth]

/-- **A text is read back from its units.** -/
theorem decode_encode (cs : List Char) : decode (encode cs) = cs := by
  have hwhole := decode_take_encode (unitLength cs) cs
  rw [takeWithin_of_unitLength_le (Nat.le_refl _), Nat.min_self, if_neg (Nat.lt_irrefl _),
    List.append_nil] at hwhole
  rwa [unitLength, List.take_length] at hwhole

end Utf16

namespace BoundedText

open Utf16

variable {capacity : Nat}

theorem length_ofString (s : String) :
    (ofString s : BoundedText capacity).length = min (maxLength capacity) (unitLength s.toList) :=
  List.length_take

theorem display_ofString (s : String) :
    (ofString s : BoundedText capacity).display
      = String.ofList (decode ((encode s.toList).take (maxLength capacity))) := rfl

/-- A text that fits is shown as it is. -/
theorem display_ofString_of_le {s : String} (h : unitLength s.toList ≤ maxLength capacity) :
    (ofString s : BoundedText capacity).display = s := by
  rw [display_ofString, List.take_of_length_le h, decode_encode, String.ofList_toList]

/-- A text that does not fit is shown up to the cut. -/
theorem display_ofString_of_lt {s : String} (h : maxLength capacity < unitLength s.toList) :
    ∃ p, LongestWithin (maxLength capacity) s.toList p
      ∧ (unitLength p = maxLength capacity
          ∧ (ofString s : BoundedText capacity).display = String.ofList p
        ∨ unitLength p + 1 = maxLength capacity ∧ (∃ c, p ++ [c] <+: s.toList ∧ width c = 2)
          ∧ (ofString s : BoundedText capacity).display = String.ofList (p ++ ['\uFFFD'])) := by
  have hlongest := longestWithin_takeWithin (maxLength capacity) s.toList
  refine ⟨_, hlongest, ?_⟩
  rw [display_ofString, decode_take_encode, Nat.min_eq_left (Nat.le_of_lt h)]
  rcases unitLength_takeWithin (Nat.le_of_lt h) with hwhole | hhalf
  · left
    refine ⟨hwhole, ?_⟩
    rw [hwhole, if_neg (Nat.lt_irrefl _), List.append_nil]
  · right
    refine ⟨hhalf, hlongest.exists_wide hhalf h, ?_⟩
    rw [if_pos (by omega)]

/-- A beginning of a text with at most one replacement character behind it. -/
def IsBeginning (shown s : String) : Prop :=
  ∃ p, p <+: s.toList ∧ (shown = String.ofList p ∨ shown = String.ofList (p ++ ['\uFFFD']))

theorem isBeginning_display (s : String) :
    IsBeginning (ofString s : BoundedText capacity).display s := by
  rcases Nat.lt_or_ge (maxLength capacity) (unitLength s.toList) with hcut | hfits
  · obtain ⟨p, hlongest, ⟨-, hshown⟩ | ⟨-, -, hshown⟩⟩ := display_ofString_of_lt hcut
    · exact ⟨p, hlongest.isPrefix, .inl hshown⟩
    · exact ⟨p, hlongest.isPrefix, .inr hshown⟩
  · refine ⟨s.toList, List.prefix_refl _, .inl ?_⟩
    rw [display_ofString_of_le hfits, String.ofList_toList]

/-- How a bounded text shows a text of which it keeps the first units: `m` of them, if its
buffer has `m` units before the last one. -/
structure ShowsPrefix (s : String) (t : BoundedText capacity) : Prop where
  of_fits : unitLength s.toList ≤ maxLength capacity →
    t.display = s ∧ t.length = unitLength s.toList
  of_cut : maxLength capacity < unitLength s.toList → t.length = maxLength capacity
    ∧ ∃ p, LongestWithin (maxLength capacity) s.toList p
      ∧ (unitLength p = maxLength capacity ∧ t.display = String.ofList p
        ∨ unitLength p + 1 = maxLength capacity ∧ (∃ c, p ++ [c] <+: s.toList ∧ width c = 2)
          ∧ t.display = String.ofList (p ++ ['\uFFFD']))
  isBeginning : IsBeginning t.display s

theorem showsPrefix_ofString (s : String) : ShowsPrefix s (ofString s : BoundedText capacity) where
  of_fits := by
    intro hfits
    exact ⟨display_ofString_of_le hfits, (length_ofString s).trans (Nat.min_eq_right hfits)⟩
  of_cut := by
    intro hcut
    exact ⟨(length_ofString s).trans (Nat.min_eq_left (Nat.le_of_lt hcut)),
      display_ofString_of_lt hcut⟩
  isBeginning := isBeginning_display s

/-- **A bounded text shows a true prefix** of a string, and of the displayed text of a path.

* A text of at most `m` units is kept, and shown as it is.
* Of a longer one `m` units are kept.  What is shown is its longest beginning, in whole
  characters, that takes at most `m` units: alone if it takes all of them, and with one
  replacement character behind it if it takes one less, the cut being inside a character of two
  units.
* So what is shown is never anything but a beginning of the text and at most one replacement
  character. -/
theorem shows_true_prefix (capacity : Nat) :
    (∀ s : String, ShowsPrefix s (ofString s : BoundedText capacity))
    ∧ ∀ path : Path, ShowsPrefix path.display (ofPath path : BoundedText capacity) :=
  ⟨showsPrefix_ofString, fun path => showsPrefix_ofString path.display⟩

/-- Three units hold two of text: a letter, and half of the character behind it. -/
example : (ofString "a😀b" : BoundedText 3).display = "a\uFFFD" := by decide

end BoundedText

end FileActivity
