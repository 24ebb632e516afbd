/-
# Text that is shown and kept again

Units may be surrogates in any arrangement.  A pair stands wherever a high surrogate is directly
before a low one, and every other surrogate is unpaired.  Reading gives one replacement
character for each of these, which takes one unit again; so the text that was read takes as many
units as before, and each of them is in its place (`encode_decode`).

Main statement: `redisplayed`.
-/
import FileActivity.Proofs.Text.Truncation

namespace FileActivity

namespace Utf16

variable {p : UInt16 → Bool} {u v : UInt16} {us xs ys : List UInt16} {i : Nat}

/-! ## Unpaired surrogates -/

/-- A unit that is half of a surrogate pair, or should be. -/
def isSurrogate (u : UInt16) : Bool := isHigh u || isLow u

/-- A unit of the kind `p` is at place `i`. -/
def IsAt (p : UInt16 → Bool) (us : List UInt16) (i : Nat) : Prop := us[i]?.any p

/-- A pair begins at place `i`. -/
def PairAt (us : List UInt16) (i : Nat) : Prop := IsAt isHigh us i ∧ IsAt isLow us (i + 1)

/-- The unit at place `i` is the second half of a pair, or the first. -/
def InPair (us : List UInt16) : Nat → Prop
  | 0 => PairAt us 0
  | i + 1 => PairAt us i ∨ PairAt us (i + 1)

/-- The unit at place `i` is a surrogate, but no half of a pair. -/
def Unpaired (us : List UInt16) (i : Nat) : Prop := IsAt isSurrogate us i ∧ ¬ InPair us i

instance : DecidablePred (IsAt p us) := fun _ => inferInstanceAs (Decidable (_ = true))

instance : DecidablePred (PairAt us) := fun _ => inferInstanceAs (Decidable (_ ∧ _))

instance : DecidablePred (InPair us)
  | 0 => inferInstanceAs (Decidable (PairAt us 0))
  | _ + 1 => inferInstanceAs (Decidable (_ ∨ _))

instance : DecidablePred (Unpaired us) := fun _ => inferInstanceAs (Decidable (_ ∧ _))

theorem isAt_iff (h : us[i]? = some u) : IsAt p us i ↔ p u = true := by
  rw [IsAt, h, Option.any_some]

theorem not_isAt_of_length_le (h : us.length ≤ i) : ¬ IsAt p us i := by
  rw [IsAt, List.getElem?_eq_none h]
  exact Bool.false_ne_true

theorem not_isAt_replicate {n : Nat} (h : p u = false) : ¬ IsAt p (List.replicate n u) i := by
  rw [IsAt, List.getElem?_replicate]
  split
  · rw [Option.any_some, h]
    exact Bool.false_ne_true
  · exact Bool.false_ne_true

theorem IsAt.lt_length (h : IsAt p us i) : i < us.length :=
  Nat.lt_of_not_le fun hout => not_isAt_of_length_le hout h

/-! ### Units behind others -/

theorem isAt_append_left (h : i < xs.length) : IsAt p (xs ++ ys) i ↔ IsAt p xs i := by
  rw [IsAt, List.getElem?_append_left h, IsAt]

theorem isAt_append_right (i : Nat) : IsAt p (xs ++ ys) (xs.length + i) ↔ IsAt p ys i := by
  rw [IsAt, List.getElem?_append_right (Nat.le_add_right _ _), Nat.add_sub_cancel_left, IsAt]

theorem pairAt_append_right (i : Nat) : PairAt (xs ++ ys) (xs.length + i) ↔ PairAt ys i :=
  and_congr (isAt_append_right i) (isAt_append_right (i + 1))

/-- Where `ys` is put behind `xs`, it is not between the halves of a pair. -/
def Apart (xs ys : List UInt16) : Prop :=
  ∀ i, i + 1 = xs.length → IsAt isHigh xs i → ¬ IsAt isLow ys 0

theorem pairAt_append_left (hapart : Apart xs ys) (h : i < xs.length) :
    PairAt (xs ++ ys) i ↔ PairAt xs i := by
  rw [PairAt, PairAt, isAt_append_left h]
  rcases Nat.lt_or_ge (i + 1) xs.length with hin | hend
  · rw [isAt_append_left hin]
  · -- the last unit of `xs` begins no pair, neither here nor there
    have hlast : i + 1 = xs.length := Nat.le_antisymm h hend
    have hnext : IsAt isLow (xs ++ ys) (i + 1) ↔ IsAt isLow ys 0 := hlast ▸ isAt_append_right 0
    rw [hnext]
    constructor
    · intro hpair
      exact absurd hpair.2 (hapart i hlast hpair.1)
    · intro hpair
      exact absurd hpair.2 (not_isAt_of_length_le hend)

theorem inPair_append_left (hapart : Apart xs ys) (h : i < xs.length) :
    InPair (xs ++ ys) i ↔ InPair xs i := by
  cases i with
  | zero => exact pairAt_append_left hapart h
  | succ i =>
    exact or_congr (pairAt_append_left hapart (Nat.lt_of_succ_lt h)) (pairAt_append_left hapart h)

theorem inPair_append_right (hapart : Apart xs ys) (i : Nat) :
    InPair (xs ++ ys) (xs.length + i) ↔ InPair ys i := by
  cases i with
  | succ i => exact or_congr (pairAt_append_right i) (pairAt_append_right (i + 1))
  | zero =>
    cases hlength : xs.length with
    | zero =>
      rw [List.eq_nil_of_length_eq_zero hlength]
      rfl
    | succ n =>
      -- the unit before this one is the last of `xs`
      have hlast : n < xs.length := hlength ▸ Nat.lt_succ_self n
      have hbefore : ¬ PairAt (xs ++ ys) n := by
        rw [pairAt_append_left hapart hlast]
        intro hpair
        exact not_isAt_of_length_le (Nat.le_of_eq hlength) hpair.2
      have hhere : PairAt (xs ++ ys) (n + 1) ↔ PairAt ys 0 := hlength ▸ pairAt_append_right 0
      exact (or_iff_right hbefore).trans hhere

theorem unpaired_append_left (hapart : Apart xs ys) (h : i < xs.length) :
    Unpaired (xs ++ ys) i ↔ Unpaired xs i :=
  and_congr (isAt_append_left h) (not_congr (inPair_append_left hapart h))

theorem unpaired_append_right (hapart : Apart xs ys) (i : Nat) :
    Unpaired (xs ++ ys) (xs.length + i) ↔ Unpaired ys i :=
  and_congr (isAt_append_right i) (not_congr (inPair_append_right hapart i))

/-! ## Replacing the unpaired surrogates -/

/-- The unit of the replacement character. -/
def replacement : UInt16 := 0xfffd

/-- The units with the unpaired surrogates replaced. -/
def mended (us : List UInt16) : List UInt16 :=
  us.mapIdx fun i u => if Unpaired us i then replacement else u

@[simp] theorem length_mended (us : List UInt16) : (mended us).length = us.length :=
  List.length_mapIdx

/-- Mending puts the replacement in the place of what is unpaired, and nothing else. -/
theorem getElem?_mended (us : List UInt16) (i : Nat) :
    (mended us)[i]? = if Unpaired us i then some replacement else us[i]? := by
  rw [mended, List.getElem?_mapIdx]
  split
  · next hunpaired => rw [List.getElem?_eq_getElem hunpaired.1.lt_length, Option.map_some]
  · exact Option.map_id_apply

/-- Only where a pair stands across does it matter what is put behind. -/
theorem mended_append (hapart : Apart xs ys) : mended (xs ++ ys) = mended xs ++ mended ys := by
  have hlength := length_mended xs
  apply List.ext_getElem?
  intro i
  rw [getElem?_mended]
  rcases Nat.lt_or_ge i xs.length with hleft | hright
  · rw [List.getElem?_append_left hleft, List.getElem?_append_left (hlength.symm ▸ hleft),
      getElem?_mended]
    simp only [unpaired_append_left hapart hleft]
  · obtain ⟨j, rfl⟩ := Nat.exists_eq_add_of_le hright
    rw [List.getElem?_append_right hright, List.getElem?_append_right (hlength.symm ▸ hright),
      hlength, Nat.add_sub_cancel_left, getElem?_mended]
    simp only [unpaired_append_right hapart]

/-- Units are left as they are exactly if no surrogate among them is unpaired. -/
theorem mended_eq_self_iff : mended us = us ↔ ∀ i, ¬ Unpaired us i := by
  constructor
  · intro h i hunpaired
    have hunit : us[i]? = some replacement := by
      rw [← h, getElem?_mended, if_pos hunpaired]
    -- but the replacement character is no surrogate
    exact absurd ((isAt_iff hunit).mp hunpaired.1) (by decide)
  · intro h
    apply List.ext_getElem?
    intro i
    rw [getElem?_mended, if_neg (h i)]

/-- Of two high surrogates and two low ones in a row, the outer ones are unpaired. -/
example :
    mended [0xd83d, 0xd83d, 0xde00, 0xde00, 0x61, 0xd83d]
      = [0xfffd, 0xd83d, 0xde00, 0xfffd, 0x61, 0xfffd] := by
  decide

/-! ## Reading and writing again -/

theorem mended_singleton (u : UInt16) :
    mended [u] = [if isSurrogate u then replacement else u] := by
  have halone : ¬ InPair [u] 0 := fun hpair => not_isAt_of_length_le (Nat.le_refl 1) hpair.2
  have hunpaired : Unpaired [u] 0 ↔ isSurrogate u = true :=
    (and_iff_left halone).trans (isAt_iff rfl)
  show [if Unpaired [u] 0 then replacement else u] = _
  simp only [hunpaired]

theorem mended_pair (hu : isHigh u = true) (hv : isLow v = true) : mended [u, v] = [u, v] := by
  have hpair : PairAt [u, v] 0 := ⟨hu, hv⟩
  rw [mended_eq_self_iff]
  intro i hunpaired
  match i, hunpaired with
  | 0, hunpaired => exact hunpaired.2 hpair
  | 1, hunpaired => exact hunpaired.2 (.inl hpair)
  | i + 2, hunpaired => exact absurd hunpaired.1 (not_isAt_of_length_le (Nat.le_add_left 2 i))

theorem toUInt16_toNat (u : UInt16) : u.toNat.toUInt16 = u := UInt16.ofNat_toNat

/-- The character of one unit takes one unit. -/
theorem encodeChar_single (u : UInt16) : encodeChar (single u) = mended [u] := by
  rw [mended_singleton, single, ← isSurrogate]
  split
  · rfl
  · next hplain =>
    have hlt := u.toNat_lt
    have hrange : u.toNat < 0xd800 ∨ 0xdfff < u.toNat ∧ u.toNat < 0x110000 := by
      simp only [isSurrogate, isHigh, isLow, Bool.or_eq_true, Bool.and_eq_true,
        decide_eq_true_eq] at hplain
      omega
    rw [encodeChar, Utf8.toNat_ofNat hrange, if_pos hlt, toUInt16_toNat]

/-- The character of a pair takes that pair. -/
theorem encodeChar_pair (hu : isHigh u = true) (hv : isLow v = true) :
    encodeChar (pair u v) = [u, v] := by
  simp only [isHigh, isLow, Bool.and_eq_true, decide_eq_true_eq] at hu hv
  have hnumber : (pair u v).toNat = 0x10000 + (u.toNat - 0xd800) * 0x400 + (v.toNat - 0xdc00) :=
    Utf8.toNat_ofNat (by omega)
  have hhigh : 0xd800 + ((pair u v).toNat - 0x10000) / 0x400 = u.toNat := by omega
  have hlow : 0xdc00 + ((pair u v).toNat - 0x10000) % 0x400 = v.toNat := by omega
  rw [encodeChar, if_neg (by omega), hhigh, hlow, toUInt16_toNat, toUInt16_toNat]

theorem not_isHigh_of_isLow (hv : isLow v = true) : ¬ isHigh v = true := by
  simp only [isHigh, isLow, Bool.and_eq_true, decide_eq_true_eq] at hv ⊢
  omega

/-- **What was read takes the units it was read from**, with the unpaired surrogates replaced. -/
theorem encode_decode (us : List UInt16) : encode (decode us) = mended us := by
  fun_induction decode us with
  | case1 => rfl
  | case2 u => rw [encode_cons, encode_nil, List.append_nil, encodeChar_single]
  | case3 u v rest hpair ih =>
    obtain ⟨hu, hv⟩ := Bool.and_eq_true_iff.mp hpair
    -- the second half of a pair begins none
    have hapart : Apart [u, v] rest := by
      intro i hi hhigh
      obtain rfl : i = 1 := Nat.succ_inj.mp hi
      exact absurd hhigh (not_isHigh_of_isLow hv)
    have happend := mended_append hapart
    rw [mended_pair hu hv] at happend
    rw [encode_cons, encodeChar_pair hu hv, ih]
    exact happend.symm
  | case4 u v rest hpair ih =>
    have hapart : Apart [u] (v :: rest) := by
      intro i hi hhigh hlow
      obtain rfl : i = 0 := Nat.succ_inj.mp hi
      exact hpair (Bool.and_eq_true_iff.mpr ⟨hhigh, hlow⟩)
    rw [encode_cons, encodeChar_single, ih]
    exact (mended_append hapart).symm

/-- An unpaired surrogate is read as its replacement is. -/
theorem decode_mended (us : List UInt16) : decode (mended us) = decode us := by
  rw [← encode_decode, decode_encode]

/-- Zeros behind the units make no difference. -/
theorem mended_append_zeros (us : List UInt16) (n : Nat) :
    mended (us ++ List.replicate n 0) = mended us ++ List.replicate n 0 := by
  have hzeros : mended (List.replicate n 0) = List.replicate n 0 :=
    mended_eq_self_iff.mpr fun _ hunpaired => not_isAt_replicate (by decide) hunpaired.1
  have hapart : Apart us (List.replicate n 0) := fun _ _ _ => not_isAt_replicate (by decide)
  rw [mended_append hapart, hzeros]

end Utf16

namespace BoundedText

open Utf16

variable {capacity : Nat}

/-- The text with its unpaired surrogates replaced. -/
def mended (t : BoundedText capacity) : BoundedText capacity :=
  ⟨Utf16.mended t.units, by rw [length_mended]; exact t.length_le⟩

theorem length_mended (t : BoundedText capacity) : t.mended.length = t.length :=
  Utf16.length_mended t.units

theorem raw_mended (t : BoundedText capacity) : t.mended.raw = Utf16.mended t.raw := by
  rw [raw, raw, mended_append_zeros, length_mended]
  rfl

/-- A text is its own mended form exactly if nothing in it is unpaired. -/
theorem mended_eq_self_iff (t : BoundedText capacity) :
    t.mended = t ↔ ∀ i, ¬ Unpaired t.units i := by
  rw [← Utf16.mended_eq_self_iff]
  exact ⟨congrArg units, fun h => BoundedText.ext (show t.mended.units = t.units from h)⟩

/-- A mended text shows the same. -/
theorem display_mended (t : BoundedText capacity) : t.mended.display = t.display :=
  congrArg String.ofList (decode_mended t.units)

/-- What is displayed is the mended text. -/
theorem encode_display (t : BoundedText capacity) : encode t.display.toList = t.mended.units := by
  rw [display, String.toList_ofList, encode_decode]
  rfl

/-- The text that is shown, kept again, is the text mended: its units fit. -/
theorem ofString_display (t : BoundedText capacity) : ofString t.display = t.mended := by
  ext1
  rw [ofString, encode_display, units_ofUnits, List.take_of_length_le t.mended.length_le]

/-- What the text `s` is that keeps what the text `t` shows. -/
structure Redisplays (t s : BoundedText capacity) : Prop where
  length_eq : s.length = t.length
  /-- An unpaired surrogate is replaced. -/
  replaced : ∀ i, Unpaired t.units i → s.units[i]? = some replacement
  /-- All other units are unchanged. -/
  kept : ∀ i, ¬ Unpaired t.units i → s.units[i]? = t.units[i]?
  /-- So it is in the whole buffer. -/
  raw_eq : s.raw = Utf16.mended t.raw
  /-- The text that is shown is kept whole. -/
  fits : unitLength t.display.toList ≤ maxLength capacity
  whole : s.units = encode t.display.toList
  /-- The same text is shown. -/
  display_eq : s.display = t.display
  /-- Keeping it a second time changes nothing. -/
  again : ofString s.display = s
  /-- The first time changes nothing exactly if no surrogate is unpaired. -/
  eq_iff : s = t ↔ ∀ i, ¬ Unpaired t.units i

theorem redisplays_mended (t : BoundedText capacity) : Redisplays t t.mended where
  length_eq := length_mended t
  replaced i h := by
    show (Utf16.mended t.units)[i]? = _
    rw [getElem?_mended, if_pos h]
  kept i h := by
    show (Utf16.mended t.units)[i]? = _
    rw [getElem?_mended, if_neg h]
  raw_eq := raw_mended t
  fits := by
    rw [unitLength, encode_display]
    exact t.mended.length_le
  whole := (encode_display t).symm
  display_eq := display_mended t
  again := by rw [display_mended, ofString_display]
  eq_iff := mended_eq_self_iff t

/-- **Text that is shown is stable.**  Let a text of any units show what it holds, and a text of
the same capacity keep what is shown.  It has the same length, each unpaired surrogate of the
first is the replacement character, and all other units are unchanged.  So what is shown is
never cut, it is shown again as it is, and keeping it once more changes nothing. -/
theorem redisplayed (t : BoundedText capacity) : Redisplays t (ofString t.display) := by
  rw [ofString_display]
  exact redisplays_mended t

end BoundedText

end FileActivity
