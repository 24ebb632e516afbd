/-
# UTF-8 read back

The bytes of a text are read back as that text, whatever follows them: a character never takes a
byte of the next one.  And no other bytes are read as that text, for the ranges of the bytes
inside a character let only the shortest form of it through, and no surrogate.

Main statement: `Utf8.decode?_eq_some_iff`.
-/
import FileActivity.Text.Path

namespace FileActivity

namespace Utf8

/-- The ranges of character numbers: those of surrogates are left out. -/
theorem toNat_range (c : Char) : c.toNat < 0xd800 ∨ 0xdfff < c.toNat ∧ c.toNat < 0x110000 := c.valid

theorem toNat_toUInt8 {n : Nat} (h : n < 0x100) : n.toUInt8.toNat = n :=
  Nat.mod_eq_of_lt h

/-! ## One byte -/

/-- A first byte below 0x80 is a character of its own. -/
theorem read_single {b : UInt8} (h : b.toNat < 0x80) (rest : List UInt8) :
    read .start (b :: rest) = some (Char.ofNat b.toNat) :: read .start rest := by
  rw [read, step, first, if_pos h]
  rfl

/-- A first byte after which more have to come. -/
theorem read_first {b : UInt8} {s : State} (h : first b = ([], s)) (rest : List UInt8) :
    read .start (b :: rest) = read s rest := by
  rw [read, step, h, List.nil_append]

/-- A byte in the range that may come next, after which more have to come. -/
theorem read_inside {value more low high : Nat} {b : UInt8} (hlow : low ≤ b.toNat)
    (hhigh : b.toNat ≤ high) (hmore : 1 < more) (rest : List UInt8) :
    read (.inside value more low high) (b :: rest)
      = read (.inside (value * 0x40 + b.toNat % 0x40) (more - 1) 0x80 0xbf) rest := by
  rw [read, step, if_pos (by simp [hlow, hhigh])]
  dsimp only
  rw [if_neg (Nat.not_le.mpr hmore)]
  rfl

/-- The last byte of a character. -/
theorem read_last {value low high : Nat} {b : UInt8} (hlow : low ≤ b.toNat) (hhigh : b.toNat ≤ high)
    (rest : List UInt8) :
    read (.inside value 1 low high) (b :: rest)
      = some (Char.ofNat (value * 0x40 + b.toNat % 0x40)) :: read .start rest := by
  rw [read, step, if_pos (by simp [hlow, hhigh])]
  rfl

/-! ## First bytes -/

section First

variable {b : UInt8} {n : Nat}

theorem first_of_two (hb : b.toNat = 0xc0 + n) (hlow : 2 ≤ n) (hhigh : n < 0x20) :
    first b = ([], .inside n 1 0x80 0xbf) := by
  simp only [first, hb]
  rw [if_neg (by omega), if_neg (by omega), if_pos (by omega), Nat.add_sub_cancel_left]

/-- The second of three bytes: the range keeps what fits fewer bytes out, and the surrogates. -/
theorem first_of_three (hb : b.toNat = 0xe0 + n) (hn : n < 0x10) : ∃ low high,
    first b = ([], .inside n 2 low high)
      ∧ low = (if n = 0 then 0xa0 else 0x80) ∧ high = (if n = 0xd then 0x9f else 0xbf) := by
  simp only [first, hb]
  rw [if_neg (by omega), if_neg (by omega), if_neg (by omega)]
  by_cases hzero : n = 0
  · subst hzero
    exact ⟨0xa0, 0xbf, by rw [if_pos rfl], rfl, rfl⟩
  · by_cases hsurrogate : n = 0xd
    · subst hsurrogate
      exact ⟨0x80, 0x9f, by rw [if_neg (by omega), if_pos rfl], rfl, rfl⟩
    · refine ⟨0x80, 0xbf, ?_, (if_neg hzero).symm, (if_neg hsurrogate).symm⟩
      rw [if_neg (by omega), if_neg (by omega), if_pos (by omega), Nat.add_sub_cancel_left]

/-- The second of four bytes: the range keeps what fits fewer bytes out, and what is too large. -/
theorem first_of_four (hb : b.toNat = 0xf0 + n) (hn : n < 5) : ∃ low high,
    first b = ([], .inside n 3 low high)
      ∧ low = (if n = 0 then 0x90 else 0x80) ∧ high = (if n = 4 then 0x8f else 0xbf) := by
  simp only [first, hb]
  rw [if_neg (by omega), if_neg (by omega), if_neg (by omega), if_neg (by omega), if_neg (by omega),
    if_neg (by omega)]
  by_cases hzero : n = 0
  · subst hzero
    exact ⟨0x90, 0xbf, by rw [if_pos rfl], rfl, rfl⟩
  · by_cases hlast : n = 4
    · subst hlast
      exact ⟨0x80, 0x8f, by rw [if_neg (by omega), if_neg (by omega), if_pos rfl], rfl, rfl⟩
    · refine ⟨0x80, 0xbf, ?_, (if_neg hzero).symm, (if_neg hlast).symm⟩
      rw [if_neg (by omega), if_pos (by omega), Nat.add_sub_cancel_left]

end First

/-! ## Texts -/

/-- **The bytes of a character are read back as that character.** -/
theorem read_encodeChar_append (c : Char) (rest : List UInt8) :
    read .start (encodeChar c ++ rest) = some c :: read .start rest := by
  have hc : Char.ofNat c.toNat = c := Char.ofNat_toNat c
  have hrange := toNat_range c
  unfold encodeChar
  generalize c.toNat = n at hc hrange
  dsimp only
  have hlast : (0x80 + n % 0x40).toUInt8.toNat = 0x80 + n % 0x40 := toNat_toUInt8 (by omega)
  split
  · next h =>
    have hb : n.toUInt8.toNat = n := toNat_toUInt8 (by omega)
    rw [List.singleton_append, read_single (by omega), hb, hc]
  split
  · next hone htwo =>
    have hb : (0xc0 + n / 0x40).toUInt8.toNat = 0xc0 + n / 0x40 := toNat_toUInt8 (by omega)
    rw [List.cons_append, read_first (first_of_two hb (by omega) (by omega)), List.singleton_append,
      read_last (by omega) (by omega), hlast]
    rw [show n / 0x40 * 0x40 + (0x80 + n % 0x40) % 0x40 = n by omega, hc]
  have hmiddle : (0x80 + n / 0x40 % 0x40).toUInt8.toNat = 0x80 + n / 0x40 % 0x40 :=
    toNat_toUInt8 (by omega)
  split
  · next hone htwo hthree =>
    have hb : (0xe0 + n / 0x1000).toUInt8.toNat = 0xe0 + n / 0x1000 := toNat_toUInt8 (by omega)
    obtain ⟨low, high, hfirst, hlow, hhigh⟩ := first_of_three hb (by omega)
    rw [List.cons_append, read_first hfirst, List.cons_append,
      read_inside (by split at hlow <;> omega) (by split at hhigh <;> omega) (by omega),
      List.singleton_append, read_last (by omega) (by omega), hmiddle, hlast]
    have hn : (n / 0x1000 * 0x40 + (0x80 + n / 0x40 % 0x40) % 0x40) * 0x40
        + (0x80 + n % 0x40) % 0x40 = n := by omega
    rw [hn, hc]
  · next hone htwo hthree =>
    have hb : (0xf0 + n / 0x40000).toUInt8.toNat = 0xf0 + n / 0x40000 := toNat_toUInt8 (by omega)
    have hsecond : (0x80 + n / 0x1000 % 0x40).toUInt8.toNat = 0x80 + n / 0x1000 % 0x40 :=
      toNat_toUInt8 (by omega)
    obtain ⟨low, high, hfirst, hlow, hhigh⟩ := first_of_four hb (by omega)
    rw [List.cons_append, read_first hfirst, List.cons_append,
      read_inside (by split at hlow <;> omega) (by split at hhigh <;> omega) (by omega),
      List.cons_append, read_inside (by omega) (by omega) (by omega), List.singleton_append,
      read_last (by omega) (by omega), hsecond, hmiddle, hlast]
    rw [show ((n / 0x40000 * 0x40 + (0x80 + n / 0x1000 % 0x40) % 0x40) * 0x40
      + (0x80 + n / 0x40 % 0x40) % 0x40) * 0x40 + (0x80 + n % 0x40) % 0x40 = n by omega, hc]

/-- **What was encoded is read back.** -/
theorem read_encode (cs : List Char) : read .start (encode cs) = cs.map some := by
  induction cs with
  | nil => rfl
  | cons c cs ih => rw [encode_cons, read_encodeChar_append, ih, List.map_cons]

theorem mapM_id_eq_some_iff {α : Type} {as : List α} {os : List (Option α)} :
    os.mapM id = some as ↔ os = as.map some := by
  induction os generalizing as with
  | nil => cases as <;> simp
  | cons o os ih =>
    have hcons : (o :: os).mapM id = some as
        ↔ ∃ a, o = some a ∧ ∃ as', os = as'.map some ∧ a :: as' = as := by
      simp only [List.mapM_cons, id, Option.bind_eq_bind, Option.bind_eq_some_iff, Option.pure_def,
        ih, Option.some.injEq]
    rw [hcons]
    cases as with
    | nil => simp
    | cons a as => simp

/-- **The bytes of a text are valid, and read back as that text.** -/
theorem decode?_encode (cs : List Char) : decode? (encode cs) = some cs :=
  mapM_id_eq_some_iff.mpr (read_encode cs)

/-! ## Valid bytes -/

theorem toUInt8_eq {n : Nat} {b : UInt8} (h : b.toNat = n) : n.toUInt8 = b := by
  rw [← h]
  exact UInt8.ofNat_toNat

/-- A number that a surrogate does not have is that of its character. -/
theorem toNat_ofNat {n : Nat} (h : n < 0xd800 ∨ 0xdfff < n ∧ n < 0x110000) :
    (Char.ofNat n).toNat = n := by
  rw [Char.ofNat, dif_pos h]
  rfl

/-- What a first byte can be, if it is one at all. -/
theorem first_cases (b : UInt8) : b.toNat < 0x80 ∨ first b = ([none], .start)
    ∨ (∃ n, b.toNat = 0xc0 + n ∧ 2 ≤ n ∧ n < 0x20) ∨ (∃ n, b.toNat = 0xe0 + n ∧ n < 0x10)
    ∨ ∃ n, b.toNat = 0xf0 + n ∧ n < 5 := by
  have hb : b.toNat < 0x100 := b.toNat_lt
  by_cases hnone : 0x80 ≤ b.toNat ∧ b.toNat < 0xc2 ∨ 0xf5 ≤ b.toNat
  · refine Or.inr (Or.inl ?_)
    rw [first]
    rcases hnone with ⟨hlow, hhigh⟩ | hlow
    · rw [if_neg (by omega), if_pos hhigh]
    · rw [if_neg (by omega), if_neg (by omega), if_neg (by omega), if_neg (by omega),
        if_neg (by omega), if_neg (by omega), if_neg (by omega), if_neg (by omega),
        if_neg (by omega)]
  · by_cases htwo : b.toNat < 0xe0
    · by_cases hone : b.toNat < 0x80
      · exact Or.inl hone
      · exact Or.inr (Or.inr (Or.inl ⟨b.toNat - 0xc0, by omega⟩))
    · by_cases hthree : b.toNat < 0xf0
      · exact Or.inr (Or.inr (Or.inr (Or.inl ⟨b.toNat - 0xe0, by omega⟩)))
      · exact Or.inr (Or.inr (Or.inr (Or.inr ⟨b.toNat - 0xf0, by omega⟩)))

/-- Inside a character, valid bytes go on with one in the range. -/
theorem exists_cons_of_valid {value more low high : Nat} {bytes : List UInt8}
    (h : none ∉ read (.inside value more low high) bytes) :
    ∃ b rest, bytes = b :: rest ∧ low ≤ b.toNat ∧ b.toNat ≤ high := by
  cases bytes with
  | nil => exact absurd List.mem_cons_self h
  | cons b rest =>
    refine ⟨b, rest, rfl, ?_⟩
    refine Decidable.byContradiction fun hrange => ?_
    have hout : ¬ (decide (low ≤ b.toNat) && decide (b.toNat ≤ high)) = true := by
      rwa [Bool.and_eq_true, decide_eq_true_iff, decide_eq_true_iff]
    rw [read, step, if_neg hout] at h
    exact h List.mem_cons_self

/-- **Valid bytes begin with those of a character.** -/
theorem exists_encodeChar_of_valid {b : UInt8} {bytes : List UInt8}
    (h : none ∉ read .start (b :: bytes)) : ∃ c rest, b :: bytes = encodeChar c ++ rest := by
  rcases first_cases b with hone | hnone | ⟨n, hb, hlow, hhigh⟩ | ⟨n, hb, hn⟩ | ⟨n, hb, hn⟩
  · refine ⟨Char.ofNat b.toNat, bytes, ?_⟩
    rw [encodeChar, toNat_ofNat (by omega), if_pos hone, toUInt8_eq rfl, List.singleton_append]
  · rw [read, step, hnone] at h
    exact absurd List.mem_cons_self h
  · rw [read_first (first_of_two hb hlow hhigh)] at h
    obtain ⟨b₁, rest, rfl, hlow₁, hhigh₁⟩ := exists_cons_of_valid h
    refine ⟨Char.ofNat (n * 0x40 + b₁.toNat % 0x40), rest, ?_⟩
    rw [encodeChar, toNat_ofNat (by omega), if_neg (by omega), if_pos (by omega),
      toUInt8_eq (b := b) (by omega), toUInt8_eq (b := b₁) (by omega)]
    rfl
  · obtain ⟨low, high, hfirst, hlow, hhigh⟩ := first_of_three hb hn
    rw [read_first hfirst] at h
    obtain ⟨b₁, rest, rfl, hlow₁, hhigh₁⟩ := exists_cons_of_valid h
    rw [read_inside hlow₁ hhigh₁ (by omega)] at h
    obtain ⟨b₂, rest, rfl, hlow₂, hhigh₂⟩ := exists_cons_of_valid h
    refine ⟨Char.ofNat ((n * 0x40 + b₁.toNat % 0x40) * 0x40 + b₂.toNat % 0x40), rest, ?_⟩
    -- the range of the second byte keeps the surrogates out, and what fits two bytes
    have hsecond : 0x80 ≤ b₁.toNat ∧ b₁.toNat ≤ 0xbf
        ∧ (n = 0 → 0xa0 ≤ b₁.toNat) ∧ (n = 0xd → b₁.toNat ≤ 0x9f) := by
      split at hlow <;> split at hhigh <;> omega
    rw [encodeChar, toNat_ofNat (by omega), if_neg (by omega), if_neg (by omega), if_pos (by omega),
      toUInt8_eq (b := b) (by omega), toUInt8_eq (b := b₁) (by omega),
      toUInt8_eq (b := b₂) (by omega)]
    rfl
  · obtain ⟨low, high, hfirst, hlow, hhigh⟩ := first_of_four hb hn
    rw [read_first hfirst] at h
    obtain ⟨b₁, rest, rfl, hlow₁, hhigh₁⟩ := exists_cons_of_valid h
    rw [read_inside hlow₁ hhigh₁ (by omega)] at h
    obtain ⟨b₂, rest, rfl, hlow₂, hhigh₂⟩ := exists_cons_of_valid h
    rw [read_inside hlow₂ hhigh₂ (by omega)] at h
    obtain ⟨b₃, rest, rfl, hlow₃, hhigh₃⟩ := exists_cons_of_valid h
    refine ⟨Char.ofNat (((n * 0x40 + b₁.toNat % 0x40) * 0x40 + b₂.toNat % 0x40) * 0x40
      + b₃.toNat % 0x40), rest, ?_⟩
    -- the range of the second byte keeps out what fits three bytes, and what is too large
    have hsecond : 0x80 ≤ b₁.toNat ∧ b₁.toNat ≤ 0xbf
        ∧ (n = 0 → 0x90 ≤ b₁.toNat) ∧ (n = 4 → b₁.toNat ≤ 0x8f) := by
      split at hlow <;> split at hhigh <;> omega
    rw [encodeChar, toNat_ofNat (by omega), if_neg (by omega), if_neg (by omega), if_neg (by omega),
      toUInt8_eq (b := b) (by omega), toUInt8_eq (b := b₁) (by omega),
      toUInt8_eq (b := b₂) (by omega), toUInt8_eq (b := b₃) (by omega)]
    rfl

theorem encodeChar_ne_nil (c : Char) : encodeChar c ≠ [] := by
  unfold encodeChar
  dsimp only
  split
  · exact List.cons_ne_nil _ _
  split
  · exact List.cons_ne_nil _ _
  split <;> exact List.cons_ne_nil _ _

/-- Bytes without an invalid part are those of a text. -/
theorem exists_encode_of_valid {bytes : List UInt8} (h : none ∉ read .start bytes) :
    ∃ cs, bytes = encode cs := by
  induction hlength : bytes.length using Nat.strongRecOn generalizing bytes with
  | _ length ih =>
    subst hlength
    cases bytes with
    | nil => exact ⟨[], rfl⟩
    | cons b bytes =>
      obtain ⟨c, rest, hsplit⟩ := exists_encodeChar_of_valid h
      have hshorter : rest.length < (b :: bytes).length := by
        have hpos := List.length_pos_iff.mpr (encodeChar_ne_nil c)
        rw [hsplit, List.length_append]
        omega
      rw [hsplit, read_encodeChar_append] at h
      obtain ⟨cs, rfl⟩ := ih _ hshorter (fun hmem => h (List.mem_cons_of_mem _ hmem)) rfl
      exact ⟨c :: cs, hsplit⟩

/-- **Bytes are read as a text exactly if they are its bytes.** -/
theorem decode?_eq_some_iff {bytes : List UInt8} {cs : List Char} :
    decode? bytes = some cs ↔ bytes = encode cs := by
  constructor
  · intro h
    have hvalid : none ∉ read .start bytes := by
      intro hmem
      rw [mapM_id_eq_some_iff.mp h] at hmem
      obtain ⟨c, -, hc⟩ := List.mem_map.mp hmem
      cases hc
    obtain ⟨cs', rfl⟩ := exists_encode_of_valid hvalid
    rw [decode?_encode] at h
    rw [Option.some.inj h]
  · rintro rfl
    exact decode?_encode cs

/-- Different texts have different bytes. -/
theorem encode_inj {cs cs' : List Char} : encode cs = encode cs' ↔ cs = cs' := by
  rw [← decode?_eq_some_iff, decode?_encode, Option.some.injEq]

end Utf8

theorem Path.toString?_ofString (s : String) : (Path.ofString s).toString? = some s := by
  rw [Path.toString?, Path.ofString, Utf8.decode?_encode, Option.map_some, String.ofList_toList]

/-- A path has a text exactly if it is made of one. -/
theorem Path.toString?_eq_some_iff {p : Path} {s : String} :
    p.toString? = some s ↔ p = .ofString s := by
  constructor
  · intro h
    obtain ⟨bytes⟩ := p
    obtain ⟨cs, hcs, rfl⟩ := Option.map_eq_some_iff.mp h
    rw [Path.ofString, String.toList_ofList, ← Utf8.decode?_eq_some_iff.mp hcs]
  · rintro rfl
    exact Path.toString?_ofString s

end FileActivity
