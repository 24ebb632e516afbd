/-
# Quoted text read back

What is written between quotes disturbs no line, and can be taken apart again: each character is
written in a way that shows where it ends, and none is written as the closing quote.
-/
import FileActivity.Text.Quoted
import FileActivity.Toml.Number

namespace FileActivity

/-- A character that disturbs a line of output: a control character, or a separator of lines or
paragraphs. -/
def Disruptive (c : Char) : Prop :=
  c.toNat < 0x20 ∨ (0x7f ≤ c.toNat ∧ c.toNat ≤ 0x9f) ∨ c.toNat = 0x2028 ∨ c.toNat = 0x2029

instance : DecidablePred Disruptive := fun c => inferInstanceAs (Decidable (c.toNat < 0x20
  ∨ (0x7f ≤ c.toNat ∧ c.toNat ≤ 0x9f) ∨ c.toNat = 0x2028 ∨ c.toNat = 0x2029))

/-- What disturbs a line is not printable. -/
theorem Disruptive.isPrintable_eq_false {c : Char} (h : Disruptive c) : isPrintable c = false := by
  have hranges : (0x7f, 0xa0) ∈ unprintableRanges ∧ (0x2028, 0x202f) ∈ unprintableRanges := by
    decide +kernel
  unfold isPrintable
  rcases h with hlow | hhigh
  · rw [if_pos (by omega)]
    exact decide_eq_false (by omega)
  · have hcontains : unprintableRanges.contains c = true := by
      rw [CodeRanges.contains_iff]
      rcases hhigh with hdelete | hseparator
      · exact ⟨_, hranges.1, by dsimp only; omega⟩
      · exact ⟨_, hranges.2, by dsimp only; omega⟩
    rw [if_neg (by omega), hcontains]
    rfl

/-- Whether a given text has none of them can be seen by going through it. -/
theorem not_disruptive_of_all {cs : List Char}
    (h : (cs.all fun c => !decide (Disruptive c)) = true) : ∀ c ∈ cs, ¬ Disruptive c := by
  intro c hc
  have hone := List.all_eq_true.mp h c hc
  rwa [Bool.not_eq_true', decide_eq_false_iff_not] at hone

namespace Quoted

/-! ## Numbers -/

theorem exists_of_mem_hex {n : Nat} {c : Char} (h : c ∈ hex n) : ∃ d < 16, c = d.digitChar := by
  induction n using Nat.strongRecOn with
  | ind n ih =>
    rw [hex, Nat.toDigits_eq_if (by decide)] at h
    split at h
    · next hlt => exact ⟨n, hlt, List.mem_singleton.mp h⟩
    · next hle =>
      rcases List.mem_append.mp h with hfront | hlast
      · exact ih (n / 16) (by omega) hfront
      · exact ⟨n % 16, Nat.mod_lt _ (by decide), List.mem_singleton.mp hlast⟩

/-- Hexadecimal digits are read back. -/
theorem digitsValue_hex (n : Nat) : Toml.digitsValue 16 (hex n) = n := by
  have hdigit : ∀ d < 16, (Toml.hexDigit? d.digitChar).getD 0 = d := by decide
  induction n using Nat.strongRecOn with
  | ind n ih =>
    rw [hex, Nat.toDigits_eq_if (by decide)]
    split
    · next hlt =>
      have hone : Toml.digitsValue 16 [n.digitChar]
          = 0 * 16 + (Toml.hexDigit? n.digitChar).getD 0 := rfl
      rw [hone, hdigit n hlt, Nat.zero_mul, Nat.zero_add]
    · next hle =>
      have hfront : Toml.digitsValue 16 (Nat.toDigits 16 (n / 16)) = n / 16 :=
        ih (n / 16) (by omega)
      rw [Toml.digitsValue, List.foldl_append, ← Toml.digitsValue, hfront, List.foldl_cons,
        List.foldl_nil, hdigit _ (Nat.mod_lt _ (by decide)), Nat.mul_comm, Nat.div_add_mod]

/-! ## Single characters -/

/-- The letters that stand for a character after a backslash. -/
def shortEscapes : List (Char × Char) :=
  [('0', '\x00'), ('t', '\t'), ('n', '\n'), ('r', '\r'), ('"', '"'), ('\\', '\\')]

/-- The ways in which a character is written. -/
theorem escape_cases (c : Char) :
    (∃ letter, escape c = ['\\', letter] ∧ (letter, c) ∈ shortEscapes)
    ∨ escape c = '\\' :: 'u' :: '{' :: (hex c.toNat ++ ['}'])
    ∨ escape c = [c] ∧ c ≠ '"' ∧ c ≠ '\\' ∧ isPrintable c = true := by
  unfold escape
  split
  · exact .inl ⟨'0', rfl, by decide⟩
  · exact .inl ⟨'t', rfl, by decide⟩
  · exact .inl ⟨'n', rfl, by decide⟩
  · exact .inl ⟨'r', rfl, by decide⟩
  · exact .inl ⟨'"', rfl, by decide⟩
  · exact .inl ⟨'\\', rfl, by decide⟩
  · next hquote hbackslash =>
    split
    · exact .inr (.inl rfl)
    · next hplain =>
      simp only [Bool.or_eq_true, Bool.not_eq_true', not_or, Bool.not_eq_false] at hplain
      exact .inr (.inr ⟨rfl, hquote, hbackslash, hplain.2⟩)

/-- No character is written with one that disturbs a line. -/
theorem not_disruptive_of_mem_escape {c d : Char} (h : d ∈ escape c) : ¬ Disruptive d := by
  rcases escape_cases c with ⟨letter, hescape, hshort⟩ | hescape | ⟨hescape, -, -, hprintable⟩
  · have hletters : ∀ letter ∈ shortEscapes.map Prod.fst, ¬ Disruptive letter :=
      not_disruptive_of_all (by decide)
    rw [hescape] at h
    rcases List.mem_cons.mp h with rfl | h
    · decide
    · exact List.mem_singleton.mp h ▸ hletters letter (List.mem_map_of_mem hshort)
  · have hdigits : ∀ n < 16, ¬ Disruptive n.digitChar := by decide
    rw [hescape] at h
    simp only [List.mem_cons, List.mem_append, List.not_mem_nil, or_false] at h
    rcases h with rfl | rfl | rfl | h | rfl
    · decide
    · decide
    · decide
    · obtain ⟨n, hn, rfl⟩ := exists_of_mem_hex h
      exact hdigits n hn
    · decide
  · intro hdisruptive
    rw [hescape] at h
    have hunprintable := hdisruptive.isPrintable_eq_false
    rw [List.mem_singleton.mp h, hprintable] at hunprintable
    cases hunprintable

/-- Reads one character between quotes. -/
def readChar : List Char → Option (Char × List Char)
  | '\\' :: letter :: cs =>
    if letter = 'u' then
      some (Char.ofNat (Toml.digitsValue 16 ((cs.drop 1).takeWhile (· != '}'))),
        (cs.dropWhile (· != '}')).drop 1)
    else (shortEscapes.lookup letter).map (·, cs)
  | c :: cs => some (c, cs)
  | [] => none

/-- **A character is read back**, whatever follows it. -/
theorem readChar_escape (c : Char) (rest : List Char) :
    readChar (escape c ++ rest) = some (c, rest) := by
  rcases escape_cases c with ⟨letter, hescape, hshort⟩ | hescape | ⟨hescape, -, hbackslash, -⟩
  · rw [hescape]
    simp only [shortEscapes, List.mem_cons, Prod.mk.injEq, List.not_mem_nil, or_false] at hshort
    rcases hshort with ⟨rfl, rfl⟩ | ⟨rfl, rfl⟩ | ⟨rfl, rfl⟩ | ⟨rfl, rfl⟩ | ⟨rfl, rfl⟩ | ⟨rfl, rfl⟩
      <;> rfl
  · have hdigits : ∀ d ∈ hex c.toNat, (d != '}') = true := by
      have hall : ∀ n < 16, (n.digitChar != '}') = true := by decide
      intro d hd
      obtain ⟨n, hn, rfl⟩ := exists_of_mem_hex hd
      exact hall n hn
    have htake : (hex c.toNat ++ '}' :: rest).takeWhile (· != '}') = hex c.toNat := by
      rw [List.takeWhile_append_of_pos hdigits]
      simp
    have hdrop : ('{' :: (hex c.toNat ++ '}' :: rest)).dropWhile (· != '}') = '}' :: rest := by
      rw [← List.cons_append, List.dropWhile_append_of_pos]
      · rfl
      · intro d hd
        rcases List.mem_cons.mp hd with rfl | hd
        · decide
        · exact hdigits d hd
    have hread : readChar (escape c ++ rest)
        = some (Char.ofNat (Toml.digitsValue 16
          ((hex c.toNat ++ '}' :: rest).takeWhile (· != '}'))),
          (('{' :: (hex c.toNat ++ '}' :: rest)).dropWhile (· != '}')).drop 1) := by
      rw [hescape]
      simp [readChar]
    rw [hread, htake, hdrop, digitsValue_hex, Char.ofNat_toNat]
    rfl
  · rw [hescape, List.singleton_append]
    unfold readChar
    split
    · next heq => exact absurd (List.cons.inj heq).1 hbackslash
    · next heq =>
      obtain ⟨rfl, rfl⟩ := List.cons.inj heq
      rfl
    · next heq => cases heq

/-! ## Texts -/

/-- No character is written as the closing quote, or begins like it. -/
theorem exists_escape_eq_cons (c : Char) : ∃ d ds, escape c = d :: ds ∧ d ≠ '"' := by
  rcases escape_cases c with ⟨letter, hescape, -⟩ | hescape | ⟨hescape, hquote, -, -⟩
  · exact ⟨_, _, hescape, by decide⟩
  · exact ⟨_, _, hescape, by decide⟩
  · exact ⟨_, _, hescape, hquote⟩

/-- **Quoted text says where it ends and what it holds**, whatever follows it. -/
theorem quoteChars_append_inj {cs cs' rest rest' : List Char}
    (h : quoteChars cs ++ rest = quoteChars cs' ++ rest') : cs = cs' ∧ rest = rest' := by
  simp only [quoteChars, List.cons_append, List.append_assoc, List.cons.injEq, true_and] at h
  induction cs generalizing cs' with
  | nil =>
    cases cs' with
    | nil => exact ⟨rfl, (List.cons.inj h).2⟩
    | cons c' cs' =>
      obtain ⟨d, ds, hescape, hd⟩ := exists_escape_eq_cons c'
      rw [List.flatMap_cons, hescape] at h
      exact absurd (List.cons.inj h).1.symm hd
  | cons c cs ih =>
    cases cs' with
    | nil =>
      obtain ⟨d, ds, hescape, hd⟩ := exists_escape_eq_cons c
      rw [List.flatMap_cons, hescape] at h
      exact absurd (List.cons.inj h).1 hd
    | cons c' cs' =>
      rw [List.flatMap_cons, List.flatMap_cons, List.append_assoc, List.append_assoc] at h
      -- the same text is read, so the same character comes first and the same text is left
      have hread := congrArg readChar h
      rw [readChar_escape, readChar_escape] at hread
      obtain ⟨rfl, hrest⟩ := Prod.mk.inj (Option.some.inj hread)
      obtain ⟨rfl, rfl⟩ := ih hrest
      exact ⟨rfl, rfl⟩

theorem not_disruptive_of_mem_quoteChars {cs : List Char} {c : Char} (h : c ∈ quoteChars cs) :
    ¬ Disruptive c := by
  simp only [quoteChars, List.mem_cons, List.mem_append, List.mem_flatMap, List.not_mem_nil,
    or_false] at h
  rcases h with rfl | ⟨d, -, hd⟩ | rfl
  · decide
  · exact not_disruptive_of_mem_escape hd
  · decide

end Quoted

end FileActivity
