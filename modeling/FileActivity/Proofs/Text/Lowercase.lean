/-
# Words in lower-cased text

Lower-casing a text is not done character by character: a capital sigma looks at its neighbours,
and the dotted capital I becomes two characters.  What is not ASCII hardly ever becomes ASCII,
though, so an ASCII word is found in a lower-cased text where the ASCII letters of the text
alone spell it (`infix_text_iff`).
-/
import FileActivity.Proofs.Text.Utf8
import FileActivity.Text.Lowercase

namespace FileActivity.Lowercase

variable {a c : Char} {word before cs : List Char}

/-! ## One character -/

theorem toLower_of_not_ascii (h : 0x80 ≤ c.toNat) : c.toLower = c := by
  unfold Char.toLower
  refine dif_neg fun hcapital => ?_
  have hle : c.toNat ≤ 'Z'.toNat := UInt32.le_iff_toNat_le.mp hcapital.2
  have hz : 'Z'.toNat < 0x80 := by decide
  omega

/-- Every run of letters becomes characters outside ASCII, but for the Kelvin sign. -/
theorem image_of_mem_runs : ∀ r ∈ runs, r.first = 0x212a ∧ r.last = 0x212a ∧ r.image = 0x6b
    ∨ 0x80 ≤ r.image ∧ r.image + (r.last - r.first) < 0xd800
    ∨ 0xdfff < r.image ∧ r.image + (r.last - r.first) < 0x110000 := by
  decide +kernel

/-- Outside ASCII the Kelvin sign alone becomes an ASCII character, which is `k`. -/
theorem wideLetter_cases (h : 0x80 ≤ c.toNat) :
    wideLetter c = 'k' ∨ 0x80 ≤ (wideLetter c).toNat := by
  unfold wideLetter
  split
  · next r hr =>
    have hcovers := List.find?_some hr
    simp only [Run.covers, Bool.and_eq_true, decide_eq_true_eq] at hcovers
    rcases image_of_mem_runs r (List.mem_of_find?_eq_some hr)
      with ⟨hfirst, hlast, himage⟩ | hlow | hhigh
    · left
      rw [himage, show c.toNat - r.first = 0 by omega]
    · right
      rw [Utf8.toNat_ofNat (by omega)]
      omega
    · right
      rw [Utf8.toNat_ofNat (by omega)]
      omega
  · exact Or.inr h

theorem not_ascii_sigma (before after : List Char) : 0x80 ≤ (sigma before after).toNat := by
  unfold sigma
  split <;> decide

/-- Any character but the dotted capital I becomes one character, and an ASCII one other than
`k` only if its own ASCII lower case is that. -/
theorem following_cons (hc : c ≠ 'İ') (before rest : List Char) :
    ∃ x, following before (c :: rest) = x :: following (c :: before) rest
      ∧ ∀ a : Char, a.toNat < 0x80 → a ≠ 'k' → (a = x ↔ a = c.toLower) := by
  by_cases hascii : c.toNat < 0x80
  · have hsigma : c ≠ 'Σ' := by
      rintro rfl
      revert hascii
      decide
    refine ⟨c.toLower, ?_, fun a _ _ => Iff.rfl⟩
    rw [following, if_neg hsigma, letter, if_pos hascii, List.singleton_append]
  · have hwide : 0x80 ≤ c.toNat := Nat.le_of_not_lt hascii
    -- nothing here is ASCII but the `k` of the Kelvin sign, so both sides are false
    have hboth : ∀ x : Char, x = 'k' ∨ 0x80 ≤ x.toNat →
        ∀ a : Char, a.toNat < 0x80 → a ≠ 'k' → (a = x ↔ a = c.toLower) := by
      intro x hx a ha hk
      rw [toLower_of_not_ascii hwide]
      constructor
      · rintro rfl
        rcases hx with hx | hx
        · exact absurd hx hk
        · omega
      · rintro rfl
        exact absurd ha hascii
    by_cases hsigma : c = 'Σ'
    · refine ⟨sigma before rest, ?_, hboth _ (Or.inr (not_ascii_sigma before rest))⟩
      rw [following, if_pos hsigma, List.singleton_append]
    · refine ⟨wideLetter c, ?_, hboth _ (wideLetter_cases hwide)⟩
      rw [following, if_neg hsigma, letter, if_neg hascii, if_neg hc, List.singleton_append]

/-- The dotted capital I becomes an `i` and a mark. -/
theorem following_dotted (before rest : List Char) :
    following before ('İ' :: rest) = 'i' :: '\u0307' :: following ('İ' :: before) rest := by
  rw [following, if_neg (by decide), letter, if_neg (by decide), if_pos rfl]
  rfl

/-! ## Words -/

/-- A word that nothing but its own letters gives in lower case: it is ASCII, has no `k`, which
the Kelvin sign gives as well, and ends in no `i`, which the dotted capital I gives with a mark
behind it. -/
def OwnLetters (word : List Char) : Prop :=
  (∀ a ∈ word, a.toNat < 0x80 ∧ a ≠ 'k') ∧ word.getLast? ≠ some 'i'

/-- Whether a given word is one can be seen by going through it. -/
theorem ownLetters_of_all (h : (word.all fun a => a.toNat < 0x80 && a != 'k') = true)
    (hlast : word.getLast? ≠ some 'i') : OwnLetters word := by
  refine ⟨fun a ha => ?_, hlast⟩
  have hone := List.all_eq_true.mp h a ha
  rwa [Bool.and_eq_true, decide_eq_true_eq, bne_iff_ne] at hone

theorem OwnLetters.tail (h : OwnLetters (a :: word)) : OwnLetters word := by
  refine ⟨fun b hb => h.1 b (List.mem_cons_of_mem a hb), fun hlast => h.2 ?_⟩
  cases word with
  | nil => cases hlast
  | cons b word => rwa [List.getLast?_cons_cons]

/-- No such word begins with the mark of a dotted capital I. -/
theorem OwnLetters.not_prefix_mark (h : OwnLetters word) (hword : word ≠ []) :
    ¬ word <+: '\u0307' :: cs := by
  cases word with
  | nil => exact absurd rfl hword
  | cons a word =>
    rw [List.cons_prefix_cons]
    rintro ⟨rfl, -⟩
    exact absurd (h.1 _ List.mem_cons_self).1 (by decide)

/-- The dotted capital I is no part of such a word, neither before lower-casing nor after. -/
theorem OwnLetters.not_prefix_dotted (h : OwnLetters (a :: word)) :
    ¬ a :: word <+: 'i' :: '\u0307' :: cs := by
  rw [List.cons_prefix_cons]
  rintro ⟨rfl, hword⟩
  refine h.tail.not_prefix_mark ?_ hword
  rintro rfl
  exact h.2 rfl

theorem prefix_following_iff (hword : OwnLetters word) (before cs : List Char) :
    word <+: following before cs ↔ word <+: cs.map Char.toLower := by
  induction word generalizing before cs with
  | nil => exact iff_of_true List.nil_prefix List.nil_prefix
  | cons a word ih =>
    cases cs with
    | nil => rfl
    | cons c cs =>
      have ha := hword.1 a List.mem_cons_self
      by_cases hc : c = 'İ'
      · subst hc
        rw [following_dotted]
        refine iff_of_false hword.not_prefix_dotted fun hprefix => ?_
        rw [List.map_cons, List.cons_prefix_cons] at hprefix
        obtain ⟨rfl, -⟩ := hprefix
        exact absurd ha.1 (by decide)
      · obtain ⟨x, hx, hletter⟩ := following_cons hc before cs
        rw [hx, List.map_cons, List.cons_prefix_cons, List.cons_prefix_cons, hletter a ha.1 ha.2,
          ih hword.tail]

theorem infix_following_iff (hword : OwnLetters word) (before cs : List Char) :
    word <:+: following before cs ↔ word <:+: cs.map Char.toLower := by
  induction cs generalizing before with
  | nil => rfl
  | cons c cs ih =>
    have hprefix := prefix_following_iff hword before (c :: cs)
    rw [List.map_cons] at hprefix ⊢
    rw [List.infix_cons_iff, ← hprefix, ← ih (c :: before)]
    by_cases hc : c = 'İ'
    · subst hc
      rw [following_dotted, List.infix_cons_iff, List.infix_cons_iff]
      -- a word does not begin at the mark, unless it is empty and found anywhere
      by_cases hempty : word = []
      · subst hempty
        exact iff_of_true (Or.inl List.nil_prefix) (Or.inl List.nil_prefix)
      · rw [or_iff_right (hword.not_prefix_mark hempty)]
    · obtain ⟨x, hx, -⟩ := following_cons hc before cs
      rw [hx, List.infix_cons_iff]

/-- **A word in lower-cased text** stands where the text spells it in ASCII letters of either
case. -/
theorem infix_text_iff (hword : OwnLetters word) (s : String) :
    word <:+: (text s).toList ↔ word <:+: s.toList.map Char.toLower := by
  rw [text, String.toList_ofList, infix_following_iff hword]

end FileActivity.Lowercase
