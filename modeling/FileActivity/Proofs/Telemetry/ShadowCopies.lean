/-
# Deletions of shadow copies cannot be hidden

A command line that deletes shadow copies is recognised by words in its lower-cased text.
Lower-casing looks at the neighbours of a character, so more text around a command could have
changed how the command itself is seen.  It does not: the words are found where ASCII letters
spell them in either case.

Main statement: `deletion_not_hidden`.
-/
import FileActivity.Proofs.Text.Lowercase
import FileActivity.Telemetry.ShadowCopy
import Mathlib.Data.List.Forall2

namespace FileActivity.ShadowCopy

variable {s t : String} {c d : Char}

/-! ## Texts up to the case of ASCII letters -/

/-- The same character, or an ASCII letter in the other case. -/
def SameLetter (c d : Char) : Prop :=
  c = d ∨ ('A' ≤ c ∧ c ≤ 'Z' ∧ d.toNat = c.toNat + 32)
    ∨ ('A' ≤ d ∧ d ≤ 'Z' ∧ c.toNat = d.toNat + 32)

instance : DecidableRel SameLetter := fun c d => inferInstanceAs (Decidable (c = d
  ∨ ('A' ≤ c ∧ c ≤ 'Z' ∧ d.toNat = c.toNat + 32) ∨ ('A' ≤ d ∧ d ≤ 'Z' ∧ c.toNat = d.toNat + 32)))

/-- Texts that differ only in the case of ASCII letters. -/
def SameButCase (s t : String) : Prop := List.Forall₂ SameLetter s.toList t.toList

/-- The small letter of a capital is its own lower case, and that of the capital. -/
theorem toLower_eq_of_capital (hA : 'A' ≤ c) (hZ : c ≤ 'Z') (hd : d.toNat = c.toNat + 32) :
    c.toLower = d ∧ d.toLower = d := by
  have hfirst : 65 ≤ c.toNat := UInt32.le_iff_toNat_le.mp hA
  have hlast : c.toNat ≤ 90 := UInt32.le_iff_toNat_le.mp hZ
  constructor
  · unfold Char.toLower
    rw [dif_pos ⟨hA, hZ⟩]
    apply Char.ext
    apply UInt32.toNat_inj.mp
    show (c.val + 32).toNat = d.toNat
    rw [UInt32.toNat_add, hd]
    exact Nat.mod_eq_of_lt (show c.toNat + 32 < 2 ^ 32 by omega)
  · unfold Char.toLower
    refine dif_neg fun hcapital => ?_
    have hle : d.toNat ≤ 90 := UInt32.le_iff_toNat_le.mp hcapital.2
    omega

theorem SameLetter.toLower_eq (h : SameLetter c d) : c.toLower = d.toLower := by
  rcases h with rfl | ⟨hA, hZ, hd⟩ | ⟨hA, hZ, hc⟩
  · rfl
  · obtain ⟨hlower, hsmall⟩ := toLower_eq_of_capital hA hZ hd
    rw [hlower, hsmall]
  · obtain ⟨hlower, hsmall⟩ := toLower_eq_of_capital hA hZ hc
    rw [hlower, hsmall]

theorem SameButCase.map_toLower_eq (h : SameButCase s t) :
    s.toList.map Char.toLower = t.toList.map Char.toLower := by
  rw [← List.forall₂_eq_eq_eq, List.forall₂_map_left_iff, List.forall₂_map_right_iff]
  exact List.Forall₂.imp (fun _ _ => SameLetter.toLower_eq) h

/-! ## Words of a command line -/

theorem occursIn_iff (needle text : List Char) :
    occursIn needle text = true ↔ needle <:+: text := by
  induction text with
  | nil => rw [occursIn, List.isEmpty_iff, List.infix_nil]
  | cons c text ih =>
    rw [occursIn, Bool.or_eq_true, List.isPrefixOf_iff_prefix, ih, List.infix_cons_iff]

/-- Nothing but its own letters gives a word of a pattern. -/
theorem ownLetters_of_mem_patterns :
    ∀ words ∈ patterns, ∀ word ∈ words, Lowercase.OwnLetters word.toList := by
  have hall : ∀ words ∈ patterns, ∀ word ∈ words,
      (word.toList.all fun a => a.toNat < 0x80 && a != 'k') = true
        ∧ word.toList.getLast? ≠ some 'i' := by
    decide
  intro words hwords word hword
  exact Lowercase.ownLetters_of_all (hall words hwords word hword).1
    (hall words hwords word hword).2

/-- A command line deletes shadow copies if ASCII letters, in either case, spell all words of a
pattern in it. -/
theorem isDeletion_iff (s : String) : isDeletion s = true
    ↔ ∃ words ∈ patterns, ∀ word ∈ words, word.toList <:+: s.toList.map Char.toLower := by
  rw [isDeletion, List.any_eq_true]
  refine exists_congr fun words => and_congr_right fun hwords => ?_
  rw [List.all_eq_true]
  refine forall₂_congr fun word hword => ?_
  rw [occursIn_iff, Lowercase.infix_text_iff (ownLetters_of_mem_patterns words hwords word hword)]

/-- **Deletions of shadow copies cannot be hidden** by what stands around them or by letter case.

* A command line is taken for a deletion exactly if, for one of the patterns, each of its words
  is spelled somewhere in it by ASCII letters in either case, whatever Unicode makes of the
  other characters.
* So a deletion stays one whatever is put in front of it and behind it,
* and command lines that differ only in the case of ASCII letters get the same answer. -/
theorem deletion_not_hidden (s : String) :
    (isDeletion s = true
      ↔ ∃ words ∈ patterns, ∀ word ∈ words, word.toList <:+: s.toList.map Char.toLower)
    ∧ (isDeletion s = true → ∀ x y : String, isDeletion (x ++ s ++ y) = true)
    ∧ ∀ t : String, SameButCase s t → isDeletion t = isDeletion s := by
  refine ⟨isDeletion_iff s, fun hs x y => ?padded, fun t hcase => ?recased⟩
  case padded =>
    obtain ⟨words, hpattern, hwords⟩ := (isDeletion_iff s).mp hs
    refine (isDeletion_iff _).mpr ⟨words, hpattern, fun word hword => (hwords word hword).trans ?_⟩
    rw [String.toList_append, String.toList_append, List.map_append, List.map_append]
    exact ⟨_, _, rfl⟩
  case recased =>
    rw [Bool.eq_iff_iff, isDeletion_iff, isDeletion_iff, hcase.map_toLower_eq]

/-- The capital sigma that ends this command line becomes a final sigma, but not with more text
behind it. -/
theorem deletion_not_hidden_sigma :
    isDeletion "VSSadmin.exe Delete ShadowsΣ" = true
    ∧ isDeletion ("ΟΔΟΣ" ++ "VSSadmin.exe Delete ShadowsΣ" ++ "İΣ") = true
    ∧ SameButCase "VSSadmin.exe Delete ShadowsΣ" "vssADMIN.eXe dELETE sHADOWSΣ"
    ∧ isDeletion "vssADMIN.eXe dELETE sHADOWSΣ" = isDeletion "VSSadmin.exe Delete ShadowsΣ" := by
  have hdeletion : isDeletion "VSSadmin.exe Delete ShadowsΣ" = true := by decide +kernel
  have hcase : SameButCase "VSSadmin.exe Delete ShadowsΣ" "vssADMIN.eXe dELETE sHADOWSΣ" := by
    unfold SameButCase; decide +kernel
  obtain ⟨-, hpadded, hrecased⟩ := deletion_not_hidden "VSSadmin.exe Delete ShadowsΣ"
  exact ⟨hdeletion, hpadded hdeletion _ _, hcase, hrecased _ hcase⟩

end FileActivity.ShadowCopy
