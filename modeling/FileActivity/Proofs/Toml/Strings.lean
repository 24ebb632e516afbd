/-
# Strings read back

Whichever of the four ways a string is written in, it is read back as itself, whatever follows
it.  The way is chosen so that it can hold the text: without escapes there is no character that
only an escape can write, and no run of marks that would close the string.

Main statement: `anyText_renderText`.
-/
import FileActivity.Toml.Sheet
import FileActivity.Toml.Text
import Mathlib.Data.List.TakeDrop

namespace FileActivity.Toml

/-! ## Escapes -/

theorem hexNumber_append {digits n m : Nat} {cs : List Char}
    (h : hexNumber digits n cs = some (m, [])) (rest : List Char) :
    hexNumber digits n (cs ++ rest) = some (m, rest) := by
  induction digits generalizing n cs with
  | zero =>
    rw [hexNumber] at h
    cases h
    rfl
  | succ digits ih =>
    cases cs with
    | nil => cases h
    | cons c cs =>
      rw [hexNumber] at h
      rw [List.cons_append, hexNumber]
      cases hdigit : hexDigit? c with
      | none => rw [hdigit] at h; cases h
      | some d =>
        rw [hdigit] at h
        exact ih h

theorem hexNumber_fourDigits : ∀ n < 128, hexNumber 4 0 (fourDigits n) = some (n, []) := by
  decide

/-- A character by its number is read back. -/
theorem escaped_fourDigits {c : Char} (h : c.toNat < 128) (rest : List Char) :
    escaped ('u' :: fourDigits c.toNat ++ rest) = some (c, rest) := by
  have hread : hexNumber 4 0 (fourDigits c.toNat ++ rest) = some (c.toNat, rest) :=
    hexNumber_append (hexNumber_fourDigits _ h) rest
  have hvalid : c.toNat.isValidChar := c.valid
  rw [List.cons_append, escaped, codePoint, hread]
  dsimp only [Option.bind_eq_bind, Option.bind_some]
  rw [dif_pos hvalid]
  rfl

/-- How a character other than the quote is written between quotes. -/
def written (newlines : Bool) (c : Char) : List Char :=
  if c = '\x08' then ['\\', 'b']
  else if c = '\t' then ['\\', 't']
  else if c = '\n' then (if newlines then ['\n'] else ['\\', 'n'])
  else if c = '\x0c' then ['\\', 'f']
  else if c = '\r' then ['\\', 'r']
  else if c = '\\' then ['\\', '\\']
  else if c.toNat < 0x20 ∨ c.toNat = 0x7f then '\\' :: 'u' :: fourDigits c.toNat
  else [c]

theorem escapeText_cons {c : Char} (h : c ≠ '"') (newlines : Bool) (quotes run : Nat)
    (cs : List Char) :
    escapeText newlines quotes run (c :: cs)
      = written newlines c ++ escapeText newlines quotes 0 cs := by
  rw [escapeText, if_neg h]
  rfl

theorem escapeText_quote {quotes run : Nat} (newlines : Bool) (cs : List Char) :
    escapeText newlines quotes run ('"' :: cs)
      = if run < quotes then '"' :: escapeText newlines quotes (run + 1) cs
        else '\\' :: '"' :: escapeText newlines quotes 0 cs := by
  rw [escapeText, if_pos rfl]

/-- What follows a backslash stands for a character, and does not end the line. -/
def EscapeOf (c e : Char) (more : List Char) : Prop :=
  isBlank e = false ∧ e ≠ '\n' ∧ e ≠ '\r' ∧ ∀ rest, escaped (e :: more ++ rest) = some (c, rest)

theorem escapeOf_quote : EscapeOf '"' '"' [] := ⟨by decide, by decide, by decide, fun _ => rfl⟩

/-- A character is written as itself, as a line end, or as an escape. -/
theorem written_cases {c : Char} (h : c ≠ '"') (newlines : Bool) :
    written newlines c = [c] ∧ isPlain c = true
      ∨ written newlines c = ['\n'] ∧ c = '\n' ∧ newlines = true
      ∨ ∃ e more, written newlines c = '\\' :: e :: more ∧ EscapeOf c e more := by
  unfold written
  split
  · next hc => exact .inr (.inr ⟨'b', [], rfl, by decide, by decide, by decide, fun _ => hc ▸ rfl⟩)
  split
  · next hc => exact .inr (.inr ⟨'t', [], rfl, by decide, by decide, by decide, fun _ => hc ▸ rfl⟩)
  split
  · next hc =>
    cases newlines with
    | true => exact .inr (.inl ⟨rfl, hc, rfl⟩)
    | false => exact .inr (.inr ⟨'n', [], rfl, by decide, by decide, by decide, fun _ => hc ▸ rfl⟩)
  split
  · next hc => exact .inr (.inr ⟨'f', [], rfl, by decide, by decide, by decide, fun _ => hc ▸ rfl⟩)
  split
  · next hc => exact .inr (.inr ⟨'r', [], rfl, by decide, by decide, by decide, fun _ => hc ▸ rfl⟩)
  split
  · next hc => exact .inr (.inr ⟨'\\', [], rfl, by decide, by decide,
      by decide, fun _ => by rw [hc]; rfl⟩)
  split
  · next hc =>
    have hlow : c.toNat < 128 := by omega
    exact .inr (.inr ⟨'u', _, rfl, by decide, by decide, by decide, escaped_fourDigits hlow⟩)
  · next hbackslash hcode =>
    refine .inl ⟨rfl, ?_⟩
    have hlow : 0x20 ≤ c.toNat := by omega
    have hdelete : c.toNat ≠ 0x7f := by omega
    simp [isPlain, isCommentChar, h, hbackslash, hlow, hdelete]

theorem isCommentChar_of_isPlain {c : Char} (h : isPlain c = true) : isCommentChar c = true := by
  simp only [isPlain, Bool.and_eq_true] at h
  exact h.1.1

/-- **How the next character of a text is written**: it is a quote of a row that is short
enough, or it stands for itself, or it is escaped. -/
theorem escapeText_next (newlines : Bool) (quotes run : Nat) (c : Char) (cs : List Char) :
    (c = '"' ∧ run < quotes
      ∧ escapeText newlines quotes run (c :: cs) = '"' :: escapeText newlines quotes (run + 1) cs)
    ∨ (c ≠ '"' ∧ c ≠ '\\' ∧ (c = '\n' ∧ newlines = true ∨ isPlain c = true)
      ∧ escapeText newlines quotes run (c :: cs) = c :: escapeText newlines quotes 0 cs)
    ∨ ∃ e more, EscapeOf c e more
      ∧ escapeText newlines quotes run (c :: cs)
        = '\\' :: e :: more ++ escapeText newlines quotes 0 cs := by
  by_cases hquote : c = '"'
  · subst hquote
    rw [escapeText_quote]
    split
    · next hrun => exact .inl ⟨rfl, hrun, rfl⟩
    · exact .inr (.inr ⟨'"', [], escapeOf_quote, rfl⟩)
  · rw [escapeText_cons hquote]
    obtain ⟨hwritten, hplain⟩ | ⟨hwritten, rfl, hnewlines⟩ | ⟨e, more, hwritten, he⟩ :=
      written_cases hquote newlines
    · have hbackslash : c ≠ '\\' := by
        rintro rfl
        cases hplain
      exact .inr (.inl ⟨hquote, hbackslash, .inr hplain, by rw [hwritten]; rfl⟩)
    · exact .inr (.inl ⟨hquote, by decide, .inl ⟨rfl, hnewlines⟩, by rw [hwritten]; rfl⟩)
    · exact .inr (.inr ⟨e, more, he, by rw [hwritten]⟩)

/-! ## On one line -/

section Basic

variable {c e : Char} {more read tail : List Char} {fuel : Nat}

theorem basicBody_plain (hquote : c ≠ '"') (hbackslash : c ≠ '\\') (hplain : isPlain c = true) :
    basicBody (fuel + 1) read (c :: tail) = basicBody fuel (c :: read) tail := by
  rw [basicBody, if_neg hquote, if_neg hbackslash, if_pos hplain]

theorem basicBody_escape (h : EscapeOf c e more) :
    basicBody (fuel + 1) read ('\\' :: e :: more ++ tail) = basicBody fuel (c :: read) tail := by
  obtain ⟨-, -, -, hread⟩ := h
  rw [List.cons_append, basicBody, if_neg (by decide), if_pos rfl, hread]
  rfl

end Basic

/-- **Escaped between quotes, a text is read back.** -/
theorem basicBody_escapeText (cs read rest : List Char) {fuel : Nat}
    (hfuel : (escapeText false 0 0 cs ++ '"' :: rest).length < fuel) :
    basicBody fuel read (escapeText false 0 0 cs ++ '"' :: rest)
      = some (read.reverse ++ cs, rest) := by
  -- on the text: each character is one step of the reader, however many characters write it
  induction cs generalizing read fuel with
  | nil =>
    obtain ⟨fuel, rfl⟩ : ∃ n, fuel = n + 1 := ⟨fuel - 1, by omega⟩
    rw [escapeText, List.nil_append, basicBody, if_pos rfl, List.append_nil]
  | cons c cs ih =>
    obtain ⟨fuel, rfl⟩ : ∃ n, fuel = n + 1 := ⟨fuel - 1, by omega⟩
    have hnext : (escapeText false 0 0 cs ++ '"' :: rest).length < fuel →
        basicBody fuel (c :: read) (escapeText false 0 0 cs ++ '"' :: rest)
          = some (read.reverse ++ c :: cs, rest) := by
      intro hlength
      rw [ih (c :: read) hlength, List.reverse_cons, List.append_assoc, List.singleton_append]
    obtain ⟨-, hrun, -⟩ | ⟨hquote, hbackslash, hplain, htext⟩ | ⟨e, more, he, htext⟩ :=
      escapeText_next false 0 0 c cs
    · exact absurd hrun (Nat.not_lt_zero 0)
    · have hplain : isPlain c = true := hplain.resolve_left fun h => Bool.noConfusion h.2
      rw [htext, List.cons_append] at hfuel ⊢
      rw [basicBody_plain hquote hbackslash hplain]
      exact hnext (Nat.lt_of_succ_lt_succ hfuel)
    · rw [htext, List.append_assoc] at hfuel ⊢
      rw [basicBody_escape he]
      refine hnext ?_
      simp only [List.length_append, List.length_cons] at hfuel ⊢
      omega

theorem literalBody_append {cs : List Char} (h : ∀ c ∈ cs, isLiteral c) (rest : List Char) :
    literalBody (cs ++ '\x27' :: rest) = some (cs, rest) := by
  have hstop : isLiteral '\x27' = false := by decide
  rw [literalBody, List.takeWhile_append_of_pos h, List.dropWhile_append_of_pos h,
    List.takeWhile_cons, List.dropWhile_cons, hstop]
  simp [expect]

/-! ## Over several lines -/

section Multiline

variable {mark c : Char} {escapes : Bool} {fuel run : Nat} {read tail : List Char}

theorem markRun_replicate_append (run : Nat) (h : tail.head? ≠ some mark) :
    markRun mark (List.replicate run mark ++ tail) = run := by
  have hmarks : ∀ d ∈ List.replicate run mark, (d == mark) = true := by
    intro d hd
    rw [List.eq_of_mem_replicate hd]
    exact beq_self_eq_true mark
  have hstop : tail.takeWhile (· == mark) = [] := by
    cases tail with
    | nil => rfl
    | cons d tail =>
      have hne : (d == mark) = false := beq_eq_false_iff_ne.mpr fun heq => h (congrArg some heq)
      rw [List.takeWhile_cons, hne]
      rfl
  rw [markRun, List.takeWhile_append_of_pos hmarks, hstop, List.append_nil, List.length_replicate]

/-- Up to two marks in a row belong to the text, if another character follows. -/
theorem multilineBody_marks (hrun : run ≤ 2) (hc : c ≠ mark) (hpos : 0 < run) :
    multilineBody mark escapes (fuel + 1) read (List.replicate run mark ++ c :: tail)
      = multilineBody mark escapes fuel (List.replicate run mark ++ read) (c :: tail) := by
  have hhead : (c :: tail).head? ≠ some mark := fun h => hc (Option.some.inj h)
  have hlength := markRun_replicate_append run hhead
  obtain ⟨run, rfl⟩ : ∃ n, run = n + 1 := ⟨run - 1, by omega⟩
  rw [List.replicate_succ, List.cons_append] at hlength ⊢
  rw [multilineBody, if_pos rfl, hlength]
  dsimp only
  rw [if_pos (by omega), ← List.cons_append, ← List.replicate_succ,
    List.drop_left' (List.length_replicate)]

/-- Three marks close the text, and up to two before them belong to it. -/
theorem multilineBody_close (hrun : run ≤ 2) {rest : List Char} (hrest : rest.head? ≠ some mark) :
    multilineBody mark escapes (fuel + 1) read
      (List.replicate run mark ++ (List.replicate 3 mark ++ rest))
      = some (read.reverse ++ List.replicate run mark, rest) := by
  rw [← List.append_assoc, List.replicate_append_replicate]
  have hlength := markRun_replicate_append (run + 3) hrest
  rw [List.replicate_succ, List.cons_append] at hlength ⊢
  rw [multilineBody, if_pos rfl, hlength]
  dsimp only
  rw [if_neg (by omega), show min (run + 3 - 3) 2 = run by omega, ← List.cons_append,
    ← List.replicate_succ, List.drop_left' (List.length_replicate), List.reverse_append,
    List.reverse_replicate]

/-- Marks before another character are put by, and what follows is read as it is read after them. -/
theorem multilineBody_flush (hrun : run ≤ 2) (hc : c ≠ mark)
    {result : Option (List Char × List Char)} (htail : ∀ fuel, (c :: tail).length < fuel →
      multilineBody mark escapes fuel (List.replicate run mark ++ read) (c :: tail) = result)
    (hfuel : (List.replicate run mark ++ c :: tail).length < fuel) :
    multilineBody mark escapes fuel read (List.replicate run mark ++ c :: tail) = result := by
  rw [List.length_append, List.length_replicate] at hfuel
  rcases Nat.eq_zero_or_pos run with rfl | hpos
  · exact htail fuel (by omega)
  · obtain ⟨fuel, rfl⟩ : ∃ n, fuel = n + 1 := ⟨fuel - 1, by omega⟩
    rw [multilineBody_marks hrun hc hpos]
    exact htail fuel (by omega)

/-- A character that stands for itself. -/
theorem multilineBody_plain (hc : c ≠ mark) (hplain : c = '\n' ∨ isCommentChar c = true)
    (hescape : ¬ (c = '\\' ∧ escapes = true)) :
    multilineBody mark escapes (fuel + 1) read (c :: tail)
      = multilineBody mark escapes fuel (c :: read) tail := by
  rw [multilineBody, if_neg hc]
  by_cases hnewline : c = '\n'
  · rw [if_pos hnewline, hnewline]
  · have hcomment : isCommentChar c = true := hplain.resolve_left hnewline
    have hreturn : c ≠ '\r' := by
      rintro rfl
      cases hcomment
    rw [if_neg hnewline, if_neg hreturn, if_neg hescape, if_pos hcomment]

/-- A character that is escaped. -/
theorem multilineBody_escape {e : Char} {more : List Char} (hmark : mark ≠ '\\')
    (h : EscapeOf c e more) :
    multilineBody mark true (fuel + 1) read ('\\' :: e :: more ++ tail)
      = multilineBody mark true fuel (c :: read) tail := by
  obtain ⟨hblank, hnewline, hreturn, hread⟩ := h
  have hline : lineEnd (skipBlanks (e :: more ++ tail)) = none := by
    rw [List.cons_append, skipBlanks, List.dropWhile_cons, hblank]
    rw [if_neg (by decide), lineEnd]
    · exact fun rest heq => hnewline (List.cons.inj heq).1
    · exact fun rest heq => hreturn (List.cons.inj heq).1
  rw [List.cons_append, List.cons_append, multilineBody, if_neg hmark.symm, if_neg (by decide),
    if_neg (by decide), if_pos ⟨rfl, rfl⟩, ← List.cons_append, hline]
  dsimp only
  rw [hread]
  rfl

/-- Marks that were put by, and then a character that stands for itself. -/
theorem multilineBody_flush_plain (hrun : run ≤ 2) (hc : c ≠ mark)
    (hplain : c = '\n' ∨ isCommentChar c = true) (hescape : ¬ (c = '\\' ∧ escapes = true))
    {result : Option (List Char × List Char)}
    (htail : ∀ fuel, tail.length < fuel →
      multilineBody mark escapes fuel (c :: (List.replicate run mark ++ read)) tail = result)
    (hfuel : (List.replicate run mark ++ c :: tail).length < fuel) :
    multilineBody mark escapes fuel read (List.replicate run mark ++ c :: tail) = result := by
  refine multilineBody_flush hrun hc (fun fuel hfuel => ?_) hfuel
  obtain ⟨fuel, rfl⟩ : ∃ n, fuel = n + 1 := ⟨fuel - 1, by omega⟩
  rw [multilineBody_plain hc hplain hescape]
  exact htail fuel (Nat.lt_of_succ_lt_succ hfuel)

/-- Marks that were put by, and then a character that is escaped. -/
theorem multilineBody_flush_escape {e : Char} {more : List Char} (hrun : run ≤ 2)
    (hmark : mark ≠ '\\') (h : EscapeOf c e more) {result : Option (List Char × List Char)}
    (htail : ∀ fuel, tail.length < fuel →
      multilineBody mark true fuel (c :: (List.replicate run mark ++ read)) tail = result)
    (hfuel : (List.replicate run mark ++ ('\\' :: e :: more ++ tail)).length < fuel) :
    multilineBody mark true fuel read (List.replicate run mark ++ ('\\' :: e :: more ++ tail))
      = result := by
  rw [List.cons_append] at hfuel ⊢
  refine multilineBody_flush hrun hmark.symm (fun fuel hfuel => ?_) hfuel
  obtain ⟨fuel, rfl⟩ : ∃ n, fuel = n + 1 := ⟨fuel - 1, by omega⟩
  rw [← List.cons_append, multilineBody_escape hmark h]
  refine htail fuel ?_
  simp only [List.length_append, List.length_cons] at hfuel ⊢
  omega

end Multiline

namespace StringStyle

theorem le_longestRun (mark : Char) (run : Nat) (cs : List Char) :
    run ≤ longestRun mark run cs := by
  induction cs generalizing run with
  | nil => exact Nat.le_refl run
  | cons c cs ih =>
    rw [longestRun]
    split
    · exact Nat.le_of_succ_le (ih (run + 1))
    · exact Nat.le_max_left _ _

end StringStyle

open StringStyle

theorem plain_of_needsCode {c : Char} (h : needsCode c = false) :
    c = '\n' ∨ isCommentChar c = true := by
  by_cases hnewline : c = '\n'
  · exact .inl hnewline
  · refine .inr ?_
    by_cases htab : c = '\t'
    · subst htab
      decide
    · have hcodes : 0x20 ≤ c.toNat ∧ c.toNat ≠ 0x7f := by simpa [needsCode, hnewline, htab] using h
      simp [isCommentChar, hcodes.1, hcodes.2]

/-- A mark behind marks that were put by is put by with them. -/
theorem replicate_append_self (run : Nat) (mark : Char) (tail : List Char) :
    List.replicate run mark ++ mark :: tail = List.replicate (run + 1) mark ++ tail := by
  rw [List.replicate_succ', List.append_assoc, List.singleton_append]

/-- Marks that were put by, then the rest of a text. -/
theorem reverse_marks_append (run : Nat) (mark c : Char) (read cs : List Char) :
    (c :: (List.replicate run mark ++ read)).reverse ++ cs
      = read.reverse ++ (List.replicate run mark ++ c :: cs) := by
  simp

/-- **Literally, over several lines, a text is read back** in which no three marks follow one
another. -/
theorem multilineBody_literal {mark : Char} {rest : List Char} (hrest : rest.head? ≠ some mark)
    (cs read : List Char) {run fuel : Nat} (hruns : longestRun mark run cs ≤ 2)
    (hcs : ∀ c ∈ cs, needsCode c = false)
    (hfuel : (List.replicate run mark ++ (cs ++ (List.replicate 3 mark ++ rest))).length < fuel) :
    multilineBody mark false fuel read
      (List.replicate run mark ++ (cs ++ (List.replicate 3 mark ++ rest)))
      = some (read.reverse ++ (List.replicate run mark ++ cs), rest) := by
  -- on the text, with `run` marks put by: the reader takes a run of marks at once, the writer
  -- one by one
  induction cs generalizing read run fuel with
  | nil =>
    obtain ⟨fuel, rfl⟩ : ∃ n, fuel = n + 1 := ⟨fuel - 1, by omega⟩
    rw [List.nil_append, List.append_nil]
    exact multilineBody_close hruns hrest
  | cons c cs ih =>
    obtain ⟨hc, hcs⟩ := List.forall_mem_cons.mp hcs
    rw [longestRun] at hruns
    split at hruns
    · -- one mark more is put by, and nothing is read yet
      next hmark =>
      subst hmark
      rw [List.cons_append, replicate_append_self] at hfuel ⊢
      rw [replicate_append_self]
      exact ih read hruns hcs hfuel
    · next hmark =>
      obtain ⟨hrun, hruns⟩ := Nat.max_le.mp hruns
      refine multilineBody_flush_plain hrun hmark (plain_of_needsCode hc) (fun h => by cases h.2)
        (fun fuel hfuel => ?_) hfuel
      rw [← reverse_marks_append]
      exact ih _ hruns hcs hfuel

/-- **Escaped, over several lines, a text is read back.**  A third quote in a row is escaped. -/
theorem multilineBody_escapeText {rest : List Char} (hrest : rest.head? ≠ some '"')
    (cs read : List Char) {run fuel : Nat} (hrun : run ≤ 2)
    (hfuel : (List.replicate run '"'
      ++ (escapeText true 2 run cs ++ (List.replicate 3 '"' ++ rest))).length
      < fuel) :
    multilineBody '"' true fuel read
        (List.replicate run '"' ++ (escapeText true 2 run cs ++ (List.replicate 3 '"' ++ rest)))
      = some (read.reverse ++ (List.replicate run '"' ++ cs), rest) := by
  induction cs generalizing read run fuel with
  | nil =>
    obtain ⟨fuel, rfl⟩ : ∃ n, fuel = n + 1 := ⟨fuel - 1, by omega⟩
    rw [escapeText, List.nil_append, List.append_nil]
    exact multilineBody_close hrun hrest
  | cons c cs ih =>
    -- what is read once the marks that were put by and one character more are
    have hnext : ∀ fuel, (escapeText true 2 0 cs ++ (List.replicate 3 '"' ++ rest)).length < fuel →
        multilineBody '"' true fuel (c :: (List.replicate run '"' ++ read))
            (escapeText true 2 0 cs ++ (List.replicate 3 '"' ++ rest))
          = some (read.reverse ++ (List.replicate run '"' ++ c :: cs), rest) := by
      intro fuel hfuel
      rw [← reverse_marks_append]
      exact ih (c :: (List.replicate run '"' ++ read)) (Nat.zero_le 2) hfuel
    obtain ⟨rfl, hmore, htext⟩ | ⟨hquote, hbackslash, hplain, htext⟩ | ⟨e, more, he, htext⟩ :=
      escapeText_next true 2 run c cs
    · -- one quote more is put by, and nothing is read yet
      rw [htext, List.cons_append, replicate_append_self] at hfuel ⊢
      rw [replicate_append_self]
      exact ih read hmore hfuel
    · have hplain : c = '\n' ∨ isCommentChar c = true :=
        hplain.imp And.left isCommentChar_of_isPlain
      rw [htext, List.cons_append] at hfuel ⊢
      exact multilineBody_flush_plain hrun hquote hplain (fun h => hbackslash h.1) hnext hfuel
    · rw [htext, List.append_assoc] at hfuel ⊢
      exact multilineBody_flush_escape hrun (by decide) he hnext hfuel

/-! ## The way that is chosen -/

section Choose

variable {cs : List Char}

theorem forall_ne_of_longestRun {mark : Char} (h : longestRun mark 0 cs = 0) :
    ∀ c ∈ cs, c ≠ mark := by
  induction cs with
  | nil => exact fun c hc => by cases hc
  | cons d cs ih =>
    rw [longestRun] at h
    split at h
    · -- the run would have at least this mark
      have hone := le_longestRun mark (0 + 1) cs
      omega
    · next hd =>
      have hrest : longestRun mark 0 cs = 0 := by omega
      exact List.forall_mem_cons.mpr ⟨hd, ih hrest⟩

theorem forall_needsCode (h : (!cs.any needsCode) = true) : ∀ c ∈ cs, needsCode c = false := by
  simpa using h

/-- Between apostrophes there are only characters that may stand there. -/
theorem isLiteral_of_choose (h : choose cs = .literal) : ∀ c ∈ cs, isLiteral c = true := by
  unfold choose at h
  dsimp only at h
  split at h
  · cases h
  split at h
  · next hliteral =>
    simp only [Bool.and_eq_true, beq_iff_eq] at hliteral
    obtain ⟨⟨hcodes, hmarks⟩, hnewline⟩ := hliteral
    intro c hc
    have hnot : c ≠ '\n' := by
      rintro rfl
      simp [hc] at hnewline
    have hcomment : isCommentChar c = true :=
      (plain_of_needsCode (forall_needsCode hcodes c hc)).resolve_left hnot
    have hne : c ≠ '\x27' := forall_ne_of_longestRun hmarks c hc
    simp [isLiteral, hcomment, hne]
  split at h
  · cases h
  split at h
  · cases h
  split at h <;> cases h

/-- Between three apostrophes no three follow one another, and nothing needs a code. -/
theorem of_choose_multilineLiteral (h : choose cs = .multilineLiteral) :
    longestRun '\x27' 0 cs ≤ 2 ∧ ∀ c ∈ cs, needsCode c = false := by
  unfold choose at h
  dsimp only at h
  split at h
  · cases h
  split at h
  · cases h
  split at h
  · cases h
  split at h
  · next hliteral =>
    simp only [Bool.and_eq_true, decide_eq_true_eq] at hliteral
    exact ⟨hliteral.2, forall_needsCode hliteral.1⟩
  split at h <;> cases h

end Choose

/-! ## Strings -/

/-- What follows a string does not lengthen it. -/
def AfterText (rest : List Char) : Prop := rest.head? ≠ some '"' ∧ rest.head? ≠ some '\x27'

theorem skipFirstLineEnd_eq_self {cs : List Char} (h : ∀ c ∈ cs.head?, c ≠ '\n' ∧ c ≠ '\r') :
    skipFirstLineEnd cs = cs := by
  have hnone : lineEnd cs = none := by
    cases cs with
    | nil => rfl
    | cons c cs =>
      obtain ⟨hnewline, hreturn⟩ := h c rfl
      rw [lineEnd]
      · exact fun rest heq => hnewline (List.cons.inj heq).1
      · exact fun rest heq => hreturn (List.cons.inj heq).1
  rw [skipFirstLineEnd, hnone, Option.getD_none]

/-- A text between quotes begins with its own first character or with a backslash. -/
theorem escapeText_head (newlines : Bool) (quotes run : Nat) (c : Char) (cs : List Char) :
    ∃ d more, escapeText newlines quotes run (c :: cs) = d :: more
      ∧ (d = '\\' ∨ d = c ∧ (c = '"' → run < quotes) ∧ c ≠ '\r') := by
  obtain ⟨rfl, hrun, htext⟩ | ⟨hquote, -, hplain, htext⟩ | ⟨e, more, -, htext⟩ :=
    escapeText_next newlines quotes run c cs
  · exact ⟨_, _, htext, .inr ⟨rfl, fun _ => hrun, by decide⟩⟩
  · have hreturn : c ≠ '\r' := by
      rintro rfl
      rcases hplain with ⟨hnewline, -⟩ | hplain
      · cases hnewline
      · cases hplain
    exact ⟨_, _, htext, .inr ⟨rfl, fun h => absurd h hquote, hreturn⟩⟩
  · exact ⟨_, _, htext, .inl rfl⟩

section Any

variable {cs rest : List Char}

/-- What opens a string of several lines: a line end, if it has one. -/
def opening (cs : List Char) : List Char := if cs.contains '\n' then ['\n'] else []

/-- The line end behind the opening marks is dropped, and nothing else. -/
theorem skipFirstLineEnd_opening {tail : List Char}
    (h : '\n' ∉ cs → ∀ c ∈ tail.head?, c ≠ '\n' ∧ c ≠ '\r') :
    skipFirstLineEnd (opening cs ++ tail) = tail := by
  rw [opening]
  by_cases hnewline : '\n' ∈ cs
  · rw [if_pos (by simpa using hnewline)]
    rfl
  · rw [if_neg (by simpa using hnewline)]
    exact skipFirstLineEnd_eq_self (h hnewline)

theorem anyText_basic (cs : List Char) (hrest : AfterText rest) :
    anyText ('"' :: (escapeText false 0 0 cs ++ '"' :: rest)) = some (String.ofList cs, rest) := by
  have hquoted : quotedText ('"' :: (escapeText false 0 0 cs ++ '"' :: rest))
      = some (String.ofList cs, rest) := by
    rw [quotedText, basicBody_escapeText cs [] rest (Nat.lt_succ_self _)]
    rfl
  rw [anyText]
  · exact hquoted
  · -- no two quotes follow the first one
    intro tail heq
    have heq := (List.cons.inj heq).2
    cases cs with
    | nil => exact hrest.1 (by rw [(List.cons.inj heq).2]; rfl)
    | cons c cs =>
      obtain ⟨d, more, htext, hd⟩ := escapeText_head false 0 0 c cs
      rw [htext] at heq
      have hquote : d = '"' := (List.cons.inj heq).1
      rcases hd with rfl | ⟨rfl, hnone, -⟩
      · cases hquote
      · exact absurd (hnone hquote) (Nat.not_lt_zero 0)
  · intro tail heq
    cases (List.cons.inj heq).1

theorem anyText_literal (hcs : ∀ c ∈ cs, isLiteral c = true) (hrest : AfterText rest) :
    anyText ('\x27' :: (cs ++ '\x27' :: rest)) = some (String.ofList cs, rest) := by
  have hquoted : quotedText ('\x27' :: (cs ++ '\x27' :: rest)) = some (String.ofList cs, rest) := by
    rw [quotedText, literalBody_append hcs]
    rfl
  rw [anyText]
  · exact hquoted
  · intro tail heq
    cases (List.cons.inj heq).1
  · -- no two apostrophes follow the first one
    intro tail heq
    have heq := (List.cons.inj heq).2
    cases cs with
    | nil => exact hrest.2 (by rw [(List.cons.inj heq).2]; rfl)
    | cons c cs =>
      have hc : isLiteral c = true := hcs c List.mem_cons_self
      rw [show c = '\x27' from (List.cons.inj heq).1] at hc
      cases hc

theorem anyText_multilineBasic (cs : List Char) (hrest : AfterText rest) :
    anyText ('"' :: '"' :: '"'
        :: (opening cs ++ (escapeText true 2 0 cs ++ (List.replicate 3 '"' ++ rest))))
      = some (String.ofList cs, rest) := by
  have hskip : skipFirstLineEnd (opening cs
      ++ (escapeText true 2 0 cs ++ (List.replicate 3 '"' ++ rest)))
      = escapeText true 2 0 cs ++ (List.replicate 3 '"' ++ rest) := by
    refine skipFirstLineEnd_opening fun hnewline => ?_
    cases cs with
    | nil => exact fun c hc => by cases hc; decide
    | cons c cs =>
      obtain ⟨d, more, htext, hd⟩ := escapeText_head true 2 0 c cs
      rw [htext]
      intro d' hd'
      cases hd'
      rcases hd with rfl | ⟨rfl, -, hreturn⟩
      · decide
      · exact ⟨fun heq => hnewline (heq ▸ List.mem_cons_self), hreturn⟩
  rw [anyText, hskip]
  have hfuel : (escapeText true 2 0 cs ++ (List.replicate 3 '"' ++ rest)).length
      < (opening cs ++ (escapeText true 2 0 cs ++ (List.replicate 3 '"' ++ rest))).length + 1 := by
    simp only [List.length_append]
    omega
  have hbody := multilineBody_escapeText hrest.1 cs [] (Nat.zero_le 2) hfuel
  simp only [List.replicate_zero, List.reverse_nil, List.nil_append] at hbody
  rw [hbody]
  rfl

theorem anyText_multilineLiteral (hruns : longestRun '\x27' 0 cs ≤ 2)
    (hcs : ∀ c ∈ cs, needsCode c = false) (hrest : AfterText rest) :
    anyText ('\x27' :: '\x27' :: '\x27'
      :: (opening cs ++ (cs ++ (List.replicate 3 '\x27' ++ rest))))
      = some (String.ofList cs, rest) := by
  have hskip : skipFirstLineEnd (opening cs ++ (cs ++ (List.replicate 3 '\x27' ++ rest)))
      = cs ++ (List.replicate 3 '\x27' ++ rest) := by
    refine skipFirstLineEnd_opening fun hnewline => ?_
    cases cs with
    | nil => exact fun c hc => by cases hc; decide
    | cons c cs =>
      intro d hd
      cases hd
      refine ⟨fun heq => hnewline (heq ▸ List.mem_cons_self), ?_⟩
      rintro rfl
      cases hcs '\r' List.mem_cons_self
  rw [anyText, hskip]
  have hfuel : (cs ++ (List.replicate 3 '\x27' ++ rest)).length
      < (opening cs ++ (cs ++ (List.replicate 3 '\x27' ++ rest))).length + 1 := by
    simp only [List.length_append]
    omega
  have hbody := multilineBody_literal hrest.2 cs [] hruns hcs hfuel
  simp only [List.replicate_zero, List.reverse_nil, List.nil_append] at hbody
  rw [hbody]
  rfl

/-- **A written string is read back.** -/
theorem anyText_renderText (cs : List Char) {rest : List Char} (hrest : AfterText rest) :
    anyText (renderText cs ++ rest) = some (String.ofList cs, rest) := by
  rw [renderText]
  cases hstyle : choose cs with
  | basic =>
    simpa [delimiter, isMultiline, StringStyle.body] using anyText_basic cs hrest
  | literal =>
    simpa [delimiter, isMultiline, StringStyle.body] using
      anyText_literal (isLiteral_of_choose hstyle) hrest
  | multilineBasic =>
    simpa [delimiter, isMultiline, StringStyle.body, opening] using anyText_multilineBasic cs hrest
  | multilineLiteral =>
    obtain ⟨hruns, hcs⟩ := of_choose_multilineLiteral hstyle
    simpa [delimiter, isMultiline, StringStyle.body, opening] using
      anyText_multilineLiteral hruns hcs hrest

end Any

end FileActivity.Toml
