/-
# Plain values read back

A written number, truth value or string is read back as itself when a line end, a comma or a
bracket follows. Digits alone are no date, no time and no float, since each of those needs a
mark behind its first digits.

Main statement: `scalar_render`.
-/
import FileActivity.Proofs.Toml.Strings
import FileActivity.Toml.Number

namespace FileActivity.Toml

/-! ## What follows a value -/

/-- What follows a written value: the end of its line, or of its place in an array. -/
def AfterValue (rest : List Char) : Prop :=
  ∃ c tail, rest = c :: tail ∧ (c = '\n' ∨ c = ',' ∨ c = ']')

theorem AfterValue.afterText {rest : List Char} (h : AfterValue rest) : AfterText rest := by
  obtain ⟨c, tail, rfl, rfl | rfl | rfl⟩ := h <;> exact ⟨by simp, by simp⟩

/-! ## Digits -/

theorem toNat_of_isDigit {c : Char} (h : c.isDigit = true) : 48 ≤ c.toNat ∧ c.toNat ≤ 57 := by
  simp only [Char.isDigit, Bool.and_eq_true, decide_eq_true_eq, ge_iff_le, UInt32.le_iff_toNat_le]
    at h
  exact h

theorem hexDigit?_of_isDigit {c : Char} (h : c.isDigit = true) :
    hexDigit? c = some (c.toNat - 48) := by
  obtain ⟨hlow, hhigh⟩ := toNat_of_isDigit h
  have hle : '0' ≤ c ∧ c ≤ '9' := by
    simp only [Char.le_def, UInt32.le_iff_toNat_le]
    exact ⟨hlow, hhigh⟩
  rw [hexDigit?, if_pos hle]
  rfl

theorem digitsValue_eq_ofDigitChars {ds : List Char} (h : ∀ c ∈ ds, c.isDigit = true) :
    digitsValue 10 ds = Nat.ofDigitChars 10 ds 0 := by
  have hfold : ∀ n, ds.foldl (fun n c => n * 10 + (hexDigit? c).getD 0) n
      = Nat.ofDigitChars 10 ds n := by
    induction ds with
    | nil => exact fun n => Nat.ofDigitChars_nil.symm
    | cons c ds ih =>
      obtain ⟨hc, hds⟩ := List.forall_mem_cons.mp h
      intro n
      rw [List.foldl_cons, ih hds, Nat.ofDigitChars_cons, hexDigit?_of_isDigit hc, Nat.mul_comm]
      rfl
  exact hfold 0

theorem isDigit_of_mem {n : Nat} {c : Char} (h : c ∈ Nat.toDigits 10 n) : c.isDigit = true :=
  Nat.isDigit_of_mem_toDigits (by decide) (by decide) h

theorem digitsValue_toDigits (n : Nat) : digitsValue 10 (Nat.toDigits 10 n) = n := by
  rw [digitsValue_eq_ofDigitChars fun c => isDigit_of_mem, Nat.ofDigitChars_ten_toDigits]

/-- No number but zero begins with a zero. -/
theorem head?_toDigits_ne_zero {n : Nat} (h : 0 < n) : (Nat.toDigits 10 n).head? ≠ some '0' := by
  induction n using Nat.strongRecOn with
  | ind n ih =>
    by_cases hlt : n < 10
    · rw [Nat.toDigits_of_lt_base hlt, List.head?_cons]
      intro heq
      have hzero : n = 0 := Nat.digitChar_eq_zero.mp (Option.some.inj heq)
      omega
    · rw [Nat.toDigits_of_base_le (by decide) (by omega), List.head?_append]
      have hfront : (Nat.toDigits 10 (n / 10)).head? ≠ some '0' := ih (n / 10) (by omega) (by omega)
      cases hd : (Nat.toDigits 10 (n / 10)).head? with
      | none => exact absurd (List.head?_eq_none_iff.mp hd) Nat.toDigits_ne_nil
      | some d =>
        rw [hd] at hfront
        exact hfront

/-! ## Runs of digits -/

section Run

variable {ds rest : List Char}

theorem more_append (hds : ∀ c ∈ ds, c.isDigit = true) (hrest : AfterValue rest)
    (read : List Char) :
    digitRun.more Char.isDigit read (ds ++ rest) = (read.reverse ++ ds, rest) := by
  induction ds generalizing read with
  | nil =>
    obtain ⟨c, tail, rfl, hc⟩ := hrest
    have hstop : c.isDigit = false := by
      rcases hc with rfl | rfl | rfl <;> decide
    rw [List.nil_append, digitRun.more, hstop, List.append_nil]
    · rfl
    · rintro d cs rfl -
      rcases hc with h | h | h <;> cases h
  | cons d ds ih =>
    obtain ⟨hd, hds⟩ := List.forall_mem_cons.mp hds
    rw [List.cons_append, digitRun.more, hd, if_pos rfl, ih hds, List.reverse_cons,
      List.append_assoc, List.singleton_append]
    rintro e cs rfl -
    cases hd

theorem decimalDigits_toDigits (n : Nat) (hrest : AfterValue rest) :
    decimalDigits (Nat.toDigits 10 n ++ rest) = some (Nat.toDigits 10 n, rest) := by
  rcases Nat.eq_zero_or_pos n with rfl | hpos
  · rw [Nat.toDigits_zero]
    rfl
  · have hhead := head?_toDigits_ne_zero hpos
    cases hdigits : Nat.toDigits 10 n with
    | nil => exact absurd hdigits Nat.toDigits_ne_nil
    | cons d ds =>
      have hall : ∀ c ∈ d :: ds, c.isDigit = true := fun c hc => isDigit_of_mem (hdigits ▸ hc)
      obtain ⟨hd, hds⟩ := List.forall_mem_cons.mp hall
      rw [hdigits] at hhead
      rw [List.cons_append, decimalDigits]
      · rw [digitRun, if_pos hd, more_append hds hrest]
        rfl
      · rintro cs heq
        exact hhead (congrArg some (List.cons.inj heq).1)

/-- Behind exactly so many digits comes no mark, if all that comes is digits and the end of a
value. -/
theorem expect_of_fixedDigits {count low high n : Nat} {tail : List Char} {mark : Char}
    (hds : ∀ c ∈ ds, c.isDigit = true) (hrest : AfterValue rest) (hmark : mark = '-' ∨ mark = ':')
    (h : fixedDigits count low high (ds ++ rest) = some (n, tail)) : expect mark tail = none := by
  rw [fixedDigits] at h
  split at h
  · next hread =>
    obtain ⟨hlength, hdigits, -⟩ := hread
    cases h
    obtain ⟨c, tail, rfl, hc⟩ := hrest
    have hstop : c.isDigit = false := by
      rcases hc with rfl | rfl | rfl <;> decide
    by_cases hcount : count ≤ ds.length
    · rw [List.drop_append_of_le_length hcount]
      cases hdrop : ds.drop count with
      | nil =>
        have hne : c ≠ mark := by
          rintro rfl
          rcases hc with rfl | rfl | rfl <;> rcases hmark with h | h <;> cases h
        rw [List.nil_append, expect, if_neg hne]
      | cons d more =>
        have hd : d.isDigit = true := hds d (List.mem_of_mem_drop (hdrop ▸ List.mem_cons_self))
        have hne : d ≠ mark := by
          rintro rfl
          rcases hmark with rfl | rfl <;> cases hd
        rw [List.cons_append, expect, if_neg hne]
    · -- what ends the value would be one of the digits
      have hmem : c ∈ (ds ++ c :: tail).take count := by
        rw [List.take_append, List.mem_append]
        refine .inr ?_
        obtain ⟨k, hk⟩ : ∃ k, count - ds.length = k + 1 := ⟨count - ds.length - 1, by omega⟩
        rw [hk, List.take_succ_cons]
        exact List.mem_cons_self
      have hdigit : c.isDigit = true := List.all_eq_true.mp hdigits c hmem
      rw [hstop] at hdigit
      cases hdigit
  · cases h

theorem instant_digits (hds : ∀ c ∈ ds, c.isDigit = true) (hrest : AfterValue rest) :
    instant (ds ++ rest) = none := by
  have hdate : skipDate (ds ++ rest) = none := by
    rw [skipDate]
    cases hyear : fixedDigits 4 0 9999 (ds ++ rest) with
    | none => rfl
    | some year =>
      obtain ⟨n, tail⟩ := year
      have hdash : expect '-' tail = none := expect_of_fixedDigits hds hrest (.inl rfl) hyear
      simp [hdash]
  have htime : skipTime (ds ++ rest) = none := by
    rw [skipTime]
    cases hhour : fixedDigits 2 0 23 (ds ++ rest) with
    | none => rfl
    | some hour =>
      obtain ⟨n, tail⟩ := hour
      have hcolon : expect ':' tail = none := expect_of_fixedDigits hds hrest (.inr rfl) hhour
      simp [hcolon]
  rw [instant, hdate]
  dsimp only
  rw [htime]
  rfl

/-- A sign is no digit. -/
theorem sign_of_isDigit {d : Char} (hd : d.isDigit = true) :
    sign (d :: rest) = (false, d :: rest) := by
  rw [sign]
  · rintro cs heq
    rw [(List.cons.inj heq).1] at hd
    cases hd
  · rintro cs heq
    rw [(List.cons.inj heq).1] at hd
    cases hd

/-- The first digit of a number. -/
theorem exists_toDigits_eq_cons (n : Nat) :
    ∃ d ds, Nat.toDigits 10 n = d :: ds ∧ d.isDigit = true := by
  cases hdigits : Nat.toDigits 10 n with
  | nil => exact absurd hdigits Nat.toDigits_ne_nil
  | cons d ds => exact ⟨d, ds, rfl, isDigit_of_mem (hdigits ▸ List.mem_cons_self)⟩

theorem sign_toDigits (n : Nat) :
    sign (Nat.toDigits 10 n ++ rest) = (false, Nat.toDigits 10 n ++ rest) := by
  obtain ⟨d, ds, hdigits, hd⟩ := exists_toDigits_eq_cons n
  rw [hdigits, List.cons_append]
  exact sign_of_isDigit hd

theorem float_toDigits (n : Nat) (hrest : AfterValue rest) :
    float (Nat.toDigits 10 n ++ rest) = none := by
  have hread := decimalDigits_toDigits n hrest
  have hexponent : exponent rest = some (none, rest) := by
    obtain ⟨c, tail, rfl, hc⟩ := hrest
    rw [exponent, if_neg]
    rcases hc with rfl | rfl | rfl <;> decide
  have hpoint : ∀ tail, rest ≠ '.' :: tail := by
    rintro tail rfl
    obtain ⟨c, tail', heq, hc⟩ := hrest
    cases heq
    rcases hc with h | h | h <;> cases h
  rw [float, sign_toDigits]
  dsimp only
  obtain ⟨d, ds, hdigits, hd⟩ := exists_toDigits_eq_cons n
  rw [hdigits] at hread ⊢
  split
  · next heq =>
    rw [(List.cons.inj heq).1] at hd
    cases hd
  · next heq =>
    rw [(List.cons.inj heq).1] at hd
    cases hd
  · rw [hread]
    dsimp only [Option.bind_eq_bind, Option.bind_some]
    split
    · exact absurd rfl (hpoint _)
    · rw [hexponent]
      rfl

/-- **A written number is read back**, if a document can hold it. -/
theorem integer_toDigits {n : Nat} (hn : (n : Int) ≤ Value.maxInteger) (hrest : AfterValue rest) :
    integer (Nat.toDigits 10 n ++ rest) = some (.integer n, rest) := by
  have hfits : fitting (n : Int) = some (.integer n) := by
    have hlow : Value.minInteger ≤ (n : Int) := by
      rw [Value.minInteger]
      omega
    rw [fitting, if_pos ⟨hlow, hn⟩]
  -- a base would follow a zero
  have hbase : ∀ mark tail, mark = 'x' ∨ mark = 'o' ∨ mark = 'b' →
      Nat.toDigits 10 n ++ rest ≠ '0' :: mark :: tail := by
    intro mark tail hmark heq
    rcases Nat.eq_zero_or_pos n with rfl | hpos
    · rw [Nat.toDigits_zero] at heq
      obtain ⟨c, tail', rfl, hc⟩ := hrest
      have hcm : c = mark := (List.cons.inj (List.cons.inj heq).2).1
      rw [hcm] at hc
      rcases hc with rfl | rfl | rfl <;> rcases hmark with h | h | h <;> cases h
    · obtain ⟨d, ds, hdigits, -⟩ := exists_toDigits_eq_cons n
      refine head?_toDigits_ne_zero hpos ?_
      rw [hdigits] at heq ⊢
      exact congrArg some (List.cons.inj heq).1
  rw [integer]
  · rw [sign_toDigits]
    dsimp only
    rw [decimalDigits_toDigits n hrest]
    dsimp only [Option.bind_eq_bind, Option.bind_some]
    rw [digitsValue_toDigits, if_neg (by decide), hfits]
    rfl
  · exact fun tail heq => hbase 'x' tail (.inl rfl) heq
  · exact fun tail heq => hbase 'o' tail (.inr (.inl rfl)) heq
  · exact fun tail heq => hbase 'b' tail (.inr (.inr rfl)) heq

end Run

/-! ## Plain values -/

/-- A plain value that a sheet may hold: a number is natural and fits a document. -/
def Plain.Fits : Plain → Prop
  | .integer n => 0 ≤ n ∧ n ≤ Value.maxInteger
  | _ => True

/-- A string begins with one of its marks. -/
theorem exists_renderText_eq_cons (cs : List Char) :
    ∃ c tail, renderText cs = c :: tail ∧ (c = '"' ∨ c = '\x27') := by
  rw [renderText]
  cases StringStyle.choose cs with
  | basic => exact ⟨_, _, rfl, .inl rfl⟩
  | literal => exact ⟨_, _, rfl, .inr rfl⟩
  | multilineBasic => exact ⟨_, _, rfl, .inl rfl⟩
  | multilineLiteral => exact ⟨_, _, rfl, .inr rfl⟩

/-- **A written plain value is read back.** -/
theorem scalar_render {p : Plain} (hp : p.Fits) {rest : List Char} (hrest : AfterValue rest) :
    scalar (p.render ++ rest) = some (p.toValue, rest) := by
  cases p with
  | string text =>
    have hread := anyText_renderText text.toList hrest.afterText
    obtain ⟨c, tail, htext, hc⟩ := exists_renderText_eq_cons text.toList
    rw [Plain.render]
    rw [htext, List.cons_append] at hread ⊢
    rw [scalar, if_pos hc, hread, String.ofList_toList]
    rfl
  | boolean b =>
    cases b with
    | true => rfl
    | false => rfl
  | integer n =>
    obtain ⟨n, rfl⟩ := Int.eq_ofNat_of_zero_le hp.1
    have htext : (toString (n : Int)).toList = Nat.toDigits 10 n := Nat.toList_repr
    have hread := integer_toDigits hp.2 hrest
    have hinstant := instant_digits (fun c => isDigit_of_mem (n := n)) hrest
    have hfloat := float_toDigits n hrest
    obtain ⟨d, ds, hdigits, hd⟩ := exists_toDigits_eq_cons n
    rw [Plain.render, htext]
    rw [hdigits, List.cons_append] at hread hinstant hfloat ⊢
    obtain ⟨hlow, hhigh⟩ := toNat_of_isDigit hd
    have hmark : ¬ (d = '"' ∨ d = '\x27') := by
      rintro (rfl | rfl) <;> cases hd
    have htrue : d ≠ 't' := by
      rintro rfl
      cases hd
    have hfalse : d ≠ 'f' := by
      rintro rfl
      cases hd
    rw [scalar, if_neg hmark, if_neg htrue, if_neg hfalse, hinstant, hfloat, hread]
    rfl

end FileActivity.Toml
