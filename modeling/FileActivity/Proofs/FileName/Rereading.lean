/-
# Reading a normalized name again

A normalized name has one kind of separator, no two side by side and none at the end, so that to
normalize it once more changes nothing about its separators.  The marker is another matter: each
reading drops one, and what was in front of it may end in a marker as well.

Main statement: `reread_iff_unmarked` — a name is read again as itself exactly if it does not
end in a marker.
-/
import FileActivity.Proofs.FileName.Offsets

namespace FileActivity

namespace FileName

variable {sep c : Char} {cs xs ys raw : List Char} {n : FileName}

/-- What has no separator does not have this one. -/
theorem IsPiece.notMem (h : IsPiece cs) (hsep : isSeparator sep = true) : sep ∉ cs := by
  intro hmem
  rw [h sep hmem] at hsep
  cases hsep

/-! ## Tidy texts -/

/-- A text with one kind of separator, of which no two stand side by side. -/
structure Tidy (sep : Char) (cs : List Char) : Prop where
  one : ∀ c ∈ cs, isSeparator c = true → c = sep
  apart : cs.IsChain fun c d => ¬ (isSeparator c = true ∧ isSeparator d = true)

/-- A normal name is tidy. -/
theorem Normal.tidy (h : Normal sep cs) : Tidy sep cs := ⟨h.one, h.apart⟩

namespace Tidy

/-- The beginning of a tidy name is tidy. -/
theorem left (h : Tidy sep (xs ++ ys)) : Tidy sep xs :=
  ⟨fun c hc => h.one c (List.mem_append_left ys hc), h.apart.left_of_append⟩

/-- The separator of a text is the one that it has, if it has any. -/
theorem separatorOf_eq (h : Tidy sep cs) : IsPiece cs ∨ separatorOf cs = sep := by
  by_cases hpiece : IsPiece cs
  · exact .inl hpiece
  · right
    obtain ⟨c, hc, hseparator⟩ : ∃ c ∈ cs, isSeparator c = true := by
      simpa [IsPiece] using hpiece
    obtain rfl := h.one c hc hseparator
    rw [isSeparator, Bool.or_eq_true, beq_iff_eq, beq_iff_eq] at hseparator
    rcases hseparator with rfl | rfl
    · rw [separatorOf, List.contains_iff_mem.mpr hc, Bool.not_true, Bool.and_false]
      rfl
    · have hslash : '/' ∉ cs := fun hmem => absurd (h.one '/' hmem rfl) (by decide)
      rw [separatorOf, if_pos (by simpa [hslash] using hc)]

/-- A tidy name is tidy for the separator that it would be read with. -/
theorem of_separatorOf (h : Tidy sep cs) : Tidy (separatorOf cs) cs := by
  refine ⟨fun c hc hseparator => ?_, h.apart⟩
  rcases h.separatorOf_eq with hpiece | hsame
  · exact absurd hc (hpiece.notMem hseparator)
  · rw [hsame]
    exact h.one c hc hseparator

/-- There are no runs of separators to collapse, the one before the text included. -/
theorem collapse_eq_self (h : Tidy sep cs) {after : Bool}
    (hafter : after = true → rooted cs = false) : collapse sep after cs = cs := by
  induction cs generalizing after with
  | nil => rfl
  | cons c cs ih =>
    have hrest : Tidy sep cs :=
      ⟨fun d hd => h.one d (List.mem_cons_of_mem c hd), (List.isChain_cons.mp h.apart).2⟩
    rw [collapse]
    split
    · next hc =>
      have hnext : rooted cs = false := by
        cases cs with
        | nil => rfl
        | cons d cs =>
          show isSeparator d = false
          rw [← Bool.not_eq_true]
          exact fun hd => (List.isChain_cons_cons.mp h.apart).1 ⟨hc, hd⟩
      split
      · next hseen => exact absurd (hc.symm.trans (hafter hseen)) Bool.noConfusion
      · rw [ih hrest fun _ => hnext, h.one c List.mem_cons_self hc]
    · rw [ih hrest fun hfalse => by cases hfalse]

end Tidy

/-- What does not end in a separator is not trimmed. -/
theorem trimEnd_of_getLast?_ne (h : cs.getLast? ≠ some sep) : trimEnd sep cs = cs := by
  rw [trimEnd_eq, List.rdropWhile_eq_self_iff]
  intro hne heq
  exact h (by rw [List.getLast?_eq_some_getLast hne, beq_iff_eq.mp heq])

/-- At most one separator is dropped at the end. -/
theorem Tidy.trimEnd_cases (h : Tidy sep cs) (hsep : isSeparator sep = true) :
    trimEnd sep cs = cs ∨ trimEnd sep cs ++ [sep] = cs := by
  by_cases hlast : cs.getLast? = some sep
  · right
    obtain ⟨xs, rfl⟩ := List.getLast?_eq_some_iff.mp hlast
    have hnext : xs.getLast? ≠ some sep := by
      intro hsecond
      exact (List.isChain_append.mp h.apart).2.2 sep hsecond sep rfl ⟨hsep, hsep⟩
    have hdropped : trimEnd sep (xs ++ [sep]) = trimEnd sep xs := by
      rw [trimEnd_eq, List.rdropWhile_concat, if_pos (beq_self_eq_true sep), trimEnd_eq]
    rw [hdropped, trimEnd_of_getLast?_ne hnext]
  · exact .inl (trimEnd_of_getLast?_ne hlast)

/-- Of a text that is tidy but for its marker, nothing but the end is dropped. -/
theorem normalize_of_tidy (h : Tidy sep (stripMarker raw)) :
    normalize raw = trimEnd (separatorOf (stripMarker raw)) (stripMarker raw) := by
  rw [normalize, h.of_separatorOf.collapse_eq_self fun hfalse => by cases hfalse]

/-! ## Names that are read -/

/-- A text cut after its last separator. -/
def cutAtLast (sep : Char) (cs : List Char) : FileName :=
  ⟨sep, (splitLast sep cs).1, (splitLast sep cs).2⟩

@[simp] theorem name_cutAtLast (sep : Char) (cs : List Char) : (cutAtLast sep cs).name = cs :=
  splitLast_append sep cs

/-- A name of which nothing is left cannot be read. -/
theorem parse_of_normalize_eq_nil (h : normalize raw = []) : parse raw = .error .nameUnavailable :=
  if_pos (List.isEmpty_iff.mpr h)

/-- A name of which something is left is cut at its last separator. -/
theorem parse_of_normalize_ne_nil (h : normalize raw ≠ []) :
    parse raw = .ok (cutAtLast (separatorOf (stripMarker raw)) (normalize raw)) :=
  if_neg (mt List.isEmpty_iff.mp h)

/-- What was read is the normalized name, cut at its last separator. -/
theorem eq_cutAtLast_of_parse (h : parse raw = .ok n) :
    normalize raw ≠ [] ∧ n = cutAtLast (separatorOf (stripMarker raw)) (normalize raw) := by
  by_cases hempty : normalize raw = []
  · cases h.symm.trans (parse_of_normalize_eq_nil hempty)
  · exact ⟨hempty, Except.ok.inj (h.symm.trans (parse_of_normalize_ne_nil hempty))⟩

/-- Names of which the same is shown. -/
structure SameParts (n m : FileName) : Prop where
  name : n.name = m.name
  final : n.final = m.final
  parent : n.parent = m.parent
  extension : n.extension = m.extension

/-- Which separator a text without any is cut at does not matter. -/
theorem splitLast_of_isPiece (hpiece : IsPiece cs) (hsep : isSeparator sep = true) :
    splitLast sep cs = ([], cs) :=
  splitLast_of_notMem (hpiece.notMem hsep)

/-- A tidy name has the same parts for either separator. -/
theorem Tidy.sameParts (h : Tidy sep cs) (hsep : isSeparator sep = true) :
    SameParts (cutAtLast (separatorOf cs) cs) (cutAtLast sep cs) := by
  have hsplit : splitLast (separatorOf cs) cs = splitLast sep cs := by
    rcases h.separatorOf_eq with hpiece | hsame
    · rw [splitLast_of_isPiece hpiece hsep,
        splitLast_of_isPiece hpiece (isSeparator_separatorOf cs)]
    · rw [hsame]
  have hcut : cutAtLast (separatorOf cs) cs
      = { cutAtLast sep cs with separator := separatorOf cs } := by
    rw [cutAtLast, hsplit]
    rfl
  rw [hcut]
  exact ⟨rfl, rfl, rfl, rfl⟩

/-! ## Names without a marker at their end -/

/-- **A normalized text without a marker at its end** is normalized as it is. -/
theorem Normal.normalize_eq_self (h : Normal sep cs) (hmarker : ¬ deletedMarker <:+ cs) :
    normalize cs = cs := by
  have hstrip := stripMarker_of_not_suffix hmarker
  rw [normalize_of_tidy (hstrip.symm ▸ h.tidy), hstrip]
  apply trimEnd_of_getLast?_ne
  intro hlast
  exact absurd ((isSeparator_separatorOf cs).symm.trans (h.ending _ hlast)) Bool.noConfusion

/-- A name without the marker is read again as it stands, cut at its own separator. -/
theorem parse_name (hparse : parse raw = .ok n) (hmarker : ¬ deletedMarker <:+ n.name) :
    parse n.name = .ok (cutAtLast (separatorOf n.name) n.name) := by
  obtain ⟨hne, rfl⟩ := eq_cutAtLast_of_parse hparse
  rw [name_cutAtLast] at hmarker ⊢
  have hsame := (normal_normalize raw).normalize_eq_self hmarker
  have hread := parse_of_normalize_ne_nil (hsame.symm ▸ hne)
  rwa [hsame, stripMarker_of_not_suffix hmarker] at hread

/-! ## Names with a marker at their end -/

/-- What is left of a normalized text with a marker at its end: what is in front of the marker,
without the separator that may stand there. -/
theorem Normal.normalize_append (h : Normal sep (xs ++ deletedMarker)) :
    normalize (xs ++ deletedMarker) = xs ∨ normalize (xs ++ deletedMarker) ++ [sep] = xs := by
  have htidy : Tidy sep xs := h.tidy.left
  have hstrip := stripMarker_append xs
  rw [normalize_of_tidy (hstrip.symm ▸ htidy), hstrip]
  rcases htidy.of_separatorOf.trimEnd_cases (isSeparator_separatorOf xs) with hkept | hdropped
  · exact .inl hkept
  · right
    rcases htidy.separatorOf_eq with hpiece | hsame
    · -- a piece has no separator to drop
      have hmem : separatorOf xs ∈ trimEnd (separatorOf xs) xs ++ [separatorOf xs] :=
        List.mem_append_right _ List.mem_cons_self
      rw [hdropped] at hmem
      exact absurd hmem (hpiece.notMem (isSeparator_separatorOf xs))
    · rw [hsame] at hdropped ⊢
      exact hdropped

/-- Normalizing a name with the marker makes it shorter. -/
theorem Normal.length_normalize_lt (h : Normal sep cs) (hmarker : deletedMarker <:+ cs) :
    (normalize cs).length < cs.length := by
  obtain ⟨xs, rfl⟩ := hmarker
  have hmarked : 0 < deletedMarker.length := by decide
  rw [List.length_append]
  rcases h.normalize_append with hkept | hdropped
  · rw [hkept]
    omega
  · have hlength := congrArg List.length hdropped
    rw [List.length_append, List.length_singleton] at hlength
    omega

/-- Nothing is left of a marker alone, or behind a single separator. -/
theorem Normal.normalize_append_eq_nil_iff (h : Normal sep (xs ++ deletedMarker))
    (hsep : isSeparator sep = true) :
    normalize (xs ++ deletedMarker) = [] ↔ xs = [] ∨ xs = [sep] := by
  constructor
  · intro hnone
    rcases h.normalize_append with hkept | hdropped
    · exact .inl (hkept.symm.trans hnone)
    · rw [hnone] at hdropped
      exact .inr hdropped.symm
  · intro hshort
    have hpieces : components xs = [] := by
      rcases hshort with rfl | rfl
      · rfl
      · exact components_cons [] hsep
    rw [← (normal_normalize _).components_eq_nil_iff, components_normalize, stripMarker_append,
      hpieces]

/-- The marker has no separator. -/
theorem isPiece_deletedMarker : IsPiece deletedMarker := by
  have hall : (deletedMarker.all fun c => !isSeparator c) = true := rfl
  intro c hc
  simpa using List.all_eq_true.mp hall c hc

/-- A name ends in a marker exactly if its final component does. -/
theorem IsCut.marked_iff (hcut : IsCut n) (hsep : isSeparator n.separator = true) :
    deletedMarker <:+ n.name ↔ deletedMarker <:+ n.final := by
  rcases hcut with ⟨hwhole, -⟩ | ⟨xs, hwhole, -⟩
  · rw [hwhole]
  · have hfinal : n.separator :: n.final <:+ n.name := hwhole ▸ List.suffix_append xs _
    have hnone : n.separator ∉ deletedMarker := isPiece_deletedMarker.notMem hsep
    constructor
    · intro hmarker
      -- the marker does not reach the last separator
      rcases List.suffix_or_suffix_of_suffix hmarker hfinal with hinside | hover
      · rcases List.suffix_cons_iff.mp hinside with hall | hinside
        · exact absurd (hall ▸ List.mem_cons_self) hnone
        · exact hinside
      · exact absurd (hover.subset List.mem_cons_self) hnone
    · intro hmarker
      exact (hmarker.trans (List.suffix_cons _ _)).trans hfinal

/-- A name with the marker is not read back as it stands. -/
theorem Normal.name_ne_of_parse (h : Normal sep cs) (hmarker : deletedMarker <:+ cs) {m : FileName}
    (hparse : parse cs = .ok m) : m.name ≠ cs := by
  intro hname
  have hshorter := h.length_normalize_lt hmarker
  rw [(eq_cutAtLast_of_parse hparse).2, name_cutAtLast] at hname
  rw [hname] at hshorter
  exact Nat.lt_irrefl _ hshorter

/-! ## Reading again -/

/-- What could be read has components. -/
theorem components_ne_nil_of_parse (hparse : parse raw = .ok n) :
    components (stripMarker raw) ≠ [] := by
  rw [Ne, ← parse_eq_error_iff, hparse]
  exact fun h => by cases h

/-- What was read shows the components of the raw name, and is cut at the last separator. -/
theorem isRead_of_parse (hparse : parse raw = .ok n) : IsRead raw n ∧ IsCut n := by
  have hcomponents := components_ne_nil_of_parse hparse
  obtain ⟨m, hread, hisRead⟩ := reads_components hcomponents
  cases hparse.symm.trans hread
  obtain ⟨m, hread, -, -, -, hcut⟩ := parse_eq_ok hcomponents
  cases hparse.symm.trans hread
  exact ⟨hisRead, hcut⟩

/-- What was read is normal for its separator. -/
theorem normal_of_parse (hparse : parse raw = .ok n) :
    Normal n.separator n.name ∧ isSeparator n.separator = true := by
  have hisRead := (isRead_of_parse hparse).1
  have hseparator := hisRead.separator.trans (separatorOf_eq_ite _).symm
  exact ⟨hisRead.normal, hseparator ▸ isSeparator_separatorOf _⟩

/-- **Reading a name again gives the same parts exactly if it does not end in the marker.** -/
theorem exists_sameParts_iff (hparse : parse raw = .ok n) :
    (∃ m, parse n.name = .ok m ∧ SameParts m n) ↔ ¬ deletedMarker <:+ n.name := by
  constructor
  · rintro ⟨m, hread, hsame⟩ hmarker
    exact (normal_of_parse hparse).1.name_ne_of_parse hmarker hread hsame.name
  · intro hmarker
    refine ⟨_, parse_name hparse hmarker, ?_⟩
    obtain ⟨-, rfl⟩ := eq_cutAtLast_of_parse hparse
    rw [name_cutAtLast]
    exact (normal_normalize raw).tidy.sameParts (isSeparator_separatorOf _)

/-- What is read of a name with a marker at its end. -/
theorem parse_of_marked (hparse : parse raw = .ok n) {rest : List Char}
    (hname : n.name = rest ++ deletedMarker) :
    (parse n.name = .error .nameUnavailable ↔ rest = [] ∨ rest = [n.separator])
    ∧ ∀ m, parse n.name = .ok m → m.name = rest ∨ m.name ++ [n.separator] = rest := by
  obtain ⟨hnormal, hsep⟩ := normal_of_parse hparse
  rw [hname] at hnormal ⊢
  constructor
  · rw [← hnormal.normalize_append_eq_nil_iff hsep]
    constructor
    · intro herror
      by_contra hne
      cases herror.symm.trans (parse_of_normalize_ne_nil hne)
    · exact parse_of_normalize_eq_nil
  · intro m hread
    rw [(eq_cutAtLast_of_parse hread).2, name_cutAtLast]
    exact hnormal.normalize_append

end FileName

namespace OffsetName

open FileName Utf8

variable {sep : Char} {cs raw : List Char} {n : FileName}

/-- Which separator is looked up in a text without any does not matter. -/
theorem ofCut_separatorOf (h : Tidy sep cs) (hsep : isSeparator sep = true) :
    ofCut (cutAtLast (separatorOf cs) cs) = ofCut (cutAtLast sep cs) := by
  have hoffset : lastOffset (separatorOf cs) cs = lastOffset sep cs := by
    rcases h.separatorOf_eq with hpiece | hsame
    · rw [lastOffset_of_notMem (hpiece.notMem (isSeparator_separatorOf cs)),
        lastOffset_of_notMem (hpiece.notMem hsep)]
    · rw [hsame]
  rw [ofCut, ofCut, name_cutAtLast, name_cutAtLast]
  show OffsetName.mk cs (((lastOffset (separatorOf cs) cs).map (· + 1)).getD 0) = _
  rw [hoffset]
  rfl

/-- The same by offsets: the name is read back as it is exactly if it does not end in the
marker. -/
theorem reparse_iff (hparse : FileName.parse raw = .ok n) :
    parse n.name = .ok (ofCut n) ↔ ¬ deletedMarker <:+ n.name := by
  obtain ⟨hnormal, hsep⟩ := normal_of_parse hparse
  constructor
  · intro hsame hmarker
    have hcomponents : components (stripMarker n.name) ≠ [] := by
      intro hnone
      cases hsame.symm.trans (parse_eq_error hnone)
    obtain ⟨m, hread, -⟩ := FileName.parse_eq_ok hcomponents
    have hcut := Except.ok.inj (hsame.symm.trans (parse_eq_ofCut hcomponents hread))
    exact hnormal.name_ne_of_parse hmarker hread (congrArg OffsetName.name hcut).symm
  · intro hmarker
    have hread := parse_name hparse hmarker
    rw [parse_eq_ofCut (components_ne_nil_of_parse hread) hread,
      ofCut_separatorOf hnormal.tidy hsep]
    obtain ⟨-, rfl⟩ := eq_cutAtLast_of_parse hparse
    rw [name_cutAtLast]
    rfl

end OffsetName

open FileName in
/-- **A name is read again as itself exactly if it does not end in a marker.**  This is so of
both ways of keeping a name: with its offset it is the same name, and cut in two it has the same
parts.

* A name ends in a marker exactly if its final component does, which is the last component of
  the raw name.
* Of a name that does, what stands in front of that marker is read, without the separator that
  may be at its end; it is no name if that is nothing, or a separator alone. -/
theorem reread_iff_unmarked {raw : List Char} {n : FileName} {o : OffsetName}
    (hparse : FileName.parse raw = .ok n) (hoffset : OffsetName.parse raw = .ok o) :
    o.Shows n
    ∧ (OffsetName.parse o.name = .ok o ↔ ¬ deletedMarker <:+ n.name)
    ∧ ((∃ m, FileName.parse n.name = .ok m ∧ SameParts m n) ↔ ¬ deletedMarker <:+ n.name)
    ∧ (deletedMarker <:+ n.name
        ↔ ∃ last, (components (stripMarker raw)).getLast? = some last ∧ deletedMarker <:+ last)
    ∧ ∀ rest, n.name = rest ++ deletedMarker →
        (FileName.parse n.name = .error .nameUnavailable ↔ rest = [] ∨ rest = [n.separator])
        ∧ ∀ m, FileName.parse n.name = .ok m → m.name = rest ∨ m.name ++ [n.separator] = rest := by
  have hcomponents := components_ne_nil_of_parse hparse
  obtain ⟨hisRead, hcut⟩ := isRead_of_parse hparse
  obtain ⟨o', hread, hshows⟩ := OffsetName.parse_eq_ok hcomponents hparse
  cases hoffset.symm.trans hread
  cases hoffset.symm.trans (OffsetName.parse_eq_ofCut hcomponents hparse)
  refine ⟨hshows, OffsetName.reparse_iff hparse, exists_sameParts_iff hparse,
    ?_, fun rest => parse_of_marked hparse⟩
  rw [hcut.marked_iff (normal_of_parse hparse).2, hisRead.final]
  constructor
  · exact fun hmarker => ⟨n.final, rfl, hmarker⟩
  · rintro ⟨last, hlast, hmarker⟩
    exact Option.some.inj hlast ▸ hmarker

/-- An unlinked file in a directory of the other separator is read again as itself. -/
theorem reread_iff_unmarked_unlinked :
    let raw := "srv\\\\a.txt\\ (deleted)".toList
    let n : FileName := ⟨'\\', "srv\\".toList, "a.txt".toList⟩
    let o : OffsetName := ⟨"srv\\a.txt".toList, 4⟩
    FileName.parse raw = .ok n ∧ OffsetName.parse raw = .ok o
      ∧ OffsetName.parse o.name = .ok o := by
  intro raw n o
  have hparse : FileName.parse raw = .ok n := by decide
  have hoffset : OffsetName.parse raw = .ok o :=
    OffsetName.parse_eq_ofCut (FileName.components_ne_nil_of_parse hparse) hparse
  exact ⟨hparse, hoffset, (reread_iff_unmarked hparse hoffset).2.1.mpr (by decide)⟩

/-- A file that is named like an unlinked one, and is unlinked: its name is not read again as
itself. -/
theorem not_reread_of_twice_marked :
    ¬ ∀ raw n, FileName.parse raw = .ok n → ∃ m, FileName.parse n.name = .ok m
      ∧ FileName.SameParts m n := by
  intro hall
  obtain ⟨m, hread, hsame⟩ :=
    hall "a (deleted) (deleted)".toList ⟨'/', [], "a (deleted)".toList⟩ (by decide)
  have hagain : FileName.parse "a (deleted)".toList = .ok ⟨'/', [], ['a']⟩ := by decide
  cases hread.symm.trans hagain
  exact absurd hsame.name (by decide)

end FileActivity
