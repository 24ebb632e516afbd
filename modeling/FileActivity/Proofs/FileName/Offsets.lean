/-
# Names and byte offsets

A name that is read is kept as one text with the byte offset of its final component, and its
parts are cut out of its bytes.  No cut is out of range or inside a character, and the parts are
those that the components give.

Main statement: `normalized_by_components`.
-/
import FileActivity.Proofs.FileName.Components
import FileActivity.Proofs.Text.Utf8

namespace FileActivity

/-! ## Texts by their bytes -/

namespace Utf8

variable {c : Char} {xs ys : List Char}

/-- The number of bytes of a text. -/
def byteLength (cs : List Char) : Nat := (encode cs).length

/-- The text from a byte offset on; nothing if it is out of range or inside a character. -/
def sliceFrom (cs : List Char) (offset : Nat) : Option (List Char) :=
  if offset ≤ byteLength cs then decode? ((encode cs).drop offset) else none

/-- The text up to a byte offset; nothing if it is out of range or inside a character. -/
def sliceTo (cs : List Char) (offset : Nat) : Option (List Char) :=
  if offset ≤ byteLength cs then decode? ((encode cs).take offset) else none

/-- The byte offset of the last occurrence of a character. -/
def lastOffset (c : Char) : List Char → Option Nat
  | [] => none
  | d :: cs =>
    match lastOffset c cs with
    | some offset => some (byteLength [d] + offset)
    | none => if d = c then some 0 else none

/-- Two texts together have the bytes of both. -/
theorem byteLength_append (xs ys : List Char) :
    byteLength (xs ++ ys) = byteLength xs + byteLength ys := by
  rw [byteLength, encode_append, List.length_append]
  rfl

/-- A text that is not empty has at least one byte. -/
theorem byteLength_pos (h : xs ≠ []) : 0 < byteLength xs := by
  cases xs with
  | nil => exact absurd rfl h
  | cons c cs =>
    have hone : encodeChar c ≠ [] := by
      unfold encodeChar
      dsimp only
      split
      · exact List.cons_ne_nil _ _
      · split
        · exact List.cons_ne_nil _ _
        · split <;> exact List.cons_ne_nil _ _
    rw [byteLength, encode_cons, List.length_append]
    exact Nat.add_pos_left (List.length_pos_of_ne_nil hone) _

/-- From the offset where it begins on, the second part of a text is that part. -/
theorem sliceFrom_byteLength (xs ys : List Char) :
    sliceFrom (xs ++ ys) (byteLength xs) = some ys := by
  rw [sliceFrom, if_pos (by rw [byteLength_append]; omega), encode_append, byteLength,
    List.drop_left, decode?_encode]

/-- Up to the offset where it ends, the first part of a text is that part. -/
theorem sliceTo_byteLength (xs ys : List Char) : sliceTo (xs ++ ys) (byteLength xs) = some xs := by
  rw [sliceTo, if_pos (by rw [byteLength_append]; omega), encode_append, byteLength, List.take_left,
    decode?_encode]

/-- A character that does not occur has no offset. -/
theorem lastOffset_of_notMem (h : c ∉ ys) : lastOffset c ys = none := by
  induction ys with
  | nil => rfl
  | cons d ys ih =>
    rw [List.mem_cons, not_or] at h
    rw [lastOffset, ih h.2]
    exact if_neg (Ne.symm h.1)

/-- The last offset of a character is the number of bytes in front of its last occurrence. -/
theorem lastOffset_append_cons (xs : List Char) (h : c ∉ ys) :
    lastOffset c (xs ++ c :: ys) = some (byteLength xs) := by
  induction xs with
  | nil =>
    rw [List.nil_append, lastOffset, lastOffset_of_notMem h]
    exact if_pos rfl
  | cons d xs ih =>
    rw [List.cons_append, lastOffset, ih]
    exact congrArg some (byteLength_append [d] xs).symm

end Utf8

/-! ## Names with an offset -/

/-- A normalized name and the byte offset of its final component. -/
structure OffsetName where
  name : List Char
  finalStart : Nat

namespace OffsetName

open FileName Utf8

variable {sep c : Char} {cs : List Char}

/-- Takes one more character of a raw name, given the name so far and whether the latest
character was a separator. -/
def push (sep : Char) (s : List Char × Bool) (c : Char) : List Char × Bool :=
  if isSeparator c && s.2 then s else (s.1 ++ [if isSeparator c then sep else c], isSeparator c)

/-- Takes separators off the end as long as more than one byte is left. -/
def popEnd (sep : Char) (cs : List Char) : List Char :=
  if _h : 1 < byteLength cs ∧ cs.getLast? = some sep then popEnd sep cs.dropLast else cs
termination_by cs.length
decreasing_by
  have hne : cs ≠ [] := by
    rintro rfl
    exact absurd _h.2.symm (Option.some_ne_none sep)
  rw [List.length_dropLast]
  exact Nat.sub_lt (List.length_pos_of_ne_nil hne) Nat.one_pos

/-- Cuts a text at the last occurrence of a character. -/
def splitOnceLast (c : Char) : List Char → Option (List Char × List Char)
  | [] => none
  | d :: cs =>
    match splitOnceLast c cs with
    | some (before, behind) => some (d :: before, behind)
    | none => if d = c then some ([], cs) else none

/-- Reads a raw name. -/
def parse (raw : List Char) : Except Error OffsetName :=
  let raw := stripMarker raw
  let sep := separatorOf raw
  let name := popEnd sep (raw.foldl (push sep) ([], false)).1
  if name.isEmpty || name == [sep] then .error .nameUnavailable
  else .ok ⟨name, ((lastOffset sep name).map (· + 1)).getD 0⟩

/-- The final component, if its cut is one. -/
def final (n : OffsetName) : Option (List Char) := sliceFrom n.name n.finalStart

/-- Everything before the final component, without its separator, if its cut is one. -/
def parent (n : OffsetName) : Option (Option (List Char)) :=
  if 0 < n.finalStart then (sliceTo n.name (n.finalStart - 1)).map some else some none

/-- The extension, if the cut of the final component is one. -/
def extension (n : OffsetName) : Option (Option (List Char)) :=
  n.final.map fun final =>
    match splitOnceLast '.' final with
    | some (stem, extension) => if stem.isEmpty || extension.isEmpty then none else some extension
    | none => none

/-! ## The loops -/

/-- Pushing the characters one by one is collapsing the runs of separators. -/
theorem foldl_push (sep : Char) (name : List Char) (after : Bool) (cs : List Char) :
    (cs.foldl (push sep) (name, after)).1 = name ++ collapse sep after cs := by
  induction cs generalizing name after with
  | nil => exact (List.append_nil _).symm
  | cons c cs ih =>
    rw [List.foldl_cons, push, collapse]
    cases hc : isSeparator c with
    | false =>
      rw [Bool.false_and, if_neg Bool.false_ne_true, if_neg Bool.false_ne_true,
        if_neg Bool.false_ne_true, ih, List.append_assoc]
      rfl
    | true =>
      cases after with
      | true => exact ih name true
      | false =>
        rw [Bool.true_and, if_neg Bool.false_ne_true, if_pos rfl, if_pos rfl,
          if_neg Bool.false_ne_true, ih, List.append_assoc]
        rfl

/-- Of nothing but separators one is left; otherwise all of them are taken off the end. -/
theorem popEnd_eq (hsep : byteLength [sep] = 1) (cs : List Char) :
    popEnd sep cs = if trimEnd sep cs = [] ∧ cs ≠ [] then [sep] else trimEnd sep cs := by
  rw [trimEnd_eq]
  induction cs using List.reverseRecOn with
  | nil =>
    rw [popEnd, dif_neg (fun h => absurd h.1 (by decide))]
    rfl
  | append_singleton cs c ih =>
    rw [popEnd, List.getLast?_concat, List.dropLast_concat, List.rdropWhile_concat]
    by_cases hc : c = sep
    · subst hc
      rw [if_pos (beq_self_eq_true c)]
      by_cases hcs : cs = []
      · subst hcs
        rw [dif_neg (fun h => by rw [List.nil_append, hsep] at h; exact Nat.lt_irrefl 1 h.1)]
        rfl
      · have hlong : 1 < byteLength (cs ++ [c]) := by
          rw [byteLength_append, hsep]
          exact Nat.succ_lt_succ (byteLength_pos hcs)
        rw [dif_pos ⟨hlong, rfl⟩, ih]
        simp [hcs]
    · rw [dif_neg (fun h => hc (Option.some.inj h.2)), if_neg (mt beq_iff_eq.mp hc)]
      simp

/-- A text is not split at a character that does not occur. -/
theorem splitOnceLast_of_notMem (h : c ∉ cs) : splitOnceLast c cs = none := by
  induction cs with
  | nil => rfl
  | cons d cs ih =>
    rw [List.mem_cons, not_or] at h
    rw [splitOnceLast, ih h.2]
    exact if_neg (Ne.symm h.1)

/-- A text is split at the last occurrence of a character. -/
theorem splitOnceLast_append_cons (xs : List Char) (h : c ∉ cs) :
    splitOnceLast c (xs ++ c :: cs) = some (xs, cs) := by
  induction xs with
  | nil =>
    rw [List.nil_append, splitOnceLast, splitOnceLast_of_notMem h]
    exact if_pos rfl
  | cons d xs ih => rw [List.cons_append, splitOnceLast, ih]

/-! ## Agreement -/

/-- A separator is one byte long. -/
theorem byteLength_separatorOf (raw : List Char) : byteLength [separatorOf raw] = 1 := by
  rcases separatorOf_eq raw with h | h <;> rw [h] <;> rfl

/-- What the two loops leave of a raw name is its normalized name, or a single separator. -/
theorem popEnd_foldl_push (raw : List Char) :
    popEnd (separatorOf (stripMarker raw))
      ((stripMarker raw).foldl (push (separatorOf (stripMarker raw))) ([], false)).1
      = if normalize raw = []
          ∧ collapse (separatorOf (stripMarker raw)) false (stripMarker raw) ≠ []
        then [separatorOf (stripMarker raw)] else normalize raw := by
  rw [popEnd_eq (byteLength_separatorOf _), foldl_push, List.nil_append]
  rfl

/-- A name that shows what another one shows, each of its cuts being one. -/
structure Shows (o : OffsetName) (n : FileName) : Prop where
  name : o.name = n.name
  final : o.final = some n.final
  parent : o.parent = some n.parent
  extension : o.extension = some n.extension

/-- The extension that is found by offsets is the extension of the final component. -/
theorem extension_of_final {o : OffsetName} {n : FileName} (hfinal : o.final = some n.final) :
    o.extension = some n.extension := by
  rw [extension, hfinal, Option.map_some]
  by_cases hmem : '.' ∈ n.final
  · obtain ⟨stem, e, hcut, hdot⟩ := exists_last_of_mem hmem
    rw [FileName.extension_of_final hcut hdot, hcut, splitOnceLast_append_cons stem hdot]
    simp
  · rw [FileName.extension_of_notMem hmem, splitOnceLast_of_notMem hmem]

/-- The name of a cut name, with the offset of the final component looked up. -/
def ofCut (n : FileName) : OffsetName :=
  ⟨n.name, ((lastOffset n.separator n.name).map (· + 1)).getD 0⟩

/-- Looked up, the final component is where the name was cut. -/
theorem final_ofCut {n : FileName} (hsep : byteLength [n.separator] = 1)
    (hfinal : n.separator ∉ n.final) (hcut : IsCut n) : (ofCut n).final = some n.final := by
  rw [final, ofCut]
  rcases hcut with ⟨hwhole, -⟩ | ⟨xs, hwhole, -⟩
  · rw [hwhole, lastOffset_of_notMem hfinal]
    exact sliceFrom_byteLength [] n.final
  · have hlength : byteLength (xs ++ [n.separator]) = byteLength xs + 1 := by
      rw [byteLength_append, hsep]
    rw [hwhole, lastOffset_append_cons xs hfinal, Option.map_some, Option.getD_some, ← hlength,
      List.append_cons]
    exact sliceFrom_byteLength _ _

/-- The parent that is found by offsets is what is in front of the last separator. -/
theorem parent_ofCut {n : FileName} (hfinal : n.separator ∉ n.final) (hcut : IsCut n) :
    (ofCut n).parent = some n.parent := by
  rw [parent, ofCut]
  rcases hcut with ⟨hwhole, hparent⟩ | ⟨xs, hwhole, hparent⟩
  · rw [hwhole, lastOffset_of_notMem hfinal, hparent]
    rfl
  · rw [hwhole, lastOffset_append_cons xs hfinal, hparent, Option.map_some, Option.getD_some,
      if_pos (Nat.succ_pos _), Nat.add_sub_cancel, sliceTo_byteLength, Option.map_some]

/-- A name that is read is kept with the offset of its final component. -/
theorem parse_eq_ofCut {raw : List Char} {n : FileName} (hne : components (stripMarker raw) ≠ [])
    (hparse : FileName.parse raw = .ok n) : parse raw = .ok (ofCut n) := by
  obtain ⟨n', hparse', hseparator, hname, -, -⟩ := FileName.parse_eq_ok hne
  cases hparse.symm.trans hparse'
  have hnormal := normal_normalize raw
  have hfilled : normalize raw ≠ [] := by
    rwa [← components_normalize, Ne, hnormal.components_eq_nil_iff] at hne
  have hseparatorAlone : normalize raw ≠ [separatorOf (stripMarker raw)] := by
    intro halone
    exact hnormal.getLast?_ne (isSeparator_separatorOf _) (by rw [halone]; rfl)
  have hloops := (popEnd_foldl_push raw).trans (if_neg fun h => hfilled h.1)
  rw [parse, hloops, ofCut, hseparator, hname]
  exact if_neg (by simp [hfilled, hseparatorAlone])

/-- **A name kept with its offset** shows what the name cut in two shows. -/
theorem parse_eq_ok {raw : List Char} {n : FileName} (hne : components (stripMarker raw) ≠ [])
    (hparse : FileName.parse raw = .ok n) : ∃ o, parse raw = .ok o ∧ o.Shows n := by
  obtain ⟨n', hparse', hseparator, -, hfinal, hcut⟩ := FileName.parse_eq_ok hne
  cases hparse.symm.trans hparse'
  have hsep : byteLength [n.separator] = 1 := hseparator ▸ byteLength_separatorOf _
  exact ⟨ofCut n, parse_eq_ofCut hne hparse, rfl, final_ofCut hsep hfinal hcut,
    parent_ofCut hfinal hcut, extension_of_final (final_ofCut hsep hfinal hcut)⟩

/-- A name without components cannot be read by offsets either. -/
theorem parse_eq_error {raw : List Char} (hnone : components (stripMarker raw) = []) :
    parse raw = .error .nameUnavailable := by
  have hempty : normalize raw = [] := by
    rwa [← components_normalize, (normal_normalize raw).components_eq_nil_iff] at hnone
  rw [parse, popEnd_foldl_push, hempty]
  split <;> simp

end OffsetName

open FileName in
/-- **Names are normalized by their components.**  The raw name without its marker, if it had
one, is cut at every separator.

* It is no name exactly if all pieces are empty.
* Otherwise both ways of keeping a name read the same: the components joined by the separator,
  behind a separator if the raw name began with one; the last component; what stands before it;
  and what follows the last dot between two texts.  There is one kind of separator, no two stand
  side by side and none at the end.
* Each cut at a byte offset is in range and between two characters. -/
theorem normalized_by_components (raw : List Char) :
    ((∀ r, stripMarker (r ++ deletedMarker) = r)
      ∧ (¬ deletedMarker <:+ raw → stripMarker raw = raw))
    ∧ (FileName.parse raw = .error .nameUnavailable ↔ components (stripMarker raw) = [])
    ∧ (OffsetName.parse raw = .error .nameUnavailable ↔ components (stripMarker raw) = [])
    ∧ (components (stripMarker raw) ≠ [] →
        ∃ n o, FileName.parse raw = .ok n ∧ IsRead raw n ∧ OffsetName.parse raw = .ok o
          ∧ o.Shows n) := by
  have hread : components (stripMarker raw) ≠ [] →
      ∃ n o, FileName.parse raw = .ok n ∧ IsRead raw n ∧ OffsetName.parse raw = .ok o
        ∧ o.Shows n := by
    intro hne
    obtain ⟨n, hparse, hisRead⟩ := reads_components hne
    obtain ⟨o, hoffset, hshows⟩ := OffsetName.parse_eq_ok hne hparse
    exact ⟨n, o, hparse, hisRead, hoffset, hshows⟩
  refine ⟨⟨stripMarker_append, stripMarker_of_not_suffix⟩, parse_eq_error_iff raw,
    ⟨fun herror => ?_, OffsetName.parse_eq_error⟩, hread⟩
  by_contra hne
  obtain ⟨n, o, -, -, hoffset, -⟩ := hread hne
  cases herror.symm.trans hoffset

/-- A name with runs of either slash, a character of two bytes, and a marker behind its last
slash. -/
theorem normalized_by_components_marked :
    FileName.components (FileName.stripMarker "C:\\\\ä//b.txt/ (deleted)".toList) ≠ []
    ∧ ∃ n o, FileName.parse "C:\\\\ä//b.txt/ (deleted)".toList = .ok n
      ∧ OffsetName.parse "C:\\\\ä//b.txt/ (deleted)".toList = .ok o
      ∧ n.separator = '/' ∧ o.name = "C:/ä/b.txt".toList ∧ o.final = some "b.txt".toList
      ∧ o.parent = some (some "C:/ä".toList) ∧ o.extension = some (some "txt".toList) := by
  have hcut : FileName.parse "C:\\\\ä//b.txt/ (deleted)".toList
      = .ok ⟨'/', "C:/ä/".toList, "b.txt".toList⟩ := by decide +kernel
  have hne : FileName.components (FileName.stripMarker "C:\\\\ä//b.txt/ (deleted)".toList)
      ≠ [] := by
    decide +kernel
  obtain ⟨n, o, hn, -, ho, hshows⟩ := (normalized_by_components _).2.2.2 hne
  rw [hcut, Except.ok.injEq] at hn
  subst hn
  exact ⟨hne, _, o, hcut, ho, rfl, hshows.name.trans (by decide +kernel), hshows.final,
    hshows.parent.trans (by decide +kernel), hshows.extension.trans (by decide +kernel)⟩

end FileActivity
