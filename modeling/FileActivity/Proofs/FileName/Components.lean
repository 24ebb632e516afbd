/-
# The components of a name

A name is normalized by going through its characters once and then dropping what is left at its
end.  What comes out is the components of the raw name, joined by one separator, behind another
one if the raw name began with any.

Main statement: `reads_components`.
-/
import FileActivity.FileName
import Mathlib.Data.List.Chain
import Mathlib.Data.List.DropRight

namespace FileActivity.FileName

variable {sep c : Char} {cs ws : List Char}

/-! ## Components -/

/-- The pieces of a text between its separators, without those that are empty. -/
def components (cs : List Char) : List (List Char) := (cs.splitOnP isSeparator).filter (!·.isEmpty)

/-- Text without separators. -/
def IsPiece (cs : List Char) : Prop := ∀ c ∈ cs, isSeparator c = false

@[simp] theorem components_nil : components [] = [] := rfl

/-- A separator ends one component and begins the next. -/
theorem components_append_cons (xs ys : List Char) (hc : isSeparator c = true) :
    components (xs ++ c :: ys) = components xs ++ components ys := by
  rw [components, List.splitOnP_append_cons xs ys hc, List.filter_append]
  rfl

/-- A separator at the beginning is not part of any component. -/
theorem components_cons (ys : List Char) (hc : isSeparator c = true) :
    components (c :: ys) = components ys :=
  components_append_cons [] ys hc

/-- What has no separator is one component, unless it is empty. -/
theorem components_of_isPiece (hpiece : IsPiece ws) (hne : ws ≠ []) : components ws = [ws] := by
  rw [components, List.splitOnP_eq_singleton hpiece, List.filter_cons_of_pos (by simpa using hne)]
  rfl

/-- The separator of a name is a separator. -/
theorem isSeparator_separatorOf (raw : List Char) : isSeparator (separatorOf raw) = true := by
  rcases separatorOf_eq raw with h | h <;> rw [h] <;> rfl

/-- To prove something of all texts, put a piece and a separator in front of a text, time and
again. -/
theorem piece_induction {p : List Char → Prop} (piece : ∀ ws, IsPiece ws → p ws)
    (more : ∀ ws c cs, IsPiece ws → isSeparator c = true → p cs → p (ws ++ c :: cs))
    (cs : List Char) : p cs := by
  -- what was seen since the last separator is kept in front
  have hall : ∀ cs ws, IsPiece ws → p (ws ++ cs) := by
    intro cs
    induction cs with
    | nil =>
      intro ws hws
      rw [List.append_nil]
      exact piece ws hws
    | cons c cs ih =>
      intro ws hws
      cases hc : isSeparator c with
      | true => exact more ws c cs hws hc (ih [] fun _ hmem => absurd hmem List.not_mem_nil)
      | false =>
        rw [List.append_cons]
        apply ih
        intro d hd
        rcases List.mem_append.mp hd with hd | hd
        · exact hws d hd
        · exact List.mem_singleton.mp hd ▸ hc
  exact hall cs [] fun _ hmem => absurd hmem List.not_mem_nil

/-! ## Normalized texts -/

/-- Whether a text begins with a separator. -/
def rooted (cs : List Char) : Bool := cs.head?.any isSeparator

/-- Whether a name is rooted shows in its beginning. -/
theorem rooted_append (hne : ws ≠ []) (cs : List Char) : rooted (ws ++ cs) = rooted ws := by
  cases ws with
  | nil => exact absurd rfl hne
  | cons c ws => rfl

/-- What has no separator is not rooted. -/
theorem rooted_of_isPiece (hpiece : IsPiece ws) : rooted ws = false := by
  cases ws with
  | nil => rfl
  | cons c ws => exact hpiece c List.mem_cons_self

/-- A text with one kind of separator, of which no two stand side by side and none at the end. -/
structure Normal (sep : Char) (cs : List Char) : Prop where
  one : ∀ c ∈ cs, isSeparator c = true → c = sep
  apart : cs.IsChain fun c d => ¬ (isSeparator c = true ∧ isSeparator d = true)
  ending : ∀ c, cs.getLast? = some c → isSeparator c = false

namespace Normal

/-- A normal name does not end in its separator. -/
theorem getLast?_ne (h : Normal sep cs) (hsep : isSeparator sep = true) :
    cs.getLast? ≠ some sep := by
  intro hlast
  rw [h.ending sep hlast] at hsep
  cases hsep

/-- What follows a separator of a normalized text is normalized, and begins with a piece. -/
theorem tail (h : Normal sep (ws ++ c :: cs)) (hc : isSeparator c = true) :
    Normal sep cs ∧ rooted cs = false ∧ cs ≠ [] := by
  have hchain := (List.isChain_append.mp h.apart).2.1
  have hlast : (ws ++ c :: cs).getLast? = (c :: cs).getLast? := List.getLast?_append_cons ws c cs
  cases cs with
  | nil =>
    rw [h.ending c hlast] at hc
    cases hc
  | cons d cs =>
    obtain ⟨hnext, hrest⟩ := List.isChain_cons_cons.mp hchain
    have hd : isSeparator d = false := by
      rw [← Bool.not_eq_true]
      exact fun hd => hnext ⟨hc, hd⟩
    refine ⟨⟨fun e he => h.one e (List.mem_append_right _ (List.mem_cons_of_mem _ he)),
      hrest, fun e he => ?_⟩, hd, List.cons_ne_nil _ _⟩
    exact h.ending e (hlast.trans he)

/-- **A normalized text is its components**, joined. -/
theorem eq_intercalate (h : Normal sep cs) :
    cs = (if rooted cs then [sep] else []) ++ [sep].intercalate (components cs) := by
  induction cs using piece_induction with
  | piece ws hws =>
    rw [rooted_of_isPiece hws]
    cases ws with
    | nil => rfl
    | cons d ws =>
      rw [components_of_isPiece hws (List.cons_ne_nil _ _), List.intercalate_singleton]
      rfl
  | more ws c cs hws hc ih =>
    obtain ⟨hcs, hroot, hne⟩ := h.tail hc
    have hsep : c = sep := h.one c (List.mem_append_right _ List.mem_cons_self) hc
    have hjoin : cs = [sep].intercalate (components cs) := by
      have hrest := ih hcs
      rw [hroot] at hrest
      exact hrest
    cases ws with
    | nil =>
      have hrooted : rooted ([] ++ c :: cs) = true := hc
      rw [hrooted, List.nil_append, components_cons cs hc, ← hjoin, hsep]
      rfl
    | cons d ws =>
      rw [rooted_append (List.cons_ne_nil _ _), rooted_of_isPiece hws,
        components_append_cons _ _ hc, components_of_isPiece hws (List.cons_ne_nil _ _),
        List.singleton_append]
      cases hcomponents : components cs with
      | nil => exact absurd (hjoin.trans (by rw [hcomponents]; rfl)) hne
      | cons v vs =>
        rw [List.intercalate_cons_cons, ← hcomponents, ← hjoin, hsep, List.append_assoc]
        rfl

/-- A normal name without components is empty. -/
theorem components_eq_nil_iff (h : Normal sep cs) : components cs = [] ↔ cs = [] := by
  constructor
  · intro hnone
    have hjoin := h.eq_intercalate
    rw [hnone, List.intercalate_nil, List.append_nil] at hjoin
    cases hroot : rooted cs with
    | false => rwa [hroot] at hjoin
    | true =>
      -- a separator alone would stand at the end
      rw [hroot, if_pos rfl] at hjoin
      rw [hjoin] at hroot
      exact absurd (hjoin ▸ rfl) (h.getLast?_ne hroot)
  · rintro rfl
    rfl

end Normal

/-! ## Normalizing -/

/-- Collapsing passes over what has no separator. -/
theorem collapse_append (hpiece : IsPiece ws) (hne : ws ≠ []) (sep : Char) (after : Bool)
    (cs : List Char) : collapse sep after (ws ++ cs) = ws ++ collapse sep false cs := by
  induction ws generalizing after with
  | nil => exact absurd rfl hne
  | cons c ws ih =>
    obtain ⟨hc, hws⟩ := List.forall_mem_cons.mp hpiece
    rw [List.cons_append, collapse, if_neg (by rw [hc]; exact Bool.false_ne_true), List.cons_append]
    -- only before the first character may a separator have come
    cases ws with
    | nil => rfl
    | cons d ws => rw [ih hws (List.cons_ne_nil _ _)]

/-- Collapsing runs of separators keeps the components. -/
theorem components_collapse (hsep : isSeparator sep = true) (after : Bool) (cs : List Char) :
    components (collapse sep after cs) = components cs := by
  induction cs using piece_induction generalizing after with
  | piece ws hws =>
    cases ws with
    | nil => rfl
    | cons c ws =>
      have hcollapse := collapse_append hws (List.cons_ne_nil c ws) sep after []
      rw [List.append_nil] at hcollapse
      rw [hcollapse, collapse, List.append_nil]
  | more ws c cs hws hc ih =>
    have hrun : ∀ after, components (collapse sep after (c :: cs)) = components cs := by
      intro after
      rw [collapse, if_pos hc]
      split
      · exact ih true
      · rw [components_cons _ hsep]
        exact ih true
    cases ws with
    | nil => rw [List.nil_append, hrun, components_cons cs hc]
    | cons d ws =>
      have hfirst : collapse sep false (c :: cs) = sep :: collapse sep true cs := by
        rw [collapse, if_pos hc]
        rfl
      rw [collapse_append hws (List.cons_ne_nil _ _), hfirst, components_append_cons _ _ hsep,
        ih true, components_append_cons _ _ hc]

/-- Every separator that is left after collapsing is the one that was asked for. -/
theorem eq_of_mem_collapse {after : Bool} (h : c ∈ collapse sep after cs)
    (hc : isSeparator c = true) : c = sep := by
  induction cs generalizing after with
  | nil => cases h
  | cons d cs ih =>
    rw [collapse] at h
    split at h
    · split at h
      · exact ih h
      · rcases List.mem_cons.mp h with rfl | h
        · rfl
        · exact ih h
    · next hd =>
      rcases List.mem_cons.mp h with rfl | h
      · exact absurd hc hd
      · exact ih h

/-- Collapsed runs leave no two separators side by side, the one before the text included. -/
theorem isChain_collapse (sep : Char) (after : Bool) (cs : List Char) :
    (collapse sep after cs).IsChain (fun c d => ¬ (isSeparator c = true ∧ isSeparator d = true))
      ∧ (after = true → rooted (collapse sep after cs) = false) := by
  induction cs generalizing after with
  | nil => exact ⟨List.isChain_nil, fun _ => rfl⟩
  | cons c cs ih =>
    rw [collapse]
    split
    · obtain ⟨hchain, hroot⟩ := ih true
      split
      · exact ⟨hchain, fun _ => hroot rfl⟩
      · next hafter =>
        refine ⟨List.isChain_cons.mpr ⟨fun d hd hboth => ?_, hchain⟩, fun h => absurd h hafter⟩
        have hd : rooted (collapse sep true cs) = isSeparator d := by
          rw [rooted, hd]
          rfl
        exact absurd (hboth.2.symm.trans (hd.symm.trans (hroot rfl))) Bool.noConfusion
    · next hc =>
      refine ⟨List.isChain_cons.mpr ⟨fun d _ hboth => hc hboth.1, (ih false).1⟩, fun _ => ?_⟩
      exact Bool.not_eq_true _ ▸ hc

/-- Collapsing keeps whether a name is rooted. -/
theorem rooted_collapse (hsep : isSeparator sep = true) (cs : List Char) :
    rooted (collapse sep false cs) = rooted cs := by
  cases cs with
  | nil => rfl
  | cons c cs =>
    rw [collapse]
    split
    · next hc => exact hsep.trans hc.symm
    · rfl

/-- Trimming the end drops its separators. -/
theorem trimEnd_eq (sep : Char) (cs : List Char) : trimEnd sep cs = cs.rdropWhile (· == sep) := rfl

/-- What is dropped at the end is separators. -/
theorem components_trimEnd (hsep : isSeparator sep = true) (cs : List Char) :
    components (trimEnd sep cs) = components cs := by
  rw [trimEnd_eq]
  induction cs using List.reverseRecOn with
  | nil => rfl
  | append_singleton cs c ih =>
    rw [List.rdropWhile_concat]
    split
    · next hc =>
      have hc : isSeparator c = true := beq_iff_eq.mp hc ▸ hsep
      rw [ih, components_append_cons cs [] hc, components_nil, List.append_nil]
    · rfl

/-- A normalized name is the beginning of the name with its runs collapsed. -/
theorem exists_normalize_append (raw : List Char) :
    ∃ dropped, normalize raw ++ dropped
      = collapse (separatorOf (stripMarker raw)) false (stripMarker raw) :=
  List.rdropWhile_prefix _ _

/-- A normalized name is normal. -/
theorem normal_normalize (raw : List Char) :
    Normal (separatorOf (stripMarker raw)) (normalize raw) := by
  obtain ⟨dropped, hdropped⟩ := exists_normalize_append raw
  have hone : ∀ c ∈ normalize raw, isSeparator c = true → c = separatorOf (stripMarker raw) :=
    fun c hc => eq_of_mem_collapse (hdropped ▸ List.mem_append_left dropped hc)
  have hchain := (isChain_collapse (separatorOf (stripMarker raw)) false (stripMarker raw)).1
  rw [← hdropped] at hchain
  refine ⟨hone, hchain.left_of_append, fun c hc => ?_⟩
  -- a separator at the end would be the one that was dropped there
  obtain ⟨hne, rfl⟩ := List.mem_getLast?_eq_getLast hc
  rw [← Bool.not_eq_true]
  intro hseparator
  exact List.rdropWhile_last_not _ _ hne (beq_iff_eq.mpr (hone _ (List.getLast_mem hne) hseparator))

/-- Normalizing keeps the components. -/
theorem components_normalize (raw : List Char) :
    components (normalize raw) = components (stripMarker raw) := by
  have hsep := isSeparator_separatorOf (stripMarker raw)
  rw [normalize, components_trimEnd hsep, components_collapse hsep]

/-- Normalizing keeps whether a name is rooted, if anything is left. -/
theorem rooted_normalize {raw : List Char} (hne : normalize raw ≠ []) :
    rooted (normalize raw) = rooted (stripMarker raw) := by
  obtain ⟨dropped, hdropped⟩ := exists_normalize_append raw
  rw [← rooted_collapse (isSeparator_separatorOf (stripMarker raw)) (stripMarker raw), ← hdropped,
    rooted_append hne]

/-! ## Cutting after the last separator -/

theorem forall_reverse_ne (h : sep ∉ cs) : ∀ c ∈ cs.reverse, (c != sep) = true := by
  intro c hc
  rw [bne_iff_ne]
  rintro rfl
  exact h (List.mem_reverse.mp hc)

/-- Where there is no separator the whole name is behind the last one. -/
theorem splitLast_of_notMem (h : sep ∉ cs) : splitLast sep cs = ([], cs) := by
  have hall := forall_reverse_ne h
  have htake : cs.reverse.takeWhile (· != sep) = cs.reverse := List.takeWhile_eq_self_iff.mpr hall
  have hdrop : cs.reverse.dropWhile (· != sep) = [] := List.dropWhile_eq_nil_iff.mpr hall
  rw [splitLast, htake, hdrop, List.reverse_reverse, List.reverse_nil]

/-- The last separator stays with what is in front of it. -/
theorem splitLast_append_cons (xs : List Char) (h : sep ∉ cs) :
    splitLast sep (xs ++ sep :: cs) = (xs ++ [sep], cs) := by
  have hall := forall_reverse_ne h
  have hreverse : (xs ++ sep :: cs).reverse = cs.reverse ++ sep :: xs.reverse := by simp
  have hstop : (sep != sep) = false := bne_self_eq_false _
  rw [splitLast, hreverse, List.takeWhile_append_of_pos hall, List.dropWhile_append_of_pos hall,
    List.takeWhile_cons_of_neg (by rw [hstop]; exact Bool.false_ne_true),
    List.dropWhile_cons_of_neg (by rw [hstop]; exact Bool.false_ne_true)]
  simp

/-- Where a character occurs, it occurs for a last time. -/
theorem exists_last_of_mem (h : c ∈ cs) : ∃ xs ys, cs = xs ++ c :: ys ∧ c ∉ ys := by
  obtain ⟨ys, xs, hreverse, hys⟩ := List.eq_append_cons_of_mem (List.mem_reverse.mpr h)
  refine ⟨xs.reverse, ys.reverse, ?_, fun hmem => hys (List.mem_reverse.mp hmem)⟩
  rw [← List.reverse_reverse cs, hreverse]
  simp

/-! ## The marker -/

/-- The marker is dropped from the end of a name. -/
theorem stripMarker_append (raw : List Char) : stripMarker (raw ++ deletedMarker) = raw := by
  have hsuffix : deletedMarker.isSuffixOf (raw ++ deletedMarker) = true :=
    List.isSuffixOf_iff_suffix.mpr (List.suffix_append raw deletedMarker)
  rw [stripMarker, if_pos hsuffix, List.length_append, Nat.add_sub_cancel, List.take_left]

/-- A name without the marker keeps its end. -/
theorem stripMarker_of_not_suffix {raw : List Char} (h : ¬ deletedMarker <:+ raw) :
    stripMarker raw = raw :=
  if_neg (mt List.isSuffixOf_iff_suffix.mp h)

/-! ## Names that are read -/

/-- **A name cannot be read exactly if it has no component.** -/
theorem parse_eq_error_iff (raw : List Char) :
    parse raw = .error .nameUnavailable ↔ components (stripMarker raw) = [] := by
  rw [← components_normalize, (normal_normalize raw).components_eq_nil_iff, ← List.isEmpty_iff,
    parse]
  split
  · next hempty => exact iff_of_true rfl hempty
  · next hempty => exact iff_of_false (fun h => by cases h) hempty

/-- A cut name: its final component alone, or a separator with the parent in front of it. -/
def IsCut (n : FileName) : Prop :=
  n.name = n.final ∧ n.parent = none ∨ ∃ xs, n.name = xs ++ n.separator :: n.final
    ∧ n.parent = some xs

/-- A name without a directory is its final component, and has no parent. -/
theorem isCut_of_directory_eq_nil {n : FileName} (h : n.directory = []) : IsCut n := by
  refine .inl ⟨?_, ?_⟩
  · rw [name, h, List.nil_append]
  · rw [parent, h]
    rfl

/-- A name whose directory ends in its separator is cut there. -/
theorem isCut_of_directory_eq_append {n : FileName} {xs : List Char}
    (h : n.directory = xs ++ [n.separator]) : IsCut n := by
  refine .inr ⟨xs, ?_, ?_⟩
  · rw [name, h, List.append_assoc]
    rfl
  · rw [parent, h]
    simp

/-- A name that is read is the normalized one, cut at its last separator if it has any. -/
theorem parse_eq_ok {raw : List Char} (hne : components (stripMarker raw) ≠ []) :
    ∃ n, parse raw = .ok n ∧ n.separator = separatorOf (stripMarker raw) ∧ n.name = normalize raw
      ∧ n.separator ∉ n.final ∧ IsCut n := by
  have hname : normalize raw ≠ [] := by
    rwa [← components_normalize, Ne, (normal_normalize raw).components_eq_nil_iff] at hne
  have hparse : parse raw = .ok ⟨separatorOf (stripMarker raw),
      (splitLast (separatorOf (stripMarker raw))
      (normalize raw)).1, (splitLast (separatorOf (stripMarker raw)) (normalize raw)).2⟩ :=
    if_neg (mt List.isEmpty_iff.mp hname)
  refine ⟨_, hparse, rfl, splitLast_append _ _, ?_⟩
  by_cases hmem : separatorOf (stripMarker raw) ∈ normalize raw
  · obtain ⟨xs, ys, hcut, hys⟩ := exists_last_of_mem hmem
    rw [hcut, splitLast_append_cons xs hys]
    exact ⟨hys, isCut_of_directory_eq_append rfl⟩
  · rw [splitLast_of_notMem hmem]
    exact ⟨hmem, isCut_of_directory_eq_nil rfl⟩

/-- Without a dot there is no extension. -/
theorem extension_of_notMem {n : FileName} (h : '.' ∉ n.final) : n.extension = none := by
  rw [extension, splitLast_of_notMem h]
  rfl

/-- The extension is what is behind the last dot, unless there is nothing on one side of it. -/
theorem extension_of_final {n : FileName} {stem e : List Char} (hfinal : n.final = stem ++ '.' :: e)
    (hdot : '.' ∉ e) : n.extension = if stem = [] ∨ e = [] then none else some e := by
  rw [extension, hfinal, splitLast_append_cons stem hdot]
  simp

/-- The extension follows the last dot, which has something on either side. -/
theorem extension_eq_some_iff (n : FileName) (e : List Char) :
    n.extension = some e ↔ ∃ stem, n.final = stem ++ '.' :: e ∧ stem ≠ [] ∧ e ≠ [] ∧ '.' ∉ e := by
  constructor
  · intro h
    by_cases hmem : '.' ∈ n.final
    · obtain ⟨stem, e', hfinal, hdot⟩ := exists_last_of_mem hmem
      rw [extension_of_final hfinal hdot] at h
      split at h
      · cases h
      · next hsides =>
        rw [not_or] at hsides
        cases h
        exact ⟨stem, hfinal, hsides.1, hsides.2, hdot⟩
    · rw [extension_of_notMem hmem] at h
      cases h
  · rintro ⟨stem, hfinal, hstem, he, hdot⟩
    rw [extension_of_final hfinal hdot, if_neg (not_or.mpr ⟨hstem, he⟩)]

/-- The separator is the backslash if that occurs and the slash does not, and the slash
otherwise. -/
theorem separatorOf_eq_ite (raw : List Char) :
    separatorOf raw = if '\\' ∈ raw ∧ '/' ∉ raw then '\\' else '/' := by
  simp [separatorOf]

/-- What is to be read of a raw name, by its components. -/
structure IsRead (raw : List Char) (n : FileName) : Prop where
  separator : n.separator
    = if '\\' ∈ stripMarker raw ∧ '/' ∉ stripMarker raw then '\\' else '/'
  name : n.name = (if rooted (stripMarker raw) then [n.separator] else [])
    ++ [n.separator].intercalate (components (stripMarker raw))
  final : (components (stripMarker raw)).getLast? = some n.final
  parent_eq_none : n.parent = none ↔ IsPiece n.name
  name_eq_of_parent : ∀ p, n.parent = some p → n.name = p ++ n.separator :: n.final
  extension : ∀ e, n.extension = some e ↔ ∃ stem, n.final = stem ++ '.' :: e ∧ stem ≠ [] ∧ e ≠ []
    ∧ '.' ∉ e
  normal : Normal n.separator n.name

/-- What a normalized name is cut off at is its last component. -/
theorem IsCut.getLast?_components {n : FileName} (hcut : IsCut n)
    (hsep : isSeparator n.separator = true) (hnormal : Normal n.separator n.name)
    (hfilled : n.name ≠ []) (hpiece : IsPiece n.final) :
    (components n.name).getLast? = some n.final := by
  rcases hcut with ⟨hwhole, -⟩ | ⟨xs, hwhole, -⟩
  · rw [hwhole, components_of_isPiece hpiece (hwhole ▸ hfilled)]
    rfl
  · -- the final component is not empty, for no separator stands at the end
    have hlast : n.final ≠ [] := by
      intro hnil
      rw [hnil] at hwhole
      exact hnormal.getLast?_ne hsep (by rw [hwhole, List.getLast?_concat])
    rw [hwhole, components_append_cons _ _ hsep, components_of_isPiece hpiece hlast,
      List.getLast?_concat]

/-- **A name is read as the components of the raw name.**  Without any component it is no name. -/
theorem reads_components {raw : List Char} (hne : components (stripMarker raw) ≠ []) :
    ∃ n, parse raw = .ok n ∧ IsRead raw n := by
  obtain ⟨n, hparse, hseparator, hname, hfinal, hcut⟩ := parse_eq_ok hne
  have hsep : isSeparator n.separator = true := hseparator ▸ isSeparator_separatorOf _
  have hnormal : Normal n.separator n.name := by
    rw [hseparator, hname]
    exact normal_normalize raw
  have hcomponents : components n.name = components (stripMarker raw) := by
    rw [hname, components_normalize]
  have hfilled : n.name ≠ [] := by
    intro hnil
    rw [← hcomponents, hnil] at hne
    exact hne rfl
  have hpiece : IsPiece n.final := by
    intro c hc
    rw [← Bool.not_eq_true]
    intro hseparator
    exact hfinal (hnormal.one c (List.mem_append_right _ hc) hseparator ▸ hc)
  have hjoin : n.name = (if rooted (stripMarker raw) then [n.separator] else [])
      ++ [n.separator].intercalate (components (stripMarker raw)) := by
    have hrooted : rooted n.name = rooted (stripMarker raw) := by
      rw [hname]
      exact rooted_normalize (hname ▸ hfilled)
    rw [← hrooted, ← hcomponents]
    exact hnormal.eq_intercalate
  have hlast : (components (stripMarker raw)).getLast? = some n.final := by
    rw [← hcomponents]
    exact hcut.getLast?_components hsep hnormal hfilled hpiece
  refine ⟨n, hparse, hseparator.trans (separatorOf_eq_ite _), hjoin, hlast, ?none, ?some,
    extension_eq_some_iff n, hnormal⟩
  case none =>
    rcases hcut with ⟨hwhole, hparent⟩ | ⟨xs, hwhole, hparent⟩
    · exact iff_of_true hparent (hwhole ▸ hpiece)
    · refine iff_of_false (fun hnone => by cases hparent.symm.trans hnone) fun hall => ?_
      have hfree := hall n.separator (hwhole ▸ List.mem_append_right _ List.mem_cons_self)
      exact absurd (hsep.symm.trans hfree) Bool.noConfusion
  case some =>
    intro p hp
    rcases hcut with ⟨-, hparent⟩ | ⟨xs, hwhole, hparent⟩
    · cases hparent.symm.trans hp
    · cases hparent.symm.trans hp
      exact hwhole

end FileActivity.FileName
