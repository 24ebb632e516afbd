/-
# Sheets read back

A written sheet is a document, and says what the sheet says: its sections in their order, with
their keys in their order, and every item as it was.

Main statement: `parse_render`.
-/
import FileActivity.Proofs.Toml.Plain
import FileActivity.Proofs.Toml.Sound

namespace FileActivity.Toml

/-! ## Layout -/

/-- A character that a plain value may begin with. -/
def startsPlain (c : Char) : Bool := c == '"' || c == '\x27' || c == 't' || c == 'f' || c.isDigit

theorem exists_render_eq_cons {p : Plain} (hp : p.Fits) :
    ∃ c tail, p.render = c :: tail ∧ startsPlain c = true := by
  cases p with
  | string text =>
    obtain ⟨c, tail, htext, hc⟩ := exists_renderText_eq_cons text.toList
    refine ⟨c, tail, htext, ?_⟩
    rcases hc with rfl | rfl <;> decide
  | boolean b => cases b <;> exact ⟨_, _, rfl, by decide⟩
  | integer n =>
    obtain ⟨n, rfl⟩ := Int.eq_ofNat_of_zero_le hp.1
    have htext : (toString (n : Int)).toList = Nat.toDigits 10 n := Nat.toList_repr
    obtain ⟨d, ds, hdigits, hd⟩ := exists_toDigits_eq_cons n
    exact ⟨d, ds, htext.trans hdigits, by simp [startsPlain, hd]⟩

/-- A character that is no layout and opens or closes nothing. -/
def standsAlone (c : Char) : Bool :=
  !isBlank c && c != '\n' && c != '\r' && c != '#' && c != '[' && c != '{' && c != ']'

theorem standsAlone_of_startsPlain {c : Char} (h : startsPlain c = true) :
    standsAlone c = true := by
  have hne : ∀ d, startsPlain d = false → c ≠ d := by
    rintro d hd rfl
    rw [h] at hd
    cases hd
  simp [standsAlone, isBlank, hne ' ' (by decide), hne '\t' (by decide), hne '\n' (by decide),
    hne '\r' (by decide), hne '#' (by decide), hne '[' (by decide), hne '{' (by decide),
    hne ']' (by decide)]

section Space

variable {c : Char} {rest : List Char}

theorem skipSpace_of_not_blank (hnewline : c ≠ '\n') (hreturn : c ≠ '\r')
    (hblank : isBlank c = false) (hcomment : c ≠ '#') :
    skipSpace (c :: rest) = some (c :: rest) := by
  rw [skipSpace, skipLines, hblank, if_neg (by decide), if_neg hcomment]
  · exact hnewline
  · exact hreturn

theorem skipSpace_of_standsAlone (h : standsAlone c = true) :
    skipSpace (c :: rest) = some (c :: rest) := by
  simp only [standsAlone, Bool.and_eq_true, bne_iff_ne, ne_eq, Bool.not_eq_true'] at h
  obtain ⟨⟨⟨⟨⟨⟨hblank, hnewline⟩, hreturn⟩, hcomment⟩, -⟩, -⟩, -⟩ := h
  exact skipSpace_of_not_blank hnewline hreturn hblank hcomment

theorem restOfLine_newline : restOfLine ('\n' :: rest) = some rest := rfl

end Space

/-! ## Items -/

/-- Plain values that a sheet may hold. -/
def Item.Fits : Item → Prop
  | .plain p => p.Fits
  | .list ps => ∀ p ∈ ps, p.Fits

section Item

variable {p : Plain} {rest : List Char}

/-- A plain value is read back as what it stands for. -/
theorem value_plain (hp : p.Fits) (hrest : AfterValue rest) (depth : Nat) :
    value depth (p.render ++ rest) = some (p.toValue, rest) := by
  cases depth with
  | zero => exact scalar_render hp hrest
  | succ depth =>
    have hread := scalar_render hp hrest
    obtain ⟨c, tail, htext, hc⟩ := exists_render_eq_cons hp
    have halone := standsAlone_of_startsPlain hc
    rw [htext, List.cons_append] at hread ⊢
    rw [value]
    · exact hread
    · intro tail heq
      rw [(List.cons.inj heq).1] at halone
      cases halone
    · intro tail heq
      rw [(List.cons.inj heq).1] at halone
      cases halone

/-- An element of an array, and what comes behind it. -/
theorem elements_plain (hp : p.Fits) {space : List Char} {mark : Char}
    (hspace : ∀ tail, skipSpace (space ++ tail) = skipSpace tail)
    (hmark : mark = ',' ∨ mark = ']') (depth fuel : Nat) (read : List Value) :
    elements (value depth) (fuel + 1) read (space ++ (p.render ++ mark :: rest))
      = if mark = ',' then elements (value depth) fuel (p.toValue :: read) rest
        else some ((p.toValue :: read).reverse, rest) := by
  have hafter : AfterValue (mark :: rest) := ⟨mark, rest, rfl, .inr hmark⟩
  have hread := value_plain hp hafter depth
  have hnext : skipSpace (mark :: rest) = some (mark :: rest) := by
    rcases hmark with rfl | rfl <;> rfl
  obtain ⟨c, tail, htext, hc⟩ := exists_render_eq_cons hp
  have halone := standsAlone_of_startsPlain hc
  rw [elements, hspace]
  rw [htext, List.cons_append] at hread ⊢
  rw [skipSpace_of_standsAlone halone]
  dsimp only [Option.bind_eq_bind, Option.bind_some]
  split
  · next heq =>
    rw [(List.cons.inj heq).1] at halone
    cases halone
  · rw [hread]
    dsimp only [Option.bind_some]
    rw [hnext]
    rcases hmark with rfl | rfl <;> rfl

/-- The lines of a list, each with one element. -/
def rows (ps : List Plain) : List Char :=
  ps.flatMap fun p => "    ".toList ++ p.render ++ [',', '\n']

/-- The rows of a list are read back in order. -/
theorem elements_rows {ps : List Plain} (hps : ∀ p ∈ ps, p.Fits) (depth : Nat) (read : List Value)
    {fuel : Nat} (hfuel : ('\n' :: (rows ps ++ ']' :: rest)).length < fuel) :
    elements (value depth) fuel read ('\n' :: (rows ps ++ ']' :: rest))
      = some (read.reverse ++ ps.map Plain.toValue, rest) := by
  induction ps generalizing read fuel with
  | nil =>
    obtain ⟨fuel, rfl⟩ : ∃ n, fuel = n + 1 := ⟨fuel - 1, by omega⟩
    rw [List.map_nil, List.append_nil]
    rfl
  | cons p ps ih =>
    obtain ⟨fuel, rfl⟩ : ∃ n, fuel = n + 1 := ⟨fuel - 1, by omega⟩
    obtain ⟨hp, hps⟩ := List.forall_mem_cons.mp hps
    have htext : '\n' :: (rows (p :: ps) ++ ']' :: rest)
        = "\n    ".toList ++ (p.render ++ ',' :: '\n' :: (rows ps ++ ']' :: rest)) := by
      simp [rows]
    rw [htext] at hfuel ⊢
    rw [elements_plain hp (fun _ => rfl) (.inl rfl), if_pos rfl]
    have hlength : ('\n' :: (rows ps ++ ']' :: rest)).length < fuel := by
      simp only [List.length_append, List.length_cons] at hfuel ⊢
      omega
    rw [ih hps (p.toValue :: read) hlength, List.reverse_cons, List.append_assoc,
      List.singleton_append, List.map_cons]

/-- **A written item is read back.** -/
theorem value_render {item : Item} (hitem : item.Fits) (hrest : AfterValue rest) (depth : Nat) :
    value (depth + 1) (item.render ++ rest) = some (item.toValue, rest) := by
  cases item with
  | plain p => exact value_plain hitem hrest (depth + 1)
  | list ps =>
    match ps, hitem with
    | [], _ => rfl
    | [p], hitem =>
      have hp : p.Fits := hitem p List.mem_cons_self
      have htext : (Item.list [p]).render ++ rest = '[' :: ([] ++ (p.render ++ ']' :: rest)) := by
        simp [Item.render]
      rw [htext, value, elements_plain hp (fun _ => rfl) (.inr rfl), if_neg (by decide)]
      rfl
    | p :: q :: ps, hitem =>
      have htext : (Item.list (p :: q :: ps)).render ++ rest
          = '[' :: '\n' :: (rows (p :: q :: ps) ++ ']' :: rest) := by
        simp [Item.render, rows]
      rw [htext, value, elements_rows hitem depth [] (Nat.lt_succ_self _)]
      rfl

theorem exists_itemRender_eq_cons {item : Item} (hitem : item.Fits) :
    ∃ c tail, item.render = c :: tail ∧ isBlank c = false := by
  cases item with
  | plain p =>
    obtain ⟨c, tail, htext, hc⟩ := exists_render_eq_cons hitem
    have halone := standsAlone_of_startsPlain hc
    simp only [standsAlone, Bool.and_eq_true, Bool.not_eq_true'] at halone
    exact ⟨c, tail, htext, halone.1.1.1.1.1.1⟩
  | list ps =>
    match ps with
    | [] => exact ⟨_, _, rfl, by decide⟩
    | [p] => exact ⟨_, _, rfl, by decide⟩
    | p :: q :: ps => exact ⟨_, _, rfl, by decide⟩

end Item

/-! ## Keys -/

/-- A key that needs no quotes. -/
structure IsBare (key : String) : Prop where
  nonempty : key.toList ≠ []
  chars : ∀ c ∈ key.toList, isBareKeyChar c = true

instance (key : String) : Decidable (IsBare key) :=
  decidable_of_iff (key.toList ≠ [] ∧ key.toList.all isBareKeyChar = true)
    ⟨fun h => ⟨h.1, List.all_eq_true.mp h.2⟩, fun h => ⟨h.nonempty, List.all_eq_true.mpr h.chars⟩⟩

section Key

variable {name : String} {rest : List Char}

theorem IsBare.exists_eq_cons (h : IsBare name) :
    ∃ c cs, name.toList = c :: cs ∧ isBareKeyChar c = true := by
  cases htext : name.toList with
  | nil => exact absurd htext h.nonempty
  | cons c cs => exact ⟨c, cs, rfl, h.chars c (htext ▸ List.mem_cons_self)⟩

/-- A bare key is read up to a character that cannot stand in it. -/
theorem key_bare (h : IsBare name) {c : Char} (hc : isBareKeyChar c = false)
    (hdot : ∀ tail, skipBlanks (c :: rest) ≠ '.' :: tail) :
    key (name.toList ++ c :: rest) = some (⟨[], name⟩, skipBlanks (c :: rest)) := by
  have hsimple : simpleKey (skipBlanks (name.toList ++ c :: rest)) = some (name, c :: rest) := by
    have htake : (name.toList ++ c :: rest).takeWhile isBareKeyChar = name.toList := by
      rw [List.takeWhile_append_of_pos h.chars, List.takeWhile_cons, hc]
      simp
    have hdrop : (name.toList ++ c :: rest).dropWhile isBareKeyChar = c :: rest := by
      rw [List.dropWhile_append_of_pos h.chars, List.dropWhile_cons, hc]
      rfl
    obtain ⟨d, ds, htext, hd⟩ := h.exists_eq_cons
    have hblank : isBlank d = false := by
      cases hblank : isBlank d with
      | false => rfl
      | true =>
        have : d = ' ' ∨ d = '\t' := by simpa [isBlank] using hblank
        rcases this with rfl | rfl <;> cases hd
    have hmark : ¬ (d = '"' ∨ d = '\x27') := by
      rintro (rfl | rfl) <;> cases hd
    have hskip : skipBlanks (name.toList ++ c :: rest) = name.toList ++ c :: rest := by
      rw [htext, List.cons_append, skipBlanks, List.dropWhile_cons, hblank]
      rfl
    rw [hskip]
    rw [htext, List.cons_append] at htake hdrop ⊢
    rw [simpleKey, if_neg hmark, htake, hdrop, ← htext]
    have hbare : ¬ name.toList.isEmpty = true := by simpa using h.nonempty
    dsimp only
    rw [if_neg hbare, String.ofList_toList]
  rw [key, maxNesting, keyParts, hsimple]
  dsimp only [Option.bind_eq_bind, Option.bind_some]
  split
  · next tail heq => exact absurd heq (hdot tail)
  · rfl

end Key

/-! ## Lines -/

/-- The text of one key with its item. -/
def renderKey (key : String) (item : Item) : List Char :=
  key.toList ++ " = ".toList ++ item.render ++ ['\n']

section Line

variable {name : String} {d d' : Draft} {rest : List Char}

/-- The line of a key is read as one more value of the current table. -/
theorem line_key {item : Item} (hname : IsBare name) (hitem : item.Fits)
    (hadd : d.addValue ⟨[], name⟩ item.toValue = some d') :
    line d (renderKey name item ++ rest) = some (d', rest) := by
  have htext : renderKey name item ++ rest
      = name.toList ++ ' ' :: '=' :: ' ' :: (item.render ++ '\n' :: rest) := by
    simp [renderKey]
  have hkey : key (name.toList ++ ' ' :: '=' :: ' ' :: (item.render ++ '\n' :: rest))
      = some (⟨[], name⟩, '=' :: ' ' :: (item.render ++ '\n' :: rest)) :=
    key_bare hname (by decide) fun tail heq => by cases heq
  have hskip : skipBlanks (' ' :: (item.render ++ '\n' :: rest)) = item.render ++ '\n' :: rest := by
    obtain ⟨c, tail, hchars, hblank⟩ := exists_itemRender_eq_cons hitem
    rw [hchars, List.cons_append, skipBlanks, List.dropWhile_cons, if_pos (by decide),
      List.dropWhile_cons, hblank]
    rfl
  have hvalue : value maxNesting (item.render ++ '\n' :: rest)
      = some (item.toValue, '\n' :: rest) :=
    value_render hitem ⟨'\n', rest, rfl, .inl rfl⟩ 78
  have hassignment : assignment (value maxNesting)
      (name.toList ++ ' ' :: '=' :: ' ' :: (item.render ++ '\n' :: rest))
      = some ((⟨[], name⟩, item.toValue), '\n' :: rest) := by
    rw [assignment, hkey]
    dsimp only [Option.bind_eq_bind, Option.bind_some, expect]
    rw [if_pos rfl, Option.bind_some, hskip, hvalue]
    rfl
  obtain ⟨c, cs, hchars, hc⟩ := hname.exists_eq_cons
  rw [htext]
  rw [hchars, List.cons_append] at hassignment ⊢
  rw [line]
  · rw [hassignment]
    dsimp only [Option.bind_eq_bind, Option.bind_some]
    rw [restOfLine_newline, Option.bind_some, hadd]
    rfl
  · intro tail heq
    rw [(List.cons.inj heq).1] at hc
    cases hc
  · intro tail heq
    rw [(List.cons.inj heq).1] at hc
    cases hc

/-- The line of a header opens a table. -/
theorem line_header (hname : IsBare name) (hopen : d.openTable ⟨[], name⟩ = some d') :
    line d ('[' :: (name.toList ++ ']' :: '\n' :: rest)) = some (d', rest) := by
  have hkey : key (name.toList ++ ']' :: '\n' :: rest) = some (⟨[], name⟩, ']' :: '\n' :: rest) :=
    key_bare hname (by decide) fun tail heq => by cases heq
  obtain ⟨c, cs, hchars, hc⟩ := hname.exists_eq_cons
  rw [hchars, List.cons_append] at hkey ⊢
  rw [line]
  · rw [hkey]
    dsimp only [Option.bind_eq_bind, Option.bind_some, expect]
    rw [if_pos rfl, Option.bind_some, restOfLine_newline, Option.bind_some, hopen]
    rfl
  · intro tail heq
    rw [(List.cons.inj heq).1] at hc
    cases hc

end Line

/-! ## Lines in turn -/

/-- A character at the beginning of a line that is neither empty nor a comment. -/
def startsLine (c : Char) : Bool := !isBlank c && c != '#' && c != '\n' && c != '\r'

theorem IsBare.exists_startsLine {name : String} (h : IsBare name) :
    ∃ c cs, name.toList = c :: cs ∧ startsLine c = true := by
  obtain ⟨c, cs, hchars, hc⟩ := h.exists_eq_cons
  have hne : ∀ d, isBareKeyChar d = false → c ≠ d := by
    rintro d hd rfl
    rw [hc] at hd
    cases hd
  refine ⟨c, cs, hchars, ?_⟩
  simp [startsLine, isBlank, hne ' ' (by decide), hne '\t' (by decide), hne '#' (by decide),
    hne '\n' (by decide), hne '\r' (by decide)]

/-- Whatever fuel there is for the lines of a text, they lead from one draft to another. -/
def LeadsTo (d : Draft) (cs : List Char) (d' : Draft) : Prop :=
  ∀ fuel, cs.length < fuel → lines fuel d cs = some d'

namespace LeadsTo

variable {d d' d'' : Draft} {c : Char} {cs rest : List Char}

theorem nil : LeadsTo d [] d := by
  intro fuel hfuel
  obtain ⟨fuel, rfl⟩ : ∃ n, fuel = n + 1 := ⟨fuel - 1, by omega⟩
  rfl

/-- An empty line changes nothing. -/
theorem emptyLine (h : LeadsTo d rest d') : LeadsTo d ('\n' :: rest) d' := by
  intro fuel hfuel
  obtain ⟨fuel, rfl⟩ : ∃ n, fuel = n + 1 := ⟨fuel - 1, by omega⟩
  have hskip : skipBlanks ('\n' :: rest) = '\n' :: rest := rfl
  rw [lines, hskip]
  dsimp only
  rw [if_pos (.inr (.inl rfl)), restOfLine_newline]
  exact h fuel (by simpa using hfuel)

/-- A line is read first, and then the others. -/
theorem append {piece : List Char} (hpiece : ∃ c cs, piece = c :: cs ∧ startsLine c = true)
    (hline : line d (piece ++ rest) = some (d', rest)) (h : LeadsTo d' rest d'') :
    LeadsTo d (piece ++ rest) d'' := by
  intro fuel hfuel
  obtain ⟨fuel, rfl⟩ : ∃ n, fuel = n + 1 := ⟨fuel - 1, by omega⟩
  obtain ⟨c, cs, rfl, hc⟩ := hpiece
  simp only [startsLine, Bool.and_eq_true, Bool.not_eq_true', bne_iff_ne, ne_eq] at hc
  obtain ⟨⟨⟨hblank, hcomment⟩, hnewline⟩, hreturn⟩ := hc
  have hskip : skipBlanks (c :: cs ++ rest) = c :: cs ++ rest := by
    rw [List.cons_append, skipBlanks, List.dropWhile_cons, hblank]
    rfl
  rw [lines, hskip]
  dsimp only [List.cons_append]
  rw [if_neg (by simp [hcomment, hnewline, hreturn]), ← List.cons_append, hline]
  refine h fuel ?_
  simp only [List.cons_append, List.length_cons, List.length_append] at hfuel
  omega

end LeadsTo

/-! ## Tables in the making -/

namespace Nodes

variable {nodes : Nodes} {name : String}

theorem get?_eq_none (h : name ∉ nodes.map Prod.fst) : nodes.get? name = none := by
  rw [get?, List.lookup_eq_none_iff]
  intro e he
  exact bne_iff_ne.mpr fun heq => h (heq ▸ List.mem_map_of_mem he)

theorem put_eq_append (h : name ∉ nodes.map Prod.fst) (node : Node) :
    nodes.put name node = nodes ++ [(name, node)] := by
  induction nodes with
  | nil => rfl
  | cons e nodes ih =>
    obtain ⟨k, n⟩ := e
    rw [List.map_cons, List.mem_cons, not_or] at h
    rw [put, if_neg (Ne.symm h.1), ih h.2]
    rfl

end Nodes

namespace Draft

variable {d : Draft} {nodes : Nodes} {name : String}

theorem addValue_new (h : name ∉ d.current.map Prod.fst) (v : Value) :
    d.addValue ⟨[], name⟩ v = some { d with current := d.current ++ [(name, .value v)] } := by
  have hadd : d.current.addValue [] name v = some (d.current ++ [(name, .value v)]) := by
    rw [Nodes.addValue, Nodes.descend, if_neg (by decide), Nodes.get?_eq_none h, if_neg (by decide),
      Nodes.put_eq_append h]
  rw [addValue, hadd]
  rfl

theorem openTable_new (hclose : d.close = some nodes) (h : name ∉ nodes.map Prod.fst) :
    d.openTable ⟨[], name⟩ = some ⟨nodes, some ⟨[], name⟩, false, []⟩ := by
  rw [openTable, hclose]
  dsimp only [Option.bind_eq_bind, Option.bind_some, Nodes.descend, openTable.at?]
  rw [Nodes.get?_eq_none h]
  rfl

theorem close_new (h : name ∉ nodes.map Prod.fst) (inner : Nodes) :
    close ⟨nodes, some ⟨[], name⟩, false, inner⟩
      = some (nodes ++ [(name, .table .header inner)]) := by
  rw [close]
  dsimp only [Nodes.descend]
  rw [if_neg (by decide), Nodes.get?_eq_none h, if_neg (by decide), Nodes.put_eq_append h]

end Draft

/-! ## Sections -/

/-- The keys of a section as they are read. -/
def sectionNodes (items : List (String × Item)) : Nodes :=
  items.map fun e => (e.1, .value e.2.toValue)

/-- A section that a sheet may hold: its keys need no quotes, and none stands twice. -/
structure SectionFits (items : List (String × Item)) : Prop where
  bare : ∀ key ∈ items.map Prod.fst, IsBare key
  keyed : Keyed Item.Fits items

/-- A sheet whose sections need no quotes for their names, none of which stands twice. -/
structure Sheet.Fits (sheet : Sheet) : Prop where
  bare : ∀ name ∈ sheet.map Prod.fst, IsBare name
  keyed : Keyed SectionFits sheet

/-- Whether the keys of a section will do can be seen from the list of them. -/
theorem SectionFits.of_keys {items : List (String × Item)} (keys : List String)
    (hkeys : items.map Prod.fst = keys) (hgood : keys.Nodup ∧ ∀ key ∈ keys, IsBare key)
    (hitems : ∀ e ∈ items, e.2.Fits) : SectionFits items :=
  ⟨hkeys ▸ hgood.2, hkeys ▸ hgood.1, hitems⟩

theorem Sheet.Fits.of_names {sheet : Sheet} (names : List String)
    (hnames : sheet.map Prod.fst = names) (hgood : names.Nodup ∧ ∀ name ∈ names, IsBare name)
    (hsections : ∀ e ∈ sheet, SectionFits e.2) : sheet.Fits :=
  ⟨hnames ▸ hgood.2, hnames ▸ hgood.1, hsections⟩

/-- What is read of a sheet. -/
def sheetNodes (sheet : Sheet) : Nodes :=
  sheet.map fun e => (e.1, .table .header (sectionNodes e.2))

section Sections

variable {d d' : Draft} {nodes : Nodes} {name : String} {rest : List Char}

/-- The lines of a section's keys fill the current table. -/
theorem leadsTo_keys {items : List (String × Item)} (hitems : SectionFits items)
    (hnew : ∀ e ∈ items, e.1 ∉ d.current.map Prod.fst)
    (h : LeadsTo { d with current := d.current ++ sectionNodes items } rest d') :
    LeadsTo d (items.flatMap (fun e => renderKey e.1 e.2) ++ rest) d' := by
  -- on the keys: what has been added stays in front of what is still to come
  induction items generalizing d with
  | nil =>
    rw [sectionNodes, List.map_nil, List.append_nil] at h
    exact h
  | cons e items ih =>
    obtain ⟨key, item⟩ := e
    obtain ⟨hbare, hbares⟩ := List.forall_mem_cons.mp hitems.bare
    obtain ⟨hkey, hitem, hkeyed⟩ := Keyed.cons_iff.mp hitems.keyed
    obtain ⟨hfirst, hothers⟩ := List.forall_mem_cons.mp hnew
    rw [List.flatMap_cons, List.append_assoc]
    refine LeadsTo.append ?_ (line_key hbare hitem (Draft.addValue_new hfirst item.toValue)) ?_
    · obtain ⟨c, cs, hchars, hc⟩ := hbare.exists_startsLine
      exact ⟨c, _, by rw [renderKey, hchars]; rfl, hc⟩
    · refine ih ⟨hbares, hkeyed⟩ (fun e he hmem => ?_) ?_
      · rw [List.map_append, List.mem_append] at hmem
        rcases hmem with hmem | hmem
        · exact hothers e he hmem
        · have heq : e.1 = key := List.mem_singleton.mp hmem
          exact hkey (heq ▸ List.mem_map_of_mem he)
      · rw [List.append_assoc]
        exact h

/-- A section opens its table and fills it. -/
theorem leadsTo_section {items : List (String × Item)} (hname : IsBare name)
    (hitems : SectionFits items) (hclose : d.close = some nodes) (hnew : name ∉ nodes.map Prod.fst)
    (h : LeadsTo ⟨nodes, some ⟨[], name⟩, false, sectionNodes items⟩ rest d') :
    LeadsTo d (renderSection name items ++ rest) d' := by
  have htext : renderSection name items ++ rest
      = ('[' :: (name.toList ++ [']', '\n']))
        ++ (items.flatMap (fun e => renderKey e.1 e.2) ++ rest) := by
    simp [renderSection, renderKey]
  have hline : line d ('[' :: (name.toList ++ [']', '\n'])
      ++ (items.flatMap (fun e => renderKey e.1 e.2) ++ rest))
      = some (⟨nodes, some ⟨[], name⟩, false, []⟩, items.flatMap (fun e => renderKey e.1 e.2)
        ++ rest) := by
    simpa using line_header hname (Draft.openTable_new hclose hnew)
  rw [htext]
  exact LeadsTo.append ⟨_, _, rfl, by decide⟩ hline
    (leadsTo_keys hitems (fun e _ hmem => by cases hmem) h)

/-- The text of sections, an empty line between two of them. -/
def renderSections (sheet : Sheet) : List Char :=
  List.intercalate ['\n'] (sheet.map fun e => renderSection e.1 e.2)

/-- The sections of a sheet become its tables, one after another. -/
theorem leadsTo_sections {sheet : Sheet} (hsheet : sheet.Fits) (hclose : d.close = some nodes)
    (hnew : ∀ e ∈ sheet, e.1 ∉ nodes.map Prod.fst) :
    ∃ d', LeadsTo d (renderSections sheet) d' ∧ d'.close = some (nodes ++ sheetNodes sheet) := by
  -- on the sections: a header closes the one before it, and the last one is closed by the end
  induction sheet generalizing d nodes with
  | nil => exact ⟨d, LeadsTo.nil, by rw [hclose, sheetNodes, List.map_nil, List.append_nil]⟩
  | cons e sheet ih =>
    obtain ⟨name, items⟩ := e
    obtain ⟨hbare, hbares⟩ := List.forall_mem_cons.mp hsheet.bare
    obtain ⟨hname, hitems, hkeyed⟩ := Keyed.cons_iff.mp hsheet.keyed
    obtain ⟨hfirst, hothers⟩ := List.forall_mem_cons.mp hnew
    have hclosed := Draft.close_new hfirst (sectionNodes items)
    -- the other sections, once the first one is closed
    obtain ⟨d', hlines, hd'⟩ := ih ⟨hbares, hkeyed⟩ hclosed fun e he hmem => by
      rw [List.map_append, List.mem_append] at hmem
      rcases hmem with hmem | hmem
      · exact hothers e he hmem
      · have heq : e.1 = name := List.mem_singleton.mp hmem
        exact hname (heq ▸ List.mem_map_of_mem he)
    refine ⟨d', ?_, by rw [hd', List.append_assoc]; rfl⟩
    cases sheet with
    | nil =>
      have htext : renderSections [(name, items)] = renderSection name items ++ [] := by
        simp [renderSections, List.intercalate]
      rw [htext]
      exact leadsTo_section hbare hitems hclose hfirst hlines
    | cons e' sheet =>
      have htext : renderSections ((name, items) :: e' :: sheet)
          = renderSection name items ++ '\n' :: renderSections (e' :: sheet) := by
        simp [renderSections, List.intercalate]
      rw [htext]
      exact leadsTo_section hbare hitems hclose hfirst hlines.emptyLine

end Sections

/-! ## Sheets -/

theorem toEntries_sectionNodes (items : List (String × Item)) :
    Nodes.toEntries (sectionNodes items) = items.map fun e => (e.1, e.2.toValue) := by
  induction items with
  | nil => rfl
  | cons e items ih =>
    have hcons : sectionNodes (e :: items) = (e.1, .value e.2.toValue) :: sectionNodes items := rfl
    rw [hcons, Nodes.toEntries, Node.toValue, ih, List.map_cons]

theorem toEntries_sheetNodes (sheet : Sheet) :
    Nodes.toEntries (sheetNodes sheet) = sheet.toEntries := by
  induction sheet with
  | nil => rfl
  | cons e sheet ih =>
    have hcons : sheetNodes (e :: sheet)
        = (e.1, .table .header (sectionNodes e.2)) :: sheetNodes sheet := rfl
    rw [hcons, Nodes.toEntries, Node.toValue, toEntries_sectionNodes, ih]
    rfl

/-- Sections begin with a bracket, and so with no byte order mark. -/
theorem skipMark_renderSections (sheet : Sheet) :
    skipMark (renderSections sheet) = renderSections sheet := by
  match sheet with
  | [] => rfl
  | [_] => rfl
  | _ :: _ :: _ => rfl

/-- **A written sheet is a document that says what the sheet says.** -/
theorem parse_render {sheet : Sheet} (h : sheet.Fits) :
    parse sheet.render = some sheet.toEntries := by
  have hempty : Draft.empty.close = some [] := rfl
  obtain ⟨d, hlines, hclose⟩ := leadsTo_sections h hempty fun e _ hmem => by cases hmem
  have htext : sheet.render.toList = renderSections sheet := by
    rw [Sheet.render, String.toList_ofList]
    rfl
  rw [parse, htext, skipMark_renderSections, hlines _ (Nat.lt_succ_self _)]
  dsimp only [Option.bind_eq_bind, Option.bind_some]
  rw [Draft.finish, hclose, Option.map_some, List.nil_append, toEntries_sheetNodes]

end FileActivity.Toml
