/-
# What a document can hold

Whatever text is read as a document, no table of it has a key twice, however the table was
written: by its own header, by longer headers, by dotted keys, inline, or as one of an array of
tables.  And every integer of it fits 64 bits with a sign.

Main statement: `sound_of_parse`.
-/
import FileActivity.Toml.Document
import Mathlib.Data.List.Nodup

namespace FileActivity.Toml

/-! ## Keys with what stands under them -/

/-- No key stands twice, and what stands under each key has a property. -/
structure Keyed {α : Type} (P : α → Prop) (entries : List (String × α)) : Prop where
  keys : (entries.map Prod.fst).Nodup
  values : ∀ e ∈ entries, P e.2

namespace Keyed

variable {α : Type} {P : α → Prop} {entries : List (String × α)} {key : String} {a : α}

theorem nil : Keyed P ([] : List (String × α)) := ⟨List.nodup_nil, fun _ h => by cases h⟩

theorem cons_iff : Keyed P ((key, a) :: entries)
    ↔ key ∉ entries.map Prod.fst ∧ P a ∧ Keyed P entries := by
  constructor
  · rintro ⟨hkeys, hvalues⟩
    obtain ⟨hkey, hkeys⟩ := List.nodup_cons.mp hkeys
    exact ⟨hkey, hvalues _ List.mem_cons_self, hkeys,
      fun e he => hvalues e (List.mem_cons_of_mem _ he)⟩
  · rintro ⟨hkey, ha, hkeys, hvalues⟩
    refine ⟨List.nodup_cons.mpr ⟨hkey, hkeys⟩, fun e he => ?_⟩
    rcases List.mem_cons.mp he with rfl | he
    · exact ha
    · exact hvalues e he

theorem filter (h : Keyed P entries) (p : String × α → Bool) : Keyed P (entries.filter p) :=
  ⟨h.keys.sublist (List.filter_sublist.map _), fun e he => h.values e (List.mem_of_mem_filter he)⟩

theorem of_lookup (h : Keyed P entries) (hkey : entries.lookup key = some a) : P a := by
  induction entries with
  | nil => cases hkey
  | cons e entries ih =>
    obtain ⟨k, b⟩ := e
    obtain ⟨-, hb, hrest⟩ := cons_iff.mp h
    rw [List.lookup_cons] at hkey
    split at hkey
    · exact Option.some.inj hkey ▸ hb
    · exact ih hrest hkey

end Keyed

/-! ## Values -/

/-- A value of which no table has a key twice and every integer fits 64 bits with a sign. -/
inductive Value.Sound : Value → Prop where
  | string (text : String) : Sound (.string text)
  | integer {n : Int} (low : minInteger ≤ n) (high : n ≤ maxInteger) : Sound (.integer n)
  | float (x : Float) : Sound (.float x)
  | boolean (b : Bool) : Sound (.boolean b)
  | datetime (text : String) : Sound (.datetime text)
  | array (form : ArrayForm) {items : List Value} (items_sound : ∀ v ∈ items, Sound v) :
    Sound (.array form items)
  | table {entries : List (String × Value)} (keys : (entries.map Prod.fst).Nodup)
    (values : ∀ e ∈ entries, Sound e.2) : Sound (.table entries)

/-- Entries without a key that stands twice, with sound values. -/
abbrev Entries.Sound (entries : Entries) : Prop := Keyed Value.Sound entries

theorem Value.sound_table_iff {entries : Entries} : (Value.table entries).Sound ↔ entries.Sound :=
  ⟨fun h => by cases h with | table keys values => exact ⟨keys, values⟩,
    fun h => .table h.keys h.values⟩

theorem Value.sound_array_iff {form : ArrayForm} {items : List Value} :
    (Value.array form items).Sound ↔ ∀ v ∈ items, v.Sound :=
  ⟨fun h => by cases h with | array _ items_sound => exact items_sound, .array form⟩

/-! ## Tables in the making -/

/-- What stands under a key of a table in the making, sound like a value. -/
inductive Node.Sound : Node → Prop where
  | value {v : Value} (value_sound : v.Sound) : Sound (.value v)
  | table (origin : Origin) {entries : List (String × Node)} (keys : (entries.map Prod.fst).Nodup)
    (nodes : ∀ e ∈ entries, Sound e.2) : Sound (.table origin entries)
  | tables {items : List (List (String × Node))}
      (keys : ∀ nodes ∈ items, (nodes.map Prod.fst).Nodup)
    (nodes : ∀ nodes ∈ items, ∀ e ∈ nodes, Sound e.2) : Sound (.tables items)

/-- The keys of a table in the making, none of them twice. -/
abbrev Nodes.Sound (nodes : Nodes) : Prop := Keyed Node.Sound nodes

theorem Node.sound_table_iff {origin : Origin} {nodes : Nodes} :
    (Node.table origin nodes).Sound ↔ nodes.Sound :=
  ⟨fun h => by cases h with | table _ keys nodes => exact ⟨keys, nodes⟩,
    fun h => .table origin h.keys h.values⟩

theorem Node.sound_tables_iff {items : List Nodes} :
    (Node.tables items).Sound ↔ ∀ nodes ∈ items, nodes.Sound :=
  ⟨fun h nodes hnodes => by
      cases h with | tables keys hsound => exact ⟨keys nodes hnodes, hsound nodes hnodes⟩,
    fun h => .tables (fun nodes hnodes => (h nodes hnodes).keys) fun nodes hnodes =>
      (h nodes hnodes).values⟩

namespace Nodes

variable {nodes : Nodes} {key : String} {node : Node}

theorem mem_keys_put {k : String} (h : k ∈ (nodes.put key node).map Prod.fst) :
    k = key ∨ k ∈ nodes.map Prod.fst := by
  induction nodes with
  | nil => exact Or.inl (List.mem_singleton.mp h)
  | cons e nodes ih =>
    obtain ⟨k', n⟩ := e
    rw [put] at h
    split at h
    · exact Or.inr h
    · rw [List.map_cons, List.mem_cons] at h ⊢
      rcases h with rfl | h
      · exact Or.inr (Or.inl rfl)
      · exact (ih h).imp_right Or.inr

/-- Putting a sound node under a key keeps nodes sound. -/
theorem Sound.put (h : nodes.Sound) (hnode : node.Sound) : (nodes.put key node).Sound := by
  induction nodes with
  | nil => exact Keyed.cons_iff.mpr ⟨by simp, hnode, Keyed.nil⟩
  | cons e nodes ih =>
    obtain ⟨k, n⟩ := e
    obtain ⟨hk, hn, hrest⟩ := Keyed.cons_iff.mp h
    rw [Nodes.put]
    split
    · exact Keyed.cons_iff.mpr ⟨hk, hnode, hrest⟩
    · next hne =>
      refine Keyed.cons_iff.mpr ⟨fun hmem => ?_, hn, ih hrest⟩
      exact (mem_keys_put hmem).elim hne hk

theorem Sound.get? (h : nodes.Sound) (hget : nodes.get? key = some node) : node.Sound :=
  h.of_lookup hget

theorem getLastD_sound {items : List Nodes} (h : ∀ nodes ∈ items, nodes.Sound) :
    Nodes.Sound (items.getLastD []) := by
  rw [List.getLastD_eq_getLast?]
  cases hlast : items.getLast? with
  | none => exact Keyed.nil
  | some nodes => exact h nodes (List.mem_of_getLast? hlast)

/-- A change at the end of a path that keeps tables sound keeps the whole sound. -/
theorem Sound.descend {byDots : Bool} {act : Origin → Nodes → Option Nodes}
    (hact : ∀ origin nodes nodes', nodes.Sound → act origin nodes = some nodes' → nodes'.Sound)
    {path : List String} {origin : Origin} {nodes nodes' : Nodes} (h : nodes.Sound)
    (hdescend : Nodes.descend byDots act path origin nodes = some nodes') : nodes'.Sound := by
  induction path generalizing origin nodes nodes' with
  | nil => exact hact origin nodes nodes' h hdescend
  | cons key path ih =>
    rw [Nodes.descend] at hdescend
    split at hdescend
    · -- the table is made
      obtain ⟨inner, hinner, hput⟩ := Option.bind_eq_some_iff.mp hdescend
      exact Option.some.inj hput ▸ h.put (Node.sound_table_iff.mpr (ih Keyed.nil hinner))
    · cases hdescend
    · next hget =>
      split at hdescend
      · cases hdescend
      · obtain ⟨inner, hinner, hput⟩ := Option.bind_eq_some_iff.mp hdescend
        exact Option.some.inj hput ▸
          h.put (Node.sound_table_iff.mpr (ih (Node.sound_table_iff.mp (h.get? hget)) hinner))
    · next items hget =>
      obtain ⟨last, hlast, hput⟩ := Option.bind_eq_some_iff.mp hdescend
      have hitems := Node.sound_tables_iff.mp (h.get? hget)
      have hlast : Nodes.Sound last := by
        refine ih ?_ hlast
        exact getLastD_sound hitems
      refine Option.some.inj hput ▸ h.put (Node.sound_tables_iff.mpr fun nodes hnodes => ?_)
      rcases List.mem_append.mp hnodes with hnodes | hnodes
      · exact hitems nodes (List.dropLast_subset _ hnodes)
      · exact List.mem_singleton.mp hnodes ▸ hlast

/-- Adding a sound value under a dotted key keeps nodes sound. -/
theorem Sound.addValue {v : Value} {path : List String} {nodes' : Nodes} (h : nodes.Sound)
    (hv : v.Sound) (hadd : nodes.addValue path key v = some nodes') : nodes'.Sound := by
  refine h.descend (fun origin inner inner' hinner hact => ?_) hadd
  split at hact
  · cases hact
  · split at hact
    · cases hact
    · exact Option.some.inj hact ▸ hinner.put (.value hv)

@[simp] theorem keys_toEntries (nodes : Nodes) :
    (Nodes.toEntries nodes).map Prod.fst = nodes.map Prod.fst := by
  induction nodes with
  | nil => rfl
  | cons e nodes ih => rw [Nodes.toEntries, List.map_cons, ih, List.map_cons]

mutual

/-- A sound node comes to a sound value. -/
theorem toValue_sound : ∀ {node : Node}, node.Sound → node.toValue.Sound
  | .value v, h => by
    rw [Node.toValue]
    cases h with | value hv => exact hv
  | .table origin nodes, h => by
    rw [Node.toValue]
    exact Value.sound_table_iff.mpr (toEntries_sound (Node.sound_table_iff.mp h))
  | .tables items, h => by
    rw [Node.toValue]
    exact Value.sound_array_iff.mpr (toTables_sound (Node.sound_tables_iff.mp h))

theorem toEntries_sound : ∀ {nodes : List (String × Node)}, Nodes.Sound nodes →
    Entries.Sound (Nodes.toEntries nodes)
  | [], _ => Keyed.nil
  | (key, node) :: rest, h => by
    obtain ⟨hkey, hnode, hrest⟩ := Keyed.cons_iff.mp h
    rw [Nodes.toEntries]
    refine Keyed.cons_iff.mpr ⟨?_, toValue_sound hnode, toEntries_sound hrest⟩
    rwa [keys_toEntries]

theorem toTables_sound :
    ∀ {items : List (List (String × Node))}, (∀ nodes ∈ items, Nodes.Sound nodes) →
    ∀ v ∈ Nodes.toTables items, v.Sound
  | [], _ => fun v hv => by cases hv
  | nodes :: rest, h => by
    intro v hv
    rw [Nodes.toTables] at hv
    rcases List.mem_cons.mp hv with rfl | hv
    · exact Value.sound_table_iff.mpr (toEntries_sound (h nodes List.mem_cons_self))
    · exact toTables_sound (fun nodes hnodes => h nodes (List.mem_cons_of_mem _ hnodes)) v hv

end

end Nodes

/-! ## Readers -/

/-- Whatever a reader gives has a property. -/
def Gives {α : Type} (read : Reader α) (P : α → Prop) : Prop :=
  ∀ cs a rest, read cs = some (a, rest) → P a

theorem fitting_sound {n : Int} {v : Value} (h : fitting n = some v) : v.Sound := by
  rw [fitting] at h
  split at h
  · next hfits => exact Option.some.inj h ▸ .integer hfits.1 hfits.2
  · cases h

theorem gives_basedInteger (base : Nat) (isDigit : Char → Bool) :
    Gives (basedInteger base isDigit) Value.Sound := by
  intro cs v rest h
  simp only [basedInteger, Option.bind_eq_bind, Option.bind_eq_some_iff] at h
  obtain ⟨⟨digits, rest'⟩, -, v', hv', heq⟩ := h
  obtain ⟨rfl, rfl⟩ := Prod.mk.inj (Option.some.inj heq)
  exact fitting_sound hv'

/-- An integer that is read is one that fits. -/
theorem gives_integer : Gives integer Value.Sound := by
  intro cs v rest h
  unfold integer at h
  split at h
  · exact gives_basedInteger _ _ _ _ _ h
  · exact gives_basedInteger _ _ _ _ _ h
  · exact gives_basedInteger _ _ _ _ _ h
  · simp only [Option.bind_eq_bind, Option.bind_eq_some_iff] at h
    obtain ⟨⟨digits, rest'⟩, -, v', hv', heq⟩ := h
    obtain ⟨rfl, rfl⟩ := Prod.mk.inj (Option.some.inj heq)
    exact fitting_sound hv'

theorem gives_float : Gives float Value.Sound := by
  intro cs v rest h
  unfold float at h
  dsimp only at h
  split at h
  · obtain ⟨rfl, -⟩ := Prod.mk.inj (Option.some.inj h)
    exact .float _
  · obtain ⟨rfl, -⟩ := Prod.mk.inj (Option.some.inj h)
    exact .float _
  · simp only [Option.bind_eq_bind, Option.bind_eq_some_iff] at h
    obtain ⟨⟨whole, rest₁⟩, -, h⟩ := h
    dsimp only at h
    -- with a fraction and without one, the rest is the same
    split at h
    all_goals
      obtain ⟨⟨fraction, rest₂⟩, -, h⟩ := Option.bind_eq_some_iff.mp h
      obtain ⟨⟨power, rest₃⟩, -, h⟩ := Option.bind_eq_some_iff.mp h
      split at h
      · cases h
      · split at h
        · cases h
        · obtain ⟨rfl, -⟩ := Prod.mk.inj (Option.some.inj h)
          exact .float _

theorem gives_instant : Gives instant Value.Sound := by
  intro cs v rest h
  simp only [instant, Option.bind_eq_bind] at h
  split at h
  all_goals
    obtain ⟨rest', -, heq⟩ := Option.bind_eq_some_iff.mp h
    obtain ⟨rfl, -⟩ := Prod.mk.inj (Option.some.inj heq)
    exact .datetime _

theorem gives_scalar : Gives scalar Value.Sound := by
  intro cs v rest h
  unfold scalar at h
  split at h
  · cases h
  · split at h
    · simp only [Option.bind_eq_bind, Option.bind_eq_some_iff] at h
      obtain ⟨⟨text, rest'⟩, -, heq⟩ := h
      obtain ⟨rfl, -⟩ := Prod.mk.inj (Option.some.inj heq)
      exact .string text
    · split at h
      · obtain ⟨rest', -, heq⟩ := Option.map_eq_some_iff.mp h
        obtain ⟨rfl, -⟩ := Prod.mk.inj heq
        exact .boolean true
      · split at h
        · obtain ⟨rest', -, heq⟩ := Option.map_eq_some_iff.mp h
          obtain ⟨rfl, -⟩ := Prod.mk.inj heq
          exact .boolean false
        · rcases Option.or_eq_some_iff.mp h with h | ⟨-, h⟩
          · exact gives_instant _ _ _ h
          · rcases Option.or_eq_some_iff.mp h with h | ⟨-, h⟩
            · exact gives_float _ _ _ h
            · exact gives_integer _ _ _ h

/-- Sound elements make a sound list, together with those that were read before. -/
theorem gives_elements {element : Reader Value} (helement : Gives element Value.Sound) (fuel : Nat)
    {read : List Value} (hread : ∀ v ∈ read, v.Sound) :
    Gives (elements element fuel read) fun items => ∀ v ∈ items, v.Sound := by
  induction fuel generalizing read with
  | zero => exact fun cs items rest h => by cases h
  | succ fuel ih =>
    intro cs items rest h
    simp only [elements, Option.bind_eq_bind, Option.bind_eq_some_iff] at h
    obtain ⟨front, -, h⟩ := h
    have hreverse : ∀ {vs : List Value}, (∀ v ∈ vs, v.Sound) → ∀ v ∈ vs.reverse, v.Sound :=
      fun hvs v hv => hvs v (List.mem_reverse.mp hv)
    split at h
    · obtain ⟨rfl, -⟩ := Prod.mk.inj (Option.some.inj h)
      exact hreverse hread
    · simp only [Option.bind_eq_some_iff] at h
      obtain ⟨⟨v, rest₁⟩, hv, rest₂, -, h⟩ := h
      have hcons : ∀ w ∈ v :: read, w.Sound := by
        intro w hw
        rcases List.mem_cons.mp hw with rfl | hw
        · exact helement _ _ _ hv
        · exact hread w hw
      split at h
      · exact ih hcons _ _ _ h
      · obtain ⟨rfl, -⟩ := Prod.mk.inj (Option.some.inj h)
        exact hreverse hcons
      · cases h

/-- An assignment gives a sound value. -/
theorem gives_assignment {element : Reader Value} (helement : Gives element Value.Sound) :
    Gives (assignment element) fun pair => pair.2.Sound := by
  intro cs pair rest h
  simp only [assignment, Option.bind_eq_bind, Option.bind_eq_some_iff] at h
  obtain ⟨⟨k, rest₁⟩, -, rest₂, -, ⟨v, rest₃⟩, hv, heq⟩ := h
  obtain ⟨rfl, -⟩ := Prod.mk.inj (Option.some.inj heq)
  exact helement _ _ _ hv

theorem gives_assignments {element : Reader Value} (helement : Gives element Value.Sound)
    (fuel : Nat) {nodes : Nodes} (hnodes : nodes.Sound) :
    Gives (assignments element fuel nodes) Nodes.Sound := by
  induction fuel generalizing nodes with
  | zero => exact fun cs nodes rest h => by cases h
  | succ fuel ih =>
    intro cs nodes' rest h
    simp only [assignments, Option.bind_eq_bind, Option.bind_eq_some_iff] at h
    obtain ⟨⟨⟨k, v⟩, rest₁⟩, hassignment, nodes₁, hadd, h⟩ := h
    have hnodes₁ : nodes₁.Sound :=
      hnodes.addValue (gives_assignment helement _ _ _ hassignment) hadd
    split at h
    · exact ih hnodes₁ _ _ _ h
    · obtain ⟨rfl, -⟩ := Prod.mk.inj (Option.some.inj h)
      exact hnodes₁
    · cases h

/-- Values are sound, however deep arrays and inline tables stand inside one another. -/
theorem gives_value (depth : Nat) : Gives (value depth) Value.Sound := by
  induction depth with
  | zero => exact gives_scalar
  | succ depth ih =>
    intro cs v rest h
    unfold value at h
    split at h
    · simp only [Option.bind_eq_bind, Option.bind_eq_some_iff] at h
      obtain ⟨⟨items, rest₁⟩, hitems, heq⟩ := h
      obtain ⟨rfl, -⟩ := Prod.mk.inj (Option.some.inj heq)
      exact .array .bracketed (gives_elements ih _ (fun v hv => by cases hv) _ _ _ hitems)
    · split at h
      · obtain ⟨rfl, -⟩ := Prod.mk.inj (Option.some.inj h)
        exact Value.sound_table_iff.mpr Keyed.nil
      · simp only [Option.bind_eq_bind, Option.bind_eq_some_iff] at h
        obtain ⟨⟨nodes, rest₁⟩, hnodes, heq⟩ := h
        obtain ⟨rfl, -⟩ := Prod.mk.inj (Option.some.inj heq)
        have hsound := gives_assignments ih _ Keyed.nil _ _ _ hnodes
        exact Value.sound_table_iff.mpr (Nodes.toEntries_sound hsound)
    · exact gives_scalar _ _ _ h

/-! ## Lines -/

namespace Draft

variable {d d' : Draft} {k : Key}

/-- The tables of a document in the making are sound. -/
structure Sound (d : Draft) : Prop where
  root : d.root.Sound
  current : d.current.Sound

theorem Sound.empty : Draft.empty.Sound := ⟨Keyed.nil, Keyed.nil⟩

/-- Closing the current table keeps what is sound. -/
theorem Sound.close {nodes : Nodes} (h : d.Sound) (hclose : d.close = some nodes) :
    nodes.Sound := by
  unfold Draft.close at hclose
  split at hclose
  · exact Option.some.inj hclose ▸ h.current
  · refine h.root.descend (fun _ nodes nodes' hnodes hact => ?_) hclose
    split at hact
    · split at hact
      · next items hget =>
        refine Option.some.inj hact ▸ hnodes.put (Node.sound_tables_iff.mpr fun inner hinner => ?_)
        rcases List.mem_append.mp hinner with hinner | hinner
        · exact Node.sound_tables_iff.mp (hnodes.get? hget) inner hinner
        · exact List.mem_singleton.mp hinner ▸ h.current
      · cases hact
    · split at hact
      · cases hact
      · exact Option.some.inj hact ▸ hnodes.put (Node.sound_table_iff.mpr h.current)

theorem Sound.openElement (h : d.Sound) (hopen : d.openElement k = some d') : d'.Sound := by
  simp only [Draft.openElement, Option.bind_eq_bind, Option.bind_eq_some_iff] at hopen
  obtain ⟨root, hroot, root', hroot', heq⟩ := hopen
  refine Option.some.inj heq ▸ ⟨(h.close hroot).descend
    (fun _ nodes nodes' hnodes hact => ?_) hroot', Keyed.nil⟩
  split at hact
  · refine Option.some.inj hact ▸ hnodes.put (Node.sound_tables_iff.mpr fun inner hinner => ?_)
    cases hinner
  · exact Option.some.inj hact ▸ hnodes
  · cases hact

theorem Sound.at? {path : List String} {nodes nodes' : Nodes} (h : nodes.Sound)
    (hat : openTable.at? path nodes = some nodes') : nodes'.Sound := by
  induction path generalizing nodes with
  | nil => exact Option.some.inj hat ▸ h
  | cons key path ih =>
    rw [openTable.at?] at hat
    split at hat
    · next hget => exact ih (Node.sound_table_iff.mp (h.get? hget)) hat
    · next hget => exact ih (Nodes.getLastD_sound (Node.sound_tables_iff.mp (h.get? hget))) hat
    · cases hat

/-- Opening a table keeps a draft sound. -/
theorem Sound.openTable (h : d.Sound) (hopen : d.openTable k = some d') : d'.Sound := by
  simp only [Draft.openTable, Option.bind_eq_bind, Option.bind_eq_some_iff] at hopen
  obtain ⟨root, hroot, root₁, hroot₁, hopen⟩ := hopen
  have hsound₁ : root₁.Sound :=
    (h.close hroot).descend (fun _ _ _ hnodes hact => Option.some.inj hact ▸ hnodes) hroot₁
  split at hopen
  · exact Option.some.inj hopen ▸ ⟨hsound₁, Keyed.nil⟩
  · next nodes hfound =>
    simp only [Option.bind_eq_some_iff] at hopen hfound
    obtain ⟨root₂, hroot₂, heq⟩ := hopen
    obtain ⟨inner, hinner, hget⟩ := hfound
    have hnodes : Nodes.Sound nodes :=
      Node.sound_table_iff.mp ((Sound.at? hsound₁ hinner).get? hget)
    exact Option.some.inj heq ▸
      ⟨hsound₁.descend (fun _ _ _ hnodes hact => Option.some.inj hact ▸ hnodes.filter _) hroot₂,
        hnodes⟩
  · cases hopen

theorem Sound.addValue {v : Value} (h : d.Sound) (hv : v.Sound) (hadd : d.addValue k v = some d') :
    d'.Sound := by
  simp only [Draft.addValue, Option.bind_eq_bind, Option.bind_eq_some_iff] at hadd
  obtain ⟨current, hcurrent, heq⟩ := hadd
  exact Option.some.inj heq ▸ ⟨h.root, h.current.addValue hv hcurrent⟩

theorem Sound.finish {entries : Entries} (h : d.Sound) (hfinish : d.finish = some entries) :
    entries.Sound := by
  obtain ⟨nodes, hnodes, rfl⟩ := Option.map_eq_some_iff.mp hfinish
  exact Nodes.toEntries_sound (h.close hnodes)

end Draft

/-- A line keeps a draft sound. -/
theorem gives_line {d : Draft} (h : d.Sound) : Gives (line d) Draft.Sound := by
  intro cs d' rest hline
  unfold line at hline
  split at hline
  · simp only [Option.bind_eq_bind, Option.bind_eq_some_iff] at hline
    obtain ⟨⟨k, rest₁⟩, -, rest₂, -, rest₃, -, rest₄, -, d'', hopen, heq⟩ := hline
    obtain ⟨rfl, -⟩ := Prod.mk.inj (Option.some.inj heq)
    exact h.openElement hopen
  · simp only [Option.bind_eq_bind, Option.bind_eq_some_iff] at hline
    obtain ⟨⟨k, rest₁⟩, -, rest₂, -, rest₃, -, d'', hopen, heq⟩ := hline
    obtain ⟨rfl, -⟩ := Prod.mk.inj (Option.some.inj heq)
    exact h.openTable hopen
  · simp only [Option.bind_eq_bind, Option.bind_eq_some_iff] at hline
    obtain ⟨⟨⟨k, v⟩, rest₁⟩, hassignment, rest₂, -, d'', hadd, heq⟩ := hline
    obtain ⟨rfl, -⟩ := Prod.mk.inj (Option.some.inj heq)
    exact h.addValue (gives_assignment (gives_value maxNesting) _ _ _ hassignment) hadd

/-- Lines one after another keep a draft sound. -/
theorem sound_of_lines {fuel : Nat} {d d' : Draft} {cs : List Char} (h : d.Sound)
    (hlines : lines fuel d cs = some d') : d'.Sound := by
  induction fuel generalizing d cs with
  | zero => cases hlines
  | succ fuel ih =>
    rw [lines] at hlines
    split at hlines
    · exact Option.some.inj hlines ▸ h
    · split at hlines
      · obtain ⟨rest, -, hlines⟩ := Option.bind_eq_some_iff.mp hlines
        exact ih h hlines
      · obtain ⟨⟨d₁, rest⟩, hline, hlines⟩ := Option.bind_eq_some_iff.mp hlines
        exact ih (gives_line h _ _ _ hline) hlines

/-- **What a document can hold.**  No table has a key twice, and every integer fits. -/
theorem sound_of_parse {text : String} {entries : Entries} (h : parse text = some entries) :
    entries.Sound := by
  simp only [parse, Option.bind_eq_bind, Option.bind_eq_some_iff] at h
  obtain ⟨d, hlines, hfinish⟩ := h
  exact (sound_of_lines Draft.Sound.empty hlines).finish hfinish

end FileActivity.Toml
