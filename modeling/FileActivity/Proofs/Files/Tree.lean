/-
# The file tree as it changes

What an operation leaves of the tree, and where a path leads after it.  A path leads to the same
place as long as the directories on its way stay; nothing here takes a directory away.

Main statements: `Files.KeepsDirectories.find`, `Files.lookUp_of_find`,
`Files.gains_makeDirectoriesLeaving`.
-/
import FileActivity.Files.Sockets
import FileActivity.Proofs.Outcome
import Mathlib.Data.List.Basic

namespace FileActivity

/-! ## Slashes at the end -/

namespace Path

/-- A slash at the end cuts off an empty part. -/
theorem cut_concat_slash (part bs : List UInt8) :
    cut part (bs ++ [slash]) = cut part bs ++ [[]] := by
  induction bs generalizing part with
  | nil => rfl
  | cons b bs ih =>
    rw [List.cons_append, cut, cut, ih, ih]
    split <;> rfl

/-- A path that does not ask for a directory has no slash at its end. -/
theorem withoutFinalSlashes_of_not_wantsDirectory {p : Path} (h : p.wantsDirectory = false) :
    p.withoutFinalSlashes = p := by
  refine withoutFinalSlashes_of_getLast?_ne fun hlast => ?_
  obtain ⟨front, hfront⟩ := List.getLast?_eq_some_iff.mp hlast
  rw [wantsDirectory, pieces, hfront, cut_concat_slash, List.getLast?_concat] at h
  cases h

end Path

namespace Files

variable {f f' f'' : Files} {p : Path} {place q : Location} {o object : FileObject}

/-! ## Objects by location -/

/-- Leaving one place out of a list of objects changes what is found at that place only. -/
theorem lookup_filter_ne {α : Type} (objects : List (Location × α)) (place q : Location) :
    (objects.filter (·.1 != place)).lookup q = if q = place then none else objects.lookup q := by
  induction objects with
  | nil => split <;> rfl
  | cons e objects ih =>
    obtain ⟨r, a⟩ := e
    rw [List.filter_cons]
    by_cases hr : r = place
    · subst hr
      rw [if_neg (by simp), ih, List.lookup_cons]
      by_cases hq : q = r
      · rw [if_pos hq, if_pos hq]
      · rw [if_neg hq, if_neg hq, beq_eq_false_iff_ne.mpr hq]
    · rw [if_pos (by simpa using hr), List.lookup_cons, List.lookup_cons, ih]
      by_cases hq : q = r
      · subst hq
        rw [beq_self_eq_true]
        exact (if_neg hr).symm
      · rw [beq_eq_false_iff_ne.mpr hq]

/-- Putting an object somewhere changes what is found at that place only. -/
theorem lookup_put (f : Files) (place q : Location) (object : FileObject) :
    (f.put place object).objects.lookup q = if q = place then some object
      else f.objects.lookup q := by
  rw [put, List.lookup_cons, lookup_filter_ne]
  by_cases hq : q = place
  · rw [if_pos hq, hq, beq_self_eq_true]
    exact (if_pos rfl).symm
  · rw [if_neg hq, if_neg hq, beq_eq_false_iff_ne.mpr hq]

/-- Below the root, what is put somewhere is there, and all else stays. -/
theorem at?_put (hplace : place ≠ []) :
    (f.put place object).at? q = if q = place then some object else f.at? q := by
  by_cases hroot : q = []
  · subst hroot
    rw [at?, at?, rootMode, rootMode, lookup_put, if_pos rfl, if_neg (Ne.symm hplace),
      if_neg (Ne.symm hplace), if_pos rfl]
  · rw [at?, at?, if_neg hroot, if_neg hroot, lookup_put]

/-- Below the root, what is taken away is gone, and all else stays. -/
theorem at?_erase (hplace : place ≠ []) :
    (f.erase place).at? q = if q = place then none else f.at? q := by
  by_cases hroot : q = []
  · subst hroot
    rw [at?, at?, rootMode, rootMode, erase, lookup_filter_ne, if_pos rfl, if_neg (Ne.symm hplace),
      if_neg (Ne.symm hplace), if_pos rfl]
  · rw [at?, at?, if_neg hroot, if_neg hroot, erase, lookup_filter_ne]

/-- Whatever is given another mode has it then, the root included, and all else stays. -/
theorem at?_put_mode (hat : f.at? place = some o) (mode : Nat) :
    (f.put place { o with mode }).at? q = if q = place then some { o with mode } else f.at? q := by
  by_cases hplace : place = []
  · subst hplace
    -- the root is a directory, whose permission bits alone are looked up
    obtain rfl : (⟨.directory, f.rootMode⟩ : FileObject) = o := Option.some.inj hat
    by_cases hroot : q = []
    · rw [at?, rootMode, lookup_put, if_pos hroot, if_pos hroot, if_pos rfl]
      rfl
    · rw [at?, at?, if_neg hroot, if_neg hroot, if_neg hroot, lookup_put, if_neg hroot]
  · exact at?_put hplace

/-- Only what is put last is there. -/
theorem put_put (f : Files) (place : Location) (a b : FileObject) :
    (f.put place a).put place b = f.put place b := by
  rw [put, put, put, List.filter_cons_of_neg (by simp), List.filter_filter]
  simp

/-- The root is a directory. -/
theorem ne_nil_of_not_directory (h : ∀ mode, f.at? place ≠ some ⟨.directory, mode⟩) :
    place ≠ [] := by
  rintro rfl
  exact h f.rootMode rfl

/-- The root is always there. -/
theorem ne_nil_of_at?_eq_none (h : f.at? place = none) : place ≠ [] :=
  ne_nil_of_not_directory fun mode hmode => by cases h.symm.trans hmode

/-! ## Where a path leads -/

/-- A later tree, seen from the same place, in which every directory is still one. -/
structure KeepsDirectories (f f' : Files) : Prop where
  workingDirectory : f'.workingDirectory = f.workingDirectory
  directories : ∀ place mode, f.at? place = some ⟨.directory, mode⟩ →
    ∃ mode', f'.at? place = some ⟨.directory, mode'⟩

/-- A path can lead somewhere if it has bytes, not too many, and no zero byte among them. -/
theorem checkPath_eq_ok_iff : checkPath p = .ok () ↔ p.bytes.contains 0 = false
    ∧ p.bytes.isEmpty = false ∧ p.bytes.length < maxPathLength := by
  rw [checkPath]
  by_cases hzero : p.bytes.contains 0 = true
  · rw [if_pos hzero]
    exact iff_of_false (fun h => by cases h) fun h => by cases hzero.symm.trans h.1
  rw [if_neg hzero]
  by_cases hempty : p.bytes.isEmpty = true
  · rw [if_pos hempty]
    exact iff_of_false (fun h => by cases h) fun h => by cases hempty.symm.trans h.2.1
  rw [if_neg hempty]
  by_cases hlength : p.bytes.length ≥ maxPathLength
  · rw [if_pos hlength]
    exact iff_of_false (fun h => by cases h) fun h => absurd h.2.2 (Nat.not_lt.mpr hlength)
  rw [if_neg hlength]
  exact iff_of_true rfl
    ⟨Bool.eq_false_iff.mpr hzero, Bool.eq_false_iff.mpr hempty, Nat.lt_of_not_ge hlength⟩

/-- A path leads where the walk along its components ends, which is a directory if the path has
to lead to one and anything is there. -/
theorem resolve_eq_ok_iff : f.resolve p = .ok place ↔ checkPath p = .ok ()
    ∧ f.walk (f.startOf p) p.components = .ok place
    ∧ (p.wantsDirectory = true → ∀ o, f.at? place = some o → o.kind = .directory) := by
  rw [resolve, bind_unit_eq_ok_iff, bind_eq_ok_iff]
  refine and_congr_right fun _ => ⟨?_, ?_⟩
  · rintro ⟨q, hwalk, h⟩
    split at h
    · next mode hat =>
      cases h
      refine ⟨hwalk, fun _ o ho => ?_⟩
      cases hat.symm.trans ho
      rfl
    · next hat =>
      cases h
      exact ⟨hwalk, fun _ o ho => by cases hat.symm.trans ho⟩
    · split at h
      · cases h
      · next hfree =>
        cases h
        exact ⟨hwalk, fun hwants => absurd hwants hfree⟩
  · rintro ⟨hwalk, hwants⟩
    refine ⟨place, hwalk, ?_⟩
    split
    · rfl
    · rfl
    · next object hnot hat =>
      refine if_neg fun hdirectory => ?_
      obtain ⟨kind, mode⟩ := object
      cases hwants hdirectory _ hat
      exact hnot mode rfl

/-- What is found under a path is what stands where the path leads. -/
theorem find_eq_ok_iff :
    f.find p = .ok (place, o) ↔ f.resolve p = .ok place ∧ f.at? place = some o := by
  rw [find, bind_eq_ok_iff]
  constructor
  · rintro ⟨q, hresolve, h⟩
    cases hat : f.at? q with
    | none =>
      rw [hat] at h
      cases h
    | some object =>
      rw [hat] at h
      cases h
      exact ⟨hresolve, hat⟩
  · rintro ⟨hresolve, hat⟩
    refine ⟨place, hresolve, ?_⟩
    rw [hat]
    rfl

/-- Where something else than a directory is found there is no directory. -/
theorem not_directory_of_find (hfind : f.find p = .ok (place, o)) (ho : o.kind ≠ .directory)
    (mode : Nat) : f.at? place ≠ some ⟨.directory, mode⟩ := by
  rw [(find_eq_ok_iff.mp hfind).2]
  rintro ⟨⟩
  exact ho rfl

/-! ## Looking up -/

/-- What is looked up under a path is what stands where the path leads once links are followed.
-/
theorem lookUp_eq_ok_iff : f.lookUp p = .ok (place, o) ↔ checkPath p = .ok ()
    ∧ f.follow maxLinks (f.startOf p) p.steps = .ok place ∧ f.at? place = some o := by
  rw [lookUp, bind_unit_eq_ok_iff, bind_eq_ok_iff]
  refine and_congr_right fun _ => ⟨?_, ?_⟩
  · rintro ⟨q, hfollow, h⟩
    split at h
    · next object hat =>
      cases h
      exact ⟨hfollow, hat⟩
    · cases h
  · rintro ⟨hfollow, hat⟩
    refine ⟨place, hfollow, ?_⟩
    rw [hat]
    rfl

/-- Where a walk begins, there is no link, unless it ends there. -/
theorem not_link_of_walk {start : Location} {cs : List FileEntryName}
    (hwalk : f.walk start cs = .ok place)
    (hplace : ∀ target mode, f.at? place ≠ some ⟨.link target, mode⟩) (target : Path) (mode : Nat) :
    f.at? start ≠ some ⟨.link target, mode⟩ := by
  cases cs with
  | nil =>
    cases hwalk
    exact hplace target mode
  | cons c cs =>
    rw [walk] at hwalk
    split at hwalk
    · next hat => exact hat ▸ Option.some_ne_none _ ∘ Eq.symm
    · next hat =>
      rw [hat]
      rintro ⟨⟩
    · cases hwalk

/-- Steps that meet no link lead where the walk leads, and what is left goes on from there. -/
theorem advance_append {jump : Location → List FileEntryName → Except IoError Location}
    {start : Location} {cs : List FileEntryName} (hdots : dot ∉ cs)
    (hwalk : f.walk start cs = .ok place)
    (hplace : ∀ target mode, f.at? place ≠ some ⟨.link target, mode⟩) (rest : List FileEntryName) :
    f.advance jump start (cs ++ rest) = f.advance jump place rest := by
  induction cs generalizing start with
  | nil =>
    cases hwalk
    rfl
  | cons c cs ih =>
    obtain ⟨hdot, hdots⟩ := not_or.mp (List.mem_cons.not.mp hdots)
    rw [walk] at hwalk
    rw [List.cons_append, advance]
    split at hwalk
    · cases hwalk
    · next mode hat =>
      split at hwalk
      · cases hwalk
      next hname =>
      rw [if_neg hname, if_neg (Ne.symm hdot)]
      split at hwalk
      · next hparent => rw [if_pos hparent, ih hdots hwalk]
      · next hchild =>
        rw [if_neg hchild]
        split
        · next hlink => exact absurd hlink (not_link_of_walk hwalk hplace _ _)
        · exact ih hdots hwalk
    · cases hwalk

/-- A single dot is not a component. -/
theorem dot_not_mem_components (p : Path) : dot ∉ p.components := by
  intro hmem
  simpa using (List.mem_filter.mp hmem).2

/-- **Following links changes nothing where there are none**: what a path leads to is looked up
there. -/
theorem lookUp_of_find (hfind : f.find p = .ok (place, o)) (ho : ∀ target, o.kind ≠ .link target) :
    f.lookUp p = .ok (place, o) := by
  obtain ⟨hresolve, hat⟩ := find_eq_ok_iff.mp hfind
  obtain ⟨hcheck, hwalk, hwants⟩ := resolve_eq_ok_iff.mp hresolve
  have hplace : ∀ target mode, f.at? place ≠ some ⟨.link target, mode⟩ := by
    rintro target mode hlink
    cases hat.symm.trans hlink
    exact ho target rfl
  have hfollow : f.follow maxLinks (f.startOf p) p.steps = .ok place := by
    rw [maxLinks, follow, Path.steps, advance_append (dot_not_mem_components p) hwalk hplace]
    split
    · next hdirectory =>
      obtain ⟨kind, mode⟩ := o
      cases hwants hdirectory _ hat
      rw [advance, hat]
      rfl
    · rfl
  exact lookUp_eq_ok_iff.mpr ⟨hcheck, hfollow, hat⟩

namespace KeepsDirectories

theorem refl (f : Files) : f.KeepsDirectories f := ⟨rfl, fun _ mode h => ⟨mode, h⟩⟩

theorem trans (h : f.KeepsDirectories f') (h' : f'.KeepsDirectories f'') :
    f.KeepsDirectories f'' := by
  refine ⟨h'.workingDirectory.trans h.workingDirectory, fun place mode hplace => ?_⟩
  obtain ⟨mode', hmode'⟩ := h.directories place mode hplace
  exact h'.directories place mode' hmode'

/-- A walk through directories that are kept leads where it led. -/
theorem walk (h : f.KeepsDirectories f') {start : Location} {cs : List FileEntryName}
    (hwalk : f.walk start cs = .ok place) : f'.walk start cs = .ok place := by
  induction cs generalizing start with
  | nil => exact hwalk
  | cons c cs ih =>
    rw [Files.walk] at hwalk ⊢
    split at hwalk
    · cases hwalk
    · next mode hstart =>
      obtain ⟨mode', hstart'⟩ := h.directories start mode hstart
      rw [hstart']
      dsimp only
      split at hwalk
      · cases hwalk
      next hname =>
      rw [if_neg hname]
      split at hwalk
      · next hparent => rw [if_pos hparent, ih hwalk]
      · next hchild => rw [if_neg hchild, ih hwalk]
    · cases hwalk

/-- **A path leads where it led**, unless it asks for a directory and there is none now. -/
theorem resolve (h : f.KeepsDirectories f') (hresolve : f.resolve p = .ok place)
    (hplace : p.wantsDirectory = true → ∀ o, f'.at? place = some o → o.kind = .directory) :
    f'.resolve p = .ok place := by
  obtain ⟨hcheck, hwalk, -⟩ := resolve_eq_ok_iff.mp hresolve
  rw [startOf, ← h.workingDirectory] at hwalk
  exact resolve_eq_ok_iff.mpr ⟨hcheck, h.walk hwalk, hplace⟩

/-- What a path leads to is found again, if it is still there. -/
theorem find (h : f.KeepsDirectories f') (hfind : f.find p = .ok (place, o))
    (hplace : f'.at? place = some o) : f'.find p = .ok (place, o) := by
  obtain ⟨hresolve, hat⟩ := find_eq_ok_iff.mp hfind
  refine find_eq_ok_iff.mpr ⟨h.resolve hresolve fun hwants o' ho' => ?_, hplace⟩
  cases hplace.symm.trans ho'
  exact (resolve_eq_ok_iff.mp hresolve).2.2 hwants o hat

end KeepsDirectories

/-- What is put where no directory is leaves the directories. -/
theorem keepsDirectories_put (h : ∀ mode, f.at? place ≠ some ⟨.directory, mode⟩) :
    f.KeepsDirectories (f.put place object) := by
  refine ⟨rfl, fun q mode hq => ⟨mode, ?_⟩⟩
  rw [at?_put (ne_nil_of_not_directory h), if_neg, hq]
  rintro rfl
  exact h mode hq

/-- Erasing something else than a directory keeps the directories. -/
theorem keepsDirectories_erase (h : ∀ mode, f.at? place ≠ some ⟨.directory, mode⟩) :
    f.KeepsDirectories (f.erase place) := by
  refine ⟨rfl, fun q mode hq => ⟨mode, ?_⟩⟩
  rw [at?_erase (ne_nil_of_not_directory h), if_neg, hq]
  rintro rfl
  exact h mode hq

/-! ## Removing -/

/-- What removing a path leaves: without the object that it leads to, unless that is a directory
or nothing. -/
theorem remove_getD (f : Files) (p : Path) :
    (∃ place o, f.find p = .ok (place, o) ∧ o.kind ≠ .directory
      ∧ (f.remove p).toOption.getD f = f.erase place)
    ∨ (∀ place o, f.find p = .ok (place, o) → o.kind = .directory)
      ∧ (f.remove p).toOption.getD f = f := by
  rw [remove]
  cases hfind : f.find p with
  | error e => exact Or.inr ⟨nofun, rfl⟩
  | ok found =>
    obtain ⟨place, kind, mode⟩ := found
    cases kind with
    | directory =>
      refine Or.inr ⟨fun _ _ h => ?_, rfl⟩
      cases h
      rfl
    | _ => exact Or.inl ⟨place, _, rfl, FileKind.noConfusion, rfl⟩

/-- Only a socket is taken for one that was left behind. -/
theorem removeStaleSocket_cases (f : Files) (p : Path) :
    (∃ place id mode, f.find p = .ok (place, ⟨.socket id, mode⟩)
      ∧ f.removeStaleSocket p = .ok (f.erase place))
    ∨ (∀ place id mode, f.find p ≠ .ok (place, ⟨.socket id, mode⟩))
      ∧ f.removeStaleSocket p = .ok f := by
  rw [removeStaleSocket, remove]
  cases hfind : f.find p with
  | error e => exact Or.inr ⟨nofun, rfl⟩
  | ok found =>
    obtain ⟨place, kind, mode⟩ := found
    cases kind with
    | socket id => exact Or.inl ⟨place, id, mode, rfl, rfl⟩
    | _ => exact Or.inr ⟨nofun, rfl⟩

/-! ## Making directories -/

/-- A later tree that differs in new directories alone. -/
structure GainsDirectories (f f' : Files) : Prop where
  workingDirectory : f'.workingDirectory = f.workingDirectory
  socketsBound : f'.socketsBound = f.socketsBound
  kept : ∀ place o, f.at? place = some o → f'.at? place = some o
  new : ∀ place o, f'.at? place = some o → f.at? place = some o ∨ o = ⟨.directory, directoryMode⟩

namespace GainsDirectories

/-- A tree that does not change gains no directory. -/
theorem refl (f : Files) : f.GainsDirectories f := ⟨rfl, rfl, fun _ _ h => h, fun _ _ h => Or.inl h⟩

/-- Directories that are gained one after another are gained. -/
theorem trans (h : f.GainsDirectories f') (h' : f'.GainsDirectories f'') :
    f.GainsDirectories f'' where
  workingDirectory := h'.workingDirectory.trans h.workingDirectory
  socketsBound := h'.socketsBound.trans h.socketsBound
  kept place o ho := h'.kept place o (h.kept place o ho)
  new place o ho := (h'.new place o ho).elim (h.new place o) Or.inr

/-- Whoever gains directories keeps those that were there. -/
theorem keepsDirectories (h : f.GainsDirectories f') : f.KeepsDirectories f' :=
  ⟨h.workingDirectory, fun place mode hplace => ⟨mode, h.kept place _ hplace⟩⟩

end GainsDirectories

/-- Making a directory gains at most that. -/
theorem gains_makeDirectory (h : f.makeDirectory p = .ok f') : f.GainsDirectories f' := by
  rw [makeDirectory, bind_eq_ok_iff] at h
  obtain ⟨place, -, h⟩ := h
  split at h
  · cases h
  · next hfree =>
    cases h
    have hplace := ne_nil_of_at?_eq_none hfree
    refine ⟨rfl, rfl, fun q o ho => ?_, fun q o ho => ?_⟩
    · rw [at?_put hplace, if_neg, ho]
      rintro rfl
      cases hfree.symm.trans ho
    · rw [at?_put hplace] at ho
      split at ho
      · exact Or.inr (Option.some.inj ho).symm
      · exact Or.inl ho

/-- Makes a directory and those above it, and tells what is left of the tree whether or not that
succeeds. -/
def makeDirectoriesLeaving : (depth : Nat) → Path → Files → Except IoError Unit × Files
  | 0, _, f => (.ok (), f)
  | depth + 1, p, f =>
    if p.bytes.isEmpty then (.ok (), f)
    else
      match f.makeDirectory p with
      | .ok f => (.ok (), f)
      | .error e =>
        if e = .system .noEntry then
          match p.parent with
          | none => (.error (.custom "failed to create whole tree"), f)
          | some parent =>
            match makeDirectoriesLeaving depth parent f with
            | (.error e, f) => (.error e, f)
            | (.ok (), f) =>
              match f.makeDirectory p with
              | .ok f => (.ok (), f)
              | .error e => if f.isDirectory p then (.ok (), f) else (.error e, f)
        else if f.isDirectory p then (.ok (), f)
        else (.error e, f)

/-- It makes the same directories. -/
theorem makeDirectories_eq (f : Files) (depth : Nat) (p : Path) : f.makeDirectories depth p
    = (makeDirectoriesLeaving depth p f).1.map fun _ => (makeDirectoriesLeaving depth p f).2 := by
  induction depth generalizing p with
  | zero => rfl
  | succ depth ih =>
    rw [makeDirectories, makeDirectoriesLeaving]
    by_cases hempty : p.bytes.isEmpty = true
    · rw [if_pos hempty, if_pos hempty]
      rfl
    rw [if_neg hempty, if_neg hempty]
    cases hmake : f.makeDirectory p with
    | ok f' => rfl
    | error e =>
      by_cases hmissing : e = .system .noEntry
      · dsimp only
        rw [if_pos hmissing, if_pos hmissing]
        cases p.parent with
        | none => rfl
        | some parent =>
          dsimp only
          rw [ih parent]
          obtain ⟨result, f'⟩ := makeDirectoriesLeaving depth parent f
          cases result with
          | error e => rfl
          | ok =>
            dsimp only [Except.map, bind, Except.bind]
            cases f'.makeDirectory p with
            | ok f'' => rfl
            | error e => cases f'.isDirectory p <;> rfl
      · dsimp only
        rw [if_neg hmissing, if_neg hmissing]
        cases f.isDirectory p <;> rfl

/-- **Making directories leaves all that is there**, also where it fails halfway. -/
theorem gains_makeDirectoriesLeaving (depth : Nat) (p : Path) (f : Files) :
    f.GainsDirectories (makeDirectoriesLeaving depth p f).2 := by
  fun_induction makeDirectoriesLeaving depth p f with
  | case3 => exact gains_makeDirectory ‹_›
  | case5 _ _ _ _ _ _ _ _ hparents _ ih =>
    rw [hparents] at ih
    exact ih
  | case6 _ _ _ _ _ _ _ hparents _ hmade _ ih =>
    rw [hparents] at ih
    exact ih.trans (gains_makeDirectory hmade)
  | case7 _ _ _ _ _ _ _ hparents _ _ _ _ ih =>
    rw [hparents] at ih
    exact ih
  | case8 _ _ _ _ _ _ _ hparents _ _ _ _ ih =>
    rw [hparents] at ih
    exact ih
  | _ => exact .refl _

end Files

end FileActivity
