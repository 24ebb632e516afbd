/-
# The socket files of servers

Binding takes nothing away but a socket that was left at the path, and whatever else is there
makes it fail. Stopping takes away what is at the path then, which is the server's own socket as
long as nobody else has touched it; but nothing makes sure of that.

Main statement: `stop_spares_iff`.
-/
import FileActivity.Proofs.Files.Tree
import FileActivity.Proofs.Trace
import FileActivity.Server.Basic
import Mathlib.Data.List.Pairwise

namespace FileActivity

/-! ## Putting a socket at a path -/

namespace Files

variable {f f' : Files} {p : Path} {place : Location} {id : SocketId}

/-- The tree with one more socket bound. -/
def counted (f : Files) : Files := { f with socketsBound := f.socketsBound + 1 }

/-- Counting a socket keeps the directories. -/
theorem keepsDirectories_counted (f : Files) : f.KeepsDirectories f.counted :=
  ⟨rfl, fun _ mode h => ⟨mode, h⟩⟩

/-- What is put where nothing was leaves the directories, and is counted. -/
theorem keepsDirectories_counted_put {object : FileObject} (hfree : f.at? place = none) :
    f.KeepsDirectories (f.counted.put place object) :=
  f.keepsDirectories_counted.trans
    (keepsDirectories_put fun mode hmode => by cases hfree.symm.trans hmode)

/-- A socket that is bound gets the next number, and a name in the tree where nothing is, unless
its address has no place there. -/
theorem bindSocket_cases (h : f.bindSocket p = .ok (id, f')) : id = ⟨f.socketsBound⟩
    ∧ (f' = f.counted ∧ (p.bytes.isEmpty = true ∨ p.bytes.contains 0 = true)
      ∨ ∃ place, f.resolve p = .ok place ∧ f.at? place = none ∧ p.wantsDirectory = false
        ∧ f' = f.counted.put place ⟨.socket ⟨f.socketsBound⟩, fileMode⟩) := by
  rw [bindSocket] at h
  split at h
  · next hempty =>
    cases h
    exact ⟨rfl, Or.inl ⟨rfl, Or.inl hempty⟩⟩
  split at h
  · next hzero =>
    have hcontains : p.bytes.contains 0 = true := by
      rw [List.contains_iff_mem]
      exact List.mem_of_mem_head? (beq_iff_eq.mp hzero)
    split at h
    · cases h
    · cases h
      exact ⟨rfl, Or.inl ⟨rfl, Or.inr hcontains⟩⟩
  · obtain ⟨_, -, h⟩ := bind_eq_ok_iff.mp h
    obtain ⟨place, hplace, h⟩ := bind_eq_ok_iff.mp h
    split at h
    · cases h
    next hfree =>
    split at h
    · cases h
    next hwants =>
    cases h
    have hwants := Bool.eq_false_iff.mpr hwants
    rw [placeForNew, Path.withoutFinalSlashes_of_not_wantsDirectory hwants] at hplace
    exact ⟨rfl, Or.inr ⟨place, hplace, hfree, hwants, rfl⟩⟩

/-- Where nothing was, what is put there is found. -/
theorem find_put (hresolve : f.resolve p = .ok place) (hfree : f.at? place = none)
    (hwants : p.wantsDirectory = false) {object : FileObject} :
    (f.counted.put place object).find p = .ok (place, object) := by
  refine find_eq_ok_iff.mpr ⟨(keepsDirectories_counted_put hfree).resolve hresolve fun h => ?_, ?_⟩
  · cases hwants.symm.trans h
  · rw [at?_put (ne_nil_of_at?_eq_none hfree), if_pos rfl]

/-- A new socket gets its permission bits. -/
theorem setMode_put (hresolve : f.resolve p = .ok place) (hfree : f.at? place = none)
    (hwants : p.wantsDirectory = false) (id : SocketId) (mode mode' : Nat) :
    (f.counted.put place ⟨.socket id, mode⟩).setMode p mode'
      = .ok (f.counted.put place ⟨.socket id, mode'⟩) := by
  rw [setMode, lookUp_of_find (find_put hresolve hfree hwants) fun _ => FileKind.noConfusion]
  exact congrArg Except.ok (put_put ..)

end Files

/-! ## What a bind leaves -/

namespace Server

/-- The directories above a path are made if they are missing; tells what is left of the tree
either way. -/
def prepareParentLeaving (f : Files) (p : Path) : Except IoError Unit × Files :=
  match p.parent with
  | none => (.ok (), f)
  | some parent => Files.makeDirectoriesLeaving (parent.components.length + 1) parent f

/-- Binds a server to a path, and tells what is left of the tree whether or not that succeeds. -/
def bindLeaving (f : Files) (p : Path) (policy : ConnectPolicy) (sendTimeout : Duration) :
    Except Error Server × Files :=
  match prepareParentLeaving f p with
  | (.error e, f) => (.error (.io e), f)
  | (.ok (), f) =>
    match f.removeStaleSocket p with
    | .error e => (.error (.io e), f)
    | .ok f =>
      match f.bindSocket p with
      | .error e => (.error (.io e), f)
      | .ok (socket, f) =>
        match f.setMode p socketMode with
        | .error e => (.error (.io e), f)
        | .ok f => (.ok ⟨p, socket, policy, sendTimeout⟩, f)

variable {f f₁ f₂ f' : Files} {p : Path} {place : Location} {policy : ConnectPolicy}
  {sendTimeout : Duration}

/-- Preparing the parent gives the tree that it leaves, if it succeeds. -/
theorem prepareParent_eq (f : Files) (p : Path) :
    prepareParent f p = (prepareParentLeaving f p).1.map fun _ => (prepareParentLeaving f p).2 := by
  rw [prepareParent, prepareParentLeaving]
  cases p.parent with
  | none => rfl
  | some parent => exact Files.makeDirectories_eq ..

/-- It binds the same server. -/
theorem bind_eq (f : Files) (p : Path) (policy : ConnectPolicy) (sendTimeout : Duration) :
    bind f p policy sendTimeout = (bindLeaving f p policy sendTimeout).1.map fun server =>
      (server, (bindLeaving f p policy sendTimeout).2) := by
  rw [bind, bindLeaving, prepareParent_eq]
  obtain ⟨result, f₁⟩ := prepareParentLeaving f p
  cases result with
  | error e => rfl
  | ok =>
    dsimp only [Except.map, Bind.bind, Except.bind]
    cases f₁.removeStaleSocket p with
    | error e => rfl
    | ok f₂ =>
      dsimp only
      cases f₂.bindSocket p with
      | error e => rfl
      | ok bound =>
        obtain ⟨socket, f₃⟩ := bound
        dsimp only
        cases f₃.setMode p socketMode <;> rfl

/-- A bind that succeeds leaves the tree that it gives. -/
theorem bind_eq_ok_iff_bindLeaving {server : Server} :
    bind f p policy sendTimeout = .ok (server, f')
    ↔ bindLeaving f p policy sendTimeout = (.ok server, f') := by
  rw [bind_eq, map_eq_ok_iff]
  obtain ⟨result, left⟩ := bindLeaving f p policy sendTimeout
  simp

/-- **What a bind does**: it makes directories and stops, or removes what was left behind and
stops, with or without the number of a socket that has no name in the tree; or it puts a new
socket where nothing is. -/
inductive BindOutcome (f : Files) (p : Path) (policy : ConnectPolicy) (sendTimeout : Duration) :
    Except Error Server × Files → Prop where
  | unprepared {f₁ : Files} (e : Error) (hparents : f.GainsDirectories f₁) :
    BindOutcome f p policy sendTimeout (.error e, f₁)
  | unbound {f₁ f₂ : Files} (e : Error) (hparents : f.GainsDirectories f₁)
    (hstale : f₁.removeStaleSocket p = .ok f₂) : BindOutcome f p policy sendTimeout (.error e, f₂)
  | unnamed {f₁ f₂ : Files} (e : Error) (hparents : f.GainsDirectories f₁)
    (hstale : f₁.removeStaleSocket p = .ok f₂) :
    BindOutcome f p policy sendTimeout (.error e, f₂.counted)
  | bound {f₁ f₂ : Files} {place : Location} (hparents : f.GainsDirectories f₁)
    (hstale : f₁.removeStaleSocket p = .ok f₂) (hplace : f₂.resolve p = .ok place)
    (hfree : f₂.at? place = none) (hwants : p.wantsDirectory = false) :
    BindOutcome f p policy sendTimeout (.ok ⟨p, ⟨f₂.socketsBound⟩, policy, sendTimeout⟩,
      f₂.counted.put place ⟨.socket ⟨f₂.socketsBound⟩, socketMode⟩)

/-- Preparing the parent gains directories at most, also where it fails. -/
theorem gains_prepareParentLeaving (f : Files) (p : Path) :
    f.GainsDirectories (prepareParentLeaving f p).2 := by
  rw [prepareParentLeaving]
  cases p.parent with
  | none => exact .refl f
  | some parent => exact Files.gains_makeDirectoriesLeaving ..

/-- Every bind has one of the outcomes. -/
theorem bindOutcome (f : Files) (p : Path) (policy : ConnectPolicy) (sendTimeout : Duration) :
    BindOutcome f p policy sendTimeout (bindLeaving f p policy sendTimeout) := by
  have hparents := gains_prepareParentLeaving f p
  rw [bindLeaving]
  generalize prepareParentLeaving f p = prepared at hparents
  obtain ⟨result, f₁⟩ := prepared
  cases result with
  | error e => exact .unprepared _ hparents
  | ok =>
    dsimp only
    cases hstale : f₁.removeStaleSocket p with
    | error e => exact .unprepared _ hparents
    | ok f₂ =>
      dsimp only
      cases hbind : f₂.bindSocket p with
      | error e => exact .unbound _ hparents hstale
      | ok made =>
        obtain ⟨id, f₃⟩ := made
        obtain ⟨rfl, ⟨rfl, hname⟩ | ⟨place, hplace, hfree, hwants, rfl⟩⟩ :=
          Files.bindSocket_cases hbind
        · -- the name outside the tree is not found when its permission bits are set
          dsimp only
          cases hmode : f₂.counted.setMode p socketMode with
          | error e => exact .unnamed _ hparents hstale
          | ok f₄ =>
            obtain ⟨⟨place, o⟩, hlookUp, -⟩ := bind_eq_ok_iff.mp hmode
            obtain ⟨hzero, hempty, -⟩ :=
              Files.checkPath_eq_ok_iff.mp (Files.lookUp_eq_ok_iff.mp hlookUp).1
            rcases hname with hname | hname
            · cases hempty.symm.trans hname
            · cases hzero.symm.trans hname
        · dsimp only
          rw [Files.setMode_put hplace hfree hwants]
          exact .bound hparents hstale hplace hfree hwants

theorem bindOutcome_of_eq {outcome : Except Error Server × Files}
    (h : bindLeaving f p policy sendTimeout = outcome) :
    BindOutcome f p policy sendTimeout outcome :=
  h ▸ bindOutcome f p policy sendTimeout

theorem bindOutcome_of_bind {server : Server} (h : bind f p policy sendTimeout = .ok (server, f')) :
    BindOutcome f p policy sendTimeout (.ok server, f') :=
  bindOutcome_of_eq (bind_eq_ok_iff_bindLeaving.mp h)

end Server

/-! ## What stays -/

namespace Files

variable {f f' f'' : Files} {p : Path} {place : Location}

/-- A later tree, in which the sockets that are new have new numbers.  Sockets may have been
moved. -/
structure NumbersOn (f f' : Files) : Prop where
  counted : f.socketsBound ≤ f'.socketsBound
  sockets : ∀ place id mode, f'.at? place = some ⟨.socket id, mode⟩ →
    f.socketsBound ≤ id.number ∧ id.number < f'.socketsBound
    ∨ ∃ place' mode', f.at? place' = some ⟨.socket id, mode'⟩

/-- A later tree in which all that was there still is, but for a socket that a path leads to. -/
structure SparesBut (p : Path) (f f' : Files) : Prop where
  keepsDirectories : f.KeepsDirectories f'
  numbersOn : f.NumbersOn f'
  spared : ∀ place o, f.at? place = some o → f'.at? place = some o
    ∨ (∃ id mode, o = ⟨.socket id, mode⟩) ∧ p.wantsDirectory = false ∧ f'.resolve p = .ok place

/-- Numbering one tree after another is numbering them altogether. -/
theorem NumbersOn.trans (h : f.NumbersOn f') (h' : f'.NumbersOn f'') : f.NumbersOn f'' := by
  refine ⟨Nat.le_trans h.counted h'.counted, fun place id mode hplace => ?_⟩
  rcases h'.sockets place id mode hplace with ⟨hlow, hhigh⟩ | ⟨place', mode', hplace'⟩
  · exact Or.inl ⟨Nat.le_trans h.counted hlow, hhigh⟩
  · rcases h.sockets place' id mode' hplace' with ⟨hlow, hhigh⟩ | hold
    · exact Or.inl ⟨hlow, Nat.lt_of_lt_of_le hhigh h'.counted⟩
    · exact Or.inr hold

/-- Where no socket is new, the numbers go on. -/
theorem numbersOn_of_old (hcounted : f.socketsBound ≤ f'.socketsBound)
    (h : ∀ place id mode, f'.at? place = some ⟨.socket id, mode⟩ →
      f.at? place = some ⟨.socket id, mode⟩) :
    f.NumbersOn f' :=
  ⟨hcounted, fun place id mode hplace => Or.inr ⟨place, mode, h place id mode hplace⟩⟩

/-- Erasing something brings in no socket. -/
theorem numbersOn_erase (hplace : place ≠ []) : f.NumbersOn (f.erase place) := by
  refine numbersOn_of_old (Nat.le_refl _) fun q id mode hq => ?_
  rw [at?_erase hplace] at hq
  split at hq
  · cases hq
  · exact hq

/-- A new socket has the number that was next. -/
theorem numbersOn_counted_put (hplace : place ≠ []) (mode : Nat) :
    f.NumbersOn (f.counted.put place ⟨.socket ⟨f.socketsBound⟩, mode⟩) := by
  refine ⟨Nat.le_succ _, fun q id mode' hq => ?_⟩
  rw [at?_put hplace] at hq
  split at hq
  · cases hq
    exact Or.inl ⟨Nat.le_refl _, Nat.lt_succ_self _⟩
  · exact Or.inr ⟨q, mode', hq⟩

/-- Removing a socket that was left behind counts no socket. -/
theorem socketsBound_of_removeStaleSocket (h : f.removeStaleSocket p = .ok f') :
    f'.socketsBound = f.socketsBound := by
  rcases f.removeStaleSocket_cases p with ⟨_, _, _, -, hremove⟩ | ⟨-, hremove⟩ <;>
    cases hremove.symm.trans h <;> rfl

namespace SparesBut

/-- What is spared twice is spared. -/
theorem trans (h : SparesBut p f f') (h' : SparesBut p f' f'') : SparesBut p f f'' where
  keepsDirectories := h.keepsDirectories.trans h'.keepsDirectories
  numbersOn := h.numbersOn.trans h'.numbersOn
  spared place o ho := by
    rcases h.spared place o ho with hkept | ⟨hsocket, hwants, hresolve⟩
    · exact h'.spared place o hkept
    · have hstill :=
        h'.keepsDirectories.resolve hresolve fun hdirectory => by cases hwants.symm.trans hdirectory
      exact Or.inr ⟨hsocket, hwants, hstill⟩

/-- Whatever only adds to the tree spares all of it. -/
theorem of_kept (hkeeps : f.KeepsDirectories f') (hnumbers : f.NumbersOn f')
    (h : ∀ place o, f.at? place = some o → f'.at? place = some o) : SparesBut p f f' :=
  ⟨hkeeps, hnumbers, fun place o ho => Or.inl (h place o ho)⟩

/-- What a path leads to is found again, unless it is the place of the socket. -/
theorem find (h : SparesBut p f f') {path : Path} {o : FileObject}
    (hfind : f.find path = .ok (place, o)) (hplace : f'.resolve p ≠ .ok place) :
    f'.find path = .ok (place, o) := by
  obtain ⟨-, hat⟩ := find_eq_ok_iff.mp hfind
  refine h.keepsDirectories.find hfind ((h.spared place o hat).resolve_right ?_)
  rintro ⟨-, -, hresolve⟩
  exact hplace hresolve

/-- Whoever gains directories spares all that was there. -/
theorem of_gains (h : f.GainsDirectories f') : SparesBut p f f' := by
  refine of_kept h.keepsDirectories (numbersOn_of_old (Nat.le_of_eq h.socketsBound.symm)
    fun place id mode hplace => ?_) h.kept
  rcases h.new place _ hplace with hold | hnew
  · exact hold
  · cases hnew

/-- Removing what was left behind spares everything but a socket under the path. -/
theorem of_removeStaleSocket (h : f.removeStaleSocket p = .ok f') : SparesBut p f f' := by
  rcases f.removeStaleSocket_cases p with ⟨place, id, mode, hfind, hremove⟩ | ⟨-, hremove⟩
  · cases hremove.symm.trans h
    obtain ⟨hresolve, hat⟩ := find_eq_ok_iff.mp hfind
    have hnot : ∀ mode', f.at? place ≠ some ⟨.directory, mode'⟩ := fun mode' hmode' => by
      cases hat.symm.trans hmode'
    have hwants : p.wantsDirectory = false := Bool.eq_false_iff.mpr fun hwants => by
      cases (resolve_eq_ok_iff.mp hresolve).2.2 hwants _ hat
    have hplace := ne_nil_of_not_directory hnot
    have hkeeps := keepsDirectories_erase hnot
    refine ⟨hkeeps, numbersOn_erase hplace, fun q o ho => ?_⟩
    rw [at?_erase hplace]
    split
    · next hq =>
      rw [hq, hat] at ho
      cases ho
      rw [hq]
      exact Or.inr ⟨⟨id, mode, rfl⟩, hwants, hkeeps.resolve hresolve fun hdirectory => by
        cases hwants.symm.trans hdirectory⟩
    · exact Or.inl ho
  · cases hremove.symm.trans h
    exact of_kept (.refl f) (numbersOn_of_old (Nat.le_refl _) fun _ _ _ h => h) fun _ _ h => h

theorem of_counted (f : Files) : SparesBut p f f.counted :=
  of_kept f.keepsDirectories_counted (numbersOn_of_old (Nat.le_succ _) fun _ _ _ h => h)
    fun _ _ h => h

/-- Putting a socket where nothing was spares everything. -/
theorem of_counted_put (hfree : f.at? place = none) (mode : Nat) :
    SparesBut p f (f.counted.put place ⟨.socket ⟨f.socketsBound⟩, mode⟩) := by
  have hplace := ne_nil_of_at?_eq_none hfree
  refine of_kept (keepsDirectories_counted_put hfree) (numbersOn_counted_put hplace mode)
    fun q o ho => ?_
  rw [at?_put hplace, if_neg]
  · exact ho
  · rintro rfl
    cases hfree.symm.trans ho

end SparesBut

end Files

namespace Server

variable {f f' : Files} {p : Path} {policy : ConnectPolicy} {sendTimeout : Duration}
  {result : Except Error Server} {server : Server}

/-- **A bind spares all that is there, but for a socket at its path.** -/
theorem BindOutcome.spares (h : BindOutcome f p policy sendTimeout (result, f')) :
    Files.SparesBut p f f' := by
  cases h with
  | unprepared e hparents => exact .of_gains hparents
  | unbound e hparents hstale =>
    exact (Files.SparesBut.of_gains hparents).trans (.of_removeStaleSocket hstale)
  | unnamed e hparents hstale =>
    exact ((Files.SparesBut.of_gains hparents).trans (.of_removeStaleSocket hstale)).trans
      (.of_counted _)
  | bound hparents hstale hplace hfree hwants =>
    exact ((Files.SparesBut.of_gains hparents).trans (.of_removeStaleSocket hstale)).trans
      (.of_counted_put hfree _)

/-- **What is no socket makes a bind fail**, and stays. -/
theorem BindOutcome.fails_of_find (h : BindOutcome f p policy sendTimeout (result, f'))
    {place : Location} {o : FileObject} (hfind : f.find p = .ok (place, o))
    (ho : ∀ id, o.kind ≠ .socket id) : (∃ e, result = .error e) ∧ f'.find p = .ok (place, o) := by
  have hspares := h.spares
  obtain ⟨-, hat⟩ := Files.find_eq_ok_iff.mp hfind
  refine ⟨?_, hspares.keepsDirectories.find hfind ?_⟩
  · cases h with
    | bound hparents hstale hplace hfree hwants =>
      -- nothing is removed, so the way of the socket is blocked
      have hfind₁ := hparents.keepsDirectories.find hfind (hparents.kept place o hat)
      rcases Files.removeStaleSocket_cases _ p with ⟨_, id, _, hsocket, -⟩ | ⟨-, hremove⟩
      · cases hfind₁.symm.trans hsocket
        exact absurd rfl (ho id)
      · cases hremove.symm.trans hstale
        obtain ⟨hresolve, hat₁⟩ := Files.find_eq_ok_iff.mp hfind₁
        cases hresolve.symm.trans hplace
        cases hfree.symm.trans hat₁
    | _ => exact ⟨_, rfl⟩
  · rcases hspares.spared place o hat with hkept | ⟨⟨id, mode, rfl⟩, -⟩
    · exact hkept
    · exact absurd rfl (ho id)

/-- **A server that is bound has a new socket at its path.** -/
theorem BindOutcome.bound_server (h : BindOutcome f p policy sendTimeout (.ok server, f')) :
    server.path = p ∧ server.socket = ⟨f.socketsBound⟩ ∧ f.socketsBound < f'.socketsBound
    ∧ ∃ place, f'.find p = .ok (place, ⟨.socket server.socket, socketMode⟩) := by
  cases h with
  | bound hparents hstale hplace hfree hwants =>
    have hcount := (Files.socketsBound_of_removeStaleSocket hstale).trans hparents.socketsBound
    refine ⟨rfl, congrArg SocketId.mk hcount, ?_, _, Files.find_put hplace hfree hwants⟩
    exact Nat.lt_of_lt_of_eq (Nat.lt_succ_self _) (congrArg Nat.succ hcount.symm)

end Server

/-! ## Servers that come and go -/

/-- The file tree, and the servers that are running. -/
structure World where
  files : Files
  servers : List Server := []

namespace World

/-- What happens to the file tree. -/
inductive Event where
  /-- A server was bound. -/
  | bound (server : Server)
  /-- A server could not be bound to a path. -/
  | refused (path : Path)
  /-- A server has stopped. -/
  | stopped (server : Server)
  /-- Somebody else has changed the tree. -/
  | changed

/-- One step: a server is bound, or is not, or a running one stops; or other programs make,
replace, move and delete objects of any kind.  They may bind sockets, but a socket of theirs is
not one that was bound before. -/
inductive Step : World → Event → World → Prop where
  | bind {w : World} {p : Path} {policy : ConnectPolicy} {sendTimeout : Duration} {server : Server}
      {f : Files}
    (hbind : Server.bind w.files p policy sendTimeout = .ok (server, f)) :
    Step w (.bound server) ⟨f, w.servers ++ [server]⟩
  | refuse {w : World} {p : Path} {policy : ConnectPolicy} {sendTimeout : Duration} {e : Error}
      {f : Files}
    (hbind : Server.bindLeaving w.files p policy sendTimeout = (.error e, f)) :
    Step w (.refused p) ⟨f, w.servers⟩
  | stop {w : World} {server : Server} (hrunning : server ∈ w.servers) (c : Channel) :
    Step w (.stopped server) ⟨(server.stop w.files c).1, w.servers.erase server⟩
  | change {w : World} {f : Files} (hdirectory : f.workingDirectory = w.files.workingDirectory)
    (hnumbers : w.files.NumbersOn f) : Step w .changed ⟨f, w.servers⟩

variable {w w' w₀ : World} {ev : Event} {tr : List Event} {server : Server}

/-! ### Sockets are told apart -/

/-- Every socket has a number of its own, and so has every server. -/
structure Numbered (w : World) : Prop where
  files : ∀ place id mode, w.files.at? place = some ⟨.socket id, mode⟩ →
    id.number < w.files.socketsBound
  servers : ∀ server ∈ w.servers, server.socket.number < w.files.socketsBound
  distinct : w.servers.Pairwise fun server other => server.socket ≠ other.socket

/-- What stopping a server leaves of the tree. -/
theorem stop_cases (server : Server) (f : Files) (c : Channel) :
    (∃ place o, f.find server.path = .ok (place, o) ∧ o.kind ≠ .directory
      ∧ (server.stop f c).1 = f.erase place)
    ∨ (∀ place o, f.find server.path = .ok (place, o) → o.kind = .directory)
      ∧ (server.stop f c).1 = f :=
  f.remove_getD server.path

/-- Stopping a server brings in no socket. -/
theorem numbersOn_stop (server : Server) (f : Files) (c : Channel) :
    f.NumbersOn (server.stop f c).1 := by
  rcases stop_cases server f c with ⟨place, o, hfind, ho, hstop⟩ | ⟨-, hstop⟩
  · rw [hstop]
    exact Files.numbersOn_erase (Files.ne_nil_of_not_directory
      (Files.not_directory_of_find hfind ho))
  · rw [hstop]
    exact Files.numbersOn_of_old (Nat.le_refl _) fun _ _ _ h => h

/-- Where no server is new, sockets and servers go on being told apart. -/
theorem Numbered.of_numbersOn (hw : w.Numbered) {f : Files} {servers : List Server}
    (hf : w.files.NumbersOn f) (hservers : servers.Sublist w.servers) : Numbered ⟨f, servers⟩ where
  files place id mode hplace := by
    rcases hf.sockets place id mode hplace with ⟨-, hnew⟩ | ⟨place', mode', hold⟩
    · exact hnew
    · exact Nat.lt_of_lt_of_le (hw.files place' id mode' hold) hf.counted
  servers server hserver :=
    Nat.lt_of_lt_of_le (hw.servers server (hservers.subset hserver)) hf.counted
  distinct := hw.distinct.sublist hservers

/-- A step keeps every socket and every server numbered. -/
theorem Step.numbered (h : Step w ev w') (hw : w.Numbered) : w'.Numbered := by
  cases h with
  | @bind p policy sendTimeout server f hbind =>
    have houtcome := Server.bindOutcome_of_bind hbind
    obtain ⟨-, hsocket, hcount, -⟩ := houtcome.bound_server
    obtain ⟨hfiles, hservers, hdistinct⟩ :=
      hw.of_numbersOn houtcome.spares.numbersOn (List.Sublist.refl _)
    have hnumber : server.socket.number = w.files.socketsBound := congrArg SocketId.number hsocket
    refine ⟨hfiles, fun other hother => ?_,
      List.pairwise_append.mpr ⟨hdistinct, List.pairwise_singleton _ _, ?_⟩⟩
    · rcases List.mem_append.mp hother with hother | hother
      · exact hservers other hother
      · rw [List.mem_singleton.mp hother, hnumber]
        exact hcount
    · -- the number of the new server is one that nobody had
      intro other hother new hnew hsame
      have hold := hw.servers other hother
      rw [hsame, List.mem_singleton.mp hnew, hnumber] at hold
      exact Nat.lt_irrefl _ hold
  | refuse hbind =>
    have houtcome := Server.bindOutcome_of_eq hbind
    exact hw.of_numbersOn houtcome.spares.numbersOn (List.Sublist.refl _)
  | stop hrunning c => exact hw.of_numbersOn (numbersOn_stop ..) List.erase_sublist
  | change hdirectory hnumbers => exact hw.of_numbersOn hnumbers (List.Sublist.refl _)

/-- In a run every socket and every server stays numbered. -/
theorem numbered (hw₀ : w₀.Numbered) (h : Trace Step w₀ tr w) : w.Numbered := by
  induction h with
  | refl => exact hw₀
  | tail _ hstep ih => exact hstep.numbered ih

/-! ### The own socket -/

/-- The path of a server leads to its own socket. -/
def Holds (w : World) (server : Server) : Prop :=
  ∃ place mode, w.files.find server.path = .ok (place, ⟨.socket server.socket, mode⟩)

/-- Stopping a server takes nothing away but its own socket. -/
def StopSpares (w : World) (server : Server) : Prop :=
  ∀ c place o, w.files.at? place = some o →
    (server.stop w.files c).1.at? place = some o ∨ o.kind = .socket server.socket

/-- A step that has nothing to do with the place that a server's path leads to: a bind or a stop
of a path that leads elsewhere, or a change that leaves what is found there. -/
def Event.Quiet (server : Server) (w w' : World) : Event → Prop
  | bound other => w'.files.resolve other.path ≠ w.files.resolve server.path
  | refused p => w'.files.resolve p ≠ w.files.resolve server.path
  | stopped other => w.files.resolve other.path ≠ w.files.resolve server.path
  | changed => w'.files.find server.path = w.files.find server.path

/-- **Stopping spares all else exactly if there is nothing at the path but the own socket**, or
a directory, which is not removed. -/
theorem stopSpares_iff :
    w.StopSpares server ↔ ∀ place o, w.files.find server.path = .ok (place, o) →
    o.kind = .directory ∨ o.kind = .socket server.socket := by
  constructor
  · intro hspares place o hfind
    by_cases hdirectory : o.kind = .directory
    · exact Or.inl hdirectory
    · rcases stop_cases server w.files {} with ⟨place', o', hfind', ho', hstop⟩ | ⟨hnone, -⟩
      · cases hfind.symm.trans hfind'
        have hplace := Files.ne_nil_of_not_directory (Files.not_directory_of_find hfind ho')
        refine Or.inr ((hspares {} place o (Files.find_eq_ok_iff.mp hfind).2).resolve_left
          fun hstays => ?_)
        rw [hstop, Files.at?_erase hplace, if_pos rfl] at hstays
        cases hstays
      · exact absurd (hnone place o hfind) hdirectory
  · intro hown c place o ho
    rcases stop_cases server w.files c with ⟨place', o', hfind', ho', hstop⟩ | ⟨-, hstop⟩
    · have hplace := Files.ne_nil_of_not_directory (Files.not_directory_of_find hfind' ho')
      rw [hstop, Files.at?_erase hplace]
      split
      · next hsame =>
        cases (hsame ▸ ho).symm.trans (Files.find_eq_ok_iff.mp hfind').2
        exact Or.inr ((hown place' o hfind').resolve_left ho')
      · exact Or.inl ho
    · rw [hstop]
      exact Or.inl ho

/-- A quiet step leaves a server its socket. -/
theorem Step.holds (h : Step w ev w') (hquiet : ev.Quiet server w w') (hholds : w.Holds server) :
    w'.Holds server := by
  obtain ⟨place, mode, hfind⟩ := hholds
  obtain ⟨hresolve, hat⟩ := Files.find_eq_ok_iff.mp hfind
  cases h with
  | bind hbind =>
    have houtcome := Server.bindOutcome_of_bind hbind
    obtain ⟨rfl, -⟩ := houtcome.bound_server
    exact ⟨place, mode, houtcome.spares.find hfind
      fun hplace => hquiet (hplace.trans hresolve.symm)⟩
  | refuse hbind =>
    have houtcome := Server.bindOutcome_of_eq hbind
    exact ⟨place, mode, houtcome.spares.find hfind
      fun hplace => hquiet (hplace.trans hresolve.symm)⟩
  | @stop other hrunning c =>
    rcases stop_cases other w.files c with ⟨place', o', hfind', ho', hstop⟩ | ⟨-, hstop⟩
    · have hnot := Files.not_directory_of_find hfind' ho'
      have hplace := Files.ne_nil_of_not_directory hnot
      have hother : place ≠ place' := by
        rintro rfl
        exact hquiet ((Files.find_eq_ok_iff.mp hfind').1.trans hresolve.symm)
      refine ⟨place, mode, ?_⟩
      dsimp only
      rw [hstop]
      refine (Files.keepsDirectories_erase hnot).find hfind ?_
      rw [Files.at?_erase hplace, if_neg hother, hat]
    · refine ⟨place, mode, ?_⟩
      dsimp only
      rw [hstop]
      exact hfind
  | change hdirectory hnumbers =>
    have hsame : Files.find _ server.path = w.files.find server.path := hquiet
    exact ⟨place, mode, hsame.trans hfind⟩

/-- A step that is quiet for a server. -/
def QuietStep (server : Server) (w : World) (ev : Event) (w' : World) : Prop :=
  Step w ev w' ∧ ev.Quiet server w w'

/-- So do quiet steps one after another. -/
theorem holds_of_quiet (hholds : w₀.Holds server) (h : Trace (QuietStep server) w₀ tr w) :
    w.Holds server := by
  induction h with
  | refl => exact hholds
  | tail _ hstep ih => exact hstep.1.holds hstep.2 ih

/-- A server that was just bound has its socket. -/
theorem Step.holds_of_bound (h : Step w (.bound server) w') : w'.Holds server := by
  cases h with
  | bind hbind =>
    obtain ⟨rfl, -, -, place, hfind⟩ := (Server.bindOutcome_of_bind hbind).bound_server
    exact ⟨place, Server.socketMode, hfind⟩

/-- A server that holds its socket takes nothing else away. -/
theorem Holds.stopSpares (h : w.Holds server) : w.StopSpares server := by
  obtain ⟨place, mode, hfind⟩ := h
  refine stopSpares_iff.mpr fun place' o hfind' => ?_
  cases hfind.symm.trans hfind'
  exact Or.inr rfl

/-- A server is known by its socket. -/
theorem Numbered.eq_of_socket_eq (hw : w.Numbered) {other : Server} (hserver : server ∈ w.servers)
    (hother : other ∈ w.servers) (h : other.socket = server.socket) : other = server := by
  have hsymm : Std.Symm fun server other : Server => server.socket ≠ other.socket :=
    ⟨fun _ _ hne => hne.symm⟩
  by_contra hne
  exact hw.distinct.forall hother hserver hne h

/-- The socket of a server that is bound is nowhere in the tree before. -/
theorem Numbered.at?_ne_of_bound (hw : w.Numbered) (h : Step w (.bound server) w')
    (place : Location) (mode : Nat) : w.files.at? place ≠ some ⟨.socket server.socket, mode⟩ := by
  intro hplace
  have hold := hw.files place _ mode hplace
  cases h with
  | bind hbind =>
    obtain ⟨-, hsocket, -⟩ := (Server.bindOutcome_of_bind hbind).bound_server
    rw [hsocket] at hold
    exact Nat.lt_irrefl _ hold

/-- **What servers take away.**  After any run of binds, stops and changes by others:

* a bind, whether or not it succeeds, takes nothing away but a socket that its path leads to,
  and where the path leads to anything else it fails and leaves that;
* stopping a running server takes nothing away but its own socket, which no other server has,
  exactly if its path leads to that, to a directory or to nothing;
* so it does, and the path leads to its socket, which is a new one, if no step since the bind
  had to do with the place that the path leads to. -/
theorem stop_spares_iff (hw₀ : w₀.Numbered) (h : Trace Step w₀ tr w) :
    (∀ p policy sendTimeout result f,
      Server.bindLeaving w.files p policy sendTimeout = (result, f) →
      Files.SparesBut p w.files f
      ∧ ∀ place o, w.files.find p = .ok (place, o) → (∀ id, o.kind ≠ .socket id) →
        (∃ e, result = .error e) ∧ f.find p = .ok (place, o))
    ∧ (∀ server ∈ w.servers,
        (w.StopSpares server ↔ ∀ place o, w.files.find server.path = .ok (place, o) →
          o.kind = .directory ∨ o.kind = .socket server.socket)
        ∧ ∀ other ∈ w.servers, other.socket = server.socket → other = server)
    ∧ ∀ server w₁, Step w (.bound server) w₁ →
        (∀ place mode, w.files.at? place ≠ some ⟨.socket server.socket, mode⟩)
        ∧ ∀ mid w₂, Trace (QuietStep server) w₁ mid w₂ →
          w₂.Holds server ∧ w₂.StopSpares server := by
  refine ⟨fun p policy sendTimeout result f hbind => ?_, fun server hserver => ⟨stopSpares_iff, ?_⟩,
    fun server w₁ hbound => ⟨fun place mode => ?_, fun mid w₂ hquiet => ?_⟩⟩
  · have houtcome := Server.bindOutcome_of_eq hbind
    exact ⟨houtcome.spares, fun place o hfind ho => houtcome.fails_of_find hfind ho⟩
  · exact fun other hother => (numbered hw₀ h).eq_of_socket_eq hserver hother
  · exact (numbered hw₀ h).at?_ne_of_bound hbound place mode
  · have hholds := holds_of_quiet hbound.holds_of_bound hquiet
    exact ⟨hholds, hholds.stopSpares⟩

/-- The world before anything is bound. -/
theorem numbered_empty : Numbered { files := {} } where
  files place id mode hplace := by
    rw [Files.at?] at hplace
    split at hplace <;> cases hplace
  servers := nofun
  distinct := List.Pairwise.nil

/-- A server of its own at a path of one letter, its socket the one of a number. -/
def oneLetter (letter : UInt8) (number : Nat) : Server := ⟨⟨[letter]⟩, ⟨number⟩, .permissive, ⟨0⟩⟩

/-- A tree that holds a socket at each of these letters, of so many that were bound. -/
def oneLetterFiles (sockets : List (UInt8 × Nat)) (bound : Nat) : Files :=
  { objects := sockets.map fun s => ([[s.1]], ⟨.socket ⟨s.2⟩, Server.socketMode⟩),
    socketsBound := bound }

theorem bind_first : Server.bind {} ⟨[0x73]⟩ .permissive ⟨0⟩
    = .ok (oneLetter 0x73 0, oneLetterFiles [(0x73, 0)] 1) := rfl

/-- Two servers at two paths: the one that stops takes its own socket. -/
theorem stop_spares_iff_two_paths :
    ∃ (w : World) (server other : Server), w.servers = [server, other]
    ∧ w.Holds server ∧ w.StopSpares server ∧ w.Holds other := by
  have hbind : Server.bind (oneLetterFiles [(0x73, 0)] 1) ⟨[0x74]⟩ .permissive ⟨0⟩
      = .ok (oneLetter 0x74 1, oneLetterFiles [(0x74, 1), (0x73, 0)] 2) := rfl
  have hfirst : Step { files := {} } (.bound (oneLetter 0x73 0))
      ⟨oneLetterFiles [(0x73, 0)] 1, [oneLetter 0x73 0]⟩ := .bind bind_first
  have hsecond : Step ⟨oneLetterFiles [(0x73, 0)] 1, [oneLetter 0x73 0]⟩ (.bound (oneLetter 0x74 1))
      ⟨oneLetterFiles [(0x74, 1), (0x73, 0)] 2, [oneLetter 0x73 0, oneLetter 0x74 1]⟩ := .bind hbind
  have hquiet : Event.Quiet (oneLetter 0x73 0) ⟨oneLetterFiles [(0x73, 0)] 1, [oneLetter 0x73 0]⟩
      ⟨oneLetterFiles [(0x74, 1), (0x73, 0)] 2, [oneLetter 0x73 0, oneLetter 0x74 1]⟩
      (.bound (oneLetter 0x74 1)) := by
    intro hsame
    cases hsame
  obtain ⟨hholds, hspares⟩ :=
    ((stop_spares_iff numbered_empty .refl).2.2 _ _ hfirst).2 _ _ (.single ⟨hsecond, hquiet⟩)
  exact ⟨_, _, _, rfl, hholds, hspares, hsecond.holds_of_bound⟩

/-- **A server takes more away.**  Where a second server is bound to the path of a running one,
the first one takes the socket of the second when it stops, and nobody can reach that server
although it runs; and where another program has put a regular file there, the server takes the
file. -/
theorem not_stop_spares :
    (∃ tr w server other, Trace Step { files := {} } tr w ∧ w.servers = [server, other]
      ∧ w.Holds other ∧ ¬ w.StopSpares server
      ∧ ∀ c, (server.stop w.files c).1.find other.path = .error (.system .noEntry))
    ∧ ∃ tr w server place content mode, Trace Step { files := {} } tr w ∧ server ∈ w.servers
      ∧ w.files.at? place = some ⟨.regular content, mode⟩ ∧ ¬ w.StopSpares server
      ∧ ∀ c, (server.stop w.files c).1.at? place = none := by
  have hfirst : Step { files := {} } (.bound (oneLetter 0x73 0))
      ⟨oneLetterFiles [(0x73, 0)] 1, [oneLetter 0x73 0]⟩ := .bind bind_first
  constructor
  · have hbind : Server.bind (oneLetterFiles [(0x73, 0)] 1) ⟨[0x73]⟩ .permissive ⟨0⟩
        = .ok (oneLetter 0x73 1, oneLetterFiles [(0x73, 1)] 2) := rfl
    have hsecond : Step ⟨oneLetterFiles [(0x73, 0)] 1, [oneLetter 0x73 0]⟩
        (.bound (oneLetter 0x73 1))
        ⟨oneLetterFiles [(0x73, 1)] 2, [oneLetter 0x73 0, oneLetter 0x73 1]⟩ := .bind hbind
    refine ⟨_, _, _, _, .cons hfirst (.single hsecond), rfl,
      hsecond.holds_of_bound, fun hspares => ?_, fun c => rfl⟩
    rcases stopSpares_iff.mp hspares [[0x73]] _ rfl with hdirectory | hown
    · cases hdirectory
    · cases hown
  · have hchanged : Step ⟨oneLetterFiles [(0x73, 0)] 1, [oneLetter 0x73 0]⟩ .changed
        ⟨(oneLetterFiles [(0x73, 0)] 1).put [[0x73]] ⟨.regular [0x78], fileMode⟩,
          [oneLetter 0x73 0]⟩ := by
      refine .change rfl (Files.numbersOn_of_old (Nat.le_refl _) fun place id mode hplace => ?_)
      rw [Files.at?_put (List.cons_ne_nil _ _)] at hplace
      split at hplace
      · cases hplace
      · exact hplace
    refine ⟨_, _, _, [[0x73]], _, _, .cons hfirst (.single hchanged), List.mem_singleton.mpr rfl,
      rfl, fun hspares => ?_, fun c => rfl⟩
    rcases stopSpares_iff.mp hspares [[0x73]] _ rfl with hdirectory | hown
    · cases hdirectory
    · cases hown

end World

end FileActivity
