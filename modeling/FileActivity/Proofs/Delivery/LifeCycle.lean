/-
# The life of a connection

A connection is given a cookie, is put into the slot, leaves it, and is shut down.  Whatever the
threads do and in whatever order, each of these happens to it at most once: all that was ever
put into the slot is either still there or was taken out once (`Steps.installed_perm`), what a
thread takes on in one step it does in its next one (`Duty.kept`), and nothing leaves the slot
while a sender holds the read lock (`Steps.slot_of_sending`), so no record is handed to a
connection that has left.

Main statement: `life_cycle`.
-/
import FileActivity.Proofs.Delivery.SharedChannel
import Mathlib.Data.List.Nodup
import Mathlib.Data.List.Perm.Basic

namespace FileActivity

namespace Stage

/-- A thread that took something out of the slot has just that to shut down. -/
@[simp] theorem afterTaking_eq_closing {previous : Option Connection} {c : Connection} :
    afterTaking previous = closing c ↔ previous = some c := by
  cases previous <;> simp [afterTaking]

@[simp] theorem afterTaking_ne_connecting {previous : Option Connection} {c : Connection} :
    afterTaking previous ≠ connecting c := by
  cases previous <;> simp [afterTaking]

/-- Nobody who took something out of the slot is about to hand a record over. -/
@[simp] theorem afterTaking_ne_sending {previous : Option Connection} {c : Connection}
    {r : EventRecord} : afterTaking previous ≠ sending c r := by
  cases previous <;> simp [afterTaking]

/-- A thread that looked into the slot is about to hand its record to what it found there. -/
@[simp] theorem afterLooking_eq_sending {found : Option Connection} {c : Connection}
    {r r' : EventRecord} : afterLooking r found = sending c r' ↔ found = some c ∧ r = r' := by
  cases found <;> simp [afterLooking]

@[simp] theorem afterLooking_ne_connecting {found : Option Connection} {c : Connection}
    {r : EventRecord} : afterLooking r found ≠ connecting c := by
  cases found <;> simp [afterLooking]

@[simp] theorem afterLooking_ne_closing {found : Option Connection} {c : Connection}
    {r : EventRecord} : afterLooking r found ≠ closing c := by
  cases found <;> simp [afterLooking]

/-- After a hand-off a thread has a failure to answer to, or nothing left to do. -/
theorem afterHandOff_eq (k : Cookie) (outcome : Except Error Unit) :
    afterHandOff k outcome = failed k ∨ afterHandOff k outcome = idle := by
  unfold afterHandOff
  split
  · split
    · exact Or.inl rfl
    · exact Or.inr rfl
  · exact Or.inr rfl

@[simp] theorem afterHandOff_ne_connecting {k : Cookie} {outcome : Except Error Unit}
    {c : Connection} : afterHandOff k outcome ≠ connecting c := by
  rcases afterHandOff_eq k outcome with h | h <;> simp [h]

@[simp] theorem afterHandOff_ne_closing {k : Cookie} {outcome : Except Error Unit}
    {c : Connection} : afterHandOff k outcome ≠ closing c := by
  rcases afterHandOff_eq k outcome with h | h <;> simp [h]

@[simp] theorem afterHandOff_ne_sending {k : Cookie} {outcome : Except Error Unit}
    {c : Connection} {r : EventRecord} : afterHandOff k outcome ≠ sending c r := by
  rcases afterHandOff_eq k outcome with h | h <;> simp [h]

end Stage

namespace Channel

/-- What vacating takes out and what it leaves in the slot is what was there. -/
theorem perm_vacateIf (c : Channel) (k : Cookie) :
    ((c.vacateIf k).2.slot.toList ++ (c.vacateIf k).1.toList).Perm c.slot.toList := by
  by_cases hk : c.connected = some k
  · rw [vacateIf_of_connected hk]
    simp [vacate]
  · rw [vacateIf_of_not_connected hk]
    simp

@[simp] theorem issued_vacateIf (c : Channel) (k : Cookie) :
    (c.vacateIf k).2.issued = c.issued := by
  by_cases hk : c.connected = some k
  · rw [vacateIf_of_connected hk]; rfl
  · rw [vacateIf_of_not_connected hk]

@[simp] theorem consumers_vacateIf (c : Channel) (k : Cookie) :
    (c.vacateIf k).2.consumers = c.consumers := by
  by_cases hk : c.connected = some k
  · rw [vacateIf_of_connected hk]; rfl
  · rw [vacateIf_of_not_connected hk]

end Channel

namespace SharedChannel

variable {s s' : SharedChannel} {a : Action} {tr pre post : List Action} {t u : ThreadId}
  {c : Connection}

/-! ## What a run has done -/

/-- The connections that a run gave cookies, in order. -/
def issuedIn (tr : List Action) : List Connection := tr.filterMap Action.issued

/-- The connections that a run put into the slot, in order. -/
def installedIn (tr : List Action) : List Connection := tr.filterMap Action.installed

/-- The connections that a run took out of the slot, in order. -/
def removedIn (tr : List Action) : List Connection := tr.filterMap Action.removed

/-- The connections that a run shut down, in order. -/
def shutIn (tr : List Action) : List Connection := tr.filterMap Action.shut

@[simp] theorem issuedIn_concat : issuedIn (tr ++ [a]) = issuedIn tr ++ a.issued.toList :=
  filterMap_concat ..

@[simp] theorem installedIn_concat :
    installedIn (tr ++ [a]) = installedIn tr ++ a.installed.toList :=
  filterMap_concat ..

@[simp] theorem removedIn_concat : removedIn (tr ++ [a]) = removedIn tr ++ a.removed.toList :=
  filterMap_concat ..

@[simp] theorem shutIn_concat : shutIn (tr ++ [a]) = shutIn tr ++ a.shut.toList :=
  filterMap_concat ..

/-! ## What a step can do -/

/-- A move of one thread changes where this thread is, and no other. -/
theorem stage_move_eq_iff {channel : Channel} {stage x : Stage} :
    (s.move t channel stage).stage u = x ↔ t = u ∧ stage = x ∨ t ≠ u ∧ s.stage u = x := by
  by_cases h : t = u
  · subst h; simp
  · simp [h, stage_move_of_ne _ _ _ (Ne.symm h)]

/-- A thread is connecting after it was given a cookie, until its next step. -/
theorem Step.connecting_iff (h : Step s a s') :
    s'.stage u = .connecting c
      ↔ a.thread = some u ∧ a.issued = some c ∨ a.thread ≠ some u ∧ s.stage u = .connecting c := by
  cases h <;> simp [stage_move_eq_iff, Action.thread, Action.issued]

/-- A thread is closing after it took something out of the slot, until its next step. -/
theorem Step.closing_iff (h : Step s a s') :
    s'.stage u = .closing c
      ↔ a.thread = some u ∧ a.removed = some c ∨ a.thread ≠ some u ∧ s.stage u = .closing c := by
  cases h <;> simp [stage_move_eq_iff, Action.thread, Action.removed]

/-- A thread is sending after it found something in the slot, until its next step. -/
theorem Step.sending_iff (h : Step s a s') {r : EventRecord} :
    s'.stage u = .sending c r
      ↔ a = .look u r (some c) ∨ a.thread ≠ some u ∧ s.stage u = .sending c r := by
  cases h with
  | look r' hstage =>
    simp only [stage_move_eq_iff, Stage.afterLooking_eq_sending, Action.thread, Action.look.injEq,
      ne_eq, Option.some.injEq]
    constructor
    · rintro (⟨ht, hslot, hr⟩ | h)
      · exact Or.inl ⟨ht, hr, hslot⟩
      · exact Or.inr h
    · rintro (⟨ht, hr, hslot⟩ | h)
      · exact Or.inl ⟨ht, hslot, hr⟩
      · exact Or.inr h
  | _ => simp [stage_move_eq_iff, Action.thread]

/-- Only a thread that is connecting puts a connection into the slot. -/
theorem Step.connecting_of_installed (h : Step s a s') (hc : a.installed = some c) :
    ∃ t, a.thread = some t ∧ s.stage t = .connecting c := by
  cases h with
  | install hstage => exact ⟨_, rfl, Option.some.inj hc ▸ hstage⟩
  | _ => exact nomatch hc

/-- A thread that is connecting puts its connection into the slot next. -/
theorem Step.installed_of_connecting (h : Step s a s') (ht : a.thread = some t)
    (hc : s.stage t = .connecting c) : a.installed = some c := by
  cases h <;> simp_all [Action.thread, Action.installed]

/-- Only a thread that is closing shuts a connection down. -/
theorem Step.closing_of_shut (h : Step s a s') (hc : a.shut = some c) :
    ∃ t, a.thread = some t ∧ s.stage t = .closing c := by
  cases h with
  | shutDown hstage => exact ⟨_, rfl, Option.some.inj hc ▸ hstage⟩
  | _ => exact nomatch hc

/-- A thread that is closing shuts its connection down next. -/
theorem Step.shut_of_closing (h : Step s a s') (ht : a.thread = some t)
    (hc : s.stage t = .closing c) : a.shut = some c := by
  cases h <;> simp_all [Action.thread, Action.shut]

/-- **Nothing is lost in the slot.**  What a step leaves there and what it takes out is what was
there and what it puts in. -/
theorem Step.slot_perm (h : Step s a s') :
    (s'.channel.slot.toList ++ a.removed.toList).Perm
      (s.channel.slot.toList ++ a.installed.toList) := by
  cases h with
  | install hstage hfree => exact List.perm_append_comm
  | vacate hstage hfree => simp [Action.removed, Action.installed, Channel.vacate]
  | release k hstage hfree =>
    simpa [Action.removed, Action.installed] using s.channel.perm_vacateIf k
  | letGo hstage hfree => simpa [Action.removed, Action.installed] using s.channel.perm_vacateIf _
  | _ => exact List.Perm.refl _

/-- While somebody holds the read lock the slot stays as it is. -/
theorem Step.slot_of_locked (h : Step s a s') (hlocked : ¬ s.Unlocked) :
    s'.channel.slot = s.channel.slot := by
  cases h with
  | install _ hfree | vacate _ hfree | release _ _ hfree | letGo _ hfree =>
    exact absurd hfree hlocked
  | _ => rfl

/-! ## Cookies -/

/-- The connection of the consumer that came after so many others. -/
def connectionAt (i : ConsumerId) : Connection := ⟨⟨UInt64.ofNat (i + 1)⟩, i⟩

/-- Only a step that lets a consumer come hands out a cookie, the next one. -/
theorem Step.issued_cases (h : Step s a s') :
    a.issued = none ∧ s'.channel.issued = s.channel.issued
        ∧ s'.channel.consumers.length = s.channel.consumers.length
      ∨ a.issued = some ⟨⟨s.channel.issued + 1⟩, s.channel.consumers.length⟩
        ∧ s'.channel.issued = s.channel.issued + 1
        ∧ s'.channel.consumers.length = s.channel.consumers.length + 1 := by
  cases h with
  | allocate e hstage => exact Or.inr ⟨rfl, rfl, List.length_append⟩
  | _ =>
    refine Or.inl ⟨rfl, ?_, ?_⟩ <;>
      simp [Channel.install, Channel.vacate, Channel.shutDown, Channel.setEndpoint]

/-- The connections that a run gave cookies are numbered in the order in which their consumers
came. -/
theorem Steps.issued_eq (h : Run tr s) :
    issuedIn tr = (List.range s.channel.consumers.length).map connectionAt
      ∧ s.channel.issued = UInt64.ofNat s.channel.consumers.length := by
  induction h with
  | refl => exact ⟨rfl, rfl⟩
  | @tail tr a s s' _ hstep ih =>
    obtain ⟨hlist, hcount⟩ := ih
    rcases hstep.issued_cases with ⟨ha, hissued, hlen⟩ | ⟨ha, hissued, hlen⟩
    · rw [issuedIn_concat, ha, hissued, hlen]
      simpa using ⟨hlist, hcount⟩
    · have hcookie : s.channel.issued + 1 = UInt64.ofNat (s.channel.consumers.length + 1) := by
        rw [hcount, UInt64.ofNat_add]; rfl
      rw [issuedIn_concat, ha, hissued, hlen, hcookie]
      refine ⟨?_, rfl⟩
      rw [List.range_succ, List.map_append, ← hlist]
      rfl

/-- Consumers that are numbered differently have different connections. -/
theorem connectionAt_injective : Function.Injective connectionAt :=
  fun _ _ h => congrArg Connection.consumer h

/-- No connection is issued twice. -/
theorem Steps.nodup_issued (h : Run tr s) : (issuedIn tr).Nodup := by
  rw [h.issued_eq.1]
  exact List.nodup_range.map connectionAt_injective

/-- The consumer tells the connection. -/
theorem Steps.eq_of_consumer_eq (h : Run tr s) {c d : Connection} (hc : c ∈ issuedIn tr)
    (hd : d ∈ issuedIn tr) (hcd : c.consumer = d.consumer) : c = d := by
  rw [h.issued_eq.1, List.mem_map] at hc hd
  obtain ⟨i, -, rfl⟩ := hc
  obtain ⟨j, -, rfl⟩ := hd
  exact congrArg connectionAt hcd

/-- As long as the counter does not wrap around, no two connections have one cookie. -/
theorem Steps.nodup_cookies (h : Run tr s) (hbound : (issuedIn tr).length < UInt64.size - 1) :
    ((issuedIn tr).map Connection.cookie).Nodup := by
  have hlen : (issuedIn tr).length = s.channel.consumers.length := by simp [h.issued_eq.1]
  rw [h.issued_eq.1, List.map_map]
  refine List.Nodup.map_on ?_ List.nodup_range
  intro i hi j hj hij
  rw [List.mem_range] at hi hj
  have hnum : UInt64.ofNat (i + 1) = UInt64.ofNat (j + 1) :=
    congrArg Cookie.number hij
  rw [← UInt64.toNat_inj, UInt64.toNat_ofNat_of_lt' (by omega),
    UInt64.toNat_ofNat_of_lt' (by omega)] at hnum
  exact Nat.succ.inj hnum

/-! ## What a thread takes on it does once -/

/-- Something that a thread takes on in one step and does in its next one. -/
structure Duty where
  taken : Action → Option Connection
  done : Action → Option Connection
  stage : Connection → Stage
  stage_iff : ∀ {s a s' u c}, Step s a s' →
    (s'.stage u = stage c ↔ a.thread = some u ∧ taken a = some c
      ∨ a.thread ≠ some u ∧ s.stage u = stage c)
  stage_of_done : ∀ {s a s' c}, Step s a s' → done a = some c →
    ∃ t, a.thread = some t ∧ s.stage t = stage c
  done_of_stage : ∀ {s a s' t c}, Step s a s' → a.thread = some t → s.stage t = stage c →
    done a = some c
  thread_of_taken : ∀ {a c}, taken a = some c → ∃ t, a.thread = some t
  done_of_taken : ∀ {a c}, taken a = some c → done a = none
  stage_ne_idle : ∀ c, stage c ≠ .idle

namespace Duty

/-- Who was given a connection puts it into the slot. -/
def install : Duty where
  taken := Action.issued
  done := Action.installed
  stage := .connecting
  stage_iff := Step.connecting_iff
  stage_of_done := Step.connecting_of_installed
  done_of_stage := Step.installed_of_connecting
  thread_of_taken := by intro a c h; cases a <;> simp_all [Action.issued, Action.thread]
  done_of_taken := by intro a c h; cases a <;> simp_all [Action.issued, Action.installed]
  stage_ne_idle := fun _ => nofun

/-- Who took a connection out of the slot shuts it down. -/
def close : Duty where
  taken := Action.removed
  done := Action.shut
  stage := .closing
  stage_iff := Step.closing_iff
  stage_of_done := Step.closing_of_shut
  done_of_stage := Step.shut_of_closing
  thread_of_taken := by intro a c h; cases a <;> simp_all [Action.removed, Action.thread]
  done_of_taken := by intro a c h; cases a <;> simp_all [Action.removed, Action.shut]
  stage_ne_idle := fun _ => nofun

variable (d : Duty)

/-- A thread that holds a connection either stays where it is or does what is to be done next. -/
theorem done_or_stage_step (hstep : Step s a s') (hc : s.stage t = d.stage c) :
    d.done a = some c ∨ s'.stage t = d.stage c := by
  by_cases ha : a.thread = some t
  · exact Or.inl (d.done_of_stage hstep ha hc)
  · exact Or.inr ((d.stage_iff hstep).mpr (Or.inr ⟨ha, hc⟩))

/-- Every connection of a duty is with one thread until it is done, and it is done once. -/
structure Kept (tr : List Action) (s : SharedChannel) : Prop where
  taken_of_stage : ∀ {t c}, s.stage t = d.stage c → c ∈ tr.filterMap d.taken
  not_done_of_stage : ∀ {t c}, s.stage t = d.stage c → c ∉ tr.filterMap d.done
  thread_unique : ∀ {t u c}, s.stage t = d.stage c → s.stage u = d.stage c → t = u
  nodup_done : (tr.filterMap d.done).Nodup
  taken_of_done : ∀ {c}, c ∈ tr.filterMap d.done → c ∈ tr.filterMap d.taken
  done_or_stage : ∀ {c}, c ∈ tr.filterMap d.taken →
    c ∈ tr.filterMap d.done ∨ ∃ t, s.stage t = d.stage c

namespace Kept

section

variable {d : Duty} (ih : d.Kept tr s) (hstep : Step s a s')
include ih hstep

/-- What this step has done was not done before. -/
theorem notMem_of_done (hc : d.done a = some c) : c ∉ tr.filterMap d.done := by
  obtain ⟨t, -, hstage⟩ := d.stage_of_done hstep hc
  exact ih.not_done_of_stage hstage

/-- What a thread holds after a step that takes on nothing for a second time is not done yet. -/
theorem not_done_step (hfresh : ∀ {c}, d.taken a = some c → c ∉ tr.filterMap d.taken)
    (hc : s'.stage t = d.stage c) : c ∉ (tr ++ [a]).filterMap d.done := by
  rw [mem_filterMap_concat]
  rcases (d.stage_iff hstep).mp hc with ⟨-, htaken⟩ | ⟨ht, hstage⟩
  · rintro (hdone | hdone)
    · exact hfresh htaken (ih.taken_of_done hdone)
    · rw [d.done_of_taken htaken] at hdone
      exact nomatch hdone
  · rintro (hdone | hdone)
    · exact ih.not_done_of_stage hstage hdone
    · -- whoever has just done it was the one that held it
      obtain ⟨u, hu, hheld⟩ := d.stage_of_done hstep hdone
      exact ht (ih.thread_unique hheld hstage ▸ hu)

/-- What a thread holds after a step that takes on nothing for a second time is with no other. -/
theorem thread_unique_step (hfresh : ∀ {c}, d.taken a = some c → c ∉ tr.filterMap d.taken)
    (ht : s'.stage t = d.stage c) (hu : s'.stage u = d.stage c) : t = u := by
  rcases (d.stage_iff hstep).mp ht with ⟨ha, hc⟩ | ⟨-, ht⟩ <;>
    rcases (d.stage_iff hstep).mp hu with ⟨ha', hc'⟩ | ⟨-, hu⟩
  · exact Option.some.inj (ha.symm.trans ha')
  · exact absurd (ih.taken_of_stage hu) (hfresh hc)
  · exact absurd (ih.taken_of_stage ht) (hfresh hc')
  · exact ih.thread_unique ht hu

end

/-- One more step keeps the account of a duty, if it takes on nothing that was taken on before.
-/
theorem step {d : Duty} (ih : d.Kept tr s) (hstep : Step s a s')
    (hnodup : ((tr ++ [a]).filterMap d.taken).Nodup) : d.Kept (tr ++ [a]) s' := by
  have hfresh : ∀ {c}, d.taken a = some c → c ∉ tr.filterMap d.taken := by
    intro c hc hmem
    rw [filterMap_concat, hc, List.nodup_append] at hnodup
    exact hnodup.2.2 c hmem c (by simp) rfl
  constructor
  case taken_of_stage =>
    intro t c h
    rw [mem_filterMap_concat]
    rcases (d.stage_iff hstep).mp h with ⟨-, hc⟩ | ⟨-, h⟩
    · exact Or.inr hc
    · exact Or.inl (ih.taken_of_stage h)
  case not_done_of_stage => exact ih.not_done_step hstep hfresh
  case thread_unique => exact ih.thread_unique_step hstep hfresh
  case nodup_done =>
    rw [filterMap_concat]
    cases hc : d.done a with
    | none => simpa using ih.nodup_done
    | some c =>
      rw [Option.toList_some, ← List.concat_eq_append]
      exact ih.nodup_done.concat (ih.notMem_of_done hstep hc)
  case taken_of_done =>
    intro c h
    rw [mem_filterMap_concat] at h ⊢
    rcases h with h | h
    · exact Or.inl (ih.taken_of_done h)
    · obtain ⟨t, -, hstage⟩ := d.stage_of_done hstep h
      exact Or.inl (ih.taken_of_stage hstage)
  case done_or_stage =>
    intro c h
    rw [mem_filterMap_concat] at h ⊢
    rcases h with h | h
    · rcases ih.done_or_stage h with h | ⟨t, ht⟩
      · exact Or.inl (Or.inl h)
      · exact (d.done_or_stage_step hstep ht).imp Or.inr fun ht => ⟨t, ht⟩
    · obtain ⟨t, ht⟩ := d.thread_of_taken h
      exact Or.inr ⟨t, (d.stage_iff hstep).mpr (Or.inl ⟨ht, h⟩)⟩

end Kept

/-- **A duty is kept** if nothing is taken on twice. -/
theorem kept (h : Run tr s) (hnodup : (tr.filterMap d.taken).Nodup) : d.Kept tr s := by
  induction h with
  | refl =>
    have hidle : ∀ {c : Connection}, Stage.idle ≠ d.stage c := (d.stage_ne_idle _).symm
    exact ⟨fun h => absurd h hidle, by simp, fun h => absurd h hidle, by simp, by simp, by simp⟩
  | @tail tr a s s' _ hstep ih =>
    refine (ih ?_).step hstep hnodup
    rw [filterMap_concat] at hnodup
    exact hnodup.of_append_left

end Duty

/-! ## The slot -/

/-- **What was put into the slot is there or was taken out**, each connection once. -/
theorem Steps.installed_perm (h : Run tr s) :
    (installedIn tr).Perm (s.channel.slot.toList ++ removedIn tr) := by
  induction h with
  | refl => exact List.Perm.refl _
  | @tail tr a s s' _ hstep ih =>
    rw [installedIn_concat, removedIn_concat]
    calc installedIn tr ++ a.installed.toList
        |>.Perm ((s.channel.slot.toList ++ removedIn tr) ++ a.installed.toList) :=
          ih.append_right _
      _ |>.Perm ((s.channel.slot.toList ++ a.installed.toList) ++ removedIn tr) := by
          rw [List.append_assoc, List.append_assoc]
          exact List.perm_append_comm.append_left _
      _ |>.Perm ((s'.channel.slot.toList ++ a.removed.toList) ++ removedIn tr) :=
          hstep.slot_perm.symm.append_right _
      _ |>.Perm (s'.channel.slot.toList ++ (removedIn tr ++ a.removed.toList)) := by
          rw [List.append_assoc]
          exact List.perm_append_comm.append_left _

/-- Whoever was given a connection has put it into the slot, or is about to. -/
theorem Steps.install_kept (h : Run tr s) : Duty.install.Kept tr s :=
  Duty.install.kept h h.nodup_issued

/-- No connection is put into the slot twice. -/
theorem Steps.nodup_installed (h : Run tr s) : (installedIn tr).Nodup := h.install_kept.nodup_done

/-- What was put into the slot had been issued. -/
theorem Steps.issued_of_installed (h : Run tr s) (hc : c ∈ installedIn tr) : c ∈ issuedIn tr :=
  h.install_kept.taken_of_done hc

/-- What is in the slot was not taken out of it, and nothing was taken out twice. -/
theorem Steps.nodup_slot_removed (h : Run tr s) : (s.channel.slot.toList ++ removedIn tr).Nodup :=
  h.installed_perm.nodup_iff.mp h.nodup_installed

/-- No connection is taken out of the slot twice. -/
theorem Steps.nodup_removed (h : Run tr s) : (removedIn tr).Nodup :=
  h.nodup_slot_removed.of_append_right

/-- Whoever took a connection out of the slot has shut it down, or is about to. -/
theorem Steps.close_kept (h : Run tr s) : Duty.close.Kept tr s :=
  Duty.close.kept h h.nodup_removed

/-- What is in the slot was not taken out. -/
theorem Steps.notMem_removed_of_slot (h : Run tr s) (hslot : s.channel.slot = some c) :
    c ∉ removedIn tr := by
  have hnodup := h.nodup_slot_removed
  rw [hslot, Option.toList_some, List.singleton_append, List.nodup_cons] at hnodup
  exact hnodup.1

/-- What is in the slot was put there. -/
theorem Steps.mem_installed_of_slot (h : Run tr s) (hslot : s.channel.slot = some c) :
    c ∈ installedIn tr := by
  rw [h.installed_perm.mem_iff, hslot]
  exact List.mem_append_left _ (by simp)

/-- What was taken out of the slot had been put there. -/
theorem Steps.installed_of_removed (h : Run tr s) (hc : c ∈ removedIn tr) : c ∈ installedIn tr := by
  rw [h.installed_perm.mem_iff]
  exact List.mem_append_right _ hc

/-- What was put into the slot and is not there was taken out. -/
theorem Steps.mem_removed_iff (h : Run tr s) (hc : c ∈ installedIn tr) :
    c ∈ removedIn tr ↔ s.channel.slot ≠ some c := by
  constructor
  · intro hmem hslot
    exact h.notMem_removed_of_slot hslot hmem
  · intro hslot
    have hmem := h.installed_perm.mem_iff.mp hc
    simpa [hslot] using hmem

/-- **A sender that holds the read lock keeps its connection in the slot.** -/
theorem Steps.slot_of_sending (h : Run tr s) {r : EventRecord} (hs : s.stage t = .sending c r) :
    s.channel.slot = some c := by
  -- over all threads at once, because the last step may be another one's
  induction h generalizing t c r with
  | refl => exact nomatch hs
  | @tail tr a s s' _ hstep ih =>
    rcases hstep.sending_iff.mp hs with rfl | ⟨-, hs⟩
    · generalize some c = found at hstep ⊢
      cases hstep
      rfl
    · rw [hstep.slot_of_locked fun hfree => hfree _ _ _ hs]
      exact ih hs

/-- A record is handed only to the connection in the slot. -/
theorem Steps.slot_of_handOff (h : Run tr s) {x : HandOff} (hstep : Step s (.handOff t x) s') :
    s.channel.slot = some x.connection := by
  cases hstep with
  | handOff hstage => exact h.slot_of_sending hstage
  | expire hstage => exact h.slot_of_sending hstage

/-- Releasing takes out the connection with the cookie if that is in the slot, and otherwise
nothing. -/
theorem Step.released (h : Step s a s') {k : Cookie} {previous : Option Connection}
    (ha : a.released = some (k, previous)) :
    s.channel.connected = some k ∧ previous = s.channel.slot
      ∨ s.channel.connected ≠ some k ∧ previous = none ∧ s'.channel.slot = s.channel.slot := by
  have hvacate : ∀ k', a.released = some (k', (s.channel.vacateIf k').1) →
      s'.channel = (s.channel.vacateIf k').2 →
      s.channel.connected = some k ∧ previous = s.channel.slot
        ∨ s.channel.connected ≠ some k ∧ previous = none ∧ s'.channel.slot = s.channel.slot := by
    intro k' hreleased hchannel
    obtain ⟨rfl, rfl⟩ := Prod.mk.inj (Option.some.inj (ha.symm.trans hreleased))
    by_cases hk : s.channel.connected = some k
    · rw [Channel.vacateIf_of_connected hk]
      exact Or.inl ⟨hk, rfl⟩
    · rw [hchannel, Channel.vacateIf_of_not_connected hk]
      exact Or.inr ⟨hk, rfl, rfl⟩
  cases h with
  | release | letGo => exact hvacate _ rfl rfl
  | _ => exact nomatch ha

/-! ## What endpoints notice -/

/-- So often a run shut down the connections of a consumer. -/
def shutsOf (i : ConsumerId) (tr : List Action) : Nat := (shutIn tr).countP (·.consumer = i)

/-- An endpoint is shut down by the step that shuts its connection down, and by no other. -/
theorem Step.shutTimes (h : Step s a s') {i : ConsumerId} (hi : i < s.channel.consumers.length) :
    Endpoint.ShutTimes (a.shut.toList.countP (·.consumer = i)) (s.channel.endpoint i)
      (s'.channel.endpoint i) := by
  cases h with
  | allocate e => exact Channel.endpoint_addConsumer_of_lt hi e ▸ .refl _
  | @handOff t c r outcome e _ hdeliver =>
    obtain rfl : ((s.channel.endpoint c.consumer).deliver r).2 = e := congrArg Prod.snd hdeliver
    rcases s.channel.endpoint_setEndpoint_cases (f := fun e => (e.deliver r).2) rfl c.consumer i
      with ⟨-, hset⟩ | ⟨-, hset⟩
    · exact hset ▸ Endpoint.shutTimes_deliver _ r
    · exact hset ▸ .refl _
  | @shutDown t c =>
    rcases s.channel.endpoint_setEndpoint_cases (f := Endpoint.shutDown) rfl c.consumer i
      with ⟨hc, hset⟩ | ⟨hc, hset⟩
    · have hone : (Action.shutDown t c).shut.toList.countP (·.consumer = i) = 1 := by
        simp [Action.shut, hc]
      rw [hone]
      exact hset ▸ Endpoint.shutTimes_shutDown _
    · have hnone : (Action.shutDown t c).shut.toList.countP (·.consumer = i) = 0 := by
        simp [Action.shut, hc]
      rw [hnone]
      exact hset ▸ .refl _
  | consumer j act =>
    rcases s.channel.endpoint_setEndpoint_cases (f := fun e => e.react act)
      (by cases act <;> rfl) j i with ⟨-, hset⟩ | ⟨-, hset⟩
    · exact hset ▸ Endpoint.shutTimes_react _ act
    · exact hset ▸ .refl _
  | release | letGo => simpa [Action.shut, Channel.endpoint] using Endpoint.ShutTimes.refl _
  | _ => exact .refl _

/-- A connection is issued to a consumer that has come. -/
theorem Steps.consumer_lt_of_issued (h : Run tr s) (hc : c ∈ issuedIn tr) :
    c.consumer < s.channel.consumers.length := by
  rw [h.issued_eq.1, List.mem_map] at hc
  obtain ⟨i, hi, rfl⟩ := hc
  exact List.mem_range.mp hi

/-- What was shut down had been issued. -/
theorem Steps.issued_of_shut (h : Run tr s) (hc : c ∈ shutIn tr) : c ∈ issuedIn tr :=
  h.issued_of_installed (h.installed_of_removed (h.close_kept.taken_of_done hc))

/-- **An endpoint was shut down as often as its connection.** -/
theorem Steps.shutTimes (h : Run tr s) {e : Endpoint} (hcame : .allocate t e c ∈ tr) :
    Endpoint.ShutTimes (shutsOf c.consumer tr) e (s.channel.endpoint c.consumer) := by
  induction h with
  | refl => cases hcame
  | @tail tr a s s' hrun hstep ih =>
    rcases List.mem_append.mp hcame with hcame | hlast
    · have hissued : c ∈ issuedIn tr := List.mem_filterMap.mpr ⟨_, hcame, rfl⟩
      rw [shutsOf, shutIn_concat, List.countP_append]
      exact (ih hcame).trans (hstep.shutTimes (hrun.consumer_lt_of_issued hissued))
    · -- nobody else had this consumer's place before it came
      obtain rfl := List.mem_singleton.mp hlast
      have hnone : shutsOf c.consumer (tr ++ [.allocate t e c]) = 0 := by
        rw [shutsOf, List.countP_eq_zero]
        intro d hd hconsumer
        rw [shutIn_concat, List.mem_append] at hd
        have hlt := hrun.consumer_lt_of_issued (hrun.issued_of_shut (hd.resolve_right nofun))
        cases hstep
        exact absurd (of_decide_eq_true hconsumer) (Nat.ne_of_lt hlt)
      rw [hnone]
      cases hstep
      have hself : (s.channel.prepare e).2.endpoint s.channel.consumers.length = e :=
        Channel.endpoint_addConsumer_self s.channel e
      exact (congrArg (Endpoint.ShutTimes 0 e) hself).mpr (.refl e)

/-- A connection has its consumer alone. -/
theorem Steps.shutsOf_eq_count (h : Run tr s) (hc : c ∈ issuedIn tr) :
    shutsOf c.consumer tr = (shutIn tr).count c := by
  refine List.countP_congr fun d hd => ?_
  rw [decide_eq_true_eq, beq_iff_eq]
  exact ⟨h.eq_of_consumer_eq (h.issued_of_shut hd) hc, congrArg Connection.consumer⟩

/-! ## The life cycle -/

/-- Without anybody in between, a thread makes every call of the channel in these steps, and is
answered what they show: the cookie that was handed out, whether something was taken out of the
slot, and how the hand-off went. -/
structure CallsAreSteps (s : SharedChannel) (t : ThreadId) : Prop where
  connect : ∀ e, s.Finishes t (s.channel.connect e).2 fun tr =>
    (issuedIn tr).map Connection.cookie = [(s.channel.connect e).1]
  disconnect : s.Finishes t s.channel.disconnect.2 fun tr =>
    s.channel.disconnect.1 = !(removedIn tr).isEmpty
  release : ∀ cookie, s.Finishes t (s.channel.release cookie).2 fun tr =>
    (s.channel.release cookie).1 = !(removedIn tr).isEmpty
  send : ∀ r, s.Finishes t (s.channel.send r).2 fun tr =>
    (s.channel.send r).1 = outcomeOf (tr.filterMap Action.handedOff)

/-- What holds of all connections after a run. -/
structure LiveOnce (tr : List Action) (s : SharedChannel) : Prop where
  /-- No cookie is handed out twice. -/
  nodup_cookies : ((issuedIn tr).map Connection.cookie).Nodup
  /-- Every connection that was put into the slot was given its cookie, and is put there once. -/
  count_installed : ∀ c, (installedIn tr).count c ≤ (issuedIn tr).count c
  /-- A connection that was put into the slot is still there, or one step took it out and no other:
  another connection superseded it, or it was disconnected, or it was released. -/
  count_removed : ∀ c ∈ installedIn tr,
    (removedIn tr).count c = if s.channel.slot = some c then 0 else 1
  /-- Only what is in the slot or was taken out of it was ever put there. -/
  mem_installed : ∀ c, s.channel.slot = some c ∨ c ∈ removedIn tr → c ∈ installedIn tr
  /-- A connection is shut down at most once, and only after it was taken out of the slot. -/
  nodup_shut : (shutIn tr).Nodup
  mem_removed_of_shut : ∀ pre t c post, tr = pre ++ .shutDown t c :: post → c ∈ removedIn pre
  /-- When no call is in progress, exactly the connections that are no longer in the slot have been
  shut down, each of them once. -/
  count_shut_of_quiet : s.Quiet → ∀ c ∈ issuedIn tr,
    (shutIn tr).count c = if s.channel.slot = some c then 0 else 1
  /-- As long as a record is being handed to a connection, that connection is in the slot. -/
  slot_of_sending : ∀ t c r, s.stage t = .sending c r → s.channel.slot = some c
  /-- No record is handed to a connection that has left the slot, or that has been shut down. -/
  present_of_handOff : ∀ pre t x post, tr = pre ++ .handOff t x :: post →
    x.connection ∈ installedIn pre ∧ x.connection ∉ removedIn pre ∧ x.connection ∉ shutIn pre
  /-- Releasing a cookie, by anybody and for whatever reason, takes out no connection but the
  one that was given this cookie, and leaves any other in the slot. -/
  released : ∀ pre a post k previous, tr = pre ++ a :: post → a.released = some (k, previous) →
    (∀ c, previous = some c → c.cookie = k ∧ ∀ d ∈ issuedIn tr, d.cookie = k → d = c)
      ∧ ∀ s₁ s₂, Run pre s₁ → Step s₁ a s₂ → ∀ d, s₁.channel.slot = some d →
        (d.cookie = k → previous = some d)
          ∧ (d.cookie ≠ k → previous = none ∧ s₂.channel.slot = some d)
  /-- The endpoint of a connection was shut down as often as the run shut the connection down. -/
  shutTimes : ∀ t e c, .allocate t e c ∈ tr →
    Endpoint.ShutTimes ((shutIn tr).count c) e (s.channel.endpoint c.consumer)
  /-- These steps are those of the channel's own calls. -/
  callsAreSteps : ∀ t, s.stage t = .idle → s.Unlocked → CallsAreSteps s t

/-- A connection is put into the slot no more often than it is issued. -/
theorem Steps.count_installed_le (h : Run tr s) (c : Connection) :
    (installedIn tr).count c ≤ (issuedIn tr).count c := by
  by_cases hc : c ∈ installedIn tr
  · have hinstalled := List.count_eq_one_of_mem h.nodup_installed hc
    have hissued := List.count_eq_one_of_mem h.nodup_issued (h.issued_of_installed hc)
    exact Nat.le_of_eq (hinstalled.trans hissued.symm)
  · rw [List.count_eq_zero_of_not_mem hc]
    exact Nat.zero_le _

/-- One step takes a connection out of the slot, unless it is still there. -/
theorem Steps.count_removed (h : Run tr s) {c : Connection} (hc : c ∈ installedIn tr) :
    (removedIn tr).count c = if s.channel.slot = some c then 0 else 1 := by
  split
  · next hslot => exact List.count_eq_zero_of_not_mem (h.notMem_removed_of_slot hslot)
  · next hslot => exact List.count_eq_one_of_mem h.nodup_removed ((h.mem_removed_iff hc).mpr hslot)

/-- Where no call is in progress, exactly the connections that have left the slot were shut down. -/
theorem Steps.count_shut_of_quiet (h : Run tr s) (hquiet : s.Quiet) {c : Connection}
    (hc : c ∈ issuedIn tr) :
    (shutIn tr).count c = if s.channel.slot = some c then 0 else 1 := by
  -- where every thread is idle nothing is left to be done
  have hnostage : ∀ (d : Duty), ¬ ∃ t, s.stage t = d.stage c := by
    rintro d ⟨t, ht⟩
    exact d.stage_ne_idle c (ht.symm.trans (hquiet t))
  have hinstalled : c ∈ installedIn tr :=
    (h.install_kept.done_or_stage hc).resolve_right (hnostage .install)
  split
  · next hslot =>
    apply List.count_eq_zero_of_not_mem
    intro hmem
    exact h.notMem_removed_of_slot hslot (h.close_kept.taken_of_done hmem)
  · next hslot =>
    refine List.count_eq_one_of_mem h.close_kept.nodup_done ?_
    exact (h.close_kept.done_or_stage ((h.mem_removed_iff hinstalled).mpr hslot)).resolve_right
      (hnostage .close)

/-- A connection is known by its cookie. -/
theorem Steps.eq_of_cookie_eq (h : Run tr s) (hbound : (issuedIn tr).length < UInt64.size - 1)
    {c d : Connection} (hc : c ∈ issuedIn tr) (hd : d ∈ issuedIn tr)
    (hcookie : d.cookie = c.cookie) : d = c :=
  List.inj_on_of_nodup_map (h.nodup_cookies hbound) hd hc hcookie

/-- What releasing a cookie takes out of the slot was in the slot, and has the cookie. -/
theorem Step.slot_of_released (h : Step s a s') {k : Cookie} {c : Connection}
    (ha : a.released = some (k, some c)) : s.channel.slot = some c ∧ c.cookie = k := by
  rcases h.released ha with ⟨hk, hslot⟩ | ⟨-, hnone, -⟩
  · exact ⟨hslot.symm, by simpa [Channel.connected, ← hslot] using hk⟩
  · cases hnone

/-- Releasing a cookie takes out the connection in the slot if that has the cookie, and leaves
it there if it has another one. -/
theorem Step.released_of_slot (h : Step s a s') {k : Cookie} {previous : Option Connection}
    (ha : a.released = some (k, previous)) {d : Connection} (hslot : s.channel.slot = some d) :
    (d.cookie = k → previous = some d)
      ∧ (d.cookie ≠ k → previous = none ∧ s'.channel.slot = some d) := by
  rcases h.released ha with ⟨hk, hprevious⟩ | ⟨hk, hprevious, hsame⟩
  · have hcookie : d.cookie = k := by simpa [Channel.connected, hslot] using hk
    exact ⟨fun _ => hprevious.trans hslot, fun hne => absurd hcookie hne⟩
  · have hcookie : d.cookie ≠ k := by simpa [Channel.connected, hslot] using hk
    exact ⟨fun heq => absurd heq hcookie, fun _ => ⟨hprevious, hsame.trans hslot⟩⟩

/-- **Every connection lives once.**  Whatever the threads do and in whatever order, as long as the
cookies do not run out. -/
theorem life_cycle (h : Run tr s) (hbound : (issuedIn tr).length < UInt64.size - 1) :
    LiveOnce tr s where
  nodup_cookies := h.nodup_cookies hbound
  count_installed := h.count_installed_le
  count_removed := fun c hc => h.count_removed hc
  mem_installed := fun c hc => by
    rw [h.installed_perm.mem_iff]
    simpa using hc
  nodup_shut := h.close_kept.nodup_done
  mem_removed_of_shut := fun pre t c post htr => by
    obtain ⟨s₁, s₂, hpre, hstep, -⟩ := Steps.split (htr ▸ h)
    obtain ⟨u, -, hclosing⟩ := hstep.closing_of_shut rfl
    exact hpre.close_kept.taken_of_stage hclosing
  count_shut_of_quiet := fun hquiet c hc => h.count_shut_of_quiet hquiet hc
  slot_of_sending := fun t c r hs => h.slot_of_sending hs
  present_of_handOff := fun pre t x post htr => by
    obtain ⟨s₁, s₂, hpre, hstep, -⟩ := Steps.split (htr ▸ h)
    have hslot := hpre.slot_of_handOff hstep
    have hremoved := hpre.notMem_removed_of_slot hslot
    exact ⟨hpre.mem_installed_of_slot hslot, hremoved,
      fun hshut => hremoved (hpre.close_kept.taken_of_done hshut)⟩
  released := fun pre a post k previous htr ha => by
    obtain ⟨s₁, s₂, hpre, hstep, -⟩ := Steps.split (htr ▸ h)
    refine ⟨?_, fun r₁ r₂ _ hstep' d hslot => hstep'.released_of_slot ha hslot⟩
    rintro c rfl
    obtain ⟨hslot, hcookie⟩ := hstep.slot_of_released ha
    have hissued : c ∈ issuedIn tr := by
      rw [htr, issuedIn, List.filterMap_append]
      exact List.mem_append_left _ (hpre.issued_of_installed (hpre.mem_installed_of_slot hslot))
    -- one cookie, one connection: this is where the counter must not wrap around
    exact ⟨hcookie, fun d hd hdk => h.eq_of_cookie_eq hbound hissued hd (hdk.trans hcookie.symm)⟩
  shutTimes := fun t e c hcame => by
    rw [← h.shutsOf_eq_count (List.mem_filterMap.mpr ⟨_, hcame, rfl⟩)]
    exact h.shutTimes hcame
  callsAreSteps := fun t hidle hfree =>
    ⟨finishes_connect hidle hfree, finishes_disconnect hidle hfree, finishes_release hidle hfree,
      finishes_send hidle hfree⟩

/-- Two consumers come at once; the one that came first is put into the slot last, and
supersedes the other. -/
theorem life_cycle_crossing : ∃ tr s, Run tr s ∧ (issuedIn tr).length < UInt64.size - 1 ∧ s.Quiet
    ∧ s.channel.slot = some (connectionAt 0) ∧ shutIn tr = [connectionAt 1] ∧ LiveOnce tr s := by
  have hrun := (Steps.refl : Run [] {})
    |>.tail (Step.allocate (t := 0) (.ofCapacity 1) rfl)
    |>.tail (Step.allocate (t := 1) (.ofCapacity 1) rfl)
    |>.tail (Step.install (t := 1) rfl ?_)
    |>.tail (Step.install (t := 0) rfl ?_)
    |>.tail (Step.shutDown (t := 0) rfl)
  · refine ⟨_, _, hrun, by decide, ?_, rfl, rfl, life_cycle hrun (by decide)⟩
    rintro (_ | _ | t) <;> rfl
  all_goals
    rintro (_ | _ | t) connection r <;> exact nofun

end SharedChannel

end FileActivity
