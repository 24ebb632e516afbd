/-
# Who is the consumer

Of all those whom a server has let in, the one who came last is the consumer, until its hang-up
is noticed, its socket fails, or it is dropped.  Nobody becomes the consumer again who was
superseded, and the hang-up of somebody who was superseded does not touch the successor.

Main statement: `succession`.
-/
import FileActivity.Proofs.Server.Service

namespace FileActivity

namespace Channel

variable {connection : Connection}

/-- Releasing takes out a connection with this cookie and no other. -/
theorem slot_release_iff (c : Channel) (cookie : Cookie) :
    (c.release cookie).2.slot = some connection
      ↔ c.slot = some connection ∧ connection.cookie ≠ cookie := by
  rw [release_snd]
  split
  · next hconnected =>
    rw [slot_shutDown?]
    refine iff_of_false (Option.some_ne_none _).symm ?_
    rintro ⟨hslot, hne⟩
    rw [connected, hslot] at hconnected
    exact hne (Option.some.inj hconnected)
  · next hconnected =>
    have hkeeps : c.slot = some connection → connection.cookie ≠ cookie := by
      rintro hslot rfl
      exact hconnected (by rw [connected, hslot, Option.map_some])
    exact (and_iff_left_of_imp hkeeps).symm

/-- Releasing a cookie lets nobody come and nobody vanish. -/
theorem length_consumers_release (c : Channel) (cookie : Cookie) :
    (c.release cookie).2.consumers.length = c.consumers.length := by
  rw [release_snd]
  split
  · rw [length_consumers_shutDown?]
  · rfl

/-- Sending a record lets nobody come and nobody vanish. -/
theorem Peopled.length_consumers_send {c : Channel} (h : c.Peopled) (r : EventRecord) :
    (c.send r).2.consumers.length = c.consumers.length := by
  cases hslot : c.slot with
  | none => rw [send_snd_of_slot_eq_none hslot]
  | some connection => exact (handedOver_send hslot (h.slot _ hslot).1 r).length_consumers

/-- Sending leaves the connection in the slot unless that fails beyond repair. -/
theorem slot_send_iff (c : Channel) (r : EventRecord) :
    (c.send r).2.slot = some connection
      ↔ c.slot = some connection ∧ isFatal (c.send r).1 = false := by
  cases hslot : c.slot with
  | none => simp [send_snd_of_slot_eq_none hslot, hslot]
  | some d =>
    cases hdeliver : (c.endpoint d.consumer).deliver r with
    | mk outcome e =>
    rw [send_of_slot hslot hdeliver]
    cases outcome with
    | ok => simp [releaseIfFatal, isFatal, hslot]
    | error failure =>
      cases hfatal : failure.isFatal with
      | false => simp [releaseIfFatal, isFatal, hfatal, hslot]
      | true =>
        rw [releaseIfFatal, if_pos hfatal, slot_release_iff, slot_setEndpoint, hslot]
        refine iff_of_false ?_ (by simp [isFatal, hfatal])
        rintro ⟨heq, hne⟩
        exact hne (congrArg Connection.cookie (Option.some.inj heq)).symm

end Channel

namespace Service

open SharedChannel (connectionAt connectionAt_injective)

variable {server : Server} {s s' : Service} {ev : Event} {tr : List Event} {c d : Connection}
  {uid : UserId}

/-! ## What a step does to the slot -/

namespace Event

/-- The connection on which somebody was let in. -/
def admission : Event → Option Connection
  | admitted _ connection => some connection
  | _ => none

/-- Whether a step ends the time of a connection in the slot, if it is there: somebody else is
let in, or its own hang-up is noticed, or its socket fails beyond repair, or it is dropped. -/
def Ousts (c : Connection) : Event → Prop
  | admitted .. | disconnected | cancelled => True
  | hungUp connection => connection = c
  | sent found _ outcome => found = some c ∧ isFatal outcome
  | refused .. | consumer .. => False

end Event

/-- **What is in the slot after a step**: who was let in by it, or who was there before and
stayed.  A hang-up is told by its cookie. -/
theorem Step.slot_iff (h : Step server s ev s') : s'.channel.slot = some c
    ↔ (∃ uid, ev = .admitted uid c)
      ∨ s.channel.slot = some c ∧ ¬ ev.Ousts c ∧ ∀ d, ev = .hungUp d → d.cookie ≠ c.cookie := by
  cases h with
  | letIn hrunning hcredentials hhandle =>
    obtain ⟨-, -, hconnect⟩ := Server.handle_eq_ok_iff.mp hhandle
    obtain ⟨rfl, rfl⟩ := Prod.mk.inj hconnect
    simp [Event.Ousts, eq_comm]
  | refuse hrunning hhandle =>
    rw [Server.channel_of_handle_error hhandle]
    simp [Event.Ousts]
  | @hangUp d hwatched =>
    rw [Server.hangUp, Channel.slot_release_iff]
    constructor
    · rintro ⟨hslot, hne⟩
      refine Or.inr ⟨hslot, fun heq => hne (congrArg Connection.cookie heq).symm, ?_⟩
      rintro d' ⟨⟩
      exact hne.symm
    · rintro (⟨uid, ⟨⟩⟩ | ⟨hslot, -, hne⟩)
      exact ⟨hslot, (hne d rfl).symm⟩
  | send r =>
    rw [Channel.slot_send_iff]
    constructor
    · rintro ⟨hslot, hfatal⟩
      refine Or.inr ⟨hslot, ?_, fun _ heq => by cases heq⟩
      rintro ⟨-, hfails⟩
      rw [hfatal] at hfails
      cases hfails
    · rintro (⟨uid, ⟨⟩⟩ | ⟨hslot, hstays, -⟩)
      exact ⟨hslot, Bool.eq_false_iff.mpr fun hfatal => hstays ⟨hslot, hfatal⟩⟩
  | expire r hslot => simp [Event.Ousts, isFatal, Error.isFatal]
  | disconnect => simp [Event.Ousts]
  | cancel f hrunning => simp [Event.Ousts, Server.stop]
  | consumer i act => simp [Event.Ousts]

/-! ## What a run has done -/

/-- A step keeps the channel peopled as it should be. -/
theorem Step.peopled (h : Step server s ev s') (hpeopled : s.channel.Peopled) :
    s'.channel.Peopled := by
  cases h with
  | letIn hrunning hcredentials hhandle =>
    obtain ⟨-, -, hconnect⟩ := Server.handle_eq_ok_iff.mp hhandle
    obtain ⟨rfl, rfl⟩ := Prod.mk.inj hconnect
    exact hpeopled.connect
  | refuse hrunning hhandle => rwa [Server.channel_of_handle_error hhandle]
  | hangUp hwatched => exact hpeopled.release _
  | send r => exact hpeopled.send r
  | expire r hslot => exact hpeopled
  | disconnect => exact hpeopled.drop
  | cancel f hrunning => exact hpeopled.drop
  | consumer i act => exact hpeopled.react i act

/-- In a run the channel stays peopled as it should be. -/
theorem peopled (h : Run server tr s) : s.channel.Peopled := by
  induction h with
  | refl => exact Channel.Peopled.fresh
  | tail _ hstep ih => exact hstep.peopled ih

/-- The connections on which a run let somebody in, in order. -/
def admittedIn (tr : List Event) : List Connection := tr.filterMap Event.admission

/-- An admitted connection is one that some user was admitted with. -/
theorem mem_admittedIn : c ∈ admittedIn tr ↔ ∃ uid, .admitted uid c ∈ tr := by
  rw [admittedIn, List.mem_filterMap]
  constructor
  · rintro ⟨ev, hev, hc⟩
    cases ev with
    | admitted uid d =>
      cases hc
      exact ⟨uid, hev⟩
    | _ => cases hc
  · rintro ⟨uid, hev⟩
    exact ⟨_, hev, rfl⟩

/-- A step lets nobody in, or the next one. -/
theorem Step.admission_cases (h : Step server s ev s') (hpeopled : s.channel.Peopled) :
    ev.admission = none ∧ s'.channel.consumers.length = s.channel.consumers.length
      ∨ ev.admission = some (connectionAt s.channel.consumers.length)
        ∧ s'.channel.consumers.length = s.channel.consumers.length + 1 := by
  cases h with
  | letIn hrunning hcredentials hhandle =>
    obtain ⟨-, -, hconnect⟩ := Server.handle_eq_ok_iff.mp hhandle
    obtain ⟨rfl, rfl⟩ := Prod.mk.inj hconnect
    have hcookie : s.channel.issued + 1 = UInt64.ofNat (s.channel.consumers.length + 1) := by
      rw [hpeopled.issued, UInt64.ofNat_add]
      rfl
    have hconnection : (⟨⟨s.channel.issued + 1⟩, s.channel.consumers.length⟩ : Connection)
        = connectionAt s.channel.consumers.length := by
      rw [hcookie]
      rfl
    exact Or.inr ⟨congrArg some hconnection, Channel.length_consumers_connect ..⟩
  | refuse hrunning hhandle =>
    rw [Server.channel_of_handle_error hhandle]
    exact Or.inl ⟨rfl, rfl⟩
  | hangUp hwatched => exact Or.inl ⟨rfl, Channel.length_consumers_release ..⟩
  | send r => exact Or.inl ⟨rfl, hpeopled.length_consumers_send r⟩
  | expire r hslot => exact Or.inl ⟨rfl, rfl⟩
  | disconnect => exact Or.inl ⟨rfl, Channel.length_consumers_shutDown? ..⟩
  | cancel f hrunning => exact Or.inl ⟨rfl, Channel.length_consumers_shutDown? ..⟩
  | consumer i act => exact Or.inl ⟨rfl, Channel.length_consumers_setEndpoint ..⟩

/-- Those who were let in are numbered as they came. -/
theorem admittedIn_eq (h : Run server tr s) :
    admittedIn tr = (List.range s.channel.consumers.length).map connectionAt := by
  induction h with
  | refl => rfl
  | @tail tr ev s s' hrun hstep ih =>
    rw [admittedIn, filterMap_concat]
    rcases hstep.admission_cases (peopled hrun) with ⟨hev, hlength⟩ | ⟨hev, hlength⟩
    · rw [hev, hlength, Option.toList_none, List.append_nil]
      exact ih
    · rw [hev, hlength, List.range_succ, List.map_append, ← ih]
      rfl

/-- No connection is admitted twice. -/
theorem nodup_admittedIn (h : Run server tr s) : (admittedIn tr).Nodup := by
  rw [admittedIn_eq h]
  exact List.nodup_range.map connectionAt_injective

/-- Two numbers below the size of a word have different successors in it. -/
theorem eq_of_succ_mod_eq {m n : Nat} (hm : m < UInt64.size) (hn : n < UInt64.size)
    (h : (m + 1) % UInt64.size = (n + 1) % UInt64.size) : m = n := by
  rw [show UInt64.size = 18446744073709551616 from rfl] at hm hn h
  omega

/-- As long as there are enough cookies, a cookie tells a connection. -/
theorem eq_of_cookie_eq (h : Run server tr s) (hbound : (admittedIn tr).length ≤ UInt64.size)
    (hc : c ∈ admittedIn tr) (hd : d ∈ admittedIn tr) (heq : d.cookie = c.cookie) : d = c := by
  rw [admittedIn_eq h, List.length_map, List.length_range] at hbound
  rw [admittedIn_eq h, List.mem_map] at hc hd
  obtain ⟨i, hi, rfl⟩ := hc
  obtain ⟨j, hj, rfl⟩ := hd
  rw [List.mem_range] at hi hj
  have hnumber : UInt64.ofNat (j + 1) = UInt64.ofNat (i + 1) := congrArg Cookie.number heq
  rw [← UInt64.toNat_inj, UInt64.toNat_ofNat', UInt64.toNat_ofNat'] at hnumber
  rw [eq_of_succ_mod_eq (Nat.lt_of_lt_of_le hj hbound) (Nat.lt_of_lt_of_le hi hbound) hnumber]

/-- Only who was let in is watched, and noticed to hang up. -/
theorem mem_of_watched (h : Run server tr s) :
    (∀ c ∈ s.watched, c ∈ admittedIn tr) ∧ ∀ c, .hungUp c ∈ tr → c ∈ admittedIn tr := by
  induction h with
  | refl => exact ⟨nofun, nofun⟩
  | @tail tr ev s s' _ hstep ih =>
    obtain ⟨hwatched, hhungUp⟩ := ih
    have hmem : ∀ c, c ∈ admittedIn (tr ++ [ev]) ↔ c ∈ admittedIn tr ∨ ev.admission = some c :=
      fun _ => mem_filterMap_concat
    refine ⟨fun c hc => (hmem c).mpr ?_, fun c hc => (hmem c).mpr ?_⟩
    · cases hstep with
      | letIn hrunning hcredentials hhandle =>
        rcases List.mem_append.mp hc with hc | hc
        · exact Or.inl (hwatched c hc)
        · exact Or.inr (congrArg some (List.mem_singleton.mp hc).symm)
      | hangUp => exact Or.inl (hwatched c (List.mem_of_mem_erase hc))
      | _ => exact Or.inl (hwatched c hc)
    · rcases List.mem_append.mp hc with hc | hc
      · exact Or.inl (hhungUp c hc)
      · rw [List.mem_singleton] at hc
        subst hc
        cases hstep with
        | hangUp hc => exact Or.inl (hwatched c hc)

/-- **Who is in the slot**: whoever was let in last, if nothing has happened since that ends its
time. -/
theorem slot_iff (h : Run server tr s) (c : Connection) : s.channel.slot = some c
    ↔ ∃ pre uid post, tr = pre ++ .admitted uid c :: post
      ∧ ∀ ev ∈ post, ¬ ev.Ousts c ∧ ∀ d, ev = .hungUp d → d.cookie ≠ c.cookie := by
  induction h with
  | refl =>
    refine iff_of_false (fun hslot => by cases hslot) ?_
    rintro ⟨pre, uid, post, htr, -⟩
    exact List.append_ne_nil_of_right_ne_nil pre (List.cons_ne_nil _ _) htr.symm
  | @tail tr ev s s' _ hstep ih =>
    rw [hstep.slot_iff, ih]
    constructor
    · rintro (⟨uid, rfl⟩ | ⟨⟨pre, uid, post, rfl, hpost⟩, hev⟩)
      · exact ⟨tr, uid, [], rfl, fun _ hev => absurd hev List.not_mem_nil⟩
      · refine ⟨pre, uid, post ++ [ev], by simp, fun ev' hev' => ?_⟩
        rcases List.mem_append.mp hev' with hev' | hev'
        · exact hpost ev' hev'
        · exact List.mem_singleton.mp hev' ▸ hev
    · rintro ⟨pre, uid, post, htr, hpost⟩
      rcases concat_eq_append_cons htr with ⟨-, -, rfl⟩ | ⟨post', rfl, rfl⟩
      · exact Or.inl ⟨uid, rfl⟩
      · have hbefore : ∀ ev' ∈ post', _ := fun ev' hev' => hpost ev' (List.mem_append_left _ hev')
        exact Or.inr ⟨⟨pre, uid, post', rfl, hbefore⟩, hpost ev (by simp)⟩

/-- Whoever was admitted may connect. -/
theorem authorized (h : Run server tr s) (hev : .admitted uid c ∈ tr) :
    server.policy.authorize uid = .ok () := by
  induction h with
  | refl => cases hev
  | @tail tr ev s s' _ hstep ih =>
    rcases List.mem_append.mp hev with hev | hev
    · exact ih hev
    · rw [List.mem_singleton] at hev
      subst hev
      cases hstep with
      | letIn hrunning hcredentials hhandle =>
        obtain ⟨⟨uid', hcredentials', hauthorized⟩, -⟩ := Server.handle_eq_ok_iff.mp hhandle
        cases hcredentials.symm.trans hcredentials'
        exact hauthorized

/-- A service that was cancelled has stopped. -/
theorem stopped_of_cancelled (h : Run server tr s) (hev : .cancelled ∈ tr) : s.stopped = true := by
  induction h with
  | refl => cases hev
  | @tail tr ev s s' _ hstep ih =>
    rcases List.mem_append.mp hev with hev | hev
    · have hstopped := ih hev
      cases hstep with
      | cancel => rfl
      | _ => exact hstopped
    · rw [List.mem_singleton] at hev
      subst hev
      cases hstep
      rfl

/-- Nobody is let in or turned away after the server was stopped. -/
theorem notMem_of_cancelled {pre post : List Event} (h : Run server (pre ++ .cancelled :: post) s) :
    .admitted uid c ∉ post := by
  generalize htr : pre ++ .cancelled :: post = tr at h
  induction h generalizing post with
  | refl => simp at htr
  | @tail tr ev s s' hrun hstep ih =>
    rcases concat_eq_append_cons htr.symm with ⟨rfl, -, -⟩ | ⟨post', rfl, rfl⟩
    · exact List.not_mem_nil
    · rw [List.mem_append, List.mem_singleton]
      rintro (hmem | rfl)
      · exact ih rfl hmem
      · have hstopped := stopped_of_cancelled hrun (by simp)
        cases hstep with
        | letIn hrunning =>
          rw [hrunning] at hstopped
          cases hstopped

/-- What is in the slot was admitted. -/
theorem mem_slot (h : Run server tr s) (hslot : s.channel.slot = some c) :
    ∃ uid, .admitted uid c ∈ tr := by
  obtain ⟨pre, uid, post, rfl, -⟩ := (slot_iff h c).mp hslot
  exact ⟨uid, by simp⟩

/-- Whoever was let in was shut down, but for the one in the slot. -/
theorem isShut_iff (h : Run server tr s) (hc : c ∈ admittedIn tr) :
    (s.channel.endpoint c.consumer).isShut = true ↔ s.channel.slot ≠ some c := by
  rw [admittedIn_eq h, List.mem_map] at hc
  obtain ⟨i, hi, rfl⟩ := hc
  exact (peopled h).isShut_iff i (List.mem_range.mp hi)

/-- Whoever is in the slot at the end of a run has been there ever since it was let in. -/
theorem slot_of_slot {pre post : List Event} {s₁ : Service} (hpre : Run server pre s₁)
    (h : Run server (pre ++ post) s) (hc : c ∈ admittedIn pre) (hslot : s.channel.slot = some c) :
    s₁.channel.slot = some c := by
  -- nobody is let in on this connection later
  have honce : ∀ uid, .admitted uid c ∉ post := by
    intro uid hev
    have hnodup := nodup_admittedIn h
    rw [admittedIn, List.filterMap_append, List.nodup_append] at hnodup
    exact hnodup.2.2 c hc c (mem_admittedIn.mpr ⟨uid, hev⟩) rfl
  obtain ⟨before, uid, after, heq, hafter⟩ := (slot_iff h c).mp hslot
  rcases List.append_eq_append_iff.mp heq with ⟨mid, rfl, rfl⟩ | ⟨mid, rfl, hmid⟩
  · exact absurd (by simp) (honce uid)
  · cases mid with
    | nil =>
      rw [List.nil_append] at hmid
      exact absurd (by simp [← hmid]) (honce uid)
    | cons ev mid =>
      obtain ⟨rfl, rfl⟩ := List.cons.inj hmid
      exact (slot_iff hpre c).mpr
        ⟨before, uid, mid, rfl, fun ev' hev' => hafter ev' (List.mem_append_left _ hev')⟩

/-- A service that was cancelled has nobody in the slot. -/
theorem slot_eq_none_of_cancelled (h : Run server tr s) (hev : .cancelled ∈ tr) :
    s.channel.slot = none := by
  rw [Option.eq_none_iff_forall_ne_some]
  intro c hslot
  obtain ⟨pre, uid, post, rfl, hpost⟩ := (slot_iff h c).mp hslot
  rcases List.mem_append.mp hev with hev | hev
  · -- nobody was let in after the server was stopped
    obtain ⟨before, mid, rfl⟩ := List.append_of_mem hev
    rw [List.append_assoc, List.cons_append] at h
    have hlater : .admitted uid c ∉ mid ++ .admitted uid c :: post := notMem_of_cancelled h
    exact hlater (by simp)
  · rcases List.mem_cons.mp hev with hev | hev
    · cases hev
    · exact (hpost _ hev).1 trivial

/-! ## Succession -/

/-- What is true of a server at any time. -/
structure Succession (server : Server) (tr : List Event) (s : Service) : Prop where
  /-- The slot holds the connection on which somebody was let in last, unless its time has ended
  since; a hang-up is told by its cookie, -/
  slot_iff : ∀ c, s.channel.slot = some c
    ↔ ∃ pre uid post, tr = pre ++ .admitted uid c :: post
      ∧ ∀ ev ∈ post, ¬ ev.Ousts c ∧ ∀ d, ev = .hungUp d → d.cookie ≠ c.cookie
  /-- and so, until there are no more cookies, no hang-up but its own ends it. -/
  slot_iff_own : (admittedIn tr).length ≤ UInt64.size → ∀ c, s.channel.slot = some c
    ↔ ∃ pre uid post, tr = pre ++ .admitted uid c :: post ∧ ∀ ev ∈ post, ¬ ev.Ousts c
  /-- The hang-up of somebody else does not touch whoever is in the slot. -/
  hungUp : (admittedIn tr).length ≤ UInt64.size → ∀ c d s', s.channel.slot = some c → d ≠ c →
    Step server s (.hungUp d) s' → s'.channel.slot = some c
  /-- Nobody comes back who has left the slot. -/
  notReinstated : ∀ pre post s₁ c, tr = pre ++ post → Run server pre s₁ → c ∈ admittedIn pre →
    s₁.channel.slot ≠ some c → s.channel.slot ≠ some c
  /-- Whoever was let in came as a user that the policy allows, -/
  authorized : ∀ uid c, .admitted uid c ∈ tr → server.policy.authorize uid = .ok ()
  /-- and nobody else was ever in the slot. -/
  admitted : ∀ pre post s₁ c, tr = pre ++ post → Run server pre s₁ → s₁.channel.slot = some c →
    ∃ uid, .admitted uid c ∈ tr
  /-- No two were let in on one connection. -/
  nodup : (admittedIn tr).Nodup
  /-- Whoever comes is let in if the user is known and allowed and every call goes well, and is
  connected; otherwise it is turned away, and nothing changes. -/
  handle_eq_ok_iff : ∀ a cookie c, server.handle a s.channel = (.ok cookie, c)
    ↔ (∃ uid, a.credentials = .ok uid ∧ server.policy.authorize uid = .ok ()) ∧ a.setUp = .ok ()
      ∧ s.channel.connect .newSocket = (cookie, c)
  refused : ∀ a e s', Step server s (.refused a e) s' → s' = s
  /-- Whoever was let in was shut down exactly if it is not in the slot. -/
  isShut_iff : ∀ uid c, .admitted uid c ∈ tr →
    ((s.channel.endpoint c.consumer).isShut = true ↔ s.channel.slot ≠ some c)
  /-- Once the server was stopped nobody is in the slot, all who were let in were shut down, and
  nobody was let in any more. -/
  cancelled : .cancelled ∈ tr → s.channel.slot = none
    ∧ (∀ uid c, .admitted uid c ∈ tr → (s.channel.endpoint c.consumer).isShut = true)
    ∧ ∀ pre post, tr = pre ++ .cancelled :: post → ∀ uid c, .admitted uid c ∉ post

/-- **Who is the consumer**, whatever happens and in whatever order. -/
theorem succession (h : Run server tr s) : Succession server tr s where
  slot_iff := slot_iff h
  slot_iff_own := by
    intro hbound c
    rw [slot_iff h]
    constructor
    · rintro ⟨pre, uid, post, htr, hpost⟩
      exact ⟨pre, uid, post, htr, fun ev hev => (hpost ev hev).1⟩
    · rintro ⟨pre, uid, post, htr, hpost⟩
      refine ⟨pre, uid, post, htr, fun ev hev => ⟨hpost ev hev, ?_⟩⟩
      -- a hang-up with this cookie would be this connection's own
      rintro d rfl hcookie
      have hc : c ∈ admittedIn tr := mem_admittedIn.mpr ⟨uid, by rw [htr]; simp⟩
      have hd : d ∈ admittedIn tr := (mem_of_watched h).2 d (by rw [htr]; simp [hev])
      exact hpost _ hev (eq_of_cookie_eq h hbound hc hd hcookie)
  hungUp := by
    intro hbound c d s' hslot hne hstep
    refine hstep.slot_iff.mpr (Or.inr ⟨hslot, hne, ?_⟩)
    rintro d' ⟨⟩ hcookie
    cases hstep with
    | hangUp hwatched =>
      have hd := (mem_of_watched h).1 d hwatched
      exact hne (eq_of_cookie_eq h hbound (mem_admittedIn.mpr (mem_slot h hslot)) hd hcookie)
  notReinstated := by
    rintro pre post s₁ c rfl hpre hc hout hslot
    exact hout (slot_of_slot hpre h hc hslot)
  authorized := fun uid c hev => authorized h hev
  admitted := by
    rintro pre post s₁ c rfl hpre hslot
    obtain ⟨uid, hev⟩ := mem_slot hpre hslot
    exact ⟨uid, List.mem_append_left _ hev⟩
  nodup := nodup_admittedIn h
  handle_eq_ok_iff := fun a cookie c => Server.handle_eq_ok_iff
  refused := by
    intro a e s' hstep
    cases hstep with
    | refuse hrunning hhandle => rw [Server.channel_of_handle_error hhandle]
  isShut_iff := fun uid c hev => isShut_iff h (mem_admittedIn.mpr ⟨uid, hev⟩)
  cancelled := by
    intro hev
    have hslot := slot_eq_none_of_cancelled h hev
    refine ⟨hslot, fun uid c hc => ?_, ?_⟩
    · rw [isShut_iff h (mem_admittedIn.mpr ⟨uid, hc⟩), hslot]
      exact (Option.some_ne_none _).symm
    · rintro pre post rfl uid c
      exact notMem_of_cancelled h

/-- A stranger is turned away, a second peer supersedes the first, the first one's hang-up comes
late and changes nothing, and then the server is stopped. -/
theorem succession_late_hangUp : ∃ server s,
    Run server [.refused (.ofUser 7) (.connectionRejected 7), .admitted 1000 (connectionAt 0),
      .admitted 1000 (connectionAt 1), .hungUp (connectionAt 0), .cancelled] s
    ∧ Succession server [.refused (.ofUser 7) (.connectionRejected 7),
      .admitted 1000 (connectionAt 0), .admitted 1000 (connectionAt 1), .hungUp (connectionAt 0),
      .cancelled] s := by
  let server : Server := ⟨.empty, ⟨0⟩, ⟨[1000]⟩, .ofMillis 200⟩
  let first : Service := {
    channel := { slot := some (connectionAt 0), issued := 1, consumers := [.newSocket] }
    watched := [connectionAt 0] }
  let second : Service := {
    channel := {
      slot := some (connectionAt 1), issued := 2,
      consumers := [Endpoint.newSocket.shutDown, .newSocket] }
    watched := [connectionAt 0, connectionAt 1] }
  let late : Service := { second with watched := [connectionAt 1] }
  let stopped : Service := {
    channel := {
      issued := 2, consumers := [Endpoint.newSocket.shutDown, Endpoint.newSocket.shutDown] }
    watched := [connectionAt 1]
    stopped := true }
  have hrefuse : Step server {} (.refused (.ofUser 7) (.connectionRejected 7)) {} := .refuse rfl rfl
  have hfirst : Step server {} (.admitted 1000 (connectionAt 0)) first :=
    .letIn (a := .ofUser 1000) rfl rfl rfl
  have hsecond : Step server first (.admitted 1000 (connectionAt 1)) second :=
    .letIn (a := .ofUser 1000) rfl rfl rfl
  have hlate : Step server second (.hungUp (connectionAt 0)) late := .hangUp List.mem_cons_self
  have hstop : Step server late .cancelled stopped := .cancel default rfl
  have hrun := Trace.cons hrefuse (.cons hfirst (.cons hsecond (.cons hlate (.single hstop))))
  exact ⟨server, stopped, hrun, succession hrun⟩

end Service

end FileActivity
