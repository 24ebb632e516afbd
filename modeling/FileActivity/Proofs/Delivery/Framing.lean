/-
# Streams without framing

Records go out on a socket back to back, so a record that was only partly written makes
everything after it unreadable.  The thread whose record it was releases the connection, but in
a step of its own: a thread that looked into the slot before can still write in between.  The
records of a stream keep their boundaries exactly if nobody does (`framed_iff_undisturbed`), and
nobody does as long as one thread sends (`undisturbed_of_one_sender`); two senders are enough to
lose them (`not_framed_two_senders`).
-/
import FileActivity.Proofs.Delivery.LifeCycle
import FileActivity.Proofs.Record.Streams

namespace FileActivity

namespace SharedChannel

variable {s s' : SharedChannel} {a : Action} {tr pre mid post : List Action} {t u : ThreadId}
  {i : ConsumerId} {x y : HandOff}

/-! ## What was written to a consumer -/

/-- The hand-off to a consumer that a step is. -/
def handOffTo (i : ConsumerId) (a : Action) : Option HandOff :=
  a.handedOff.filter fun x => x.connection.consumer = i

/-- The hand-offs to a consumer in a run, in order. -/
def handOffsTo (i : ConsumerId) (tr : List Action) : List HandOff := tr.filterMap (handOffTo i)

/-- The bytes that a run wrote to a consumer. -/
def streamTo (i : ConsumerId) (tr : List Action) : List UInt8 :=
  (handOffsTo i tr).flatMap HandOff.written

/-- The records that a consumer's connection took in a run, in order. -/
def acceptedBy (i : ConsumerId) (tr : List Action) : List EventRecord :=
  (handOffsTo i tr).filterMap HandOff.accepted

/-- A hand-off to a consumer is a hand-off whose connection is that consumer's. -/
theorem handOffTo_eq_some_iff :
    handOffTo i a = some x ↔ (∃ t, a = .handOff t x) ∧ x.connection.consumer = i := by
  rw [handOffTo, Option.filter_eq_some_iff]
  cases a <;> simp [Action.handedOff]

/-- A step that hands a record over does so to one consumer only. -/
theorem handOffTo_handOff_iff :
    handOffTo i (.handOff t x) = some y ↔ x = y ∧ x.connection.consumer = i := by
  rw [handOffTo_eq_some_iff]
  constructor
  · rintro ⟨⟨u, ⟨⟩⟩, hi⟩
    exact ⟨rfl, hi⟩
  · rintro ⟨rfl, hi⟩
    exact ⟨⟨t, rfl⟩, hi⟩

theorem handOffTo_handOff (t : ThreadId) (x : HandOff) :
    handOffTo x.connection.consumer (.handOff t x) = some x :=
  handOffTo_handOff_iff.mpr ⟨rfl, rfl⟩

@[simp] theorem handOffsTo_concat :
    handOffsTo i (tr ++ [a]) = handOffsTo i tr ++ (handOffTo i a).toList :=
  filterMap_concat ..

/-- The hand-offs of a run in the order in which they were made. -/
theorem handOffsTo_append_cons (hx : x.connection.consumer = i) :
    handOffsTo i (pre ++ .handOff t x :: post) = handOffsTo i pre ++ x :: handOffsTo i post := by
  rw [handOffsTo, List.filterMap_append, List.filterMap_cons, ← hx, handOffTo_handOff]
  rfl

/-- A hand-off to a consumer is a step of the run, with all that went before it. -/
theorem mem_handOffsTo_iff :
    x ∈ handOffsTo i tr
      ↔ (∃ pre t mid, tr = pre ++ .handOff t x :: mid) ∧ x.connection.consumer = i := by
  rw [handOffsTo, List.mem_filterMap]
  constructor
  · rintro ⟨a, ha, hax⟩
    obtain ⟨⟨t, rfl⟩, hi⟩ := handOffTo_eq_some_iff.mp hax
    obtain ⟨pre, mid, htr⟩ := List.append_of_mem ha
    exact ⟨⟨pre, t, mid, htr⟩, hi⟩
  · rintro ⟨⟨pre, t, mid, rfl⟩, rfl⟩
    exact ⟨.handOff t x, by simp, handOffTo_handOff t x⟩

/-- Something holds of any two hand-offs to a consumer if it holds of any two that a run can be
cut at. -/
theorem pairwise_handOffsTo {R : HandOff → HandOff → Prop}
    (h : ∀ pre t x mid u y post, tr = pre ++ .handOff t x :: (mid ++ .handOff u y :: post) →
      x.connection.consumer = i → y.connection.consumer = i → R x y) :
    (handOffsTo i tr).Pairwise R := by
  induction tr with
  | nil => exact List.Pairwise.nil
  | cons a tr ih =>
    have htail : (handOffsTo i tr).Pairwise R := by
      refine ih fun pre t x mid u y post htr => h (a :: pre) t x mid u y post ?_
      rw [htr, List.cons_append]
    cases hax : handOffTo i a with
    | none => rwa [handOffsTo, List.filterMap_cons_none hax]
    | some x =>
      rw [handOffsTo, List.filterMap_cons_some hax, List.pairwise_cons]
      refine ⟨fun y hy => ?_, htail⟩
      obtain ⟨⟨t, rfl⟩, hxi⟩ := handOffTo_eq_some_iff.mp hax
      obtain ⟨⟨mid, u, post, rfl⟩, hyi⟩ := mem_handOffsTo_iff.mp hy
      exact h [] t x mid u y post rfl hxi hyi

/-- What a step can do to the endpoint of a consumer. -/
theorem Step.endpoint_cases (h : Step s a s') (i : ConsumerId) :
    (∃ t e c, a = .allocate t e c ∧ c.consumer = i ∧ i = s.channel.consumers.length
      ∧ s'.channel.endpoint i = e)
    ∨ s'.channel.endpoint i = s.channel.endpoint i ∧ (∀ x, handOffTo i a = some x → x.written = [])
    ∨ (∃ x, handOffTo i a = some x ∧ x.written = (s.channel.endpoint i).written x.record
      ∧ s'.channel.endpoint i = ((s.channel.endpoint i).deliver x.record).2)
    ∨ handOffTo i a = none ∧ (s'.channel.endpoint i = (s.channel.endpoint i).shutDown
      ∨ ∃ act, s'.channel.endpoint i = (s.channel.endpoint i).react act) := by
  have hquiet : ∀ {b : Action}, b.handedOff = none → ∀ x, handOffTo i b = some x →
      x.written = [] := by
    intro b hb x hx
    rw [handOffTo, hb, Option.filter_none] at hx
    exact nomatch hx
  cases h with
  | allocate e =>
    rcases Nat.lt_trichotomy i s.channel.consumers.length with hi | rfl | hi
    · exact Or.inr (Or.inl ⟨Channel.endpoint_addConsumer_of_lt hi e, hquiet rfl⟩)
    · exact Or.inl ⟨_, _, _, rfl, rfl, rfl, Channel.endpoint_addConsumer_self _ e⟩
    · refine Or.inr (Or.inl ⟨?_, hquiet rfl⟩)
      rw [Channel.endpoint_of_length_le (Nat.le_of_lt hi), channel_move]
      refine Channel.endpoint_of_length_le ?_
      have hcame : (s.channel.prepare e).2.consumers.length = s.channel.consumers.length + 1 :=
        List.length_append
      rwa [hcame]
  | @handOff t c r outcome e _ hdeliver =>
    obtain rfl : ((s.channel.endpoint c.consumer).deliver r).2 = e := congrArg Prod.snd hdeliver
    rcases s.channel.endpoint_setEndpoint_cases (f := fun e => (e.deliver r).2) rfl c.consumer i
      with ⟨hc, hset⟩ | ⟨hc, hset⟩
    · subst hc
      exact Or.inr (Or.inr (Or.inl ⟨_, handOffTo_handOff t _, rfl, hset⟩))
    · exact Or.inr (Or.inl ⟨hset, fun x hx => absurd (handOffTo_handOff_iff.mp hx).2 hc⟩)
  | expire =>
    refine Or.inr (Or.inl ⟨rfl, fun x hx => ?_⟩)
    obtain ⟨rfl, -⟩ := handOffTo_handOff_iff.mp hx
    rfl
  | @shutDown t c =>
    rcases s.channel.endpoint_setEndpoint_cases (f := Endpoint.shutDown) rfl c.consumer i
      with ⟨-, hset⟩ | ⟨-, hset⟩
    · exact Or.inr (Or.inr (Or.inr ⟨rfl, Or.inl hset⟩))
    · exact Or.inr (Or.inl ⟨hset, hquiet rfl⟩)
  | consumer j act =>
    rcases s.channel.endpoint_setEndpoint_cases (f := fun e => e.react act)
      (by cases act <;> rfl) j i with ⟨-, hset⟩ | ⟨-, hset⟩
    · exact Or.inr (Or.inr (Or.inr ⟨rfl, Or.inr ⟨act, hset⟩⟩))
    · exact Or.inr (Or.inl ⟨hset, hquiet rfl⟩)
  | release | letGo => exact Or.inr (Or.inl ⟨by simp [Channel.endpoint], hquiet rfl⟩)
  | _ => exact Or.inr (Or.inl ⟨rfl, hquiet rfl⟩)

/-! ## Hand-offs to sockets -/

/-- The consumer in the slot is one that has come. -/
theorem Steps.consumer_lt_of_slot (h : Run tr s) {c : Connection}
    (hslot : s.channel.slot = some c) : c.consumer < s.channel.consumers.length :=
  h.consumer_lt_of_issued (h.issued_of_installed (h.mem_installed_of_slot hslot))

/-- No step makes another kind of endpoint of one that is there. -/
theorem Step.isSocket_endpoint (h : Step s a s') (hi : i < s.channel.consumers.length) :
    (s'.channel.endpoint i).isSocket = (s.channel.endpoint i).isSocket := by
  rcases h.endpoint_cases i with ⟨_, _, _, -, -, hlen, -⟩ | ⟨he, -⟩ | ⟨x, -, -, he⟩
    | ⟨-, he | ⟨act, he⟩⟩
  · exact absurd hlen (Nat.ne_of_lt hi)
  · rw [he]
  · rw [he, Endpoint.isSocket_deliver]
  · rw [he, Endpoint.isSocket_shutDown]
  · rw [he, Endpoint.isSocket_react]

/-- A hand-off to a socket is sound, and when it tears a record the connection is about to be
released. -/
theorem Step.sound_handOff (h : Step s (.handOff t x) s')
    (hsocket : (s.channel.endpoint x.connection.consumer).isSocket) :
    x.Sound ∧ (x.Torn → s'.stage t = .failed x.connection.cookie) := by
  cases h with
  | @handOff _ c _ _ _ hstage hdeliver =>
    have hsound := HandOff.sound_of_deliver (c := c) hsocket hdeliver
    refine ⟨hsound, fun htorn => ?_⟩
    obtain ⟨e, he, hfatal⟩ := hsound.isFatal_of_torn htorn
    simp only at he
    simp [he, Stage.afterHandOff, hfatal]
  | expire => exact ⟨HandOff.sound_of_expired _ _, fun htorn => absurd rfl htorn.1⟩

/-- Every hand-off of a run was sound, and its consumer has come. -/
theorem Steps.sound (h : Run tr s) (hx : x ∈ handOffsTo i tr) :
    i < s.channel.consumers.length ∧ ((s.channel.endpoint i).isSocket → x.Sound) := by
  induction h with
  | refl => exact nomatch hx
  | @tail tr a s s' hrun hstep ih =>
    have hlen : s.channel.consumers.length ≤ s'.channel.consumers.length := by
      rcases hstep.issued_cases with ⟨-, -, hlen⟩ | ⟨-, -, hlen⟩ <;> omega
    rw [handOffsTo_concat, List.mem_append, Option.mem_toList] at hx
    rcases hx with hx | hx
    · obtain ⟨hi, hsound⟩ := ih hx
      refine ⟨Nat.lt_of_lt_of_le hi hlen, fun hsocket => hsound ?_⟩
      rwa [← hstep.isSocket_endpoint hi]
    · obtain ⟨⟨t, rfl⟩, rfl⟩ := handOffTo_eq_some_iff.mp hx
      have hi := hrun.consumer_lt_of_slot (hrun.slot_of_handOff hstep)
      refine ⟨Nat.lt_of_lt_of_le hi hlen, fun hsocket => (hstep.sound_handOff ?_).1⟩
      rwa [← hstep.isSocket_endpoint hi]

/-! ## After a torn record -/

/-- Who is to release a connection does so next, and then another connection is in the slot or
none. -/
theorem Step.of_failed (h : Step s a s') {k : Cookie} (hstage : s.stage t = .failed k)
    (ht : a.thread = some t) : s'.channel.connected ≠ some k := by
  cases h with
  | @letGo _ k' hk _ =>
    obtain rfl := Option.some.inj ht
    obtain rfl : k' = k := Stage.failed.inj (hk.symm.trans hstage)
    rw [channel_move]
    by_cases hconnected : s.channel.connected = some k'
    · rw [Channel.vacateIf_of_connected hconnected]
      exact nofun
    · rwa [Channel.vacateIf_of_not_connected hconnected]
  | _ => simp_all [Action.thread]

/-- **A torn record is the last of its connection, or its thread has not moved since.** -/
theorem Steps.failed_or_removed (h : Run tr s) (htr : tr = pre ++ .handOff t x :: mid)
    (hsocket : (s.channel.endpoint x.connection.consumer).isSocket) (htorn : x.Torn) :
    s.stage t = .failed x.connection.cookie ∧ (∀ a ∈ mid, a.thread ≠ some t)
      ∨ x.connection ∈ removedIn tr := by
  induction h generalizing mid with
  | refl => simp at htr
  | @tail tr a s s' hrun hstep ih =>
    rcases concat_eq_append_cons htr with ⟨rfl, -, rfl⟩ | ⟨mid', rfl, htr'⟩
    · -- the step that tore the record
      have hi := hrun.consumer_lt_of_slot (hrun.slot_of_handOff hstep)
      rw [hstep.isSocket_endpoint hi] at hsocket
      exact Or.inl ⟨(hstep.sound_handOff hsocket).2 htorn, by simp⟩
    · have hx : x ∈ handOffsTo x.connection.consumer tr :=
        mem_handOffsTo_iff.mpr ⟨⟨pre, t, mid', htr'⟩, rfl⟩
      rw [hstep.isSocket_endpoint (hrun.sound hx).1] at hsocket
      rcases ih htr' hsocket with ⟨hstage, hmid⟩ | hremoved
      · by_cases ha : a.thread = some t
        · -- its thread moves, and can only release the connection
          refine Or.inr ?_
          have hinstalled : x.connection ∈ installedIn (tr ++ [a]) := by
            rw [installedIn_concat]
            obtain ⟨s₁, s₂, hpre, hstep', -⟩ := Steps.split (htr' ▸ hrun)
            have hmem := hpre.mem_installed_of_slot (hpre.slot_of_handOff hstep')
            rw [htr', installedIn, List.filterMap_append]
            exact List.mem_append_left _ (List.mem_append_left _ hmem)
          rw [(hrun.tail hstep).mem_removed_iff hinstalled]
          intro hslot
          exact hstep.of_failed hstage ha (by rw [Channel.connected, hslot]; rfl)
        · refine Or.inl ⟨(hstep.stage_of_ne ha).trans hstage, ?_⟩
          intro b hb
          rcases List.mem_append.mp hb with hb | hb
          · exact hmid b hb
          · rwa [List.mem_singleton.mp hb]
      · refine Or.inr ?_
        rw [removedIn_concat]
        exact List.mem_append_left _ hremoved

/-- Whoever writes to a consumer after a torn record does so before the thread of that record
moves, and is another thread. -/
theorem Steps.of_handOff_after_torn (h : Run tr s)
    (htr : tr = pre ++ .handOff t x :: (mid ++ .handOff u y :: post))
    (hsocket : (s.channel.endpoint i).isSocket) (hxi : x.connection.consumer = i) (htorn : x.Torn)
    (hyi : y.connection.consumer = i) : u ≠ t ∧ ∀ a ∈ mid, a.thread ≠ some t := by
  induction h generalizing post with
  | refl => simp at htr
  | @tail tr a s s' hrun hstep ih =>
    rw [← List.cons_append, ← List.append_assoc] at htr
    rcases concat_eq_append_cons htr with ⟨-, htr', rfl⟩ | ⟨post', -, htr'⟩
    · have hx : x ∈ handOffsTo i tr := mem_handOffsTo_iff.mpr ⟨⟨pre, t, mid, htr'⟩, hxi⟩
      rw [hstep.isSocket_endpoint (hrun.sound hx).1, ← hxi] at hsocket
      have hslot := hrun.slot_of_handOff hstep
      rcases hrun.failed_or_removed htr' hsocket htorn with ⟨hstage, hmid⟩ | hremoved
      · refine ⟨?_, hmid⟩
        rintro rfl
        cases hstep with
        | handOff hsending | expire hsending => exact nomatch hstage.symm.trans hsending
      · -- the connection was taken out, and nothing is handed to it any more
        have hsame : y.connection = x.connection := by
          refine hrun.eq_of_consumer_eq ?_ ?_ (hyi.trans hxi.symm)
          · exact hrun.issued_of_installed (hrun.mem_installed_of_slot hslot)
          · exact hrun.issued_of_installed (hrun.installed_of_removed hremoved)
        exact absurd (hsame ▸ hremoved) (hrun.notMem_removed_of_slot hslot)
    · rw [List.append_assoc, List.cons_append] at htr'
      have hx : x ∈ handOffsTo i tr :=
        mem_handOffsTo_iff.mpr ⟨⟨pre, t, mid ++ .handOff u y :: post', htr'⟩, hxi⟩
      rw [hstep.isSocket_endpoint (hrun.sound hx).1] at hsocket
      exact ih htr' hsocket

/-! ## Record boundaries -/

/-- The records that a consumer's connection took, one after another, and at most a part of one
more. -/
structure Framed (i : ConsumerId) (tr : List Action) : Prop where
  /-- Its stream is the encodings of these records and a part of one more. -/
  stream : ∃ rest r, streamTo i tr = (acceptedBy i tr).flatMap EventRecord.encode ++ rest
    ∧ rest <+: EventRecord.encode r ∧ rest.length < recordSize
  /-- Each of these records begins at a multiple of the size of a record. -/
  boundary : ∀ pre t x post, tr = pre ++ .handOff t x :: post → x.connection.consumer = i →
    x.outcome = .ok () → recordSize ∣ (streamTo i pre).length
  /-- Nothing comes after a part of a record. -/
  last : (handOffsTo i tr).Pairwise fun x y => x.Torn → y.written = []

/-- Between a torn record and the next step of its thread, which releases the connection, nobody
writes to the consumer. -/
def Undisturbed (i : ConsumerId) (tr : List Action) : Prop :=
  ∀ pre t x mid u y post, tr = pre ++ .handOff t x :: (mid ++ .handOff u y :: post) →
    x.connection.consumer = i → x.Torn → y.connection.consumer = i → y.written ≠ [] →
    ∃ a ∈ mid, a.thread = some t

/-- **One sender never disturbs itself**, so a consumer of a single sending thread can tell its
records. -/
theorem undisturbed_of_one_sender (h : Run tr s) (hsocket : (s.channel.endpoint i).isSocket)
    (hone : ∀ t x u y, .handOff t x ∈ tr → .handOff u y ∈ tr → x.connection.consumer = i →
      y.connection.consumer = i → t = u) : Undisturbed i tr := by
  intro pre t x mid u y post htr hxi htorn hyi hwritten
  have htu : t = u := hone t x u y (by simp [htr]) (by simp [htr]) hxi hyi
  exact absurd htu.symm (h.of_handOff_after_torn htr hsocket hxi htorn hyi).1

/-- A socket with room for one byte tears a record. -/
theorem deliver_tears (r : EventRecord) : (Endpoint.socket { capacity := 1 }).deliver r
    = (.error (Endpoint.writeFailure (.system .again)),
      .socket { capacity := 1, pending := r.encode.take 1 }) := by
  have hroom : ¬ r.encode.length ≤ 1 := by rw [r.length_encode]; decide
  simp only [Endpoint.deliver, Stream.write, List.length_nil, Nat.sub_zero, if_neg hroom]
  rfl

/-- **The records of a stream keep their boundaries exactly if nobody writes to it between a
torn record and the release that follows it.** -/
theorem framed_iff_undisturbed (h : Run tr s) (hsocket : (s.channel.endpoint i).isSocket) :
    Framed i tr ↔ Undisturbed i tr := by
  have hsound : ∀ x ∈ handOffsTo i tr, x.Sound := fun x hx => (h.sound hx).2 hsocket
  constructor
  · intro hframed pre t x mid u y post htr hxi htorn hyi hwritten
    have hpair := hframed.last
    rw [htr, handOffsTo_append_cons hxi, handOffsTo_append_cons hyi, List.pairwise_append] at hpair
    exact absurd ((List.pairwise_cons.mp hpair.2.1).1 y (by simp) htorn) hwritten
  · intro hun
    have hlast : (handOffsTo i tr).Pairwise fun x y => x.Torn → y.written = [] := by
      refine pairwise_handOffsTo fun pre t x mid u y post htr hxi hyi htorn => ?_
      by_contra hwritten
      obtain ⟨a, ha, hat⟩ := hun pre t x mid u y post htr hxi htorn hyi hwritten
      exact (h.of_handOff_after_torn htr hsocket hxi htorn hyi).2 a ha hat
    refine ⟨?_, ?_, hlast⟩
    · obtain ⟨rest, hstream, hrest | ⟨x, hx, htorn, rfl⟩⟩ := HandOff.flatMap_written hsound hlast
      · exact ⟨rest, default, hstream, hrest ▸ List.nil_prefix, hrest ▸ Nat.succ_pos _⟩
      · exact ⟨x.written, x.record, hstream, (hsound x hx).isPrefix,
          (hsound x hx).length_lt htorn.2⟩
    · intro pre t x post htr hxi hok
      have haccepted : x.accepted = some x.record := by rw [HandOff.accepted, hok]
      rw [htr, handOffsTo_append_cons hxi] at hlast hsound
      -- what went out before this record is whole records and a part of one that was torn
      obtain ⟨hpair, -, hbefore⟩ := List.pairwise_append.mp hlast
      obtain ⟨rest, hstream, hrest | ⟨z, hz, htorn, -⟩⟩ :=
        HandOff.flatMap_written (fun z hz => hsound z (List.mem_append_left _ hz)) hpair
      · rw [streamTo, hstream, hrest, List.append_nil, EventRecord.length_flatMap_encode]
        exact Nat.dvd_mul_left ..
      · -- nothing would have been written after a torn record
        have hx : x.Sound := hsound x (by simp)
        exact absurd (hbefore z hz x List.mem_cons_self htorn) (hx.written_ne_nil haccepted)

/-- A torn record and then its release: the one byte that went out is all that the consumer gets. -/
theorem framed_of_torn_and_released : ∃ tr s, Run tr s
    ∧ (s.channel.endpoint 0).isSocket ∧ s.channel.slot = none
    ∧ streamTo 0 tr = (default : EventRecord).encode.take 1 ∧ Framed 0 tr := by
  have hrun := (Steps.refl : Run [] {})
    |>.tail (Step.allocate (t := 0) (.socket { capacity := 1 }) rfl)
    |>.tail (Step.install (t := 0) rfl ?_)
    |>.tail (Step.look (t := 0) default rfl)
    |>.tail (Step.handOff (t := 0) rfl (deliver_tears default))
    |>.tail (Step.letGo (t := 0) rfl ?_)
  · refine ⟨_, _, hrun, rfl, rfl, List.append_nil _, (framed_iff_undisturbed hrun rfl).mpr ?_⟩
    refine undisturbed_of_one_sender hrun rfl fun t x u y ht hu _ _ => ?_
    simp_all
  all_goals
    rintro (_ | t) connection r <;> exact nofun

/-! ## Two senders -/

/-- A record begins with its kind and a zero. -/
theorem encode_eq_cons (r : EventRecord) :
    ∃ rest, r.encode = r.kind.tag.toUInt8 :: 0 :: rest := by
  unfold EventRecord.encode
  cases r.kind <;> exact ⟨_, rfl⟩

/-- One byte of a record and then a record are no stream of records, whatever the records were,
unless the kind of the second could be taken for the zero in the first. -/
theorem not_stream_of_torn {r r' : EventRecord} (hkind : r'.kind ≠ .create) :
    ¬ ∃ (rs : List EventRecord) (q : EventRecord) (k : Nat), k < recordSize
      ∧ r.encode.take 1 ++ r'.encode = rs.flatMap EventRecord.encode ++ q.encode.take k := by
  rintro ⟨rs, q, k, hk, h⟩
  have hlen := congrArg List.length h
  rw [List.length_append, List.length_append, EventRecord.length_flatMap_encode, List.length_take,
    List.length_take, EventRecord.length_encode, EventRecord.length_encode] at hlen
  rw [show recordSize = 3124 from rfl] at hlen hk
  -- there is room for one whole record, and its second byte would be the kind of the second record
  obtain ⟨p, rfl⟩ : ∃ p, rs = [p] := by
    rw [← List.length_eq_one_iff]
    omega
  obtain ⟨rest, hr⟩ := encode_eq_cons r
  obtain ⟨rest', hr'⟩ := encode_eq_cons r'
  obtain ⟨prest, hp⟩ := encode_eq_cons p
  rw [List.flatMap_singleton, hp, hr, hr'] at h
  have htag : r'.kind.tag.toUInt8 = 0 := (List.cons.inj (List.cons.inj h).2).1
  revert hkind htag
  cases r'.kind <;> decide

/-- Two threads have looked into the slot.  The first finds room for one byte of its record and
fails; the consumer makes room, and the second thread writes its record behind that byte. -/
theorem two_senders (r r' : EventRecord) : ∃ tr s, Run tr s ∧ (s.channel.endpoint 0).isSocket
    ∧ streamTo 0 tr = r.encode.take 1 ++ r'.encode ∧ acceptedBy 0 tr = [r'] := by
  have hroom : r'.encode.length ≤ 4000 - (r.encode.take 1).length := by
    rw [List.length_take, r.length_encode, r'.length_encode]; decide
  have hwhole : (Stream.write { capacity := 4000, pending := r.encode.take 1 } r'.encode).1
      = .ok () := by
    simp only [Stream.write, if_pos hroom]
    rfl
  have htake : (Endpoint.socket { capacity := 4000, pending := r.encode.take 1 }).deliver r'
      = (.ok (), .socket { capacity := 4000, pending := r.encode.take 1 ++ r'.encode }) := by
    simp only [Endpoint.deliver, Stream.write, if_pos hroom, List.take_of_length_le hroom]
    rfl
  have hrun := (Steps.refl : Run [] {})
    |>.tail (Step.allocate (t := 0) (.socket { capacity := 1 }) rfl)
    |>.tail (Step.install (t := 0) rfl ?_)
    |>.tail (Step.look (t := 0) r rfl)
    |>.tail (Step.look (t := 1) r' rfl)
    |>.tail (Step.handOff (t := 0) rfl (deliver_tears r))
    |>.tail (Step.consumer 0 (.resize 4000))
    |>.tail (Step.handOff (t := 1) rfl htake)
  · refine ⟨_, _, hrun, rfl, ?_, rfl⟩
    have hbytes : (Endpoint.socket { capacity := 1 }).written r
        ++ ((Endpoint.socket { capacity := 4000, pending := r.encode.take 1 }).written r' ++ [])
        = r.encode.take 1 ++ r'.encode := by
      rw [List.append_nil, Endpoint.written, Endpoint.written, Stream.accepts_of_write_ok hwhole]
      rfl
    exact hbytes
  · rintro (_ | t) connection r h <;> cases h

/-- **Two senders are enough to lose the boundaries.**  The second hand-off succeeded, and what
the consumer gets is not whole records and a part of one more, whatever the records. -/
theorem not_framed_two_senders : ∃ tr s, Run tr s ∧ (s.channel.endpoint 0).isSocket
    ∧ acceptedBy 0 tr = [{ (default : EventRecord) with kind := .write }]
    ∧ ¬ ∃ (rs : List EventRecord) (r : EventRecord) (k : Nat), k < recordSize
        ∧ streamTo 0 tr = rs.flatMap EventRecord.encode ++ r.encode.take k := by
  obtain ⟨tr, s, hrun, hsocket, hstream, haccepted⟩ :=
    two_senders default { (default : EventRecord) with kind := .write }
  refine ⟨tr, s, hrun, hsocket, haccepted, ?_⟩
  rw [hstream]
  exact not_stream_of_torn nofun

end SharedChannel

end FileActivity
