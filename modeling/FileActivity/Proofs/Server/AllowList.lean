/-
# The allow-list

A policy is kept as an ordered list and asked by halving it.  Neither putting the list in order
nor halving it loses or invents a user, so a policy lets in whom its list names, and everybody
if it names nobody.  A document that is accepted hands the list under `channel.allowed_uids` on
to the policy of its server.

Main statement: `allowList_as_listed`.
-/
import FileActivity.Proofs.Settings.ByKey
import FileActivity.Proofs.Settings.Snapshot
import FileActivity.Server.Basic

namespace FileActivity

open Toml (Value Entries)

/-! ## Searching -/

section Search

variable {uids : List UserId} {uid : UserId}

/-- In an increasing list an earlier member is a smaller one. -/
theorem lt_of_getElem?_lt (hsorted : uids.Pairwise (· < ·)) {i j : Nat} {u v : UserId}
    (hi : uids[i]? = some u) (hj : uids[j]? = some v) (hij : i < j) : u < v := by
  obtain ⟨hlt, rfl⟩ := List.getElem?_eq_some_iff.mp hi
  obtain ⟨hlt', rfl⟩ := List.getElem?_eq_some_iff.mp hj
  exact List.pairwise_iff_getElem.mp hsorted i j hlt hlt' hij

/-- A search that looks at the place of a user, and is given as many rounds as there are other
places, ends there. -/
theorem narrow_eq (hsorted : uids.Pairwise (· < ·)) {i : Nat} (hi : uids[i]? = some uid)
    {rounds base size : Nat} (hrounds : size ≤ rounds + 1) (hbase : base ≤ i)
    (hsize : i < base + size) (h : base + size ≤ uids.length) :
    narrow uids uid rounds base size h = i := by
  induction rounds generalizing base size with
  | zero =>
    rw [narrow]
    omega
  | succ rounds ih =>
    rw [narrow]
    split
    · next hmore =>
      have hmiddle : base + size / 2 < uids.length := by omega
      have hget : uids[base + size / 2]? = some uids[base + size / 2] :=
        List.getElem?_eq_getElem hmiddle
      dsimp only
      split
      · next habove =>
        -- the user is below the middle, or the middle and what follows would not be above it
        have hfront : i < base + size / 2 := by
          rcases Nat.lt_trichotomy i (base + size / 2) with hlt | rfl | hgt
          · exact hlt
          · rw [hi] at hget
            exact absurd (Option.some.inj hget ▸ habove) (UInt32.lt_irrefl _)
          · exact absurd (UInt32.lt_trans habove (lt_of_getElem?_lt hsorted hget hi hgt))
              (UInt32.lt_irrefl _)
        apply ih <;> omega
      · next hnot =>
        have hback : base + size / 2 ≤ i := by
          apply Nat.le_of_not_lt
          intro hlt
          exact hnot (lt_of_getElem?_lt hsorted hi hget hlt)
        apply ih <;> omega
    · omega

/-- **Searching finds exactly the members.** -/
theorem isSome_search_iff (hsorted : uids.Pairwise (· < ·)) :
    (search uids uid).isSome ↔ uid ∈ uids := by
  unfold search
  dsimp only
  constructor
  · intro h
    split at h
    · next hfound => exact List.mem_of_getElem? hfound
    · cases h
  · intro hmem
    obtain ⟨i, hi⟩ := List.mem_iff_getElem?.mp hmem
    obtain ⟨hlt, -⟩ := List.getElem?_eq_some_iff.mp hi
    have hplace : narrow uids uid uids.length 0 uids.length (by omega) = i :=
      narrow_eq hsorted hi (Nat.le_succ _) (Nat.zero_le _) (by omega) _
    rw [hplace, if_pos hi]
    rfl

end Search

/-! ## Policies -/

/-- Nothing is left of a list only if nothing was in it. -/
theorem sortedSet_eq_nil_iff {uids : List UserId} : sortedSet uids = [] ↔ uids = [] := by
  simp only [List.eq_nil_iff_forall_not_mem, mem_sortedSet]

/-- Lists of the same users give the same set. -/
theorem sortedSet_eq_iff {uids uids' : List UserId} :
    sortedSet uids = sortedSet uids' ↔ ∀ uid, uid ∈ uids ↔ uid ∈ uids' := by
  constructor
  · intro h uid
    rw [← mem_sortedSet, h, mem_sortedSet]
  · intro h
    have hsame : ∀ uid, uid ∈ sortedSet uids ↔ uid ∈ sortedSet uids' := by
      intro uid
      rw [mem_sortedSet, mem_sortedSet, h]
    have hdistinct : ∀ uids, (sortedSet uids).Nodup := fun uids =>
      (pairwise_sortedSet uids).imp fun hlt => UInt32.ne_of_lt hlt
    have hperm : (sortedSet uids).Perm (sortedSet uids') :=
      (List.perm_ext_iff_of_nodup (hdistinct uids) (hdistinct uids')).mpr hsame
    -- two orders of the same members that both increase are one
    have hanti : ∀ u v : UserId, u < v → v < u → u = v :=
      fun u v huv hvu => absurd (UInt32.lt_trans huv hvu) (UInt32.lt_irrefl u)
    exact hperm.eq_of_pairwise (fun u v _ _ => hanti u v) (pairwise_sortedSet uids)
      (pairwise_sortedSet uids')

namespace ConnectPolicy

/-- A policy lets users in as a list says: those that it names, and everybody if it names nobody. -/
def Follows (p : ConnectPolicy) (uids : List UserId) : Prop :=
  ∀ uid, p.authorize uid = if uids = [] ∨ uid ∈ uids then .ok ()
    else .error (.connectionRejected uid)

/-- The policy of a list follows the list. -/
theorem follows_ofList (uids : List UserId) : (ofList uids).Follows uids := by
  intro uid
  have hgate : ((ofList uids).allowed.isEmpty || (search (ofList uids).allowed uid).isSome) = true
      ↔ uids = [] ∨ uid ∈ uids := by
    rw [Bool.or_eq_true, List.isEmpty_iff, ofList, isSome_search_iff (pairwise_sortedSet uids),
      sortedSet_eq_nil_iff, mem_sortedSet]
  rw [authorize]
  by_cases h : uids = [] ∨ uid ∈ uids
  · rw [if_pos (hgate.mpr h), if_pos h]
  · rw [if_neg (mt hgate.mp h), if_neg h]

/-- Two lists make the same policy exactly if they have the same members. -/
theorem ofList_eq_iff {uids uids' : List UserId} :
    ofList uids = ofList uids' ↔ ∀ uid, uid ∈ uids ↔ uid ∈ uids' := by
  rw [ofList, ofList, ConnectPolicy.mk.injEq, sortedSet_eq_iff]

/-- Everybody may connect exactly if the list is empty. -/
theorem ofList_eq_permissive_iff {uids : List UserId} : ofList uids = permissive ↔ uids = [] := by
  rw [ofList, permissive, ConnectPolicy.mk.injEq, sortedSet_eq_nil_iff]

/-- Putting a list in order before the policy is made changes nothing. -/
theorem ofList_sortedSet (uids : List UserId) : ofList (sortedSet uids) = ofList uids :=
  ofList_eq_iff.mpr fun _ => mem_sortedSet

end ConnectPolicy

/-! ## Documents -/

/-- The keys of the channel section. -/
def channelKeys : List String := channelFields.map Field.key

/-- The value that the allow-list is read from, if the document gives one. -/
def allowListOf (entries : Entries) : Option Value := do
  let channel ← entries.get? "channel"
  let entries ← channel.entriesFor channelKeys
  entries.get? "allowed_uids"

/-- The document names these users under `channel.allowed_uids`, in this order. -/
def Allows (entries : Entries) (uids : List UserId) : Prop :=
  ∃ form, allowListOf entries = some (.array form (uids.map fun uid => .integer uid.toNat))

/-- An item that is read as a user is the number of that user. -/
theorem eq_of_readUid {v : Value} {uid : UserId} (h : readUid v = .ok uid) :
    v = .integer uid.toNat := by
  obtain ⟨n, hn, rfl⟩ := map_eq_ok_iff.mp h
  cases v with
  | integer m =>
    rw [readNat] at hn
    split at hn
    · next hrange =>
      cases hn
      have hlt : m.toNat < UInt32.size := by
        have hhigh := hrange.2
        rw [UInt32.size] at hhigh ⊢
        omega
      have hback : m.toNat.toUInt32.toNat = m.toNat := UInt32.toNat_ofNat_of_lt hlt
      rw [hback, Int.toNat_of_nonneg hrange.1]
    · cases hn
  | _ => cases hn

/-- Items that are read as users are the numbers of these users. -/
theorem eq_of_readItems_readUid {i : Nat} {items : List Value} {uids : List UserId}
    (h : readItems readUid i items = .ok uids) :
    items = uids.map fun uid => .integer uid.toNat := by
  induction items generalizing i uids with
  | nil =>
    cases h
    rfl
  | cons v items ih =>
    rw [readItems] at h
    obtain ⟨uid, huid, h⟩ := bind_eq_ok_iff.mp h
    obtain ⟨rest, hrest, h⟩ := bind_eq_ok_iff.mp h
    cases h
    rw [List.map_cons, ← ih hrest, ← eq_of_readUid (mapError_eq_ok_iff.mp huid)]

/-- What can be read as a list of users is a list of their numbers. -/
theorem readList_readUid_eq_ok_iff {v : Value} {uids : List UserId} :
    readList readUid v = .ok uids
      ↔ ∃ form, v = .array form (uids.map fun uid => .integer uid.toNat) := by
  constructor
  · intro h
    cases v with
    | array form items => exact ⟨form, congrArg _ (eq_of_readItems_readUid h)⟩
    | _ => cases h
  · rintro ⟨form, rfl⟩
    exact readItems_map readUid_toNat 0 uids

/-- **What a document that is accepted says of the users is what its settings hold**, put in
order. -/
theorem allowedUids_of_readSettings {m : Manner} (hm : m.Lawful) {entries : Entries}
    (hentries : entries.Sound) {c : Settings} (h : readSettings m entries = .ok c) :
    (∀ v, allowListOf entries = some v →
      ∃ uids, readList readUid v = .ok uids ∧ c.channel.allowedUids = sortedSet uids)
    ∧ (allowListOf entries = none → c.channel.allowedUids = []) := by
  have hread := hm.toOption_readSettings hentries.keys
  rw [toOption_eq_some_iff.mpr h] at hread
  obtain ⟨s, hs, rfl⟩ := Option.map_eq_some_iff.mp hread.symm
  have hchannel := (consult_sectionFields_iff.mp hs).1
  have hset : s.normalized.channel.allowedUids = sortedSet s.channel.allowedUids := rfl
  have hnobody : sortedSet [] = [] := sortedSet_eq_nil_iff.mpr rfl
  rw [hset, allowListOf]
  cases hget : entries.get? "channel" with
  | none =>
    rw [hget] at hchannel
    have hdefault : s.channel = {} := hchannel
    rw [hdefault]
    exact ⟨fun v hv => absurd hv (Option.some_ne_none v).symm, fun _ => hnobody⟩
  | some v =>
    rw [hget] at hchannel
    have hgroup := toOption_eq_some_iff.mpr hchannel
    rw [hm.toOption_readGroup independent_channelFields _ _ (hentries.of_lookup hget)] at hgroup
    obtain ⟨inner, hinner, hconsult⟩ := Option.bind_eq_some_iff.mp hgroup
    have hinner : v.entriesFor channelKeys = some inner := hinner
    have huids := (consult_channelFields_iff.mp hconsult).2.2.2
    simp only [Option.bind_eq_bind, Option.bind_some, hinner]
    constructor
    · intro v hv
      rw [hv] at huids
      exact ⟨_, huids, rfl⟩
    · intro hv
      rw [hv] at huids
      exact (congrArg sortedSet huids).trans hnobody

/-! ## From a document to a policy -/

/-- Every server that is made from these settings lets users in as the list says. -/
def Settings.AdmitBy (c : Settings) (uids : List UserId) : Prop :=
  ∀ files server files', Server.ofSettings files c.channel = .ok (server, files') →
    server.policy.Follows uids

/-- A server gets the policy of its settings. -/
theorem Server.policy_of_ofSettings {files files' : Files} {s : ChannelSettings} {server : Server}
    (h : Server.ofSettings files s = .ok (server, files')) :
    server.policy = .ofList s.allowedUids := by
  rw [Server.ofSettings, Server.bind, mapError_eq_ok_iff] at h
  obtain ⟨_, _, h⟩ := bind_eq_ok_iff.mp h
  obtain ⟨_, _, h⟩ := bind_eq_ok_iff.mp h
  obtain ⟨_, _, h⟩ := bind_eq_ok_iff.mp h
  obtain ⟨_, _, h⟩ := bind_eq_ok_iff.mp h
  cases h
  rfl

/-- Settings that were read admit whom their document allows. -/
theorem admitBy_of_readSettings {m : Manner} (hm : m.Lawful) {entries : Entries}
    (hentries : entries.Sound) {c : Settings} (h : readSettings m entries = .ok c)
    {uids : List UserId} (hallows : Allows entries uids) : c.AdmitBy uids := by
  obtain ⟨form, hlist⟩ := hallows
  obtain ⟨uids', hread, hset⟩ := (allowedUids_of_readSettings hm hentries h).1 _ hlist
  have hsame : uids' = uids := by
    have hread' := readItems_map readUid_toNat 0 uids
    exact Except.ok.inj (hread.symm.trans hread')
  intro files server files' hserver
  rw [Server.policy_of_ofSettings hserver, hset, hsame, ConnectPolicy.ofList_sortedSet]
  exact ConnectPolicy.follows_ofList uids

/-- A document that was read allows a list of users, if it says anything about it. -/
theorem exists_allows_of_readSettings {m : Manner} (hm : m.Lawful) {entries : Entries}
    (hentries : entries.Sound) {c : Settings} (h : readSettings m entries = .ok c) {v : Value}
    (hlist : allowListOf entries = some v) : ∃ uids, Allows entries uids := by
  obtain ⟨uids, hread, -⟩ := (allowedUids_of_readSettings hm hentries h).1 v hlist
  obtain ⟨form, rfl⟩ := readList_readUid_eq_ok_iff.mp hread
  exact ⟨uids, form, hlist⟩

/-- **The allow-list means what it lists**, in any order and with any repetitions.

* The policy of a list lets in those that the list names, and everybody if it names nobody;
  whoever else comes is rejected by number.  Two lists give the same policy exactly if they name
  the same users, and only the empty list gives the permissive one.
* Where a text is accepted and names users, its servers let users in as it says.
* So they do for a file, if the list is read off its document once the tables are unwrapped,
  which is the document itself where no key is reserved.
* Whatever stands for the allow-list in a document that is accepted is such a list of users. -/
theorem allowList_as_listed (uids : List UserId) :
    (ConnectPolicy.ofList uids).Follows uids
    ∧ (∀ uids', ConnectPolicy.ofList uids' = .ofList uids ↔ ∀ uid, uid ∈ uids' ↔ uid ∈ uids)
    ∧ (ConnectPolicy.ofList uids = .permissive ↔ uids = [])
    ∧ (∀ text entries c, Toml.parse text = some entries → Settings.ofText text = .ok c →
        (Allows entries uids → c.AdmitBy uids)
        ∧ ∀ v, allowListOf entries = some v → ∃ uids, Allows entries uids)
    ∧ ∀ (f : Files) p place mode text entries c,
        f.find p = .ok (place, ⟨.regular (Utf8.encode text.toList), mode⟩) →
        Toml.parse text = some entries →
        Settings.load f p = .ok c →
        (∃ unwrapped, unwrapDocument entries = .ok unwrapped
          ∧ (Allows unwrapped uids → c.AdmitBy uids)
          ∧ ∀ v, allowListOf unwrapped = some v → ∃ uids, Allows unwrapped uids)
        ∧ (entries.Unreserved → Allows entries uids → c.AdmitBy uids) := by
  refine ⟨ConnectPolicy.follows_ofList uids, fun _ => ConnectPolicy.ofList_eq_iff,
    ConnectPolicy.ofList_eq_permissive_iff, ?text, ?file⟩
  case text =>
    intro text entries c hparse htext
    obtain ⟨entries', hparse', hread⟩ := ofText_eq_ok_iff.mp htext
    cases hparse.symm.trans hparse'
    have hsound : entries.Sound := Toml.sound_of_parse hparse
    exact ⟨admitBy_of_readSettings lawful_text hsound hread,
      fun v => exists_allows_of_readSettings lawful_text hsound hread⟩
  case file =>
    intro f p place mode text entries c hfile hparse hload
    obtain ⟨entries', unwrapped, hparse', hunwrap, hread, -⟩ := (load_eq_ok_iff hfile).mp hload
    cases hparse.symm.trans hparse'
    have hsound : unwrapped.Sound := (unwrapDocument_sound (Toml.sound_of_parse hparse) hunwrap).1
    refine ⟨⟨unwrapped, hunwrap, admitBy_of_readSettings lawful_text hsound hread,
      fun v => exists_allows_of_readSettings lawful_text hsound hread⟩, fun hfree => ?_⟩
    cases (unwrapDocument_eq hfree).symm.trans hunwrap
    exact admitBy_of_readSettings lawful_text hsound hread

/-- A list out of order and with a repetition lets in its two users, and nobody else, whether it
is read from a text or from a file. -/
theorem allowList_as_listed_repeated : ∃ c server files,
    Settings.ofText "[channel]\nsocket_path = 's'\nallowed_uids = [1000, 0, 1000]\n" = .ok c
    ∧ Settings.load
        (oneFile "[channel]\nsocket_path = 's'\nallowed_uids = [1000, 0, 1000]\n") onePath = .ok c
    ∧ Server.ofSettings {} c.channel = .ok (server, files)
    ∧ server.policy.authorize 0 = .ok () ∧ server.policy.authorize 1000 = .ok ()
    ∧ server.policy.authorize 1001 = .error (.connectionRejected 1001)
    ∧ c.AdmitBy [1000, 0, 1000] := by
  have hparse : Toml.parse "[channel]\nsocket_path = 's'\nallowed_uids = [1000, 0, 1000]\n"
      = some [("channel", .table [("socket_path", .string "s"),
        ("allowed_uids", .array .bracketed [.integer 1000, .integer 0, .integer 1000])])] := by cbv
  have htext : Settings.ofText "[channel]\nsocket_path = 's'\nallowed_uids = [1000, 0, 1000]\n"
      = .ok (Settings.normalized
        { channel := { socketPath := .ofString "s", allowedUids := [1000, 0, 1000] } }) :=
    ofText_eq_ok_iff.mpr ⟨_, hparse, rfl⟩
  have hload : Settings.load (oneFile
      "[channel]\nsocket_path = 's'\nallowed_uids = [1000, 0, 1000]\n") onePath
      = .ok (Settings.normalized
        { channel := { socketPath := .ofString "s", allowedUids := [1000, 0, 1000] } }) := by
    refine (load_eq_ok_iff (find_oneFile _)).mpr ⟨_, _, hparse, rfl, rfl, ?_⟩
    intro form items hfilter
    cases hfilter
  let channel : ChannelSettings :=
    { socketPath := .ofString "s", allowedUids := sortedSet [1000, 0, 1000] }
  have hbinds : (Server.ofSettings {} channel).toOption.isSome = true := by decide +kernel
  obtain ⟨⟨server, files⟩, hbound⟩ := Option.isSome_iff_exists.mp hbinds
  have hserver := toOption_eq_some_iff.mp hbound
  have hfollows := ((allowList_as_listed [1000, 0, 1000]).2.2.2.1 _ _ _ hparse htext).1 ⟨_, rfl⟩
  obtain ⟨unwrapped, hunwrap, hadmit, -⟩ :=
    ((allowList_as_listed [1000, 0, 1000]).2.2.2.2 _ _ _ _ _ _ _ (find_oneFile _) hparse hload).1
  cases hunwrap
  refine ⟨_, server, files, htext, hload, hserver, ?_, ?_, ?_, hadmit ⟨_, rfl⟩⟩
  · exact hfollows {} _ _ hserver 0
  · exact hfollows {} _ _ hserver 1000
  · exact hfollows {} _ _ hserver 1001

/-- A list that is written in a file and hidden is lost, and then everybody is let in. -/
theorem not_allowList_as_written : ∃ entries c server files,
    Toml.parse hidingText = some entries ∧ Allows entries [1000]
    ∧ Settings.load (oneFile hidingText) onePath = .ok c
    ∧ Server.ofSettings {} c.channel = .ok (server, files)
    ∧ server.policy = .permissive ∧ ¬ c.AdmitBy [1000] := by
  have hbinds : (Server.ofSettings {} { allowedUids := sortedSet [] }).toOption.isSome = true := by
    decide +kernel
  obtain ⟨⟨server, files⟩, hbound⟩ := Option.isSome_iff_exists.mp hbinds
  have hserver := toOption_eq_some_iff.mp hbound
  have hpermissive : server.policy = .permissive := (Server.policy_of_ofSettings hserver).trans
    (ConnectPolicy.ofList_eq_permissive_iff.mpr (sortedSet_eq_nil_iff.mpr rfl))
  refine ⟨_, _, server, files, parse_hidingText, ⟨_, rfl⟩, load_hidingText, hserver, hpermissive,
    fun hadmit => ?_⟩
  have hrejected : server.policy.authorize 1001 = .error (.connectionRejected 1001) :=
    hadmit {} _ _ hserver 1001
  have hadmitted := congrArg (ConnectPolicy.authorize · 1001) hpermissive
  cases hadmitted.symm.trans hrejected

end FileActivity
