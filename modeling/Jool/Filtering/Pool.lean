-- SUMMARY: The IPv4 transport addresses bib_session_create takes from the pool: runs that log the BIBs they create, every entry drawn held by its own logged BIB, live or freed by the reaper, which gives none back; and the port a new BIB records is the pool entry's, whatever the inside port.
import Jool.Filtering.Keys

/-!
# The transport-address pool

`bib_session_create` asks `get_tranport_addr(&free_udp_transport_addr)` for the local IPv4
transport address of each new BIB. Nothing in the header gives an entry back: when the reaper
frees a BIB it unlinks it and returns its memory to the `kmem_cache`, and its address is not
returned to the pool. A `LoggedRun` is a run together with the log of the BIBs its calls of
`bib_session_create` create, each with its id and keys; `CreatedHeld` says where every entry
drawn so far has gone: to its own logged BIB, live or freed since (`bib_pool_accounting`).

A new BIB's local port is `ntohs` of the pool entry's port; the inside port plays no part in it
(`bib_session_create_ports`).
-/

open scoped List

namespace Jool.Filtering

-- ---------------------------------------------------------------------------
-- Byte order
-- ---------------------------------------------------------------------------

theorem toNat_ntohs (x : UInt16) : (ntohs x).toNat = x.toNat % 256 * 256 + x.toNat / 256 % 256 :=
  UInt16.toNat_ofNat_of_lt (show x.toNat % 256 * 256 + x.toNat / 256 % 256 < 65536 by omega)

@[simp] theorem ntohs_ntohs (x : UInt16) : ntohs (ntohs x) = x := by
  have hx : x.toNat < 65536 := x.toBitVec.isLt
  have hhi : x.toNat / 256 < 256 := by omega
  have hlo : (x.toNat % 256 * 256 + x.toNat / 256) % 256 = x.toNat / 256 := by omega
  have hhi' : (x.toNat % 256 * 256 + x.toNat / 256) / 256 = x.toNat % 256 := by omega
  apply UInt16.toNat.inj
  rw [toNat_ntohs, toNat_ntohs, Nat.mod_eq_of_lt hhi, hlo, hhi', Nat.mod_mod]
  omega

-- ---------------------------------------------------------------------------
-- Runs with their log of created BIBs
-- ---------------------------------------------------------------------------

/-- The local IPv4 transport address a pool entry gives a BIB, as the BIB stores it. -/
def TransportAddr.held (a : TransportAddr) : UInt32 × UInt16 := (a.address, ntohs a.port)

/-- The local IPv4 transport address of a BIB. -/
def BibKeys.local4 (k : BibKeys) : UInt32 × UInt16 := (k.local4Addr, k.local4Port)

/-- Calls of `bib_session_create` on which `get_tranport_addr` returns an entry. -/
def drawsEntry : Store → In6Addr → UInt16 → Int → Option TransportAddr → Prop :=
  fun _ _ _ _ ta => ta.isSome

/-- A step of a run that creates no BIB. -/
inductive QuietStep (tick : Store → Nat → Prop) : Store → Store → Prop where
  | sessionCreate {st : Store} (bib : Nat) (in6Daddr : In6Addr) (addr : UInt32) (port : UInt16)
      (type : ExpiryType) (allocOk : Bool) :
      bib ∈ st.bibIds → QuietStep tick st (sessionCreate st bib in6Daddr addr port type allocOk).2
  | sessionRenew {st : Store} (session : Nat) (type : ExpiryType) :
      session ∈ st.sessionIds → QuietStep tick st (sessionRenew st session type)
  | tcp4Fsm {st : Store} (session : Nat) (tcph : TcpFlags) :
      session ∈ st.sessionIds → QuietStep tick st (tcp4Fsm st session tcph)
  | tcp6Fsm {st : Store} (session : Nat) (tcph : TcpFlags) :
      session ∈ st.sessionIds → QuietStep tick st (tcp6Fsm st session tcph)
  | tcpTimeoutFsm {st : Store} (session : Nat) :
      session ∈ st.sessionIds → QuietStep tick st (tcpTimeoutFsm st session).2
  | cleanExpiredSessions {st : Store} (queue : ExpiryType) :
      QuietStep tick st (cleanExpiredSessions st queue)
  | tick {st : Store} (d : Nat) : tick st d → QuietStep tick st (st.tick d)

/-- A run with the log of the BIBs its calls of `bib_session_create` create, in order: the id each
    is allocated at and the keys it is given. -/
inductive LoggedRun (create : Store → In6Addr → UInt16 → Int → Option TransportAddr → Prop)
    (tick : Store → Nat → Prop) : Store → List TransportAddr → List (Nat × BibKeys) → Prop where
  | init (timeout : ExpiryType → Int) (hz longBits jiffies next : Nat) :
      jiffies < 2 ^ longBits →
      LoggedRun create tick (Store.init timeout hz longBits jiffies next) [] []
  | bibSessionCreate {st : Store} {drawn : List TransportAddr} {created : List (Nat × BibKeys)}
      (saddr in6Daddr : In6Addr) (daddr : UInt32) (sport dport : UInt16) (protocol : Int)
      (type : ExpiryType) (ta : Option TransportAddr) :
      LoggedRun create tick st drawn created → create st saddr sport protocol ta →
      LoggedRun create tick
        (bibSessionCreate st saddr in6Daddr daddr sport dport protocol type ta true true).2
        (drawn ++ ta.toList) (created ++ [(st.next, (createdBib saddr sport protocol ta).keys)])
  | quiet {st st' : Store} {drawn : List TransportAddr} {created : List (Nat × BibKeys)} :
      LoggedRun create tick st drawn created → QuietStep tick st st' →
      LoggedRun create tick st' drawn created

section Logged

variable {create : Store → In6Addr → UInt16 → Int → Option TransportAddr → Prop}
  {tick : Store → Nat → Prop} {st st' : Store} {drawn : List TransportAddr}
  {created : List (Nat × BibKeys)}

theorem QuietStep.reach (hr : Reach create tick st drawn) (hs : QuietStep tick st st') :
    Reach create tick st' drawn := by
  cases hs with
  | sessionCreate bib in6Daddr addr port type allocOk hb =>
    exact hr.sessionCreate bib in6Daddr addr port type allocOk hb
  | sessionRenew s type hs => exact hr.sessionRenew s type hs
  | tcp4Fsm s tcph hs => exact hr.tcp4Fsm s tcph hs
  | tcp6Fsm s tcph hs => exact hr.tcp6Fsm s tcph hs
  | tcpTimeoutFsm s hs => exact hr.tcpTimeoutFsm s hs
  | cleanExpiredSessions q => exact hr.cleanExpiredSessions q
  | tick d hd => exact hr.tick d hd

theorem QuietStep.shrinks (hs : QuietStep tick st st') : Shrinks st st' := by
  cases hs with
  | sessionCreate bib in6Daddr addr port type allocOk _ =>
    exact shrinks_sessionCreate _ bib in6Daddr addr port type allocOk
  | sessionRenew s type _ => exact shrinks_sessionRenew _ s type
  | tcp4Fsm s tcph _ => exact shrinks_fsmEffect (tcp4Fsm_effect _ s tcph)
  | tcp6Fsm s tcph _ => exact shrinks_fsmEffect (tcp6Fsm_effect _ s tcph)
  | tcpTimeoutFsm s _ => exact shrinks_fsmEffect (tcpTimeoutFsm_effect _ s)
  | cleanExpiredSessions q => exact shrinks_cleanLoop _ q
  | tick d _ => exact .of_keyed le_rfl rfl

/-- A logged run is a run. -/
theorem LoggedRun.reach (hr : LoggedRun create tick st drawn created) :
    Reach create tick st drawn := by
  induction hr with
  | init timeout hz longBits jiffies next h => exact .init timeout hz longBits jiffies next h
  | bibSessionCreate saddr in6Daddr daddr sport dport protocol type ta _ hc ih =>
    exact ih.bibSessionCreate saddr in6Daddr daddr sport dport protocol type ta hc
  | quiet _ hs ih => exact hs.reach ih

/-- Every run has its log. -/
theorem Reach.logged (hr : Reach create tick st drawn) :
    ∃ created, LoggedRun create tick st drawn created := by
  induction hr with
  | init timeout hz longBits jiffies next h => exact ⟨[], .init timeout hz longBits jiffies next h⟩
  | bibSessionCreate saddr in6Daddr daddr sport dport protocol type ta _ hc ih =>
    obtain ⟨created, h⟩ := ih
    exact ⟨_, h.bibSessionCreate saddr in6Daddr daddr sport dport protocol type ta hc⟩
  | sessionCreate bib in6Daddr addr port type allocOk _ hb ih =>
    exact ih.imp fun _ h => h.quiet (.sessionCreate bib in6Daddr addr port type allocOk hb)
  | sessionRenew s type _ hs ih => exact ih.imp fun _ h => h.quiet (.sessionRenew s type hs)
  | tcp4Fsm s tcph _ hs ih => exact ih.imp fun _ h => h.quiet (.tcp4Fsm s tcph hs)
  | tcp6Fsm s tcph _ hs ih => exact ih.imp fun _ h => h.quiet (.tcp6Fsm s tcph hs)
  | tcpTimeoutFsm s _ hs ih => exact ih.imp fun _ h => h.quiet (.tcpTimeoutFsm s hs)
  | cleanExpiredSessions q _ ih => exact ih.imp fun _ h => h.quiet (.cleanExpiredSessions q)
  | tick d _ hd ih => exact ih.imp fun _ h => h.quiet (.tick d hd)

/-- The BIBs the sample run creates: the TCP one at 0 and the UDP ones at 2 and 4. -/
def sampleCreated : List (Nat × BibKeys) :=
  [(0, (createdBib sampleRemote6 1000 6 (some ⟨sampleLocal4, 4⟩)).keys),
    (2, (createdBib sampleRemote6 2000 17 (some ⟨sampleLocal4, 516⟩)).keys),
    (4, (createdBib sampleRemote6 2001 17 (some ⟨sampleLocal4, 1028⟩)).keys)]

theorem LoggedRun.sample :
    LoggedRun drawsEntry anyTick (sampleStore 9) sampleDrawn sampleCreated := by
  have r1 : LoggedRun drawsEntry anyTick (sampleStore 1) [⟨sampleLocal4, 4⟩] (sampleCreated.take 1) :=
    (LoggedRun.init _ _ _ _ _ (by decide)).bibSessionCreate sampleRemote6 sampleEmbedded6
      sampleRemote4 1000 80 6 .tcpTrans _ rfl
  have r3 : LoggedRun drawsEntry anyTick (sampleStore 3) [⟨sampleLocal4, 4⟩] (sampleCreated.take 1) :=
    (r1.quiet (.tcp6Fsm 1 ⟨true, false, false⟩ (by decide))).quiet
      (.tcp4Fsm 1 ⟨true, false, false⟩ (by decide))
  have r4 : LoggedRun drawsEntry anyTick (sampleStore 4) [⟨sampleLocal4, 4⟩, ⟨sampleLocal4, 516⟩]
      (sampleCreated.take 2) :=
    r3.bibSessionCreate sampleRemote6 sampleEmbedded6 sampleRemote4 2000 53 17 .udpDefault _ rfl
  have r6 : LoggedRun drawsEntry anyTick (sampleStore 6) sampleDrawn sampleCreated :=
    (r4.quiet (.tick 1000 trivial)).bibSessionCreate sampleRemote6 sampleEmbedded6 sampleRemote4
      2001 53 17 .udpDefault _ rfl
  exact ((r6.quiet (.sessionCreate 4 ⟨0x0064ff9b, 0, 0, 0xCB007107⟩ 0xCB007107 53 .udpDefault true
    (by decide))).quiet (.tick 299500 trivial)).quiet (.cleanExpiredSessions .udpDefault)

end Logged

-- ---------------------------------------------------------------------------
-- The BIBs a run creates
-- ---------------------------------------------------------------------------

theorem Store.map_fst_keyed (st : Store) : st.keyed.map (·.1) = st.bibIds := by
  simp only [Store.keyed, Store.bibIds, List.map_map]
  rfl

/-- The BIBs a run has created: distinct ids below the next allocation, the live BIBs among them
    with the keys they were created with, the others no longer live; and the entries drawn are,
    in order, the local IPv4 transport addresses they were given. -/
structure CreatedHeld (st : Store) (drawn : List TransportAddr) (created : List (Nat × BibKeys)) :
    Prop where
  ids_nodup : (created.map (·.1)).Nodup
  lt_next : ∀ p ∈ created, p.1 < st.next
  drawn_eq : drawn.map TransportAddr.held = created.map (·.2.local4)
  live_freed : ∃ freed, st.keyed ++ freed ~ created ∧ ∀ p ∈ freed, p.1 ∉ st.bibIds

namespace CreatedHeld

variable {st st' : Store} {drawn : List TransportAddr} {created : List (Nat × BibKeys)}

theorem init (timeout : ExpiryType → Int) (hz longBits jiffies next : Nat) :
    CreatedHeld (Store.init timeout hz longBits jiffies next) [] [] :=
  ⟨List.nodup_nil, fun _ hp => (List.not_mem_nil _ hp).elim, rfl,
    [], .refl _, fun _ hp => (List.not_mem_nil _ hp).elim⟩

/-- A step that creates no BIB: the BIBs it removes are no longer live. -/
theorem shrink (h : CreatedHeld st drawn created) (hok : StoreOk st) (hs : Shrinks st st') :
    CreatedHeld st' drawn created := by
  obtain ⟨freed, hperm, hfreed⟩ := h.live_freed
  obtain ⟨hn, removed, hr⟩ := hs
  have hids : st'.bibIds ++ removed.map (·.1) ~ st.bibIds := by
    simpa only [List.map_append, Store.map_fst_keyed] using hr.map (·.1)
  have hnd := hids.nodup_iff.2 hok.bibIds_nodup
  refine ⟨h.ids_nodup, fun p hp => lt_of_lt_of_le (h.lt_next p hp) hn, h.drawn_eq,
    removed ++ freed, ?_, fun p hp hlive => ?_⟩
  · rw [← List.append_assoc]
    exact (hr.append_right freed).trans hperm
  rcases List.mem_append.1 hp with hp | hp
  · -- a removed BIB's id is on no live BIB after the step
    exact List.disjoint_of_nodup_append hnd hlive (List.mem_map_of_mem _ hp)
  · -- a BIB freed earlier stays freed
    exact hfreed p hp (hids.subset (List.mem_append_left _ hlive))

/-- A `bib_session_create` that draws an entry: the new BIB is logged, live, with that entry. -/
theorem bibSessionCreate (h : CreatedHeld st drawn created) (hok : StoreOk st)
    (saddr in6Daddr : In6Addr) (daddr : UInt32) (sport dport : UInt16) (protocol : Int)
    (type : ExpiryType) (a : TransportAddr) :
    CreatedHeld (Filtering.bibSessionCreate st saddr in6Daddr daddr sport dport protocol type
        (some a) true true).2 (drawn ++ [a])
      (created ++ [(st.next, (createdBib saddr sport protocol (some a)).keys)]) := by
  obtain ⟨freed, hperm, hfreed⟩ := h.live_freed
  have hnext : st.next ∉ st.bibIds := fun hn => Nat.lt_irrefl _ (hok.bib_lt _ hn)
  have hkeyed := keyed_bibSessionCreate hnext saddr in6Daddr daddr sport dport protocol type (some a)
  have hids : (Filtering.bibSessionCreate st saddr in6Daddr daddr sport dport protocol type
      (some a) true true).2.bibIds = st.bibIds ++ [st.next] := by
    rw [← Store.map_fst_keyed, hkeyed, List.map_append, Store.map_fst_keyed]
    rfl
  refine ⟨?_, fun p hp => ?_, ?_, freed, ?_, fun p hp => ?_⟩
  · rw [List.map_append]
    exact nodup_append_singleton h.ids_nodup fun hn => by
      obtain ⟨p, hp, hpn⟩ := List.mem_map.1 hn
      exact Nat.lt_irrefl _ (hpn ▸ h.lt_next p hp)
  · rw [next_bibSessionCreate hnext]
    rcases List.mem_append.1 hp with hp | hp
    · exact Nat.lt_add_right 2 (h.lt_next p hp)
    · rw [List.mem_singleton.1 hp]
      omega
  · rw [List.map_append, List.map_append, h.drawn_eq]
    rfl
  · rw [hkeyed, List.append_assoc]
    exact (List.perm_append_comm.append_left st.keyed).trans
      (by rw [← List.append_assoc]; exact hperm.append_right _)
  · -- a freed BIB's id is below the new one
    have hlt := h.lt_next p (hperm.subset (List.mem_append_right _ hp))
    rw [hids, List.mem_append, List.mem_singleton, not_or]
    exact ⟨hfreed p hp, Nat.ne_of_lt hlt⟩

/-- The logged BIBs are the live ones, with their keys, and those no longer live. -/
theorem live_split (h : CreatedHeld st drawn created) :
    st.keyed ++ created.filter (fun p => p.1 ∉ st.bibIds) ~ created := by
  obtain ⟨freed, hperm, hfreed⟩ := h.live_freed
  -- the logged BIBs that are not live are the freed ones
  have hk : st.keyed.filter (fun p => decide (p.1 ∉ st.bibIds)) = [] :=
    List.filter_eq_nil_iff.2 fun p hp => by
      simpa using Store.map_fst_keyed st ▸ List.mem_map_of_mem (·.1) hp
  have hfr : freed.filter (fun p => decide (p.1 ∉ st.bibIds)) = freed :=
    List.filter_eq_self.2 fun p hp => by simp [hfreed p hp]
  have hf := hperm.symm.filter (fun p => decide (p.1 ∉ st.bibIds))
  rw [List.filter_append, hk, hfr, List.nil_append] at hf
  exact (hf.append_left st.keyed).trans hperm

end CreatedHeld

/-- Along a run in which the pool has an entry for every `bib_session_create`, the log accounts
    for the entries drawn. -/
theorem LoggedRun.createdHeld {tick : Store → Nat → Prop} {st : Store}
    {drawn : List TransportAddr} {created : List (Nat × BibKeys)}
    (hr : LoggedRun drawsEntry tick st drawn created) : CreatedHeld st drawn created := by
  induction hr with
  | init timeout hz longBits jiffies next _ => exact .init timeout hz longBits jiffies next
  | bibSessionCreate saddr in6Daddr daddr sport dport protocol type ta hr hc ih =>
    obtain ⟨a, rfl⟩ := Option.isSome_iff_exists.1 hc
    exact ih.bibSessionCreate hr.reach.storeOk saddr in6Daddr daddr sport dport protocol type a
  | quiet hr hs ih => exact ih.shrink hr.reach.storeOk hs.shrinks

/-- When the pool has an entry for every `bib_session_create`, the entries drawn are, in order,
    the local IPv4 transport addresses of the BIBs the run created. These have distinct ids below
    the next allocation; the live BIBs are among them with the keys they were created with, and
    the others are no longer live. So the entries drawn are, as a multiset, those of the live
    BIBs and one for each BIB freed since: a freed BIB's entry is never given back. -/
theorem bib_pool_accounting {tick : Store → Nat → Prop} {st : Store} {drawn : List TransportAddr}
    {created : List (Nat × BibKeys)} (hr : LoggedRun drawsEntry tick st drawn created) :
    (created.map (·.1)).Nodup ∧ (∀ p ∈ created, p.1 < st.next) ∧
    st.keyed ++ created.filter (fun p => p.1 ∉ st.bibIds) ~ created ∧
    drawn.map TransportAddr.held = created.map (·.2.local4) ∧
    drawn.map TransportAddr.held ~
      st.bibs.map (fun p => (p.2.local4Addr, p.2.local4Port)) ++
        (created.filter fun p => p.1 ∉ st.bibIds).map (·.2.local4) := by
  have h := hr.createdHeld
  refine ⟨h.ids_nodup, h.lt_next, h.live_split, h.drawn_eq, ?_⟩
  rw [h.drawn_eq]
  simpa only [List.map_append, Store.keyed, List.map_map] using (h.live_split.map (·.2.local4)).symm

theorem bib_pool_accounting_sample :
    LoggedRun drawsEntry anyTick (sampleStore 9) sampleDrawn sampleCreated ∧
    (sampleCreated.map (·.1)).Nodup ∧ (∀ p ∈ sampleCreated, p.1 < (sampleStore 9).next) ∧
    (sampleStore 9).keyed ++ sampleCreated.filter (fun p => p.1 ∉ (sampleStore 9).bibIds) ~
      sampleCreated ∧
    sampleDrawn.map TransportAddr.held = sampleCreated.map (·.2.local4) ∧
    sampleDrawn.map TransportAddr.held ~
      (sampleStore 9).bibs.map (fun p => (p.2.local4Addr, p.2.local4Port)) ++
        (sampleCreated.filter fun p => p.1 ∉ (sampleStore 9).bibIds).map (·.2.local4) :=
  ⟨LoggedRun.sample, bib_pool_accounting LoggedRun.sample⟩

/-- The entries drawn are not those the live BIBs hold: a BIB the reaper frees keeps its entry
    out of the pool. One `bib_session_create` draws an entry, its session expires, and a pass of
    `clean_expired_sessions` frees the BIB. -/
theorem bib_pool_leaks :
    ¬ ∀ (st : Store) (drawn : List TransportAddr), Reach anyCreate anyTick st drawn →
      drawn.map (fun a => (a.address, ntohs a.port)) ~
        st.bibs.map (fun p => (p.2.local4Addr, p.2.local4Port)) := by
  intro H
  have hr1 : Reach anyCreate anyTick
      (bibSessionCreate (Store.init (fun _ => 300) 1000 32 0 0) ⟨0, 0, 0, 0⟩ ⟨0, 0, 0, 0⟩ 0 0 0 6
        .udpDefault (some ⟨1, 0⟩) true true).2 [⟨1, 0⟩] :=
    .bibSessionCreate _ _ _ _ _ _ _ _ (.init _ _ _ _ _ (by decide)) trivial
  have hr2 := Reach.cleanExpiredSessions .udpDefault (Reach.tick 300001 hr1 trivial)
  have hfreed := H _ _ hr2
  rw [cleanExpiredSessions, cleanLoop] at hfreed
  exact absurd hfreed (by decide)

-- ---------------------------------------------------------------------------
-- The port of a new BIB
-- ---------------------------------------------------------------------------

/-- What a successful `bib_session_create` records when `get_tranport_addr` returns an entry: the
    new BIB keeps the inside port as it is, and its local port, read in host order, is the pool
    entry's port, whatever the inside port; its session carries the same ports. -/
theorem bib_session_create_ports
    {create : Store → In6Addr → UInt16 → Int → Option TransportAddr → Prop}
    {tick : Store → Nat → Prop} {st : Store} {drawn : List TransportAddr}
    (hr : Reach create tick st drawn) (saddr in6Daddr : In6Addr) (daddr : UInt32)
    (sport dport : UInt16) (protocol : Int) (type : ExpiryType) (a : TransportAddr) :
    (bibSessionCreate st saddr in6Daddr daddr sport dport protocol type (some a) true true).1 =
      some st.next ∧
    ∃ e, (bibSessionCreate st saddr in6Daddr daddr sport dport protocol type (some a) true
        true).2.bib? st.next = some e ∧
      e.remote6Port = sport ∧ ntohs e.local4Port = a.port ∧
      ∀ s ∈ e.sessions, ∀ se, (bibSessionCreate st saddr in6Daddr daddr sport dport protocol type
          (some a) true true).2.session? s = some se →
        se.remote6Port = e.remote6Port ∧ se.local4Port = e.local4Port := by
  have hok := hr.storeOk
  have hok' := hok.bibSessionCreate saddr in6Daddr daddr sport dport protocol type (some a)
  have hnext : st.next ∉ st.bibIds := fun hn => Nat.lt_irrefl _ (hok.bib_lt _ hn)
  have hmem : (st.next, { createdBib saddr sport protocol (some a) with sessions := [st.next + 1] }) ∈
      (bibSessionCreate st saddr in6Daddr daddr sport dport protocol type (some a) true
        true).2.bibs := by
    rw [bibSessionCreate_eq hnext]
    simp [Store.updBib, map_upd_of_not_mem _ hnext, createdBib]
  refine ⟨by rw [bibSessionCreate_eq hnext], _, hok'.bib?_of_mem hmem, rfl, ntohs_ntohs a.port,
    fun s hs se hse => ?_⟩
  obtain ⟨-, h2, -, h4⟩ := hok'.same_ends _ hmem s hs se (Store.mem_of_session? hse)
  exact ⟨h2, h4⟩

/-- A fourth binding on the sample store: inside port 2002, pool entry 192.0.2.1 port 1030. -/
theorem bib_session_create_ports_sample :
    Reach anyCreate anyTick (sampleStore 9) sampleDrawn ∧
    (bibSessionCreate (sampleStore 9) sampleRemote6 sampleEmbedded6 sampleRemote4 2002 53 17
        .udpDefault (some ⟨sampleLocal4, 1540⟩) true true).1 = some (sampleStore 9).next ∧
    ∃ e, (bibSessionCreate (sampleStore 9) sampleRemote6 sampleEmbedded6 sampleRemote4 2002 53 17
        .udpDefault (some ⟨sampleLocal4, 1540⟩) true true).2.bib? (sampleStore 9).next = some e ∧
      e.remote6Port = 2002 ∧ ntohs e.local4Port = (⟨sampleLocal4, 1540⟩ : TransportAddr).port ∧
      ∀ s ∈ e.sessions, ∀ se, (bibSessionCreate (sampleStore 9) sampleRemote6 sampleEmbedded6
          sampleRemote4 2002 53 17 .udpDefault (some ⟨sampleLocal4, 1540⟩) true true).2.session? s =
          some se →
        se.remote6Port = e.remote6Port ∧ se.local4Port = e.local4Port :=
  have hr : Reach anyCreate anyTick (sampleStore 9) sampleDrawn :=
    .sample trivial trivial trivial trivial trivial
  ⟨hr, bib_session_create_ports hr _ _ _ _ _ _ _ _⟩

/-- The outside port does not follow the inside port's parity or range: an inside port `1025` in
    host order and a pool entry of port `1024` give a BIB whose two ports differ in parity. -/
theorem bib_ports_unpreserved :
    ¬ ∀ (st : Store) (drawn : List TransportAddr) (saddr in6Daddr : In6Addr) (daddr : UInt32)
      (sport dport : UInt16) (protocol : Int) (type : ExpiryType) (ta : Option TransportAddr)
      (b : Nat) (e : BibEntry), Reach anyCreate anyTick st drawn →
      (bibSessionCreate st saddr in6Daddr daddr sport dport protocol type ta true true).1 = some b →
      (bibSessionCreate st saddr in6Daddr daddr sport dport protocol type ta true true).2.bib? b =
        some e →
      (ntohs e.local4Port).toNat % 2 = (ntohs e.remote6Port).toNat % 2 ∧
        ((ntohs e.local4Port).toNat < 1024 ↔ (ntohs e.remote6Port).toNat < 1024) := by
  intro H
  have hpar := (H _ _ ⟨0, 0, 0, 0⟩ ⟨0, 0, 0, 0⟩ 0 (ntohs 1025) 80 6 .udpDefault (some ⟨1, 1024⟩) 0
    ⟨6, ⟨0, 0, 0, 0⟩, 1, ntohs 1025, ntohs 1024, [1]⟩
    (.init (fun _ => 0) 1000 32 0 0 (by decide)) (by decide) (by decide)).1
  exact absurd hpar (by decide)

end Jool.Filtering
