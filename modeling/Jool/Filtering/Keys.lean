-- SUMMARY: The keys of the BIB: bib_session_create checks none, so the live BIBs of a type keep distinct remote IPv6 and local IPv4 transport addresses only when every call brings fresh ones, and then both BIB lookups find every live BIB.
import Jool.Filtering.Invariant

/-!
# BIB keys

A BIB is found by `bib_ipv6_lookup` from its type and remote IPv6 transport address, and by
`bib_ipv4_lookup` from its type and local IPv4 transport address. `bib_session_create` links a new
BIB at the head of both buckets without looking for one that already has either key, so what the
lookups return depends on the keys its callers bring.

Every step of a run but `bib_session_create` creates no BIB: the BIBs after it are some of those
before, with the same keys (`Shrinks`). `Reach.bibs_induction` carries a property of the BIBs
over a run from that and from what each `bib_session_create` keeps; it serves the keys here and
the transport-address pool in `Pool`.
-/

open scoped List

namespace Jool.Filtering

/-- The fields of a BIB other than its session list: its type and its two transport addresses. -/
structure BibKeys where
  type : Int
  remote6Addr : In6Addr
  remote6Port : UInt16
  local4Addr : UInt32
  local4Port : UInt16
  deriving DecidableEq, Repr

def BibEntry.keys (e : BibEntry) : BibKeys :=
  ⟨e.type, e.remote6Addr, e.remote6Port, e.local4Addr, e.local4Port⟩

/-- The live BIBs, each with its keys. -/
def Store.keyed (st : Store) : List (Nat × BibKeys) := st.bibs.map fun p => (p.1, p.2.keys)

-- ---------------------------------------------------------------------------
-- Steps that create no BIB
-- ---------------------------------------------------------------------------

/-- `st'` comes from `st` by steps that create no BIB: its BIBs are some of those of `st`, with
    the same keys, and allocation has not gone back. -/
def Shrinks (st st' : Store) : Prop :=
  st.next ≤ st'.next ∧ ∃ removed, st'.keyed ++ removed ~ st.keyed

namespace Shrinks

theorem refl (st : Store) : Shrinks st st := ⟨le_rfl, [], by simp⟩

theorem trans {st st' st'' : Store} (h : Shrinks st st') (h' : Shrinks st' st'') :
    Shrinks st st'' := by
  obtain ⟨hn, r, hr⟩ := h
  obtain ⟨hn', r', hr'⟩ := h'
  exact ⟨hn.trans hn', r' ++ r, by rw [← List.append_assoc]; exact (hr'.append_right r).trans hr⟩

theorem of_keyed {st st' : Store} (hn : st.next ≤ st'.next) (hk : st'.keyed = st.keyed) :
    Shrinks st st' :=
  ⟨hn, [], by simp [hk]⟩

theorem subset {st st' : Store} (h : Shrinks st st') {x : Nat × BibKeys} (hx : x ∈ st'.keyed) :
    x ∈ st.keyed :=
  h.2.choose_spec.subset (List.mem_append_left _ hx)

end Shrinks

namespace Store

variable (st : Store)

theorem keyed_updBib {b : Nat} {g : BibEntry → BibEntry} (hg : ∀ e, (g e).keys = e.keys) :
    (st.updBib b g).keyed = st.keyed := by
  simp only [keyed, updBib, List.map_map]
  exact List.map_congr_left fun e _ => by by_cases h : e.1 = b <;> simp [h, hg]

theorem keyed_freeBib (b : Nat) :
    (st.freeBib b).keyed ++ st.keyed.filter (fun p => !decide (p.1 ≠ b)) ~ st.keyed := by
  have : (st.freeBib b).keyed = st.keyed.filter (fun p => decide (p.1 ≠ b)) := by
    simp only [keyed, freeBib_bibs, List.filter_map]
    rfl
  rw [this]
  exact List.filter_append_perm _ _

theorem keyed_allocBib (be : BibEntry) :
    (st.allocBib be).keyed = st.keyed ++ [(st.next, be.keys)] := by
  simp [keyed]

end Store

theorem shrinks_updBib (st : Store) {b : Nat} {g : BibEntry → BibEntry}
    (hg : ∀ e, (g e).keys = e.keys) : Shrinks st (st.updBib b g) :=
  .of_keyed le_rfl (st.keyed_updBib hg)

theorem shrinks_freeBib (st : Store) (b : Nat) : Shrinks st (st.freeBib b) :=
  ⟨le_rfl, _, st.keyed_freeBib b⟩

theorem shrinks_sessionRenew (st : Store) (s : Nat) (type : ExpiryType) :
    Shrinks st (sessionRenew st s type) :=
  .refl st

theorem shrinks_fsmEffect {st st' : Store} {s : Nat} (he : FsmEffect st s st') : Shrinks st st' := by
  cases he <;> exact .refl st

theorem shrinks_reapSession (st : Store) (s : Nat) : Shrinks st (reapSession st s) := by
  unfold reapSession
  split
  · exact .refl st
  · next bib _ _ =>
    have hupd := shrinks_updBib (st.delExpiry s) (b := bib)
      (g := fun e => { e with sessions := e.sessions.erase s }) fun _ => rfl
    split
    · exact (hupd.trans (shrinks_freeBib _ bib)).trans (.of_keyed le_rfl rfl)
    · exact hupd.trans (.of_keyed le_rfl rfl)

theorem shrinks_expireStep (st : Store) (s : Nat) : Shrinks st (expireStep st s) := by
  rcases expireStep_eq_or st s with he | he <;> rw [he]
  · exact .refl st
  · exact shrinks_reapSession st s

theorem shrinks_cleanLoop (st : Store) (q : ExpiryType) : Shrinks st (cleanLoop q st) :=
  cleanLoop_induction (Shrinks st) (fun _ pos _ _ h _ _ _ => h.trans (shrinks_expireStep _ pos))
    st (.refl st)

theorem shrinks_sessionCreate (st : Store) (bib : Nat) (in6Daddr : In6Addr) (addr : UInt32)
    (port : UInt16) (type : ExpiryType) (allocOk : Bool) :
    Shrinks st (sessionCreate st bib in6Daddr addr port type allocOk).2 := by
  cases allocOk with
  | false => exact .refl st
  | true =>
    cases hb : st.bib? bib with
    | none => rw [sessionCreate_of_bib?_none hb]; exact .refl st
    | some b =>
      rw [sessionCreate_of_bib? hb]
      exact .of_keyed (Nat.le_succ _)
        (Store.keyed_updBib _ (g := fun e => { e with sessions := st.next :: e.sessions })
          fun _ => rfl)

theorem keyed_bibSessionCreate {st : Store} (hfresh : st.next ∉ st.bibIds)
    (saddr in6Daddr : In6Addr) (daddr : UInt32) (sport dport : UInt16) (protocol : Int)
    (type : ExpiryType) (ta : Option TransportAddr) :
    (bibSessionCreate st saddr in6Daddr daddr sport dport protocol type ta true true).2.keyed =
      st.keyed ++ [(st.next, (createdBib saddr sport protocol ta).keys)] := by
  rw [bibSessionCreate_eq hfresh]
  exact (Store.keyed_updBib _ (g := fun e => { e with sessions := (st.next + 1) :: e.sessions })
    fun _ => rfl).trans (Store.keyed_allocBib _ _)

theorem next_bibSessionCreate {st : Store} (hfresh : st.next ∉ st.bibIds)
    (saddr in6Daddr : In6Addr) (daddr : UInt32) (sport dport : UInt16) (protocol : Int)
    (type : ExpiryType) (ta : Option TransportAddr) :
    (bibSessionCreate st saddr in6Daddr daddr sport dport protocol type ta true true).2.next =
      st.next + 2 := by
  rw [bibSessionCreate_eq hfresh]
  rfl

/-- A property of the BIBs that holds in the empty store, that each `bib_session_create` of a
    run keeps, and that every step creating no BIB keeps, holds all along the run. -/
theorem Reach.bibs_induction {create : Store → In6Addr → UInt16 → Int → Option TransportAddr → Prop}
    {tick : Store → Nat → Prop} (I : Store → List TransportAddr → Prop)
    (hinit : ∀ timeout hz longBits jiffies next, I (Store.init timeout hz longBits jiffies next) [])
    (hcreate : ∀ st drawn saddr in6Daddr daddr sport dport protocol type ta, StoreOk st →
      I st drawn → create st saddr sport protocol ta →
      I (Filtering.bibSessionCreate st saddr in6Daddr daddr sport dport protocol type ta true
        true).2 (drawn ++ ta.toList))
    (hshrink : ∀ st st' drawn, StoreOk st → I st drawn → Shrinks st st' → I st' drawn)
    {st : Store} {drawn : List TransportAddr} (hr : Reach create tick st drawn) : I st drawn := by
  induction hr with
  | init timeout hz longBits jiffies next _ => exact hinit timeout hz longBits jiffies next
  | bibSessionCreate saddr in6Daddr daddr sport dport protocol type ta hr hc ih =>
    exact hcreate _ _ saddr in6Daddr daddr sport dport protocol type ta hr.storeOk ih hc
  | sessionCreate bib in6Daddr addr port type allocOk hr _ ih =>
    exact hshrink _ _ _ hr.storeOk ih (shrinks_sessionCreate _ bib in6Daddr addr port type allocOk)
  | sessionRenew s type hr _ ih => exact hshrink _ _ _ hr.storeOk ih (shrinks_sessionRenew _ s type)
  | tcp4Fsm s tcph hr _ ih =>
    exact hshrink _ _ _ hr.storeOk ih (shrinks_fsmEffect (tcp4Fsm_effect _ s tcph))
  | tcp6Fsm s tcph hr _ ih =>
    exact hshrink _ _ _ hr.storeOk ih (shrinks_fsmEffect (tcp6Fsm_effect _ s tcph))
  | tcpTimeoutFsm s hr _ ih =>
    exact hshrink _ _ _ hr.storeOk ih (shrinks_fsmEffect (tcpTimeoutFsm_effect _ s))
  | cleanExpiredSessions q hr ih => exact hshrink _ _ _ hr.storeOk ih (shrinks_cleanLoop _ q)
  | tick d hr _ ih => exact hshrink _ _ _ hr.storeOk ih (.of_keyed le_rfl rfl)

-- ---------------------------------------------------------------------------
-- Distinct keys
-- ---------------------------------------------------------------------------

/-- No two live BIBs of one type share their remote IPv6 or their local IPv4 transport
    address. -/
def KeysUnique (st : Store) : Prop :=
  ∀ p ∈ st.keyed, ∀ q ∈ st.keyed, p.2.type = q.2.type →
    (p.2.remote6Addr = q.2.remote6Addr ∧ p.2.remote6Port = q.2.remote6Port ∨
      p.2.local4Addr = q.2.local4Addr ∧ p.2.local4Port = q.2.local4Port) → p.1 = q.1

/-- A call of `bib_session_create` in which `get_tranport_addr` hands out no entry whose address
    and port a live BIB holds. -/
def drawsUnheld : Store → In6Addr → UInt16 → Int → Option TransportAddr → Prop :=
  fun st _ _ _ ta => ∀ a, ta = some a →
    ∀ p ∈ st.bibs, ¬ (p.2.local4Addr = a.address ∧ p.2.local4Port = ntohs a.port)

/-- A call of `bib_session_create` whose remote IPv6 and local IPv4 transport addresses no live
    BIB of its type holds. -/
def freshKeys : Store → In6Addr → UInt16 → Int → Option TransportAddr → Prop :=
  fun st saddr sport protocol ta => ∀ p ∈ st.bibs, p.2.type = protocol →
    ¬ (p.2.remote6Addr = saddr ∧ p.2.remote6Port = sport) ∧
    ¬ (p.2.local4Addr = (local4Of ta).2 ∧ p.2.local4Port = (local4Of ta).1)

theorem keysUnique_init (timeout : ExpiryType → Int) (hz longBits jiffies next : Nat) :
    KeysUnique (Store.init timeout hz longBits jiffies next) :=
  fun _ hp => (List.not_mem_nil _ hp).elim

theorem KeysUnique.shrink {st st' : Store} (h : KeysUnique st) (hs : Shrinks st st') :
    KeysUnique st' :=
  fun p hp q hq => h p (hs.subset hp) q (hs.subset hq)

/-- A BIB whose keys no live BIB of its type shares. -/
theorem KeysUnique.append {st : Store} (h : KeysUnique st) {n : Nat} {k : BibKeys}
    (hk : ∀ p ∈ st.keyed, p.2.type = k.type →
      ¬ (p.2.remote6Addr = k.remote6Addr ∧ p.2.remote6Port = k.remote6Port) ∧
      ¬ (p.2.local4Addr = k.local4Addr ∧ p.2.local4Port = k.local4Port)) :
    ∀ p ∈ st.keyed ++ [(n, k)], ∀ q ∈ st.keyed ++ [(n, k)], p.2.type = q.2.type →
      (p.2.remote6Addr = q.2.remote6Addr ∧ p.2.remote6Port = q.2.remote6Port ∨
        p.2.local4Addr = q.2.local4Addr ∧ p.2.local4Port = q.2.local4Port) → p.1 = q.1 := by
  intro p hp q hq ht hkey
  rw [List.mem_append, List.mem_singleton] at hp hq
  rcases hp with hp | rfl <;> rcases hq with hq | rfl
  · exact h p hp q hq ht hkey
  · have := hk p hp ht
    rcases hkey with hkey | hkey
    · exact (this.1 hkey).elim
    · exact (this.2 hkey).elim
  · have := hk q hq ht.symm
    rcases hkey with ⟨h1, h2⟩ | ⟨h1, h2⟩
    · exact (this.1 ⟨h1.symm, h2.symm⟩).elim
    · exact (this.2 ⟨h1.symm, h2.symm⟩).elim
  · rfl

theorem KeysUnique.bibSessionCreate {st : Store} (h : KeysUnique st) (hok : StoreOk st)
    {saddr : In6Addr} (in6Daddr : In6Addr) (daddr : UInt32) {sport : UInt16} (dport : UInt16)
    {protocol : Int} (type : ExpiryType) {ta : Option TransportAddr}
    (hfresh : freshKeys st saddr sport protocol ta) :
    KeysUnique (Filtering.bibSessionCreate st saddr in6Daddr daddr sport dport protocol type ta
      true true).2 := by
  have hnext : st.next ∉ st.bibIds := fun hn => Nat.lt_irrefl _ (hok.bib_lt _ hn)
  unfold KeysUnique
  rw [keyed_bibSessionCreate hnext]
  refine h.append fun p hp ht => ?_
  obtain ⟨q, hq, rfl⟩ := List.mem_map.1 hp
  exact hfresh q hq ht

-- ---------------------------------------------------------------------------
-- The lookups
-- ---------------------------------------------------------------------------

/-- A scan finds the one element of the list that passes its test. -/
theorem find?_eq_of_unique {α : Type} {l : List α} {p : α → Bool} {x : α} (hx : x ∈ l)
    (hpx : p x) (huniq : ∀ y ∈ l, p y → y = x) : l.find? p = some x := by
  cases hf : l.find? p with
  | none => exact absurd hpx (by simpa using List.find?_eq_none.1 hf x hx)
  | some y => rw [huniq y (List.mem_of_find?_eq_some hf) (List.find?_some hf)]

theorem Store.mem_keyed {st : Store} {b : Nat} {e : BibEntry} (hbe : (b, e) ∈ st.bibs) :
    (b, e.keys) ∈ st.keyed :=
  List.mem_map_of_mem (fun p => (p.1, p.2.keys)) hbe

namespace StoreOk

variable {st : Store} (h : StoreOk st)
include h

theorem bib?_of_mem {b : Nat} {e : BibEntry} (hbe : (b, e) ∈ st.bibs) : st.bib? b = some e := by
  rw [Store.bib?, find?_eq_of_unique hbe (by simp) fun y hy hyb => ?_]
  · rfl
  · have hyb : y.1 = b := by simpa using hyb
    exact Prod.ext hyb (h.bib_unique (hyb ▸ hy) hbe)

theorem bibIpv6Lookup_of_mem (hk : KeysUnique st) {b : Nat} {e : BibEntry}
    (hbe : (b, e) ∈ st.bibs) : bibIpv6Lookup st e.remote6Addr e.remote6Port e.type = some b := by
  refine find?_eq_of_unique ((h.mem_hash6 b _).2 ⟨e, hbe, rfl⟩) (by simp [h.bib?_of_mem hbe])
    fun y hy hpy => ?_
  obtain ⟨e', he', -⟩ := (h.mem_hash6 y _).1 hy
  simp only [h.bib?_of_mem he', Bool.and_eq_true, beq_iff_eq] at hpy
  exact hk _ (Store.mem_keyed he') _ (Store.mem_keyed hbe) hpy.1.1 (.inl ⟨hpy.2, hpy.1.2⟩)

theorem bibIpv4Lookup_of_mem (hk : KeysUnique st) {b : Nat} {e : BibEntry}
    (hbe : (b, e) ∈ st.bibs) : bibIpv4Lookup st e.local4Addr e.local4Port e.type = some b := by
  refine find?_eq_of_unique ((h.mem_hash4 b _).2 ⟨e, hbe, rfl⟩) (by simp [h.bib?_of_mem hbe])
    fun y hy hpy => ?_
  obtain ⟨e', he', -⟩ := (h.mem_hash4 y _).1 hy
  simp only [h.bib?_of_mem he', Bool.and_eq_true, beq_iff_eq] at hpy
  exact hk _ (Store.mem_keyed he') _ (Store.mem_keyed hbe) hpy.1.1 (.inr ⟨hpy.1.2, hpy.2⟩)

end StoreOk

/-- When every `bib_session_create` brings a remote IPv6 and a local IPv4 transport address
    that no live BIB of its type holds, no two live BIBs of a type share either, and both
    lookups return every live BIB from its keys. -/
theorem bib_keys_unique {tick : Store → Nat → Prop} {st : Store} {drawn : List TransportAddr}
    (hr : Reach freshKeys tick st drawn) :
    (∀ p ∈ st.bibs, ∀ q ∈ st.bibs, p.2.type = q.2.type →
      (p.2.remote6Addr = q.2.remote6Addr ∧ p.2.remote6Port = q.2.remote6Port ∨
        p.2.local4Addr = q.2.local4Addr ∧ p.2.local4Port = q.2.local4Port) → p = q) ∧
    ∀ b e, (b, e) ∈ st.bibs →
      bibIpv6Lookup st e.remote6Addr e.remote6Port e.type = some b ∧
      bibIpv4Lookup st e.local4Addr e.local4Port e.type = some b := by
  have hok := hr.storeOk
  have hk : KeysUnique st := Reach.bibs_induction (fun st _ => KeysUnique st)
    (fun timeout hz longBits jiffies next => keysUnique_init timeout hz longBits jiffies next)
    (fun _ _ _ in6Daddr daddr _ dport _ type _ hok' ih hc =>
      ih.bibSessionCreate hok' in6Daddr daddr dport type hc)
    (fun _ _ _ _ ih hs => ih.shrink hs) hr
  refine ⟨fun p hp q hq ht hkey => ?_, fun b e hbe =>
    ⟨hok.bibIpv6Lookup_of_mem hk hbe, hok.bibIpv4Lookup_of_mem hk hbe⟩⟩
  have hpq := hk _ (Store.mem_keyed hp) _ (Store.mem_keyed hq) ht hkey
  exact Prod.ext hpq (hok.bib_unique (hpq ▸ hp) hq)

theorem bib_keys_unique_sample :
    Reach freshKeys anyTick (sampleStore 9) sampleDrawn ∧
    (∀ p ∈ (sampleStore 9).bibs, ∀ q ∈ (sampleStore 9).bibs, p.2.type = q.2.type →
      (p.2.remote6Addr = q.2.remote6Addr ∧ p.2.remote6Port = q.2.remote6Port ∨
        p.2.local4Addr = q.2.local4Addr ∧ p.2.local4Port = q.2.local4Port) → p = q) ∧
    ∀ b e, (b, e) ∈ (sampleStore 9).bibs →
      bibIpv6Lookup (sampleStore 9) e.remote6Addr e.remote6Port e.type = some b ∧
      bibIpv4Lookup (sampleStore 9) e.local4Addr e.local4Port e.type = some b :=
  have hr : Reach freshKeys anyTick (sampleStore 9) sampleDrawn :=
    .sample (by unfold freshKeys; decide) (by unfold freshKeys; decide) (by unfold freshKeys; decide)
      trivial trivial
  ⟨hr, bib_keys_unique hr⟩

/-- Pool entries no live BIB holds do not make the keys unique: two calls from one source
    transport address, given two pool entries no live BIB holds, leave two BIBs with one remote
    IPv6 key, and `bib_ipv6_lookup` finds only the newer. -/
theorem bib_keys_collide :
    ¬ ∀ (st : Store) (drawn : List TransportAddr), Reach drawsUnheld anyTick st drawn →
      ∀ b e, (b, e) ∈ st.bibs → bibIpv6Lookup st e.remote6Addr e.remote6Port e.type = some b := by
  intro H
  have hr1 : Reach drawsUnheld anyTick
      (bibSessionCreate (Store.init (fun _ => 300) 1000 32 0 0) ⟨0, 0, 0, 0⟩ ⟨0, 0, 0, 0⟩ 0 0 0 6
        .udpDefault (some ⟨1, 0⟩) true true).2 [⟨1, 0⟩] :=
    .bibSessionCreate _ _ _ _ _ _ _ _ (.init _ _ _ _ _ (by decide))
      fun _ _ _ hp => (List.not_mem_nil _ hp).elim
  have hr2 := Reach.bibSessionCreate ⟨0, 0, 0, 0⟩ ⟨0, 0, 0, 0⟩ 0 0 0 6 .udpDefault (some ⟨2, 0⟩) hr1
    (by
      intro a ha
      cases ha
      decide)
  exact absurd (H _ _ hr2 0 ⟨6, ⟨0, 0, 0, 0⟩, 1, 0, 0, [1]⟩ (by decide)) (by decide)

end Jool.Filtering
