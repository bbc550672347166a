-- SUMMARY: The lookups of the BIB and session store against plain scans: each hashed BIB lookup finds what a scan of the live BIBs finds, and session_ipv4_lookup sees a session_create at once.
import Jool.Filtering.Keys
import Jool.Filtering.Expiry

/-!
# Lookups

`bib_ipv6_lookup` and `bib_ipv4_lookup` scan one bucket of an index; `session_ipv4_lookup` scans
the session list of one BIB. This module compares them with plain scans of the store:

* on a consistent store each BIB lookup finds a BIB exactly when a scan of all the live BIBs
  finds one of that type with that transport address, and what it returns is one of those
  (`bib_lookups_match_scan`); which one, when several share the address, the index order decides;
* a `session_create` on a live BIB is seen at once by `session_ipv4_lookup`: the lookup of the new
  session's remote address on that BIB returns it, and every other lookup is as before
  (`session_create_then_lookup`);
* a successful `bib_session_create` is seen at once by all three lookups, which return the new BIB
  and its session even when an older BIB has the same key: `hlist_add_head` puts the new BIB
  first in both of its buckets (`bib_session_create_then_lookup`).
-/

namespace Jool.Filtering

-- ---------------------------------------------------------------------------
-- The BIB lookups
-- ---------------------------------------------------------------------------

/-- The live BIBs of a type with a remote IPv6 transport address, by a scan of the heap. -/
def Store.bibs6With (st : Store) (addr : In6Addr) (port : UInt16) (type : Int) : List Nat :=
  (st.bibs.filter fun p => p.2.type == type && p.2.remote6Port == port && p.2.remote6Addr == addr).map
    (·.1)

/-- The live BIBs of a type with a local IPv4 transport address, by a scan of the heap. -/
def Store.bibs4With (st : Store) (addr : UInt32) (port : UInt16) (type : Int) : List Nat :=
  (st.bibs.filter fun p => p.2.type == type && p.2.local4Addr == addr && p.2.local4Port == port).map
    (·.1)

section Bucket

variable {st : Store} {f : BibEntry → Bool}

/-- What a scan of a bucket returns, testing each BIB's entry, is a live BIB that passes. -/
theorem find?_bucket_sound {bucket : List Nat} {b : Nat}
    (hf : bucket.find? (fun b => match st.bib? b with | some e => f e | none => false) = some b) :
    ∃ e, (b, e) ∈ st.bibs ∧ f e = true := by
  have ht := List.find?_some hf
  cases hb : st.bib? b with
  | none => simp [hb] at ht
  | some e =>
    rw [hb] at ht
    exact ⟨e, Store.mem_of_bib? hb, ht⟩

/-- A scan of a bucket that holds a live BIB passing the test finds one. -/
theorem find?_bucket_complete (h : StoreOk st) {bucket : List Nat} {b : Nat} {e : BibEntry}
    (hbe : (b, e) ∈ st.bibs) (hb : b ∈ bucket) (he : f e = true) :
    (bucket.find? fun b => match st.bib? b with | some e => f e | none => false).isSome :=
  List.find?_isSome.2 ⟨b, hb, by rw [h.bib?_of_mem hbe]; exact he⟩

/-- A scan of a bucket finds a BIB exactly when some live BIB in it passes the test. -/
theorem find?_bucket_isSome (h : StoreOk st) {bucket : List Nat}
    (hall : ∀ b e, (b, e) ∈ st.bibs → f e = true → b ∈ bucket) :
    (bucket.find? fun b => match st.bib? b with | some e => f e | none => false).isSome ↔
      ∃ b e, (b, e) ∈ st.bibs ∧ f e = true := by
  constructor
  · intro hs
    obtain ⟨b, hb⟩ := Option.isSome_iff_exists.1 hs
    obtain ⟨e, hbe, he⟩ := find?_bucket_sound hb
    exact ⟨b, e, hbe, he⟩
  · rintro ⟨b, e, hbe, he⟩
    exact find?_bucket_complete h hbe (hall b e hbe he) he

end Bucket

theorem Store.mem_bibs6With {st : Store} {addr : In6Addr} {port : UInt16} {type : Int} {b : Nat} :
    b ∈ st.bibs6With addr port type ↔ ∃ e, (b, e) ∈ st.bibs ∧
      (e.type == type && e.remote6Port == port && e.remote6Addr == addr) = true := by
  simp [Store.bibs6With]

theorem Store.mem_bibs4With {st : Store} {addr : UInt32} {port : UInt16} {type : Int} {b : Nat} :
    b ∈ st.bibs4With addr port type ↔ ∃ e, (b, e) ∈ st.bibs ∧
      (e.type == type && e.local4Addr == addr && e.local4Port == port) = true := by
  simp [Store.bibs4With]

theorem Store.bibs6With_ne_nil {st : Store} {addr : In6Addr} {port : UInt16} {type : Int} :
    st.bibs6With addr port type ≠ [] ↔ ∃ b e, (b, e) ∈ st.bibs ∧
      (e.type == type && e.remote6Port == port && e.remote6Addr == addr) = true :=
  ⟨fun hne => (List.exists_mem_of_ne_nil _ hne).imp fun _ => Store.mem_bibs6With.1,
    fun ⟨_, hb⟩ => List.ne_nil_of_mem (Store.mem_bibs6With.2 hb)⟩

theorem Store.bibs4With_ne_nil {st : Store} {addr : UInt32} {port : UInt16} {type : Int} :
    st.bibs4With addr port type ≠ [] ↔ ∃ b e, (b, e) ∈ st.bibs ∧
      (e.type == type && e.local4Addr == addr && e.local4Port == port) = true :=
  ⟨fun hne => (List.exists_mem_of_ne_nil _ hne).imp fun _ => Store.mem_bibs4With.1,
    fun ⟨_, hb⟩ => List.ne_nil_of_mem (Store.mem_bibs4With.2 hb)⟩

/-- On a consistent store, `bib_ipv6_lookup` and `bib_ipv4_lookup` agree with scans of all the live
    BIBs: what each returns is a BIB the scan finds, and each finds a BIB whenever the scan finds
    one. -/
theorem bib_lookups_match_scan {st : Store} (h : StoreOk st) :
    (∀ addr port type, (∀ b, bibIpv6Lookup st addr port type = some b →
        b ∈ st.bibs6With addr port type) ∧
      ((bibIpv6Lookup st addr port type).isSome ↔ st.bibs6With addr port type ≠ [])) ∧
    (∀ addr port type, (∀ b, bibIpv4Lookup st addr port type = some b →
        b ∈ st.bibs4With addr port type) ∧
      ((bibIpv4Lookup st addr port type).isSome ↔ st.bibs4With addr port type ≠ [])) := by
  refine ⟨fun addr port type => ⟨fun b hb => Store.mem_bibs6With.2 (find?_bucket_sound hb),
      (find?_bucket_isSome h fun b e hbe he => ?_).trans Store.bibs6With_ne_nil.symm⟩,
    fun addr port type => ⟨fun b hb => Store.mem_bibs4With.2 (find?_bucket_sound hb),
      (find?_bucket_isSome h fun b e hbe he => ?_).trans Store.bibs4With_ne_nil.symm⟩⟩
  · simp only [Bool.and_eq_true, beq_iff_eq] at he
    exact (h.mem_hash6 b _).2 ⟨e, hbe, by rw [he.1.2, he.2]⟩
  · simp only [Bool.and_eq_true, beq_iff_eq] at he
    exact (h.mem_hash4 b _).2 ⟨e, hbe, by rw [he.2]; rfl⟩

theorem bib_lookups_match_scan_sample :
    StoreOk (sampleStore 9) ∧
    (∀ addr port type, (∀ b, bibIpv6Lookup (sampleStore 9) addr port type = some b →
        b ∈ (sampleStore 9).bibs6With addr port type) ∧
      ((bibIpv6Lookup (sampleStore 9) addr port type).isSome ↔ (sampleStore 9).bibs6With addr port type ≠ [])) ∧
    (∀ addr port type, (∀ b, bibIpv4Lookup (sampleStore 9) addr port type = some b →
        b ∈ (sampleStore 9).bibs4With addr port type) ∧
      ((bibIpv4Lookup (sampleStore 9) addr port type).isSome ↔ (sampleStore 9).bibs4With addr port type ≠ [])) :=
  have hr : Reach anyCreate anyTick (sampleStore 9) sampleDrawn :=
    .sample trivial trivial trivial trivial trivial
  ⟨hr.storeOk, bib_lookups_match_scan hr.storeOk⟩

-- ---------------------------------------------------------------------------
-- The session lookup
-- ---------------------------------------------------------------------------

/-- A scan reads its test on the scanned elements only. -/
theorem find?_congr_mem {α : Type} {l : List α} {p q : α → Bool} (h : ∀ a ∈ l, p a = q a) :
    l.find? p = l.find? q := by
  induction l with
  | nil => rfl
  | cons a l ih =>
    rw [List.find?_cons, List.find?_cons, h a (List.mem_cons_self a l),
      ih fun b hb => h b (List.mem_cons_of_mem a hb)]

theorem Store.session?_allocSession_fresh {st : Store} {e : StEntry}
    (hfresh : st.next ∉ st.sessionIds) (x : Nat) :
    (st.allocSession e).session? x = if x = st.next then some e else st.session? x := by
  split_ifs with hx
  · subst hx
    exact find?_append_fresh hfresh
  · exact Store.session?_allocSession_of_ne hx

/-- `session_ipv4_lookup` as a scan of the BIB's list whose test reads the session's entry. -/
theorem sessionIpv4Lookup_eq (st : Store) (b : Nat) (remote4Addr : UInt32) (remote4Port : UInt16) :
    sessionIpv4Lookup st b remote4Addr remote4Port = (st.bib? b).bind fun eb =>
      eb.sessions.find? fun s => (st.session? s).any fun e =>
        e.remote4Addr == remote4Addr && e.remote4Port == remote4Port := by
  unfold sessionIpv4Lookup
  cases st.bib? b with
  | none => rfl
  | some eb =>
    refine congrArg (eb.sessions.find? ·) (funext fun s => ?_)
    cases st.session? s <;> rfl

/-- A `session_create` on a live BIB of a consistent store returns a new session, which
    `session_ipv4_lookup` on that BIB finds at once by its remote IPv4 transport address; every
    other lookup returns what it returned before. -/
theorem session_create_then_lookup {st : Store} (h : StoreOk st) {bib : Nat} (hb : bib ∈ st.bibIds)
    (in6Daddr : In6Addr) (addr : UInt32) (port : UInt16) (type : ExpiryType) (b : Nat)
    (remote4Addr : UInt32) (remote4Port : UInt16) :
    (sessionCreate st bib in6Daddr addr port type true).1 = some st.next ∧
      sessionIpv4Lookup (sessionCreate st bib in6Daddr addr port type true).2 b remote4Addr
        remote4Port =
      if b = bib ∧ addr = remote4Addr ∧ port = remote4Port then some st.next
      else sessionIpv4Lookup st b remote4Addr remote4Port := by
  obtain ⟨eb, heb⟩ := Option.ne_none_iff_exists'.1 (mt Store.bib?_eq_none.1 (not_not.2 hb))
  rw [sessionCreate_of_bib? heb]
  refine ⟨rfl, ?_⟩
  have hfresh : st.next ∉ st.sessionIds := fun hn => Nat.lt_irrefl _ (h.session_lt _ hn)
  simp only [sessionIpv4Lookup_eq, Store.bib?_addTailExpiry, Store.bib?_updBib,
    Store.bib?_allocSession, Store.session?_addTailExpiry, Store.session?_updBib,
    Store.session?_allocSession_fresh hfresh]
  -- the sessions listed before are older than the new one, and are read as before
  have hold : ∀ b' e', st.bib? b' = some e' → ∀ x ∈ e'.sessions, ∀ T : StEntry → Bool,
      (if x = st.next then some (newSession eb in6Daddr addr port (st.deadline type))
        else st.session? x).any T = (st.session? x).any T := fun b' e' he' x hx _ => by
    rw [if_neg (Nat.ne_of_lt (h.session_lt _ (h.mem_sessionIds_of_listed (Store.mem_of_bib? he') hx)))]
  by_cases hbb : b = bib
  · subst hbb
    simp only [heb, Option.map_some', if_true, Option.some_bind, List.find?_cons,
      find?_congr_mem fun x hx => hold b eb heb x hx _]
    by_cases ha : addr = remote4Addr <;> by_cases hp : port = remote4Port <;>
      simp [ha, hp, newSession, beq_false_of_ne]
  · simp only [hbb, false_and, if_false]
    cases hb' : st.bib? b with
    | none => rfl
    | some e' => exact find?_congr_mem fun x hx => hold b e' hb' x hx _

theorem session_create_then_lookup_sample :
    StoreOk (bibSessionCreate (Store.init (fun _ => 0) 0 0 0 0) ⟨0, 0, 0, 0⟩ ⟨0, 0, 0, 0⟩ 0 0 0 6
      .udpDefault (some ⟨1, 0⟩) true true).2 ∧
    0 ∈ (bibSessionCreate (Store.init (fun _ => 0) 0 0 0 0) ⟨0, 0, 0, 0⟩ ⟨0, 0, 0, 0⟩ 0 0 0 6
      .udpDefault (some ⟨1, 0⟩) true true).2.bibIds ∧
    (sessionCreate (bibSessionCreate (Store.init (fun _ => 0) 0 0 0 0) ⟨0, 0, 0, 0⟩ ⟨0, 0, 0, 0⟩ 0 0 0
      6 .udpDefault (some ⟨1, 0⟩) true true).2 0 ⟨0, 0, 0, 0⟩ 2 7 .udpDefault true).1 =
      some (bibSessionCreate (Store.init (fun _ => 0) 0 0 0 0) ⟨0, 0, 0, 0⟩ ⟨0, 0, 0, 0⟩ 0 0 0 6
        .udpDefault (some ⟨1, 0⟩) true true).2.next ∧
    sessionIpv4Lookup (sessionCreate (bibSessionCreate (Store.init (fun _ => 0) 0 0 0 0)
      ⟨0, 0, 0, 0⟩ ⟨0, 0, 0, 0⟩ 0 0 0 6 .udpDefault (some ⟨1, 0⟩) true true).2 0 ⟨0, 0, 0, 0⟩ 2 7
      .udpDefault true).2 0 2 7 =
      if 0 = 0 ∧ (2 : UInt32) = 2 ∧ (7 : UInt16) = 7 then
        some (bibSessionCreate (Store.init (fun _ => 0) 0 0 0 0) ⟨0, 0, 0, 0⟩ ⟨0, 0, 0, 0⟩ 0 0 0 6
          .udpDefault (some ⟨1, 0⟩) true true).2.next
      else sessionIpv4Lookup (bibSessionCreate (Store.init (fun _ => 0) 0 0 0 0) ⟨0, 0, 0, 0⟩
        ⟨0, 0, 0, 0⟩ 0 0 0 6 .udpDefault (some ⟨1, 0⟩) true true).2 0 2 7 :=
  have h := (Reach.bibSessionCreate ⟨0, 0, 0, 0⟩ ⟨0, 0, 0, 0⟩ 0 0 0 6 .udpDefault (some ⟨1, 0⟩)
    (.init (fun _ => 0) 0 0 0 0 (by decide)) trivial : Reach anyCreate anyTick _ _).storeOk
  have hb : 0 ∈ (bibSessionCreate (Store.init (fun _ => 0) 0 0 0 0) ⟨0, 0, 0, 0⟩ ⟨0, 0, 0, 0⟩ 0 0
      0 6 .udpDefault (some ⟨1, 0⟩) true true).2.bibIds := by decide
  ⟨h, hb, session_create_then_lookup h hb ⟨0, 0, 0, 0⟩ 2 7 .udpDefault 0 2 7⟩

-- ---------------------------------------------------------------------------
-- A new BIB and its session
-- ---------------------------------------------------------------------------

/-- The new BIB of a successful `bib_session_create`, as the lookups read it. -/
theorem bib?_bibSessionCreate_next {st : Store} (hfresh : st.next ∉ st.bibIds)
    (saddr in6Daddr : In6Addr) (daddr : UInt32) (sport dport : UInt16) (protocol : Int)
    (type : ExpiryType) (ta : Option TransportAddr) :
    (bibSessionCreate st saddr in6Daddr daddr sport dport protocol type ta true true).2.bib? st.next =
      some { createdBib saddr sport protocol ta with sessions := [st.next + 1] } := by
  have hnew : (st.allocBib (createdBib saddr sport protocol ta)).bib? st.next =
      some (createdBib saddr sport protocol ta) := find?_append_fresh hfresh
  rw [bibSessionCreate_eq hfresh]
  simp only [Store.bib?_addTailExpiry, Store.bib?_updBib, Store.bib?_allocSession,
    Store.bib?_linkBib, hnew, Option.map_some', if_true]
  rfl

/-- A bucket headed by a BIB that passes the test: the scan returns it. -/
theorem find?_head_of_bib? {bucket : List Nat} {f : BibEntry → Bool} {st' : Store} {b : Nat}
    {e : BibEntry} (he : st'.bib? b = some e) (hf : f e = true) :
    (b :: bucket).find? (fun b => match st'.bib? b with | some e => f e | none => false) = some b := by
  simp [he, hf]

/-- A successful `bib_session_create` on a consistent store is seen at once by all three lookups:
    `bib_ipv6_lookup` of the packet's IPv6 source transport address and `bib_ipv4_lookup` of the
    IPv4 transport address taken from the pool both return the new BIB, even when an older BIB has
    the same key (`hlist_add_head` puts the new BIB first in both of its buckets), and
    `session_ipv4_lookup` of the packet's IPv4 destination on the new BIB returns the new session. -/
theorem bib_session_create_then_lookup {st : Store} (h : StoreOk st) (saddr in6Daddr : In6Addr)
    (daddr : UInt32) (sport dport : UInt16) (protocol : Int) (type : ExpiryType)
    (ta : Option TransportAddr) :
    (bibSessionCreate st saddr in6Daddr daddr sport dport protocol type ta true true).1 =
        some st.next ∧
      bibIpv6Lookup (bibSessionCreate st saddr in6Daddr daddr sport dport protocol type ta true
        true).2 saddr sport protocol = some st.next ∧
      bibIpv4Lookup (bibSessionCreate st saddr in6Daddr daddr sport dport protocol type ta true
        true).2 (local4Of ta).2 (local4Of ta).1 protocol = some st.next ∧
      sessionIpv4Lookup (bibSessionCreate st saddr in6Daddr daddr sport dport protocol type ta true
        true).2 st.next daddr dport = some (st.next + 1) := by
  have hnext : st.next ∉ st.bibIds := fun hn => Nat.lt_irrefl _ (h.bib_lt _ hn)
  have hsfresh : st.next + 1 ∉ st.sessionIds := fun hn => by
    have := h.session_lt _ hn
    omega
  have hb := bib?_bibSessionCreate_next hnext saddr in6Daddr daddr sport dport protocol type ta
  refine ⟨by rw [bibSessionCreate_eq hnext], ?_, ?_, ?_⟩
  · unfold bibIpv6Lookup
    rw [show (bibSessionCreate st saddr in6Daddr daddr sport dport protocol type ta true true).2.hash6
        (nat64Hash6 saddr sport).toNat = st.next :: st.hash6 (nat64Hash6 saddr sport).toNat by
      rw [bibSessionCreate_eq hnext]; simp [Store.linkBib]]
    exact find?_head_of_bib? hb (by simp [createdBib])
  · unfold bibIpv4Lookup
    rw [show (bibSessionCreate st saddr in6Daddr daddr sport dport protocol type ta true true).2.hash4
        (nat64Hash4 (local4Of ta).2 (local4Of ta).1).toNat =
          st.next :: st.hash4 (local4Of ta).1.toNat by
      rw [bibSessionCreate_eq hnext]; simp [Store.linkBib, nat64Hash4]]
    exact find?_head_of_bib? hb (by simp [createdBib])
  · have hs : ∀ e, (((st.allocBib (createdBib saddr sport protocol ta)).linkBib st.next
        (nat64Hash6 saddr sport).toNat (local4Of ta).1.toNat).allocSession e).session? (st.next + 1) =
          some e := fun _ => find?_append_fresh hsfresh
    rw [sessionIpv4Lookup_eq, hb, bibSessionCreate_eq hnext]
    simp [hs, newSession]

theorem bib_session_create_then_lookup_init :
    StoreOk (Store.init (fun _ => 0) 0 0 0 0) ∧
    (bibSessionCreate (Store.init (fun _ => 0) 0 0 0 0) ⟨0, 0, 0, 1⟩ ⟨0, 0, 0, 2⟩ 2 7 80 6
        .tcpTrans (some ⟨1, 9⟩) true true).1 = some (Store.init (fun _ => 0) 0 0 0 0).next ∧
      bibIpv6Lookup (bibSessionCreate (Store.init (fun _ => 0) 0 0 0 0) ⟨0, 0, 0, 1⟩ ⟨0, 0, 0, 2⟩
        2 7 80 6 .tcpTrans (some ⟨1, 9⟩) true true).2 ⟨0, 0, 0, 1⟩ 7 6 =
          some (Store.init (fun _ => 0) 0 0 0 0).next ∧
      bibIpv4Lookup (bibSessionCreate (Store.init (fun _ => 0) 0 0 0 0) ⟨0, 0, 0, 1⟩ ⟨0, 0, 0, 2⟩
        2 7 80 6 .tcpTrans (some ⟨1, 9⟩) true true).2 (local4Of (some ⟨1, 9⟩)).2
          (local4Of (some ⟨1, 9⟩)).1 6 = some (Store.init (fun _ => 0) 0 0 0 0).next ∧
      sessionIpv4Lookup (bibSessionCreate (Store.init (fun _ => 0) 0 0 0 0) ⟨0, 0, 0, 1⟩
        ⟨0, 0, 0, 2⟩ 2 7 80 6 .tcpTrans (some ⟨1, 9⟩) true true).2
          (Store.init (fun _ => 0) 0 0 0 0).next 2 80 =
        some ((Store.init (fun _ => 0) 0 0 0 0).next + 1) :=
  have h := storeOk_init (fun _ => 0) 0 0 0 0
  ⟨h, bib_session_create_then_lookup h ⟨0, 0, 0, 1⟩ ⟨0, 0, 0, 2⟩ 2 7 80 6 .tcpTrans (some ⟨1, 9⟩)⟩

end Jool.Filtering
