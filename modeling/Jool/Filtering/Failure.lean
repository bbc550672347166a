-- SUMMARY: The failure paths of bib_session_create: what it leaves behind when it returns NULL, and the BIB it makes when the transport-address pool is empty.
import Jool.Filtering.Steps

/-!
# When `bib_session_create` fails

`bib_session_create` (and its `_tcp` twin) fails only on an allocation. A failed
`bib_create` changes nothing. A failed `session_create` comes after the new BIB has been linked
at the head of its buckets of `hash6` and `hash4`; the BIB is then given back to its
`kmem_cache` but not unlinked, so both indices keep the address of a freed BIB
(`bibSessionCreate_of_session_failed`). An empty pool is no failure: `local4_port` is a
`__be16`, so `local4_port < 0` never holds, and the BIB is made with the address and port
`-1` (`bibSessionCreate_of_empty_pool`).
-/

namespace Jool.Filtering

/-- A failed BIB allocation leaves the store as it was. -/
theorem bibSessionCreate_of_bib_failed (st : Store) (saddr in6Daddr : In6Addr) (daddr : UInt32)
    (sport dport : UInt16) (protocol : Int) (type : ExpiryType) (ta : Option TransportAddr)
    (sessionOk : Bool) :
    bibSessionCreate st saddr in6Daddr daddr sport dport protocol type ta false sessionOk =
      (none, st) := by
  have hnn : ¬ (((local4Of ta).1.toNat : Int) < 0) := by omega
  simp [bibSessionCreate, bibCreate, hnn]

/-- A failed session allocation returns `NULL` with the new BIB freed but still linked in
    `hash6` and `hash4`: the store differs from the one before only in those two buckets, which
    hold the freed address `next`, and in `next`. -/
theorem bibSessionCreate_of_session_failed {st : Store} (hfresh : st.next ∉ st.bibIds)
    (saddr in6Daddr : In6Addr) (daddr : UInt32) (sport dport : UInt16) (protocol : Int)
    (type : ExpiryType) (ta : Option TransportAddr) :
    bibSessionCreate st saddr in6Daddr daddr sport dport protocol type ta true false =
      (none, { st.linkBib st.next (nat64Hash6 saddr sport).toNat (local4Of ta).1.toNat with
        next := st.next + 1 }) := by
  have hnn : ¬ (((local4Of ta).1.toNat : Int) < 0) := by omega
  have hkeep : (st.bibs ++ [(st.next, createdBib saddr sport protocol ta)]).filter
      (fun p => decide (p.1 ≠ st.next)) = st.bibs := by
    have hall : ∀ p ∈ st.bibs, decide (p.1 ≠ st.next) = true := fun p hp =>
      decide_eq_true fun he => hfresh (by rw [← he]; exact List.mem_map_of_mem _ hp)
    rw [List.filter_append, List.filter_eq_self.2 hall]
    simp
  simp only [bibSessionCreate, bibCreate, Bool.not_true, Bool.false_eq_true, if_false, hnn,
    sessionCreate_of_not_ok, Prod.mk.injEq, true_and]
  simp only [Store.freeBib, Store.linkBib, Store.allocBib]
  rw [← createdBib, hkeep]

/-- With the pool empty, a successful call makes a BIB whose local address and port are `-1`. -/
theorem bibSessionCreate_of_empty_pool {st : Store} (hfresh : st.next ∉ st.bibIds)
    (saddr in6Daddr : In6Addr) (daddr : UInt32) (sport dport : UInt16) (protocol : Int)
    (type : ExpiryType) :
    (bibSessionCreate st saddr in6Daddr daddr sport dport protocol type none true true).1 =
      some st.next ∧
    ∃ e, (bibSessionCreate st saddr in6Daddr daddr sport dport protocol type none true true).2.bib?
      st.next = some e ∧ e.local4Addr = 0 - 1 ∧ e.local4Port = 0 - 1 := by
  rw [bibSessionCreate_eq hfresh]
  refine ⟨rfl, { createdBib saddr sport protocol none with sessions := [st.next + 1] }, ?_, rfl, rfl⟩
  have hb : (st.allocBib (createdBib saddr sport protocol none)).bib? st.next =
      some (createdBib saddr sport protocol none) := find?_append_fresh hfresh
  simp [hb]
  rfl

/-- From the empty store: a call whose session allocation fails returns `NULL` and leaves the
    freed BIB `0` in bucket 0 of `hash6` and bucket `ntohs(5)` of `hash4`, and a call with an
    empty pool makes the BIB `0` with local address `0xffffffff` and local port `0xffff`. -/
theorem bib_session_create_leaves_freed_bib :
    (bibSessionCreate (Store.init (fun _ => 300) 1000 32 0 0) ⟨0, 0, 0, 1⟩ ⟨0, 0, 0, 2⟩ 3 1 2 17
      .udpDefault (some ⟨4, 5⟩) true false).1 = none ∧
    (bibSessionCreate (Store.init (fun _ => 300) 1000 32 0 0) ⟨0, 0, 0, 1⟩ ⟨0, 0, 0, 2⟩ 3 1 2 17
      .udpDefault (some ⟨4, 5⟩) true false).2.bibIds = [] ∧
    (bibSessionCreate (Store.init (fun _ => 300) 1000 32 0 0) ⟨0, 0, 0, 1⟩ ⟨0, 0, 0, 2⟩ 3 1 2 17
      .udpDefault (some ⟨4, 5⟩) true false).2.hash6 0 = [0] ∧
    (bibSessionCreate (Store.init (fun _ => 300) 1000 32 0 0) ⟨0, 0, 0, 1⟩ ⟨0, 0, 0, 2⟩ 3 1 2 17
      .udpDefault (some ⟨4, 5⟩) true false).2.hash4 (ntohs 5).toNat = [0] ∧
    ((bibSessionCreate (Store.init (fun _ => 300) 1000 32 0 0) ⟨0, 0, 0, 1⟩ ⟨0, 0, 0, 2⟩ 3 1 2 17
      .udpDefault none true true).2.bib? 0).map (fun e => (e.local4Addr, e.local4Port)) =
      some (0xffffffff, 0xffff) := by
  decide

end Jool.Filtering
