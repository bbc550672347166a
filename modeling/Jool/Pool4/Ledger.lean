-- SUMMARY: The ledger of a pool4 section: its available ports and the ports held out of it, and what extract_any_port and pool4_return do to it.
import Jool.Pool4.Classes

/-!
# Section ledgers

A section can still hand out the ports given back (`free_ports`) and the ports never used
(`next_port`, `next_port + 2`, ... up to `max_port`): together its `available` ports. A port
it has handed out is held by whoever asked for it. The ledger of a section lists both, and
the lemmas here say that neither `extract_any_port` nor `pool4_return` changes it, up to
order: a port only moves between the two parts.
-/

open scoped List

namespace Jool.Pool4

/-- The ports never handed out: `next_port`, `next_port + 2`, ..., up to `max_port`. -/
def neverIssued (s : AddrSection) : List Nat :=
  List.range' s.nextPort ((s.maxPort + 2 - s.nextPort) / 2) 2

/-- The ports a section can still hand out, in the order it would. -/
def available (s : AddrSection) : List Nat := s.freePorts ++ neverIssued s

namespace SectionKind

/-- The ports of the class: those `init_section` leaves never issued. -/
def ports (k : SectionKind) : List Nat := neverIssued (initSection k.first k.last)

/-- How many ports the class has. -/
def size : SectionKind → Nat
  | .oddLow => 512
  | .evenLow => 512
  | .oddHigh => 32256
  | .evenHigh => 32256

theorem length_ports (k : SectionKind) : k.ports.length = k.size := by
  cases k <;> simp [ports, neverIssued, initSection, first, last, size]

theorem nodup_ports (k : SectionKind) : k.ports.Nodup :=
  List.nodup_range' _ _ _ (by decide)

theorem getSection_of_mem_ports {k : SectionKind} {q : Nat} (h : q ∈ k.ports) :
    getSection q = k := by
  obtain ⟨i, hi, rfl⟩ := List.mem_range'.1 h
  refine getSection_of_between ?_ (by simp [initSection]) ?_
  · simp [initSection, Nat.add_mul_mod_self_left]
  · cases k <;> simp only [initSection, first, last] at hi ⊢ <;> omega

end SectionKind

theorem available_init (k : SectionKind) :
    available (initSection k.first k.last) = k.ports := by
  simp [available, initSection, SectionKind.ports]

/-- `extract_any_port` hands out the head of the available ports. -/
theorem available_extractAnyPort {s s' : AddrSection} {q : Nat}
    (h : extractAnyPort s = some (q, s')) : available s = q :: available s' := by
  unfold extractAnyPort at h
  split at h
  · next p rest hfree =>
    cases h
    simp [available, neverIssued, hfree]
  · next hfree =>
    split at h
    · cases h
    · next hle =>
      cases h
      have hlen : (s.maxPort + 2 - s.nextPort) / 2 =
          (s.maxPort + 2 - (s.nextPort + 2)) / 2 + 1 := by omega
      simp [available, neverIssued, hfree, hlen, List.range'_succ]

/-- `extract_any_port` fails exactly when nothing is available. -/
theorem extractAnyPort_eq_none_iff (s : AddrSection) :
    extractAnyPort s = none ↔ available s = [] := by
  unfold extractAnyPort available neverIssued
  split
  · next p rest hfree => simp [hfree]
  · next hfree =>
    split
    · simp [hfree, List.range'_eq_nil]; omega
    · simp [hfree, List.range'_eq_nil]; omega

theorem available_push (s : AddrSection) (q : Nat) :
    available { s with freePorts := s.freePorts ++ [q] } ~ q :: available s := by
  simp only [available, neverIssued, List.append_assoc, List.singleton_append]
  exact List.perm_middle

-- ---------------------------------------------------------------------------
-- Held ports
-- ---------------------------------------------------------------------------

/-- The ports of class `k` at address `a` among the transport addresses `held`. -/
def portsOf (held : List Ipv4TupleAddress) (a : InAddr) (k : SectionKind) : List Nat :=
  (held.filter fun x => x.address = a ∧ getSection x.l4Id = k).map (·.l4Id)

@[simp] theorem portsOf_nil (a : InAddr) (k : SectionKind) : portsOf [] a k = [] := rfl

theorem portsOf_cons (x : Ipv4TupleAddress) (held : List Ipv4TupleAddress) (a : InAddr)
    (k : SectionKind) : portsOf (x :: held) a k =
      if x.address = a ∧ getSection x.l4Id = k then x.l4Id :: portsOf held a k
      else portsOf held a k := by
  by_cases ha : x.address = a <;> by_cases hk : getSection x.l4Id = k <;>
    simp [portsOf, List.filter_cons, ha, hk]

theorem portsOf_cons_of_ne {x : Ipv4TupleAddress} {a : InAddr} {k : SectionKind}
    (h : ¬(x.address = a ∧ getSection x.l4Id = k)) (held : List Ipv4TupleAddress) :
    portsOf (x :: held) a k = portsOf held a k := by
  rw [portsOf_cons, if_neg h]

theorem portsOf_perm {held held' : List Ipv4TupleAddress} (h : held ~ held') (a : InAddr)
    (k : SectionKind) : portsOf held a k ~ portsOf held' a k :=
  (h.filter _).map _

theorem portsOf_append (l₁ l₂ : List Ipv4TupleAddress) (a : InAddr) (k : SectionKind) :
    portsOf (l₁ ++ l₂) a k = portsOf l₁ a k ++ portsOf l₂ a k := by
  simp [portsOf, List.filter_append]

/-- Dropping the pairs of another address does not change the ports held at this one. -/
theorem portsOf_filter_ne (l : List Ipv4TupleAddress) {a b : InAddr} (hb : b ≠ a)
    (k : SectionKind) : portsOf (l.filter (·.address ≠ a)) b k = portsOf l b k := by
  simp only [portsOf, List.filter_filter]
  congr 1
  refine List.filter_congr fun x _ => ?_
  by_cases h : x.address = b
  · simp [h, hb]
  · simp [h]

theorem portsOf_sublist_erase (held : List Ipv4TupleAddress) (x : Ipv4TupleAddress) (a : InAddr)
    (k : SectionKind) : (portsOf (held.erase x) a k).Sublist (portsOf held a k) :=
  ((List.erase_sublist x held).filter _).map _

-- ---------------------------------------------------------------------------
-- The ledger of a section
-- ---------------------------------------------------------------------------

/-- The ledger of section `k` at address `a`: what it can hand out, then what is held. -/
def ledger (s : AddrSection) (held : List Ipv4TupleAddress) (a : InAddr) (k : SectionKind) :
    List Nat :=
  available s ++ portsOf held a k

theorem ledger_perm_held (s : AddrSection) {held held' : List Ipv4TupleAddress}
    (h : held ~ held') (a : InAddr) (k : SectionKind) :
    ledger s held a k ~ ledger s held' a k :=
  (portsOf_perm h a k).append_left _

/-- A port handed out by section `k` of node `n` moves from its available ports to its held
    ones; every other section of the node keeps its ledger. -/
theorem ledger_issue {n : PoolNode} {k : SectionKind} {s : AddrSection} {q : Nat}
    (hx : extractAnyPort (n.sectionOf k) = some (q, s)) (hq : getSection q = k)
    (held : List Ipv4TupleAddress) (k' : SectionKind) :
    ledger ((n.setSection k s).sectionOf k') (⟨n.address, q⟩ :: held) n.address k' ~
      ledger (n.sectionOf k') held n.address k' := by
  by_cases hk : k' = k
  · subst hk
    rw [ledger, ledger, PoolNode.sectionOf_setSection, if_pos rfl, available_extractAnyPort hx,
      portsOf_cons, if_pos ⟨rfl, hq⟩]
    exact List.perm_middle
  · rw [PoolNode.sectionOf_setSection, if_neg hk, ledger, ledger,
      portsOf_cons_of_ne (fun h => hk (hq ▸ h.2).symm)]

/-- A port handed out at another address leaves this ledger alone. -/
theorem ledger_cons_of_ne (s : AddrSection) (held : List Ipv4TupleAddress) {x : Ipv4TupleAddress}
    {a : InAddr} (ha : x.address ≠ a) (k : SectionKind) :
    ledger s (x :: held) a k = ledger s held a k := by
  rw [ledger, ledger, portsOf_cons_of_ne (fun h => ha h.1)]

/-- A port given back to node `n` moves from its held ports to the tail of `free_ports`; every
    other section of the node keeps its ledger. -/
theorem ledger_return {n : PoolNode} {x : Ipv4TupleAddress} {held : List Ipv4TupleAddress}
    (hx : x ∈ held) (ha : x.address = n.address) (k' : SectionKind) :
    ledger ((n.setSection (getSection x.l4Id) { n.sectionOf (getSection x.l4Id) with
        freePorts := (n.sectionOf (getSection x.l4Id)).freePorts ++ [x.l4Id] }).sectionOf k')
        (held.erase x) n.address k' ~
      ledger (n.sectionOf k') held n.address k' := by
  have hheld : portsOf held n.address k' ~ portsOf (x :: held.erase x) n.address k' :=
    portsOf_perm (List.perm_cons_erase hx) _ _
  rw [PoolNode.sectionOf_setSection]
  split
  · next hk =>
    subst hk
    rw [portsOf_cons, if_pos ⟨ha, rfl⟩] at hheld
    -- the port joins `free_ports` and leaves the held ports
    exact ((available_push _ _).append_right _).trans
      (List.perm_middle.symm.trans (hheld.symm.append_left _))
  · next hk =>
    rw [portsOf_cons_of_ne (fun h => hk h.2.symm)] at hheld
    exact hheld.symm.append_left _

/-- A port given back at another address leaves this ledger alone, up to order. -/
theorem ledger_erase_of_ne (s : AddrSection) {held : List Ipv4TupleAddress}
    {x : Ipv4TupleAddress} (hx : x ∈ held) {a : InAddr} (ha : x.address ≠ a) (k : SectionKind) :
    ledger s (held.erase x) a k ~ ledger s held a k := by
  have := ledger_perm_held s (List.perm_cons_erase hx) a k
  rw [ledger_cons_of_ne _ _ ha] at this
  exact this.symm

end Jool.Pool4
