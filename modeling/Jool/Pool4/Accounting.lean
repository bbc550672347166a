-- SUMMARY: Port accounting over whole pools: every section's ledger is its class, and what each pool4 operation does to that.
import Jool.Pool4.Ledger

/-!
# Accounting

`Accounted p held` says that the addresses of each pool are distinct and that, for every
section of every node, the available ports and the ports of `held` that belong to it are,
up to order, exactly the ports of the section's class. The lemmas below say what keeps it:
handing a port out and recording it as held, giving a held port back, registering an address
nothing holds, and removing nodes.
-/

open scoped List

namespace Jool.Pool4

/-- Every section's ledger, against the transport addresses `held` of each protocol, is the
    ports of its class, and no address is twice in a pool. -/
def Accounted (p : Pools) (held : L4Proto → List Ipv4TupleAddress) : Prop :=
  ∀ π, (addresses p π).Nodup ∧ ∀ n ∈ p.get π, ∀ k, ledger (n.sectionOf k) (held π) n.address k ~ k.ports

/-- In a pool whose addresses are distinct, the nodes around a node have other addresses. -/
theorem address_ne_of_nodup {pre post : List PoolNode} {n m : PoolNode}
    (hd : ((pre ++ n :: post).map (·.address)).Nodup) (hm : m ∈ pre ∨ m ∈ post) :
    m.address ≠ n.address := by
  rw [List.map_append, List.map_cons, List.nodup_middle, List.nodup_cons] at hd
  intro h
  apply hd.1
  rw [← h, ← List.map_append]
  exact List.mem_map_of_mem _ (List.mem_append.2 hm)

theorem Accounted.perm {p : Pools} {held held' : L4Proto → List Ipv4TupleAddress}
    (h : Accounted p held) (hp : ∀ π, held π ~ held' π) : Accounted p held' := fun π =>
  ⟨(h π).1, fun n hn k => (ledger_perm_held _ (hp π) _ _).symm.trans ((h π).2 n hn k)⟩

/-- Handing out a port of section `k` of a node is accounted once the port is recorded as
    held. -/
theorem Accounted.set_middle {p : Pools} {held : L4Proto → List Ipv4TupleAddress}
    (h : Accounted p held) {π : L4Proto} {pre post : List PoolNode} {n n' : PoolNode}
    (hπ : p.get π = pre ++ n :: post) (haddr : n'.address = n.address)
    {h' : List Ipv4TupleAddress} (hn' : ∀ k, ledger (n'.sectionOf k) h' n.address k ~ k.ports)
    (hother : ∀ m : PoolNode, m.address ≠ n.address → ∀ k,
      ledger (m.sectionOf k) h' m.address k ~ ledger (m.sectionOf k) (held π) m.address k) :
    Accounted (p.set π (pre ++ n' :: post)) (Function.update held π h') := by
  intro π'
  by_cases hπ' : π' = π
  · subst hπ'
    have hd := (h π').1
    rw [addresses, hπ] at hd
    simp only [addresses, Pools.get_set, if_pos rfl, ite_true, Function.update_same]
    refine ⟨by rwa [map_address_middle haddr], fun m hm k => ?_⟩
    rw [List.mem_append, List.mem_cons] at hm
    rcases hm with hm | rfl | hm
    · exact (hother m (address_ne_of_nodup hd (.inl hm)) k).trans
        ((h π').2 m (by simp [hπ, hm]) k)
    · rw [haddr]; exact hn' k
    · exact (hother m (address_ne_of_nodup hd (.inr hm)) k).trans
        ((h π').2 m (by simp [hπ, hm]) k)
  · simpa [addresses, hπ', Function.update_noteq hπ'] using h π'

/-- A port drawn from a section of an accounted pool is of the section's class. -/
theorem Accounted.getSection_eq {p : Pools} {held : L4Proto → List Ipv4TupleAddress}
    (h : Accounted p held) {π : L4Proto} {n : PoolNode} (hn : n ∈ p.get π) {k : SectionKind}
    {q : Nat} (hq : q ∈ available (n.sectionOf k)) : getSection q = k :=
  SectionKind.getSection_of_mem_ports
    (((h π).2 n hn k).subset (List.mem_append_left _ hq))

/-- A port a section can still hand out is held by nobody. -/
theorem Accounted.not_mem_held {p : Pools} {held : L4Proto → List Ipv4TupleAddress}
    (h : Accounted p held) {π : L4Proto} {n : PoolNode} (hn : n ∈ p.get π) {k : SectionKind}
    {q : Nat} (hq : q ∈ available (n.sectionOf k)) : (⟨n.address, q⟩ : Ipv4TupleAddress) ∉ held π := by
  intro hx
  have hd := ((h π).2 n hn k).nodup_iff.2 k.nodup_ports
  have hk := h.getSection_eq hn hq
  have hmem : q ∈ portsOf (held π) n.address k :=
    List.mem_map.2 ⟨_, List.mem_filter.2 ⟨hx, by simp [hk]⟩, rfl⟩
  exact List.disjoint_of_nodup_append hd hq hmem

theorem Accounted.extract {p : Pools} {held : L4Proto → List Ipv4TupleAddress}
    (h : Accounted p held) {π : L4Proto} {pre post : List PoolNode} {n : PoolNode}
    (hπ : p.get π = pre ++ n :: post) {k : SectionKind} {s : AddrSection} {q : Nat}
    (hx : extractAnyPort (n.sectionOf k) = some (q, s)) :
    Accounted (p.set π (pre ++ n.setSection k s :: post))
      (Function.update held π (⟨n.address, q⟩ :: held π)) := by
  have hn : n ∈ p.get π := by simp [hπ]
  have hq := h.getSection_eq hn (by rw [available_extractAnyPort hx]; exact List.mem_cons_self _ _)
  refine h.set_middle hπ (by simp) (fun k' => ?_) (fun m hm k' => ?_)
  · exact (ledger_issue hx hq _ k').trans ((h π).2 n hn k')
  · rw [ledger_cons_of_ne _ _ (Ne.symm hm)]

theorem Accounted.giveBack {p : Pools} {held : L4Proto → List Ipv4TupleAddress}
    (h : Accounted p held) {π : L4Proto} {pre post : List PoolNode} {n : PoolNode}
    (hπ : p.get π = pre ++ n :: post) {x : Ipv4TupleAddress} (hx : x ∈ held π)
    (ha : x.address = n.address) :
    Accounted (p.set π (pre ++ n.setSection (getSection x.l4Id) { n.sectionOf (getSection x.l4Id)
        with freePorts := (n.sectionOf (getSection x.l4Id)).freePorts ++ [x.l4Id] } :: post))
      (Function.update held π ((held π).erase x)) := by
  have hn : n ∈ p.get π := by simp [hπ]
  refine h.set_middle hπ (by simp) (fun k' => ?_) (fun m hm k' => ?_)
  · exact (ledger_return hx ha k').trans ((h π).2 n hn k')
  · exact ledger_erase_of_ne _ hx (ha ▸ Ne.symm hm) k'

/-- Registering an address nothing holds adds nodes whose ledgers are whole classes. -/
theorem Accounted.register {p : Pools} {held held' : L4Proto → List Ipv4TupleAddress}
    (h : Accounted p held) {a : InAddr} (ha : ∀ π, a ∉ addresses p π)
    (hfree : ∀ π, ∀ x ∈ held' π, x.address ≠ a)
    (hsame : ∀ π b k, b ≠ a → portsOf (held' π) b k = portsOf (held π) b k) :
    Accounted (p.map (· ++ [newPoolNode a])) held' := by
  intro π
  have hnone : ∀ k, portsOf (held' π) a k = [] := fun k => by
    simp only [portsOf, List.map_eq_nil_iff, List.filter_eq_nil_iff, decide_eq_true_eq, not_and]
    exact fun x hx hxa => absurd hxa (hfree π x hx)
  refine ⟨?_, fun n hn k => ?_⟩
  · simp only [addresses, Pools.get_map, List.map_append, List.map_cons, List.map_nil,
      newPoolNode_address]
    exact List.nodup_append.2 ⟨(h π).1, List.nodup_singleton a,
      List.disjoint_singleton.2 (ha π)⟩
  · simp only [Pools.get_map, List.mem_append, List.mem_singleton] at hn
    rcases hn with hn | rfl
    · have hne : n.address ≠ a := fun hna => ha π (hna ▸ List.mem_map_of_mem _ hn)
      rw [ledger, hsame π _ k hne]
      exact (h π).2 n hn k
    · rw [ledger, newPoolNode_address, hnone, List.append_nil, sectionOf_newPoolNode,
        available_init]

/-- Nodes may be dropped from the pools. -/
theorem Accounted.sublist {p p' : Pools} {held : L4Proto → List Ipv4TupleAddress}
    (h : Accounted p held) (hs : ∀ π, (p'.get π).Sublist (p.get π)) : Accounted p' held :=
  fun π => ⟨((hs π).map _).nodup (h π).1, fun n hn => (h π).2 n ((hs π).subset hn)⟩

end Jool.Pool4
