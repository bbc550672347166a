-- SUMMARY: Every section of pool4.c holds ports of its own parity and range only, so both allocators preserve the parity and range of the port asked for.
import Jool.Pool4.Nodes

/-!
# Port classes

The four sections of an address split its ports into classes by parity and by range (below
1024, or 1024 and above): `getSection` names the class of a port. `init_section` starts each
section at the first port of its class, `extract_any_port` moves `next_port` by two, and
`pool4_return` files each port under its own class. So every section only ever holds ports
of its class (`SectionOk`), whatever ports are given back, and both allocators answer with a
port of the class of the one asked for.
-/

namespace Jool.Pool4

namespace SectionKind

/-- The first port of the class, where `init_section` starts `next_port`. -/
def first : SectionKind → Nat
  | .oddLow => 1
  | .evenLow => 0
  | .oddHigh => 1025
  | .evenHigh => 1024

/-- The last port of the class, the `max_port` that `init_section` sets. -/
def last : SectionKind → Nat
  | .oddLow => 1023
  | .evenLow => 1022
  | .oddHigh => 65535
  | .evenHigh => 65534

end SectionKind

theorem sectionOf_newPoolNode (a : InAddr) (k : SectionKind) :
    (newPoolNode a).sectionOf k = initSection k.first k.last := by
  cases k <;> rfl

/-- Two ports are in one class when they agree in parity and in range. -/
theorem getSection_eq_iff (x y : Nat) :
    getSection x = getSection y ↔ x % 2 = y % 2 ∧ (x < 1024 ↔ y < 1024) := by
  rcases Nat.mod_two_eq_zero_or_one x with px | px <;>
    rcases Nat.mod_two_eq_zero_or_one y with py | py <;>
    by_cases hx : x < 1024 <;> by_cases hy : y < 1024 <;> simp [getSection, hx, hy, px, py]

/-- A port of the parity of `k.first`, between `k.first` and `k.last`, is in class `k`. -/
theorem getSection_of_between {k : SectionKind} {q : Nat} (hp : q % 2 = k.first % 2)
    (hlo : k.first ≤ q) (hhi : q ≤ k.last) : getSection q = k := by
  have hk : getSection k.first = k := by cases k <;> rfl
  rw [← hk, getSection_eq_iff]
  refine ⟨hp, ?_⟩
  cases k <;> simp only [SectionKind.first, SectionKind.last] at * <;> omega

/-- What every section of every reachable pool satisfies: it holds ports of its own class
    in `free_ports`, and `next_port` has the parity of the class and is not below its first
    port, while `max_port` keeps the class's last port. -/
structure SectionOk (k : SectionKind) (s : AddrSection) : Prop where
  free : ∀ q ∈ s.freePorts, getSection q = k
  next_parity : s.nextPort % 2 = k.first % 2
  first_le : k.first ≤ s.nextPort
  max_eq : s.maxPort = k.last

theorem sectionOk_init (k : SectionKind) : SectionOk k (initSection k.first k.last) :=
  ⟨by simp [initSection], rfl, le_rfl, rfl⟩

/-- `extract_any_port` hands out a port of the section's class and keeps the section
    well-formed. -/
theorem SectionOk.extractAnyPort {k : SectionKind} {s s' : AddrSection} {q : Nat}
    (hs : SectionOk k s) (h : extractAnyPort s = some (q, s')) :
    getSection q = k ∧ SectionOk k s' := by
  unfold Jool.Pool4.extractAnyPort at h
  split at h
  · next p rest hfree =>
    cases h
    refine ⟨hs.free q (by simp [hfree]), fun q' hq' => hs.free q' (by simp [hfree, hq']),
      hs.next_parity, hs.first_le, hs.max_eq⟩
  · split at h
    · cases h
    · next hle =>
      cases h
      refine ⟨getSection_of_between hs.next_parity hs.first_le (by rw [← hs.max_eq]; omega),
        hs.free, ?_, Nat.le_add_right_of_le hs.first_le, hs.max_eq⟩
      simp only [Nat.add_mod_right, hs.next_parity]

theorem SectionOk.push {s : AddrSection} {q : Nat} (hs : SectionOk (getSection q) s) :
    SectionOk (getSection q) { s with freePorts := s.freePorts ++ [q] } :=
  ⟨fun q' hq' => by
    rcases List.mem_append.1 hq' with hq' | hq'
    · exact hs.free q' hq'
    · rw [List.mem_singleton.1 hq'], hs.next_parity, hs.first_le, hs.max_eq⟩

/-- Every section of the node keeps its class. -/
def NodeOk (n : PoolNode) : Prop := ∀ k, SectionOk k (n.sectionOf k)

theorem NodeOk.setSection {n : PoolNode} (hn : NodeOk n) {k : SectionKind} {s : AddrSection}
    (hs : SectionOk k s) : NodeOk (n.setSection k s) := fun k' => by
  by_cases h : k' = k
  · subst h; simpa using hs
  · simpa [h] using hn k'

theorem nodeOk_newPoolNode (a : InAddr) : NodeOk (newPoolNode a) := fun k => by
  rw [sectionOf_newPoolNode]
  exact sectionOk_init k

/-- Every node of every pool keeps its classes. -/
def PoolsOk (p : Pools) : Prop := ∀ π, ∀ n ∈ p.get π, NodeOk n

/-- Writing back one node that keeps its classes keeps the pools well-formed. -/
theorem PoolsOk.set_middle {p : Pools} (hp : PoolsOk p) {π : L4Proto} {pre post : List PoolNode}
    {n n' : PoolNode} (hπ : p.get π = pre ++ n :: post) (hn' : NodeOk n') :
    PoolsOk (p.set π (pre ++ n' :: post)) := fun π' m hm => by
  by_cases h : π' = π
  · subst h
    rw [Pools.get_set, if_pos rfl] at hm
    simp only [List.mem_append, List.mem_cons] at hm
    rcases hm with hm | rfl | hm
    · exact hp π' m (by simp [hπ, hm])
    · exact hn'
    · exact hp π' m (by simp [hπ, hm])
  · exact hp π' m (by simpa [h] using hm)

theorem PoolsOk.node {p : Pools} (hp : PoolsOk p) {π : L4Proto} {pre post : List PoolNode}
    {n : PoolNode} (hπ : p.get π = pre ++ n :: post) : NodeOk n :=
  hp π n (by simp [hπ])

-- ---------------------------------------------------------------------------
-- Every operation keeps the classes
-- ---------------------------------------------------------------------------

theorem PoolsOk.getAny {p : Pools} (hp : PoolsOk p) (l4protocol port : Nat) :
    PoolsOk (pool4GetAny p l4protocol port).2 := by
  rcases pool4GetAny_cases p l4protocol port with
    h | ⟨π, pre, n, post, q, s, -, hsplit, hx, -, h⟩ <;> rw [h]
  · exact hp
  · exact hp.set_middle hsplit
      ((hp.node hsplit).setSection ((hp.node hsplit _).extractAnyPort hx).2)

theorem PoolsOk.getSimilar {p : Pools} (hp : PoolsOk p) (l4protocol : Nat)
    (address : Option Ipv4TupleAddress) : PoolsOk (pool4GetSimilar p l4protocol address).2 := by
  rcases pool4GetSimilar_cases p l4protocol address with
    h | ⟨a, π, pre, n, post, q, s, -, -, hsplit, -, -, hx, h⟩ <;> rw [h]
  · exact hp
  · exact hp.set_middle hsplit
      ((hp.node hsplit).setSection ((hp.node hsplit _).extractAnyPort hx).2)

theorem PoolsOk.ret {p : Pools} (hp : PoolsOk p) (l4protocol : Nat)
    (address : Option Ipv4TupleAddress) (allocOk : Bool) :
    PoolsOk (pool4Return p l4protocol address allocOk).2 := by
  rcases pool4Return_cases p l4protocol address allocOk with
    h | ⟨a, π, pre, n, post, -, -, -, hsplit, -, -, h⟩ <;> rw [h]
  · exact hp
  · exact hp.set_middle hsplit ((hp.node hsplit).setSection (hp.node hsplit _).push)

theorem PoolsOk.register {p : Pools} (hp : PoolsOk p) (address : Option InAddr)
    (allocOk : Bool) : PoolsOk (pool4Register p address allocOk).2 := by
  rcases address with _ | a
  · exact hp
  cases allocOk
  · exact hp
  · intro π n hn
    simp only [pool4Register, if_true, Pools.get_map, List.mem_append, List.mem_singleton] at hn
    rcases hn with hn | rfl
    · exact hp π n hn
    · exact nodeOk_newPoolNode a

theorem PoolsOk.remove {p : Pools} (hp : PoolsOk p) (address : Option InAddr) :
    PoolsOk (pool4Remove p address).2 := by
  rcases address with _ | a
  · exact hp
  have hsub : ∀ π, ∀ n ∈ (removeNodes p a).2.get π, n ∈ p.get π := by
    intro π n hn
    rw [removeNodes_get] at hn
    exact List.mem_of_mem_eraseP hn
  simp only [pool4Remove]
  split <;> exact fun π n hn => hp π n (hsub π n hn)

theorem poolsOk_pool4Destroy (p : Pools) : PoolsOk (pool4Destroy p) := fun π n hn => by
  simp [pool4Destroy] at hn

theorem PoolsOk.load {p : Pools} (hp : PoolsOk p) (defs : List (Option InAddr × Bool)) :
    PoolsOk (loadDefaults defs p).2 := by
  induction defs generalizing p with
  | nil => exact hp
  | cons d rest ih =>
    obtain ⟨_ | a, ok⟩ := d
    · exact poolsOk_pool4Destroy p
    · have hr := hp.register (some a) ok
      unfold loadDefaults
      split
      · next h => exact ih (by rw [h] at hr; exact hr)
      · next pools' _ _ => exact poolsOk_pool4Destroy pools'

theorem Pool4Reachable.poolsOk {p : Pools} (h : Pool4Reachable p) : PoolsOk p := by
  induction h with
  | init defaults pool4Def =>
    have h0 : PoolsOk Pools.empty := fun π n hn => by simp at hn
    unfold pool4Init
    split
    · exact h0.load _
    · exact h0
  | register address allocOk _ ih => exact ih.register address allocOk
  | remove address _ ih => exact ih.remove address
  | getAny l4protocol port _ ih => exact ih.getAny l4protocol port
  | getSimilar l4protocol address _ ih => exact ih.getSimilar l4protocol address
  | ret l4protocol address allocOk _ ih => exact ih.ret l4protocol address allocOk
  | destroy _ _ => exact poolsOk_pool4Destroy _

-- ---------------------------------------------------------------------------
-- What the allocators hand out
-- ---------------------------------------------------------------------------

theorem PoolsOk.getAny_some {p p' : Pools} (hp : PoolsOk p) {l4protocol port : Nat}
    {r : Ipv4TupleAddress} (h : pool4GetAny p l4protocol port = (some r, p')) :
    getSection r.l4Id = getSection (be16ToCpu port) ∧
      ∃ π, getPool l4protocol = some π ∧ r.address ∈ addresses p π := by
  rcases pool4GetAny_cases p l4protocol port with
    h' | ⟨π, pre, n, post, q, s, hπ, hsplit, hx, -, h'⟩ <;> rw [h'] at h
  · cases h
  · cases h
    exact ⟨((hp.node hsplit _).extractAnyPort hx).1, π, hπ, by simp [addresses, hsplit]⟩

theorem PoolsOk.getSimilar_some {p p' : Pools} (hp : PoolsOk p) {l4protocol : Nat}
    {a r : Ipv4TupleAddress} (h : pool4GetSimilar p l4protocol (some a) = (some r, p')) :
    r.address = a.address ∧ getSection r.l4Id = getSection a.l4Id := by
  rcases pool4GetSimilar_cases p l4protocol (some a) with
    h' | ⟨a', π, pre, n, post, q, s, ha, -, hsplit, -, -, hx, h'⟩ <;> rw [h'] at h
  · cases h
  · cases h
    cases ha
    exact ⟨rfl, ((hp.node hsplit _).extractAnyPort hx).1⟩

/-- In every reachable pool state each section holds ports of its own parity and range only,
    and `next_port` keeps the parity of the class, not below its first port. So
    `pool4_get_any` answers with a port of the parity and range of the port asked for, at an
    address of the protocol's pool, and `pool4_get_similar` with a port of the parity and
    range of the one asked for, at the address asked for. -/
theorem pool4_ports_keep_class {p : Pools} (h : Pool4Reachable p) :
    (∀ π, ∀ n ∈ p.get π, ∀ k, SectionOk k (n.sectionOf k)) ∧
    (∀ l4protocol port r p', pool4GetAny p l4protocol port = (some r, p') →
      r.l4Id % 2 = be16ToCpu port % 2 ∧ (r.l4Id < 1024 ↔ be16ToCpu port < 1024) ∧
      ∃ π, getPool l4protocol = some π ∧ r.address ∈ addresses p π) ∧
    (∀ l4protocol a r p', pool4GetSimilar p l4protocol (some a) = (some r, p') →
      r.address = a.address ∧ r.l4Id % 2 = a.l4Id % 2 ∧ (r.l4Id < 1024 ↔ a.l4Id < 1024)) := by
  have hp := h.poolsOk
  refine ⟨hp, fun l4protocol port r p' hr => ?_, fun l4protocol a r p' hr => ?_⟩
  · obtain ⟨hk, hmem⟩ := hp.getAny_some hr
    exact ⟨((getSection_eq_iff _ _).1 hk).1, ((getSection_eq_iff _ _).1 hk).2, hmem⟩
  · obtain ⟨ha, hk⟩ := hp.getSimilar_some hr
    exact ⟨ha, (getSection_eq_iff _ _).1 hk⟩

/-- After `pool4_init` and one registration, the pools are reachable and every section keeps
    its class. -/
theorem pool4_ports_keep_class_init :
    Pool4Reachable (pool4Register (pool4Init false []).2 (some ⟨0xC6336401⟩) true).2 ∧
      ∀ π, ∀ n ∈ (pool4Register (pool4Init false []).2 (some ⟨0xC6336401⟩) true).2.get π,
        ∀ k, SectionOk k (n.sectionOf k) :=
  have h := Pool4Reachable.register (some ⟨0xC6336401⟩) true (.init false [])
  ⟨h, (pool4_ports_keep_class h).1⟩

end Jool.Pool4
