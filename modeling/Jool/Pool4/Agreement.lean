-- SUMMARY: The three protocol pools of pool4.c always list the same addresses, so the readers of the UDP pool answer for all three.
import Jool.Pool4.Nodes

/-!
# Agreement of the three pools

`pool4_register` links one node into each of the TCP, UDP and ICMP lists, or none when an
allocation fails, and `pool4_remove` destroys the first node of the address in each list.
The allocation operations change sections and never addresses. So in every reachable state
the three lists carry the same addresses in the same order (`AddressesAgree`), and
`pool4_contains` and `pool4_to_array`, which read the UDP list only, answer for every
protocol.
-/

namespace Jool.Pool4

/-- The three pools list the same addresses, in the same order. -/
def AddressesAgree (p : Pools) : Prop := ∀ π, addresses p π = addresses p .udp

-- ---------------------------------------------------------------------------
-- What each operation does to the addresses
-- ---------------------------------------------------------------------------

theorem addresses_pool4Register (p : Pools) (a : InAddr) (allocOk : Bool) (π : L4Proto) :
    addresses (pool4Register p (some a) allocOk).2 π =
      if allocOk then addresses p π ++ [a] else addresses p π := by
  cases allocOk <;> simp [pool4Register, addresses]

theorem addresses_eraseP (l : List PoolNode) (a : InAddr) :
    (l.eraseP (·.address == a)).map (·.address) = (l.map (·.address)).erase a := by
  rw [List.erase_eq_eraseP', List.eraseP_map]
  rfl

theorem removeNodes_fst (p : Pools) (a : InAddr) :
    (removeNodes p a).1 = (if a ∈ addresses p .tcp then 1 else 0) +
      (if a ∈ addresses p .udp then 1 else 0) + (if a ∈ addresses p .icmp then 1 else 0) := by
  simp [removeNodes, removeFrom_eq, addresses]

theorem addresses_removeNodes (p : Pools) (a : InAddr) (π : L4Proto) :
    addresses (removeNodes p a).2 π = (addresses p π).erase a := by
  rw [addresses, removeNodes_get, addresses_eraseP]
  rfl

theorem addresses_pool4Remove (p : Pools) (a : InAddr) (π : L4Proto) :
    addresses (pool4Remove p (some a)).2 π = (addresses p π).erase a := by
  simp only [pool4Remove]
  split <;> exact addresses_removeNodes p a π

/-- Writing one pool back, changed in one node at the same address, keeps every pool's
    addresses. -/
theorem addresses_set_middle {p : Pools} {π : L4Proto} {pre post : List PoolNode}
    {n n' : PoolNode} (hπ : p.get π = pre ++ n :: post) (h : n'.address = n.address)
    (π' : L4Proto) : addresses (p.set π (pre ++ n' :: post)) π' = addresses p π' := by
  by_cases hπ' : π' = π
  · subst hπ'
    simp [addresses, hπ, h]
  · simp [addresses, hπ']

theorem addresses_pool4GetAny (p : Pools) (l4protocol port : Nat) (π : L4Proto) :
    addresses (pool4GetAny p l4protocol port).2 π = addresses p π := by
  rcases pool4GetAny_cases p l4protocol port with
    h | ⟨π', pre, n, post, q, s, -, hsplit, -, -, h⟩ <;> rw [h]
  exact addresses_set_middle hsplit (by simp) π

theorem addresses_pool4GetSimilar (p : Pools) (l4protocol : Nat)
    (address : Option Ipv4TupleAddress) (π : L4Proto) :
    addresses (pool4GetSimilar p l4protocol address).2 π = addresses p π := by
  rcases pool4GetSimilar_cases p l4protocol address with
    h | ⟨a, π', pre, n, post, q, s, -, -, hsplit, -, -, -, h⟩ <;> rw [h]
  exact addresses_set_middle hsplit (by simp) π

theorem addresses_pool4Return (p : Pools) (l4protocol : Nat)
    (address : Option Ipv4TupleAddress) (allocOk : Bool) (π : L4Proto) :
    addresses (pool4Return p l4protocol address allocOk).2 π = addresses p π := by
  rcases pool4Return_cases p l4protocol address allocOk with
    h | ⟨a, π', pre, n, post, -, -, -, hsplit, -, -, h⟩ <;> rw [h]
  exact addresses_set_middle hsplit (by simp) π

-- ---------------------------------------------------------------------------
-- The invariant
-- ---------------------------------------------------------------------------

theorem AddressesAgree.of_eq {p q : Pools} (h : ∀ π, addresses q π = addresses p π)
    (hp : AddressesAgree p) : AddressesAgree q := fun π => by rw [h, h, hp]

theorem AddressesAgree.map {p q : Pools} (hp : AddressesAgree p) (f : List InAddr → List InAddr)
    (h : ∀ π, addresses q π = f (addresses p π)) : AddressesAgree q :=
  fun π => by rw [h, h, hp]

theorem addressesAgree_pool4Register {p : Pools} (hp : AddressesAgree p)
    (address : Option InAddr) (allocOk : Bool) :
    AddressesAgree (pool4Register p address allocOk).2 := by
  cases address with
  | none => exact hp
  | some a =>
    exact hp.map (fun l => if allocOk then l ++ [a] else l) (addresses_pool4Register p a allocOk)

theorem addressesAgree_pool4Destroy (p : Pools) : AddressesAgree (pool4Destroy p) := fun π => by
  simp [pool4Destroy, addresses]

theorem addressesAgree_loadDefaults {p : Pools} (hp : AddressesAgree p)
    (defs : List (Option InAddr × Bool)) : AddressesAgree (loadDefaults defs p).2 := by
  induction defs generalizing p with
  | nil => exact hp
  | cons d rest ih =>
    obtain ⟨_ | a, ok⟩ := d
    · exact addressesAgree_pool4Destroy p
    · have hr := addressesAgree_pool4Register hp (some a) ok
      unfold loadDefaults
      split
      · next h => exact ih (by rw [h] at hr; exact hr)
      · next pools' _ _ => exact addressesAgree_pool4Destroy pools'

theorem Pool4Reachable.addressesAgree {p : Pools} (h : Pool4Reachable p) :
    AddressesAgree p := by
  induction h with
  | init defaults pool4Def =>
    unfold pool4Init
    split
    · exact addressesAgree_loadDefaults (fun π => by simp [addresses]) _
    · exact fun π => by simp [addresses]
  | register address allocOk _ ih => exact addressesAgree_pool4Register ih address allocOk
  | remove address _ ih =>
    cases address with
    | none => exact ih
    | some a => exact ih.map (·.erase a) (addresses_pool4Remove _ a)
  | getAny l4protocol port _ ih => exact ih.of_eq (addresses_pool4GetAny _ l4protocol port)
  | getSimilar l4protocol address _ ih =>
    exact ih.of_eq (addresses_pool4GetSimilar _ l4protocol address)
  | ret l4protocol address allocOk _ ih =>
    exact ih.of_eq (addresses_pool4Return _ l4protocol address allocOk)
  | destroy _ _ => exact addressesAgree_pool4Destroy _

-- ---------------------------------------------------------------------------
-- Consequences
-- ---------------------------------------------------------------------------

/-- `pool4_register` links a node into all three pools when its allocations succeed, and changes
    none of them when one fails. -/
theorem pool4Register_all_or_none (p : Pools) (a : InAddr) :
    ((pool4Register p (some a) true).1 = .success ∧
      ∀ π, addresses (pool4Register p (some a) true).2 π = addresses p π ++ [a]) ∧
    pool4Register p (some a) false = (.allocFailed, p) :=
  ⟨⟨rfl, fun π => by simp [addresses_pool4Register]⟩, rfl⟩

theorem AddressesAgree.deleted_none_or_all {p : Pools} (hp : AddressesAgree p) (a : InAddr) :
    (removeNodes p a).1 = 0 ∨ (removeNodes p a).1 = 3 := by
  rw [removeNodes_fst, hp .tcp, hp .icmp]
  by_cases ha : a ∈ addresses p .udp <;> simp [ha]

theorem AddressesAgree.contains_iff {p : Pools} (hp : AddressesAgree p) (a : InAddr)
    (π : L4Proto) : pool4Contains p a = true ↔ a ∈ addresses p π := by
  rw [hp π, addresses, Pools.get_udp, ← getPoolNode_isSome]
  rfl

theorem AddressesAgree.toArray_eq {p : Pools} (hp : AddressesAgree p) (π : L4Proto) :
    (pool4ToArray p true).2 = some (addresses p π, (addresses p π).length) := by
  rw [hp π]
  simp [pool4ToArray, addresses, Pools.get_udp]

/-- In every reachable state the three pools list the same addresses. Registration adds the
    address to all three when its allocations succeed, and returns `RESPONSE_ALLOC_FAILED` with no pool changed
    when one fails; removal takes one occurrence from each and so never deletes from some pools
    only, and `pool4_contains` and `pool4_to_array`, which read the UDP pool, answer for every
    protocol. -/
theorem pool4_pools_agree {p : Pools} (h : Pool4Reachable p) :
    AddressesAgree p ∧
    (∀ a, (pool4Register p (some a) true).1 = .success ∧
        ∀ π, addresses (pool4Register p (some a) true).2 π = addresses p π ++ [a]) ∧
    (∀ a, pool4Register p (some a) false = (.allocFailed, p)) ∧
    (∀ a π, addresses (pool4Remove p (some a)).2 π = (addresses p π).erase a) ∧
    (∀ a, (removeNodes p a).1 = 0 ∨ (removeNodes p a).1 = 3) ∧
    (∀ a π, pool4Contains p a = true ↔ a ∈ addresses p π) ∧
    (∀ π, (pool4ToArray p true).2 = some (addresses p π, (addresses p π).length)) := by
  have hp := h.addressesAgree
  exact ⟨hp, fun a => (pool4Register_all_or_none p a).1, fun a => (pool4Register_all_or_none p a).2,
    addresses_pool4Remove p, hp.deleted_none_or_all, hp.contains_iff, hp.toArray_eq⟩

/-- The pools after `pool4_init` and one registration are reachable, and agree. -/
theorem pool4_pools_agree_init :
    Pool4Reachable (pool4Register (pool4Init false []).2 (some ⟨0xC6336401⟩) true).2 ∧
      AddressesAgree (pool4Register (pool4Init false []).2 (some ⟨0xC6336401⟩) true).2 :=
  have h := Pool4Reachable.register (some ⟨0xC6336401⟩) true (.init false [])
  ⟨h, (pool4_pools_agree h).1⟩

end Jool.Pool4
