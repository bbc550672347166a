-- SUMMARY: The IPv4 transport-address pool of pool4.c: sections, nodes, the three protocol pools and every operation on them.
import Jool.Basic

/-!
# pool4

`pool4.c` keeps, for each of UDP, TCP and ICMP, a list of `pool_node`s: one per
registered IPv4 address, each split into four `addr_section`s by port parity and range.
A section hands out the ports given back first (`free_ports`, a FIFO), and then the ones
never used (`next_port`, advancing by two up to `max_port`).

In C the three lists are module-global state; here they form the value `Pools` that every
operation takes and returns. A `kmalloc` that may fail is an explicit `Bool` argument, and a
pointer argument that may be `NULL` is an `Option`.
-/

namespace Jool.Pool4

/-- `struct addr_section`. -/
structure AddrSection where
  /-- The next port never handed out. -/
  nextPort : Nat
  /-- The largest value `nextPort` may be handed out at. -/
  maxPort : Nat
  /-- The ports given back, oldest first. -/
  freePorts : List Nat
  deriving DecidableEq, Repr

/-- The four sections of an address, named after the `pool_node` fields. -/
inductive SectionKind where
  | oddLow
  | evenLow
  | oddHigh
  | evenHigh
  deriving DecidableEq, Repr

/-- `struct pool_node`. -/
structure PoolNode where
  address : InAddr
  oddLow : AddrSection
  evenLow : AddrSection
  oddHigh : AddrSection
  evenHigh : AddrSection
  deriving DecidableEq, Repr

namespace PoolNode

/-- The field of the node that a section pointer designates. -/
def sectionOf (n : PoolNode) : SectionKind → AddrSection
  | .oddLow => n.oddLow
  | .evenLow => n.evenLow
  | .oddHigh => n.oddHigh
  | .evenHigh => n.evenHigh

/-- The node after a write through the section pointer for `k`. -/
def setSection (n : PoolNode) (k : SectionKind) (s : AddrSection) : PoolNode :=
  match k with
  | .oddLow => { n with oddLow := s }
  | .evenLow => { n with evenLow := s }
  | .oddHigh => { n with oddHigh := s }
  | .evenHigh => { n with evenHigh := s }

@[simp] theorem address_setSection (n : PoolNode) (k : SectionKind) (s : AddrSection) :
    (n.setSection k s).address = n.address := by
  cases k <;> rfl

@[simp] theorem sectionOf_setSection (n : PoolNode) (k k' : SectionKind) (s : AddrSection) :
    (n.setSection k s).sectionOf k' = if k' = k then s else n.sectionOf k' := by
  cases k <;> cases k' <;> rfl

end PoolNode

/-- `get_section`: the section that holds ports like `l4Id`. It reads only the port; the
    node it is given only locates the result. -/
def getSection (l4Id : Nat) : SectionKind :=
  if l4Id < 1024 then
    if l4Id % 2 = 0 then .evenLow else .oddLow
  else
    if l4Id % 2 = 0 then .evenHigh else .oddHigh

/-- `extract_any_port`: the oldest port given back, else `next_port`, which then advances by
    two. `max_port` keeps the value `init_section` gave it, at most 65535, so `next_port` is
    at most 65535 when it is handed out: the store into the 16-bit `*port` and the 32-bit
    increment lose nothing. -/
def extractAnyPort (s : AddrSection) : Option (Nat × AddrSection) :=
  match s.freePorts with
  | p :: rest => some (p, { s with freePorts := rest })
  | [] =>
    if s.nextPort > s.maxPort then none
    else some (s.nextPort, { s with nextPort := s.nextPort + 2 })

/-- `init_section`. -/
def initSection (nextPort maxPort : Nat) : AddrSection := ⟨nextPort, maxPort, []⟩

/-- The node `pool4_register` links into each pool for `address`. -/
def newPoolNode (address : InAddr) : PoolNode where
  address := address
  oddLow := initSection 1 1023
  evenLow := initSection 0 1022
  oddHigh := initSection 1025 65535
  evenHigh := initSection 1024 65534

@[simp] theorem newPoolNode_address (address : InAddr) :
    (newPoolNode address).address = address := rfl

-- ---------------------------------------------------------------------------
-- The three pools
-- ---------------------------------------------------------------------------

/-- The three address lists of the global `pools`. -/
inductive L4Proto where
  | udp
  | tcp
  | icmp
  deriving DecidableEq, Repr

/-- The global `pools`: one `address_list` per protocol. -/
structure Pools where
  udp : List PoolNode
  tcp : List PoolNode
  icmp : List PoolNode
  deriving DecidableEq, Repr

namespace Pools

def empty : Pools := ⟨[], [], []⟩

def get (p : Pools) : L4Proto → List PoolNode
  | .udp => p.udp
  | .tcp => p.tcp
  | .icmp => p.icmp

def set (p : Pools) (π : L4Proto) (l : List PoolNode) : Pools :=
  match π with
  | .udp => { p with udp := l }
  | .tcp => { p with tcp := l }
  | .icmp => { p with icmp := l }

/-- The same change made to each of the three lists. -/
def map (p : Pools) (f : List PoolNode → List PoolNode) : Pools := ⟨f p.udp, f p.tcp, f p.icmp⟩

@[simp] theorem get_set (p : Pools) (π π' : L4Proto) (l : List PoolNode) :
    (p.set π l).get π' = if π' = π then l else p.get π' := by
  cases π <;> cases π' <;> rfl

@[simp] theorem get_map (p : Pools) (f : List PoolNode → List PoolNode) (π : L4Proto) :
    (p.map f).get π = f (p.get π) := by
  cases π <;> rfl

@[simp] theorem get_empty (π : L4Proto) : empty.get π = [] := by
  cases π <;> rfl

theorem get_udp (p : Pools) : p.get .udp = p.udp := rfl

@[simp] theorem set_get (p : Pools) (π : L4Proto) : p.set π (p.get π) = p := by
  cases π <;> rfl

end Pools

/-- `get_pool`: the list of a protocol number, `NULL` for any other. -/
def getPool (l4protocol : Nat) : Option L4Proto :=
  if l4protocol = ipprotoUdp then some .udp
  else if l4protocol = ipprotoTcp then some .tcp
  else if l4protocol = ipprotoIcmp ∨ l4protocol = ipprotoIcmpv6 then some .icmp
  else none

/-- `get_pool_node`: the first node of `address`. -/
def getPoolNode (pool : List PoolNode) (address : InAddr) : Option PoolNode :=
  pool.find? (·.address == address)

/-- The list after writing `n` over the node `get_pool_node` found for `address`. -/
def setPoolNode (pool : List PoolNode) (address : InAddr) (n : PoolNode) : List PoolNode :=
  match pool with
  | [] => []
  | m :: ms => if m.address = address then n :: ms else m :: setPoolNode ms address n

-- ---------------------------------------------------------------------------
-- Operations
-- ---------------------------------------------------------------------------

/-- `pool4_register`: a fresh node for `address` at the end of each list. `allocOk` says
    whether the three `kmalloc` calls succeed; on the first failure the nodes already
    allocated are freed and no list changes. -/
def pool4Register (pools : Pools) (address : Option InAddr) (allocOk : Bool) :
    ResponseCode × Pools :=
  match address with
  | none => (.missingParam, pools)
  | some a =>
    if allocOk then (.success, pools.map (· ++ [newPoolNode a]))
    else (.allocFailed, pools)

/-- One turn of `pool4_remove`'s loop: destroy the node of `address` in pool `π`, if there
    is one, and count it. -/
def removeFrom (address : InAddr) (acc : Nat × Pools) (π : L4Proto) : Nat × Pools :=
  match getPoolNode (acc.2.get π) address with
  | none => acc
  | some _ => (acc.1 + 1, acc.2.set π ((acc.2.get π).eraseP (·.address == address)))

/-- The loop of `pool4_remove` over the pools `{ tcp, udp, icmp }`: how many nodes it
    destroyed, and the pools after. -/
def removeNodes (pools : Pools) (address : InAddr) : Nat × Pools :=
  [L4Proto.tcp, .udp, .icmp].foldl (removeFrom address) (0, pools)

/-- `pool4_remove`: a count of deletions other than none or all three is reported as
    `NOT_FOUND`, after the deletions. -/
def pool4Remove (pools : Pools) (address : Option InAddr) : ResponseCode × Pools :=
  match address with
  | none => (.missingParam, pools)
  | some a =>
    let r := removeNodes pools a
    if r.1 ≠ 0 ∧ r.1 ≠ 3 then (.notFound, r.2) else (.success, r.2)

/-- The loop of `pool4_get_any`: the first node whose section for `l4Id` yields a port. -/
def getAnyIn (l4Id : Nat) : List PoolNode → Option (Ipv4TupleAddress × List PoolNode)
  | [] => none
  | n :: ns =>
    match extractAnyPort (n.sectionOf (getSection l4Id)) with
    | some (p, s) => some (⟨n.address, p⟩, n.setSection (getSection l4Id) s :: ns)
    | none => (getAnyIn l4Id ns).map fun r => (r.1, n :: r.2)

/-- `pool4_get_any`: a transport address from the first address of the pool with a port of
    the parity and range of `port` (in network order). -/
def pool4GetAny (pools : Pools) (l4protocol : Nat) (port : Nat) :
    Option Ipv4TupleAddress × Pools :=
  match getPool l4protocol with
  | none => (none, pools)
  | some π =>
    if pools.get π = [] then (none, pools)
    else
      match getAnyIn (be16ToCpu port) (pools.get π) with
      | some (r, pool) => (some r, pools.set π pool)
      | none => (none, pools)

/-- `pool4_get_similar`: a port of the parity and range of `address.l4Id`, from the node of
    `address.address`. -/
def pool4GetSimilar (pools : Pools) (l4protocol : Nat) (address : Option Ipv4TupleAddress) :
    Option Ipv4TupleAddress × Pools :=
  match address with
  | none => (none, pools)
  | some a =>
    match getPool l4protocol with
    | none => (none, pools)
    | some π =>
      match getPoolNode (pools.get π) a.address with
      | none => (none, pools)
      | some node =>
        match extractAnyPort (node.sectionOf (getSection a.l4Id)) with
        | some (p, s) =>
          (some ⟨a.address, p⟩,
            pools.set π (setPoolNode (pools.get π) a.address
              (node.setSection (getSection a.l4Id) s)))
        | none => (none, pools)

/-- `pool4_return`: `address.l4Id` joins the tail of its section's `free_ports`. `allocOk`
    says whether the `kmalloc` of the `free_port` record succeeds; when it fails the port is
    not remembered. -/
def pool4Return (pools : Pools) (l4protocol : Nat) (address : Option Ipv4TupleAddress)
    (allocOk : Bool) : Bool × Pools :=
  match address with
  | none => (false, pools)
  | some a =>
    match getPool l4protocol with
    | none => (false, pools)
    | some π =>
      match getPoolNode (pools.get π) a.address with
      | none => (false, pools)
      | some node =>
        if allocOk then
          let s := node.sectionOf (getSection a.l4Id)
          (true, pools.set π (setPoolNode (pools.get π) a.address
            (node.setSection (getSection a.l4Id) { s with freePorts := s.freePorts ++ [a.l4Id] })))
        else (false, pools)

/-- `pool4_contains`: whether the UDP pool has a node of `address`. -/
def pool4Contains (pools : Pools) (address : InAddr) : Bool :=
  (getPoolNode pools.udp address).isSome

/-- `pool4_to_array`: the addresses of the UDP pool and their count. `allocOk` says whether
    the `kmalloc` of the array succeeds. -/
def pool4ToArray (pools : Pools) (allocOk : Bool) : ResponseCode × Option (List InAddr × Nat) :=
  if allocOk then (.success, some (pools.udp.map (·.address), pools.udp.length))
  else (.allocFailed, none)

/-- `pool4_destroy`: every node of every pool is destroyed. -/
def pool4Destroy (pools : Pools) : Pools := pools.map fun _ => []

/-- `load_defaults`: register each address of `POOL4_DEF` in turn. Each default carries what
    `str_to_addr4` made of it (`none` when malformed) and whether its registration's
    allocations succeed. The first failure destroys the pools. -/
def loadDefaults : List (Option InAddr × Bool) → Pools → Bool × Pools
  | [], pools => (true, pools)
  | (none, _) :: _, pools => (false, pool4Destroy pools)
  | (some a, ok) :: rest, pools =>
    match pool4Register pools (some a) ok with
    | (.success, pools') => loadDefaults rest pools'
    | (_, pools') => (false, pool4Destroy pools')

/-- `pool4_init`: the three lists start empty, then the defaults are loaded if asked for. -/
def pool4Init (defaults : Bool) (pool4Def : List (Option InAddr × Bool)) : Bool × Pools :=
  if defaults then loadDefaults pool4Def Pools.empty else (true, Pools.empty)

-- ---------------------------------------------------------------------------
-- Reachable states
-- ---------------------------------------------------------------------------

/-- The pool states the API reaches after `pool4_init`, whatever the arguments of each call
    and whatever each `kmalloc` does. -/
inductive Pool4Reachable : Pools → Prop where
  | init (defaults : Bool) (pool4Def : List (Option InAddr × Bool)) :
      Pool4Reachable (pool4Init defaults pool4Def).2
  | register {p : Pools} (address : Option InAddr) (allocOk : Bool) :
      Pool4Reachable p → Pool4Reachable (pool4Register p address allocOk).2
  | remove {p : Pools} (address : Option InAddr) :
      Pool4Reachable p → Pool4Reachable (pool4Remove p address).2
  | getAny {p : Pools} (l4protocol port : Nat) :
      Pool4Reachable p → Pool4Reachable (pool4GetAny p l4protocol port).2
  | getSimilar {p : Pools} (l4protocol : Nat) (address : Option Ipv4TupleAddress) :
      Pool4Reachable p → Pool4Reachable (pool4GetSimilar p l4protocol address).2
  | ret {p : Pools} (l4protocol : Nat) (address : Option Ipv4TupleAddress) (allocOk : Bool) :
      Pool4Reachable p → Pool4Reachable (pool4Return p l4protocol address allocOk).2
  | destroy {p : Pools} : Pool4Reachable p → Pool4Reachable (pool4Destroy p)

end Jool.Pool4
