-- SUMMARY: The functions of nf_nat64_filtering_and_updating.h that create, renew and look up BIB and session entries, translated to operations on the store.
import Jool.Filtering.Store

/-!
# Creating, renewing and looking up entries

Each function of the header that reads or changes the store, with its branches as the source
has them. What the source leaves to code outside it is an argument:

* whether a `kmem_cache_zalloc` succeeds (`allocOk`, `bibOk`, `sessionOk`);
* what `get_tranport_addr(&free_udp_transport_addr)` returns: `NULL`, or an entry whose address
  `in4_pton` reads as `address` and whose `port` is a 16-bit number in host order. The pool
  (`nf_nat64_ipv4_pool.h`) is not part of this source, and nothing here gives an entry back;
* the flags of the TCP header a state machine is given.

`printk` and `pr_debug` change nothing. The `_tcp` variants differ from their UDP twins only in
the `kmem_cache` they use, which the store does not tell apart: they are the same operations.
-/

namespace Jool.Filtering

-- ---------------------------------------------------------------------------
-- Hashes, byte order and time
-- ---------------------------------------------------------------------------

/-- `nat64_hash4`: the port. -/
def nat64Hash4 (_addr : UInt32) (port : UInt16) : UInt16 := port

/-- `nat64_hash6`: the last three words of the address folded to 16 bits, then the port. -/
def nat64Hash6 (addr6 : In6Addr) (port : UInt16) : UInt16 :=
  let addr4 := addr6.word1 ^^^ addr6.word2 ^^^ addr6.word3
  ((addr4 >>> 16) ^^^ addr4 ^^^ port.toUInt32).toUInt16

/-- `ntohs` on the little-endian hosts the pool4 code also assumes: the two bytes swap. -/
def ntohs (x : UInt16) : UInt16 := UInt16.ofNat (be16ToCpu x.toNat)

/-- An `int` result: the kernel builds with `-fno-strict-overflow`, so `int` arithmetic wraps
    in two's complement. -/
def toInt32 (x : Int) : Int := (x + 2 ^ 31) % 2 ^ 32 - 2 ^ 31

/-- `time_after(a, b)` of `linux/jiffies.h`: `(long)(b - a) < 0`, for `unsigned long`s of
    `bits` bits. -/
def timeAfter (bits a b : Nat) : Bool := decide (2 ^ (bits - 1) ≤ ((b : Int) - a) % 2 ^ bits)

/-- `jiffies + expiry_base[type].timeout*HZ`: the product is an `int`; the sum an `unsigned
    long`. -/
def Store.deadline (st : Store) (type : ExpiryType) : Nat :=
  (((st.jiffies : Int) + toInt32 ((st.expiryBase type).timeout * st.hz)) % 2 ^ st.longBits).toNat

-- ---------------------------------------------------------------------------
-- Renewal and the TCP state machines
-- ---------------------------------------------------------------------------

/-- `session_renew`: the session moves to the tail of the queue of `type`, with a new
    deadline. -/
def sessionRenew (st : Store) (session : Nat) (type : ExpiryType) : Store :=
  ((st.delExpiry session).updSession session fun e => { e with expires := st.deadline type })
    |>.addTailExpiry session type

/-- `session->state = state`. -/
def setState (st : Store) (session : Nat) (state : StateType) : Store :=
  st.updSession session fun e => { e with state := state }

/-- `session_renew(session, type); session->state = state;` -/
def renewTo (st : Store) (session : Nat) (type : ExpiryType) (state : StateType) : Store :=
  setState (sessionRenew st session type) session state

/-- `tcp_timeout_fsm`: an established session is given the transitory timeout and moves to
    `FOUR_MIN`, and the function returns 1; any other is left alone, and it returns 0. -/
def tcpTimeoutFsm (st : Store) (session : Nat) : Int × Store :=
  match st.session? session with
  | some e => if e.state = .established then (1, renewTo st session .tcpTrans .fourMin) else (0, st)
  | none => (0, st)

/-- The flags of a `struct tcphdr` the state machines read. -/
structure TcpFlags where
  syn : Bool
  fin : Bool
  rst : Bool
  deriving DecidableEq, Repr

/-- `tcp4_fsm`: a packet from the IPv4 side. -/
def tcp4Fsm (st : Store) (session : Nat) (tcph : TcpFlags) : Store :=
  match st.session? session with
  | none => st
  | some e =>
    match e.state with
    | .closed => st
    | .v6SynRcv => if tcph.syn then renewTo st session .tcpEst .established else st
    | .v4SynRcv => st
    | .fourMin => if !tcph.rst then renewTo st session .tcpEst .established else st
    | .established =>
      if tcph.fin then setState st session .v4FinRcv
      else if tcph.rst then renewTo st session .tcpTrans .fourMin
      else sessionRenew st session .tcpEst
    | .v6FinRcv =>
      if tcph.fin then renewTo st session .tcpTrans .v6FinV4Fin
      else sessionRenew st session .tcpEst
    | .v4FinRcv => sessionRenew st session .tcpEst
    | .v6FinV4Fin => st

/-- `tcp6_fsm`: a packet from the IPv6 side. -/
def tcp6Fsm (st : Store) (session : Nat) (tcph : TcpFlags) : Store :=
  match st.session? session with
  | none => st
  | some e =>
    match e.state with
    | .closed => if tcph.syn then renewTo st session .tcpTrans .v6SynRcv else st
    | .v6SynRcv => if tcph.syn then sessionRenew st session .tcpTrans else st
    | .v4SynRcv => if tcph.syn then renewTo st session .tcpEst .established else st
    | .fourMin => if !tcph.rst then renewTo st session .tcpEst .established else st
    | .established =>
      if tcph.fin then setState st session .v6FinRcv
      else if tcph.rst then renewTo st session .tcpTrans .fourMin
      else sessionRenew st session .tcpEst
    | .v6FinRcv => sessionRenew st session .tcpEst
    | .v4FinRcv =>
      if tcph.fin then renewTo st session .tcpTrans .v6FinV4Fin
      else sessionRenew st session .tcpEst
    | .v6FinV4Fin => st

-- ---------------------------------------------------------------------------
-- Creation
-- ---------------------------------------------------------------------------

/-- The session `session_create` fills in for a BIB. -/
def newSession (b : BibEntry) (in6Daddr : In6Addr) (addr : UInt32) (port : UInt16)
    (expires : Nat) : StEntry where
  state := .closed
  remote6Addr := b.remote6Addr
  embedded6Addr := in6Daddr
  local4Addr := b.local4Addr
  remote4Addr := addr
  remote6Port := b.remote6Port
  embedded6Port := port
  local4Port := b.local4Port
  remote4Port := port
  expires := expires

/-- `session_create`: a new session, at the head of the BIB's session list and the tail of the
    queue of `type`. (`bib` is a pointer to a BIB; one the store does not hold gets nothing.) -/
def sessionCreate (st : Store) (bib : Nat) (in6Daddr : In6Addr) (addr : UInt32) (port : UInt16)
    (type : ExpiryType) (allocOk : Bool) : Option Nat × Store :=
  if !allocOk then (none, st) else
  match st.bib? bib with
  | none => (none, st)
  | some b =>
    let s := st.next
    let st1 := st.allocSession (newSession b in6Daddr addr port (st.deadline type))
    (some s, (st1.updBib bib fun e => { e with sessions := s :: e.sessions }).addTailExpiry s type)

/-- `session_create_tcp`. -/
def sessionCreateTcp (st : Store) (bib : Nat) (in6Daddr : In6Addr) (addr : UInt32)
    (port : UInt16) (type : ExpiryType) (allocOk : Bool) : Option Nat × Store :=
  sessionCreate st bib in6Daddr addr port type allocOk

/-- `bib_create`: a new BIB with no session. -/
def bibCreate (st : Store) (remote6Addr : In6Addr) (remote6Port : UInt16) (local4Addr : UInt32)
    (local4Port : UInt16) (type : Int) (allocOk : Bool) : Option Nat × Store :=
  if !allocOk then (none, st) else
  (some st.next, st.allocBib ⟨type, remote6Addr, local4Addr, remote6Port, local4Port, []⟩)

/-- `bib_create_tcp`. -/
def bibCreateTcp (st : Store) (remote6Addr : In6Addr) (remote6Port : UInt16) (local4Addr : UInt32)
    (local4Port : UInt16) (type : Int) (allocOk : Bool) : Option Nat × Store :=
  bibCreate st remote6Addr remote6Port local4Addr local4Port type allocOk

/-- An entry of the transport-address pool, as `bib_session_create` reads it. -/
structure TransportAddr where
  address : UInt32
  port : UInt16
  deriving DecidableEq, Repr

/-- The local IPv4 port and address `bib_session_create` takes from what `get_tranport_addr`
    returns: `ntohs` of the entry's port and its address, or `-1` and `-1` for `NULL`. -/
def local4Of : Option TransportAddr → UInt16 × UInt32
  | none => (0 - 1, 0 - 1)
  | some ta => (ntohs ta.port, ta.address)

/-- `bib_session_create`. The test `local4_port < 0` is on a `__be16`, which is never
    negative, so an empty pool does not stop it. The new BIB is linked into both indices before
    its session is created, and a failed session creation frees it without unlinking it. -/
def bibSessionCreate (st : Store) (saddr in6Daddr : In6Addr) (daddr : UInt32)
    (sport dport : UInt16) (protocol : Int) (type : ExpiryType)
    (transportAddr : Option TransportAddr) (bibOk sessionOk : Bool) : Option Nat × Store :=
  let local4Port := (local4Of transportAddr).1
  let local4Addr := (local4Of transportAddr).2
  if (local4Port.toNat : Int) < 0 then (none, st) else
  match bibCreate st saddr sport local4Addr local4Port protocol bibOk with
  | (none, st1) => (none, st1)
  | (some bib, st1) =>
    let st2 := st1.linkBib bib (nat64Hash6 saddr sport).toNat local4Port.toNat
    match sessionCreate st2 bib in6Daddr daddr dport type sessionOk with
    | (none, st3) => (none, st3.freeBib bib)
    | (some _, st3) => (some bib, st3)

/-- `bib_session_create_tcp`. -/
def bibSessionCreateTcp (st : Store) (saddr in6Daddr : In6Addr) (daddr : UInt32)
    (sport dport : UInt16) (protocol : Int) (type : ExpiryType)
    (transportAddr : Option TransportAddr) (bibOk sessionOk : Bool) : Option Nat × Store :=
  bibSessionCreate st saddr in6Daddr daddr sport dport protocol type transportAddr bibOk sessionOk

-- ---------------------------------------------------------------------------
-- Lookups
-- ---------------------------------------------------------------------------

/-- `session_ipv4_lookup`: the first session of the BIB's list with that remote IPv4 transport
    address. -/
def sessionIpv4Lookup (st : Store) (bib : Nat) (remote4Addr : UInt32) (remote4Port : UInt16) :
    Option Nat :=
  match st.bib? bib with
  | none => none
  | some b => b.sessions.find? fun s =>
      match st.session? s with
      | some e => e.remote4Addr == remote4Addr && e.remote4Port == remote4Port
      | none => false

/-- `bib_ipv4_lookup`: the first BIB of bucket `nat64_hash4(addr, port)` of `hash4` with that
    type and local IPv4 transport address. -/
def bibIpv4Lookup (st : Store) (localAddr : UInt32) (localPort : UInt16) (type : Int) :
    Option Nat :=
  (st.hash4 (nat64Hash4 localAddr localPort).toNat).find? fun b =>
    match st.bib? b with
    | some e => e.type == type && e.local4Addr == localAddr && e.local4Port == localPort
    | none => false

/-- `bib_ipv6_lookup`: the first BIB of bucket `nat64_hash6(addr, port)` of `hash6` with that
    type and remote IPv6 transport address. -/
def bibIpv6Lookup (st : Store) (remoteAddr : In6Addr) (remotePort : UInt16) (type : Int) :
    Option Nat :=
  (st.hash6 (nat64Hash6 remoteAddr remotePort).toNat).find? fun b =>
    match st.bib? b with
    | some e => e.type == type && e.remote6Port == remotePort && e.remote6Addr == remoteAddr
    | none => false

end Jool.Filtering
