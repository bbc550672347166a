-- SUMMARY: Runs of the BIB and session store: the empty store, the calls of the header's functions from BIB creation to reaper passes, the passing of time, and a sample run.
import Jool.Filtering.Reaper

/-!
# Runs

The header has no initialisation of its own: a run starts from a store with no BIB, no session,
empty indices and queues, and any timeouts. It then goes through calls of the header's functions
and advances of `jiffies`. Two parameters say which of them a run makes:

* `create`: which calls of `bib_session_create` are made, from the store, the source IPv6
  transport address, the protocol and what `get_tranport_addr` returns. Only successful calls
  are in a run (both allocations succeed; the pool may still be empty);
* `tick`: by how much `jiffies` may advance.

A run also records the entries `get_tranport_addr` hands out, in order.

The sample run at the end is a short day of a NAT64 with a 32-bit clock at `HZ` 1000: a TCP
connection set up from both sides, two UDP bindings, a second session on one of them, time
passing beyond the UDP timeout of the first, and a pass of the reaper that frees it. The
theorems over every run are instantiated on it.
-/

namespace Jool.Filtering

/-- The store before the first call: nothing allocated, the given timeouts. -/
def Store.init (timeout : ExpiryType → Int) (hz longBits jiffies next : Nat) : Store where
  bibs := []
  sessions := []
  hash6 := fun _ => []
  hash4 := fun _ => []
  expiryBase := fun q => ⟨[], timeout q⟩
  jiffies := jiffies
  hz := hz
  longBits := longBits
  next := next

/-- `jiffies` advanced by `d`, as an `unsigned long`. -/
def Store.tick (st : Store) (d : Nat) : Store :=
  { st with jiffies := (st.jiffies + d) % 2 ^ st.longBits }

/-- The stores a run reaches, with the transport-address pool entries handed out so far. -/
inductive Reach (create : Store → In6Addr → UInt16 → Int → Option TransportAddr → Prop)
    (tick : Store → Nat → Prop) : Store → List TransportAddr → Prop where
  | init (timeout : ExpiryType → Int) (hz longBits jiffies next : Nat) :
      jiffies < 2 ^ longBits → Reach create tick (Store.init timeout hz longBits jiffies next) []
  | bibSessionCreate {st : Store} {drawn : List TransportAddr} (saddr in6Daddr : In6Addr)
      (daddr : UInt32) (sport dport : UInt16) (protocol : Int) (type : ExpiryType)
      (ta : Option TransportAddr) :
      Reach create tick st drawn → create st saddr sport protocol ta →
      Reach create tick
        (bibSessionCreate st saddr in6Daddr daddr sport dport protocol type ta true true).2
        (drawn ++ ta.toList)
  | sessionCreate {st : Store} {drawn : List TransportAddr} (bib : Nat) (in6Daddr : In6Addr)
      (addr : UInt32) (port : UInt16) (type : ExpiryType) (allocOk : Bool) :
      Reach create tick st drawn → bib ∈ st.bibIds →
      Reach create tick (sessionCreate st bib in6Daddr addr port type allocOk).2 drawn
  | sessionRenew {st : Store} {drawn : List TransportAddr} (session : Nat) (type : ExpiryType) :
      Reach create tick st drawn → session ∈ st.sessionIds →
      Reach create tick (sessionRenew st session type) drawn
  | tcp4Fsm {st : Store} {drawn : List TransportAddr} (session : Nat) (tcph : TcpFlags) :
      Reach create tick st drawn → session ∈ st.sessionIds →
      Reach create tick (tcp4Fsm st session tcph) drawn
  | tcp6Fsm {st : Store} {drawn : List TransportAddr} (session : Nat) (tcph : TcpFlags) :
      Reach create tick st drawn → session ∈ st.sessionIds →
      Reach create tick (tcp6Fsm st session tcph) drawn
  | tcpTimeoutFsm {st : Store} {drawn : List TransportAddr} (session : Nat) :
      Reach create tick st drawn → session ∈ st.sessionIds →
      Reach create tick (tcpTimeoutFsm st session).2 drawn
  | cleanExpiredSessions {st : Store} {drawn : List TransportAddr} (queue : ExpiryType) :
      Reach create tick st drawn → Reach create tick (cleanExpiredSessions st queue) drawn
  | tick {st : Store} {drawn : List TransportAddr} (d : Nat) :
      Reach create tick st drawn → tick st d → Reach create tick (st.tick d) drawn

/-- Any call of `bib_session_create`. -/
def anyCreate : Store → In6Addr → UInt16 → Int → Option TransportAddr → Prop :=
  fun _ _ _ _ _ => True

/-- Any advance of `jiffies`. -/
def anyTick : Store → Nat → Prop := fun _ _ => True

-- ---------------------------------------------------------------------------
-- A sample run
-- ---------------------------------------------------------------------------

/-- Timeouts in seconds: UDP 5 min, TCP transitory 4 min, TCP established 2 h 4 min, incoming
    SYN 6 s, ICMP 1 min. -/
def sampleTimeout : ExpiryType → Int
  | .udpDefault => 5 * 60
  | .tcpTrans => 4 * 60
  | .tcpEst => 2 * 60 * 60 + 4 * 60
  | .tcpIncomingSyn => 6
  | .icmpDefault => 1 * 60

/-- The IPv6 node of the sample run, 2001:db8::1. -/
def sampleRemote6 : In6Addr := ⟨0x20010db8, 0, 0, 1⟩

/-- The IPv4 server of the sample run, 198.51.100.1, and its address embedded in 64:ff9b::/96. -/
def sampleRemote4 : UInt32 := 0xC6336401

/-- The embedding of the IPv4 server in 64:ff9b::/96. -/
def sampleEmbedded6 : In6Addr := ⟨0x0064ff9b, 0, 0, 0xC6336401⟩

/-- The pool address of the sample run, 192.0.2.1. -/
def sampleLocal4 : UInt32 := 0xC0000201

/-- The entries the pool hands out in the sample run, in network byte order: host ports 1024,
    1026 and 1028. -/
def sampleDrawn : List TransportAddr := [⟨sampleLocal4, 4⟩, ⟨sampleLocal4, 516⟩, ⟨sampleLocal4, 1028⟩]

/-- The calls of the sample run, one a step. -/
def sampleStep : Nat → Store → Store
  | 0, st => (bibSessionCreate st sampleRemote6 sampleEmbedded6 sampleRemote4 1000 80 6 .tcpTrans
      (some ⟨sampleLocal4, 4⟩) true true).2
  | 1, st => tcp6Fsm st 1 ⟨true, false, false⟩
  | 2, st => tcp4Fsm st 1 ⟨true, false, false⟩
  | 3, st => (bibSessionCreate st sampleRemote6 sampleEmbedded6 sampleRemote4 2000 53 17
      .udpDefault (some ⟨sampleLocal4, 516⟩) true true).2
  | 4, st => st.tick 1000
  | 5, st => (bibSessionCreate st sampleRemote6 sampleEmbedded6 sampleRemote4 2001 53 17
      .udpDefault (some ⟨sampleLocal4, 1028⟩) true true).2
  | 6, st => (sessionCreate st 4 ⟨0x0064ff9b, 0, 0, 0xCB007107⟩ 0xCB007107 53 .udpDefault true).2
  | 7, st => st.tick 299500
  | _, st => cleanExpiredSessions st .udpDefault

/-- The store after the first `n` calls of the sample run. -/
def sampleStore : Nat → Store
  | 0 => Store.init sampleTimeout 1000 32 0 0
  | n + 1 => sampleStep n (sampleStore n)

/-- The sample run up to the reaper's pass is a run of every `create` and `tick` that allow its
    three calls of `bib_session_create` and its two advances of the clock. -/
theorem Reach.sample_before_pass
    {create : Store → In6Addr → UInt16 → Int → Option TransportAddr → Prop}
    {tick : Store → Nat → Prop}
    (h0 : create (sampleStore 0) sampleRemote6 1000 6 (some ⟨sampleLocal4, 4⟩))
    (h3 : create (sampleStore 3) sampleRemote6 2000 17 (some ⟨sampleLocal4, 516⟩))
    (h5 : create (sampleStore 5) sampleRemote6 2001 17 (some ⟨sampleLocal4, 1028⟩))
    (t4 : tick (sampleStore 4) 1000) (t7 : tick (sampleStore 7) 299500) :
    Reach create tick (sampleStore 8) sampleDrawn := by
  have r1 : Reach create tick (sampleStore 1) [⟨sampleLocal4, 4⟩] :=
    (Reach.init _ _ _ _ _ (by decide)).bibSessionCreate sampleRemote6 sampleEmbedded6 sampleRemote4
      1000 80 6 .tcpTrans _ h0
  have r3 : Reach create tick (sampleStore 3) [⟨sampleLocal4, 4⟩] :=
    (r1.tcp6Fsm 1 ⟨true, false, false⟩ (by decide)).tcp4Fsm 1 ⟨true, false, false⟩ (by decide)
  have r4 : Reach create tick (sampleStore 4) [⟨sampleLocal4, 4⟩, ⟨sampleLocal4, 516⟩] :=
    r3.bibSessionCreate sampleRemote6 sampleEmbedded6 sampleRemote4 2000 53 17 .udpDefault _ h3
  have r6 : Reach create tick (sampleStore 6) sampleDrawn :=
    (r4.tick 1000 t4).bibSessionCreate sampleRemote6 sampleEmbedded6 sampleRemote4 2001 53 17
      .udpDefault _ h5
  exact (r6.sessionCreate 4 ⟨0x0064ff9b, 0, 0, 0xCB007107⟩ 0xCB007107 53 .udpDefault true
    (by decide)).tick 299500 t7

/-- The whole sample run, the reaper's pass included. -/
theorem Reach.sample {create : Store → In6Addr → UInt16 → Int → Option TransportAddr → Prop}
    {tick : Store → Nat → Prop}
    (h0 : create (sampleStore 0) sampleRemote6 1000 6 (some ⟨sampleLocal4, 4⟩))
    (h3 : create (sampleStore 3) sampleRemote6 2000 17 (some ⟨sampleLocal4, 516⟩))
    (h5 : create (sampleStore 5) sampleRemote6 2001 17 (some ⟨sampleLocal4, 1028⟩))
    (t4 : tick (sampleStore 4) 1000) (t7 : tick (sampleStore 7) 299500) :
    Reach create tick (sampleStore 9) sampleDrawn :=
  (Reach.sample_before_pass h0 h3 h5 t4 t7).cleanExpiredSessions .udpDefault

end Jool.Filtering
