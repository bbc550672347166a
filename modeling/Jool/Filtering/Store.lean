-- SUMMARY: The state of nf_nat64_filtering_and_updating.h: BIB and session entries on the heap, the hash6 and hash4 indices, the five expiry queues, and the list primitives that change them.
import Jool.Basic

/-!
# The BIB and session store

`nf_nat64_filtering_and_updating.h` keeps its state in kernel memory: BIB entries and session
entries allocated from `kmem_cache`s, the BIB indices `hash6` and `hash4` (arrays of `hlist`s,
one bucket per `__be16` hash value), and the five expiry queues of `expiry_base`. A pointer is a
`Nat` here, and the heap is an association list from the pointers of the live objects to their
contents; `next` is the address the next allocation returns. A circular `list_head` list is the
list of the objects on it, from its head; an `hlist` bucket likewise.

`HZ` and `BITS_PER_LONG` are constants of the kernel the module is built for; they are fields of
the store, which no operation changes.
-/

namespace Jool.Filtering

/-- `enum expiry_type`. -/
inductive ExpiryType
  | udpDefault | tcpTrans | tcpEst | tcpIncomingSyn | icmpDefault
  deriving DecidableEq, Repr

/-- `enum state_type`. -/
inductive StateType
  | closed | v6SynRcv | v4SynRcv | fourMin | established | v6FinRcv | v4FinRcv | v6FinV4Fin
  deriving DecidableEq, Repr

/-- `struct in6_addr`, as its four 32-bit words `s6_addr32[0]` to `s6_addr32[3]`. -/
structure In6Addr where
  word0 : UInt32
  word1 : UInt32
  word2 : UInt32
  word3 : UInt32
  deriving DecidableEq, Repr

/-- `struct nat64_bib_entry`, with its `sessions` list. Addresses and ports are kept in network
    order, as the source keeps them. -/
structure BibEntry where
  type : Int
  remote6Addr : In6Addr
  local4Addr : UInt32
  remote6Port : UInt16
  local4Port : UInt16
  sessions : List Nat
  deriving DecidableEq, Repr

/-- `struct nat64_st_entry`. `expires` is an `unsigned long`. -/
structure StEntry where
  remote6Addr : In6Addr
  embedded6Addr : In6Addr
  expires : Nat
  state : StateType
  local4Addr : UInt32
  remote4Addr : UInt32
  remote6Port : UInt16
  embedded6Port : UInt16
  remote4Port : UInt16
  local4Port : UInt16
  deriving DecidableEq, Repr

/-- `struct expiry_q`. -/
structure ExpiryQ where
  queue : List Nat
  timeout : Int
  deriving DecidableEq, Repr

/-- The globals of the header and the heap objects they reach. -/
structure Store where
  bibs : List (Nat × BibEntry)
  sessions : List (Nat × StEntry)
  hash6 : Nat → List Nat
  hash4 : Nat → List Nat
  expiryBase : ExpiryType → ExpiryQ
  jiffies : Nat
  hz : Nat
  longBits : Nat
  next : Nat

/-- The five expiry types, in the order of `enum expiry_type`. -/
def ExpiryType.all : List ExpiryType := [.udpDefault, .tcpTrans, .tcpEst, .tcpIncomingSyn, .icmpDefault]

theorem ExpiryType.mem_all (q : ExpiryType) : q ∈ ExpiryType.all := by
  cases q <;> simp [all]

namespace Store

variable (st : Store)

/-- The session at address `s`, if it is live. -/
def session? (s : Nat) : Option StEntry := (st.sessions.find? (·.1 == s)).map (·.2)

/-- The BIB at address `b`, if it is live. -/
def bib? (b : Nat) : Option BibEntry := (st.bibs.find? (·.1 == b)).map (·.2)

def sessionIds : List Nat := st.sessions.map (·.1)

def bibIds : List Nat := st.bibs.map (·.1)

/-- `expiry_base[type].queue`. -/
def queue (type : ExpiryType) : List Nat := (st.expiryBase type).queue

/-- A write to the fields of the session at `s`. -/
def updSession (s : Nat) (f : StEntry → StEntry) : Store :=
  { st with sessions := st.sessions.map fun e => if e.1 = s then (e.1, f e.2) else e }

/-- A write to the fields of the BIB at `b`. -/
def updBib (b : Nat) (f : BibEntry → BibEntry) : Store :=
  { st with bibs := st.bibs.map fun e => if e.1 = b then (e.1, f e.2) else e }

/-- `list_del(&session->byexpiry)`: the session leaves the queue it is on. -/
def delExpiry (s : Nat) : Store :=
  { st with expiryBase := fun q => { st.expiryBase q with queue := (st.expiryBase q).queue.erase s } }

/-- `list_add_tail(&session->byexpiry, &expiry_base[type].queue)`. -/
def addTailExpiry (s : Nat) (type : ExpiryType) : Store :=
  { st with expiryBase := fun q =>
      if q = type then { st.expiryBase q with queue := (st.expiryBase q).queue ++ [s] }
      else st.expiryBase q }

/-- `hlist_del(&bib->byremote)` and `hlist_del(&bib->bylocal)`. -/
def unlinkBib (b : Nat) : Store :=
  { st with hash6 := fun i => (st.hash6 i).erase b, hash4 := fun i => (st.hash4 i).erase b }

/-- `kmem_cache_zalloc` of a session, filled in with `e`: it lands at `next`. -/
def allocSession (e : StEntry) : Store :=
  { st with next := st.next + 1, sessions := st.sessions ++ [(st.next, e)] }

/-- `kmem_cache_zalloc` of a BIB, filled in with `b`: it lands at `next`. -/
def allocBib (b : BibEntry) : Store :=
  { st with next := st.next + 1, bibs := st.bibs ++ [(st.next, b)] }

/-- `hlist_add_head` of the BIB at `b` into bucket `i6` of `hash6` and bucket `i4` of `hash4`. -/
def linkBib (b i6 i4 : Nat) : Store :=
  { st with hash6 := fun j => if j = i6 then b :: st.hash6 j else st.hash6 j,
            hash4 := fun j => if j = i4 then b :: st.hash4 j else st.hash4 j }

/-- `kmem_cache_free` of the BIB at `b`. -/
def freeBib (b : Nat) : Store := { st with bibs := st.bibs.filter (·.1 ≠ b) }

/-- `kmem_cache_free` of the session at `s`. -/
def freeSession (s : Nat) : Store := { st with sessions := st.sessions.filter (·.1 ≠ s) }

end Store

-- ---------------------------------------------------------------------------
-- What each primitive changes
-- ---------------------------------------------------------------------------

namespace Store

variable {st : Store}

section Fields

variable (st : Store) (s b : Nat) (f : StEntry → StEntry) (g : BibEntry → BibEntry)
  (type : ExpiryType)

@[simp] theorem updSession_bibs : (st.updSession s f).bibs = st.bibs := rfl
@[simp] theorem updSession_hash6 : (st.updSession s f).hash6 = st.hash6 := rfl
@[simp] theorem updSession_hash4 : (st.updSession s f).hash4 = st.hash4 := rfl
@[simp] theorem updSession_expiryBase : (st.updSession s f).expiryBase = st.expiryBase := rfl
@[simp] theorem updSession_jiffies : (st.updSession s f).jiffies = st.jiffies := rfl
@[simp] theorem updSession_hz : (st.updSession s f).hz = st.hz := rfl
@[simp] theorem updSession_longBits : (st.updSession s f).longBits = st.longBits := rfl
@[simp] theorem updSession_next : (st.updSession s f).next = st.next := rfl

@[simp] theorem updBib_sessions : (st.updBib b g).sessions = st.sessions := rfl
@[simp] theorem updBib_hash6 : (st.updBib b g).hash6 = st.hash6 := rfl
@[simp] theorem updBib_hash4 : (st.updBib b g).hash4 = st.hash4 := rfl
@[simp] theorem updBib_expiryBase : (st.updBib b g).expiryBase = st.expiryBase := rfl
@[simp] theorem updBib_jiffies : (st.updBib b g).jiffies = st.jiffies := rfl
@[simp] theorem updBib_hz : (st.updBib b g).hz = st.hz := rfl
@[simp] theorem updBib_longBits : (st.updBib b g).longBits = st.longBits := rfl
@[simp] theorem updBib_next : (st.updBib b g).next = st.next := rfl

@[simp] theorem delExpiry_bibs : (st.delExpiry s).bibs = st.bibs := rfl
@[simp] theorem delExpiry_sessions : (st.delExpiry s).sessions = st.sessions := rfl
@[simp] theorem delExpiry_hash6 : (st.delExpiry s).hash6 = st.hash6 := rfl
@[simp] theorem delExpiry_hash4 : (st.delExpiry s).hash4 = st.hash4 := rfl
@[simp] theorem delExpiry_jiffies : (st.delExpiry s).jiffies = st.jiffies := rfl
@[simp] theorem delExpiry_hz : (st.delExpiry s).hz = st.hz := rfl
@[simp] theorem delExpiry_longBits : (st.delExpiry s).longBits = st.longBits := rfl
@[simp] theorem delExpiry_next : (st.delExpiry s).next = st.next := rfl
@[simp] theorem delExpiry_timeout (q : ExpiryType) :
    ((st.delExpiry s).expiryBase q).timeout = (st.expiryBase q).timeout := rfl
@[simp] theorem queue_delExpiry (q : ExpiryType) :
    (st.delExpiry s).queue q = (st.queue q).erase s := rfl

@[simp] theorem addTailExpiry_bibs : (st.addTailExpiry s type).bibs = st.bibs := rfl
@[simp] theorem addTailExpiry_sessions : (st.addTailExpiry s type).sessions = st.sessions := rfl
@[simp] theorem addTailExpiry_hash6 : (st.addTailExpiry s type).hash6 = st.hash6 := rfl
@[simp] theorem addTailExpiry_hash4 : (st.addTailExpiry s type).hash4 = st.hash4 := rfl
@[simp] theorem addTailExpiry_jiffies : (st.addTailExpiry s type).jiffies = st.jiffies := rfl
@[simp] theorem addTailExpiry_hz : (st.addTailExpiry s type).hz = st.hz := rfl
@[simp] theorem addTailExpiry_longBits : (st.addTailExpiry s type).longBits = st.longBits := rfl
@[simp] theorem addTailExpiry_next : (st.addTailExpiry s type).next = st.next := rfl
@[simp] theorem addTailExpiry_timeout (q : ExpiryType) :
    ((st.addTailExpiry s type).expiryBase q).timeout = (st.expiryBase q).timeout := by
  simp only [addTailExpiry]; split <;> rfl
@[simp] theorem queue_addTailExpiry (q : ExpiryType) :
    (st.addTailExpiry s type).queue q = if q = type then st.queue q ++ [s] else st.queue q := by
  simp only [queue, addTailExpiry]; split <;> rfl

@[simp] theorem unlinkBib_bibs : (st.unlinkBib b).bibs = st.bibs := rfl
@[simp] theorem unlinkBib_sessions : (st.unlinkBib b).sessions = st.sessions := rfl
@[simp] theorem unlinkBib_hash6 : (st.unlinkBib b).hash6 = fun i => (st.hash6 i).erase b := rfl
@[simp] theorem unlinkBib_hash4 : (st.unlinkBib b).hash4 = fun i => (st.hash4 i).erase b := rfl
@[simp] theorem unlinkBib_expiryBase : (st.unlinkBib b).expiryBase = st.expiryBase := rfl
@[simp] theorem unlinkBib_jiffies : (st.unlinkBib b).jiffies = st.jiffies := rfl
@[simp] theorem unlinkBib_hz : (st.unlinkBib b).hz = st.hz := rfl
@[simp] theorem unlinkBib_longBits : (st.unlinkBib b).longBits = st.longBits := rfl
@[simp] theorem unlinkBib_next : (st.unlinkBib b).next = st.next := rfl

@[simp] theorem freeBib_bibs : (st.freeBib b).bibs = st.bibs.filter (·.1 ≠ b) := rfl
@[simp] theorem freeBib_sessions : (st.freeBib b).sessions = st.sessions := rfl
@[simp] theorem freeBib_hash6 : (st.freeBib b).hash6 = st.hash6 := rfl
@[simp] theorem freeBib_hash4 : (st.freeBib b).hash4 = st.hash4 := rfl
@[simp] theorem freeBib_expiryBase : (st.freeBib b).expiryBase = st.expiryBase := rfl
@[simp] theorem freeBib_jiffies : (st.freeBib b).jiffies = st.jiffies := rfl
@[simp] theorem freeBib_hz : (st.freeBib b).hz = st.hz := rfl
@[simp] theorem freeBib_longBits : (st.freeBib b).longBits = st.longBits := rfl
@[simp] theorem freeBib_next : (st.freeBib b).next = st.next := rfl

@[simp] theorem freeSession_bibs : (st.freeSession s).bibs = st.bibs := rfl
@[simp] theorem freeSession_sessions :
    (st.freeSession s).sessions = st.sessions.filter (·.1 ≠ s) := rfl
@[simp] theorem freeSession_hash6 : (st.freeSession s).hash6 = st.hash6 := rfl
@[simp] theorem freeSession_hash4 : (st.freeSession s).hash4 = st.hash4 := rfl
@[simp] theorem freeSession_expiryBase : (st.freeSession s).expiryBase = st.expiryBase := rfl
@[simp] theorem freeSession_jiffies : (st.freeSession s).jiffies = st.jiffies := rfl
@[simp] theorem freeSession_hz : (st.freeSession s).hz = st.hz := rfl
@[simp] theorem freeSession_longBits : (st.freeSession s).longBits = st.longBits := rfl
@[simp] theorem freeSession_next : (st.freeSession s).next = st.next := rfl

section Alloc

variable (e : StEntry) (be : BibEntry) (i6 i4 : Nat)

@[simp] theorem allocSession_bibs : (st.allocSession e).bibs = st.bibs := rfl
@[simp] theorem allocSession_sessions :
    (st.allocSession e).sessions = st.sessions ++ [(st.next, e)] := rfl
@[simp] theorem allocSession_hash6 : (st.allocSession e).hash6 = st.hash6 := rfl
@[simp] theorem allocSession_hash4 : (st.allocSession e).hash4 = st.hash4 := rfl
@[simp] theorem allocSession_expiryBase : (st.allocSession e).expiryBase = st.expiryBase := rfl
@[simp] theorem allocSession_jiffies : (st.allocSession e).jiffies = st.jiffies := rfl
@[simp] theorem allocSession_hz : (st.allocSession e).hz = st.hz := rfl
@[simp] theorem allocSession_longBits : (st.allocSession e).longBits = st.longBits := rfl
@[simp] theorem allocSession_next : (st.allocSession e).next = st.next + 1 := rfl

@[simp] theorem allocBib_bibs : (st.allocBib be).bibs = st.bibs ++ [(st.next, be)] := rfl
@[simp] theorem allocBib_sessions : (st.allocBib be).sessions = st.sessions := rfl
@[simp] theorem allocBib_hash6 : (st.allocBib be).hash6 = st.hash6 := rfl
@[simp] theorem allocBib_hash4 : (st.allocBib be).hash4 = st.hash4 := rfl
@[simp] theorem allocBib_expiryBase : (st.allocBib be).expiryBase = st.expiryBase := rfl
@[simp] theorem allocBib_jiffies : (st.allocBib be).jiffies = st.jiffies := rfl
@[simp] theorem allocBib_hz : (st.allocBib be).hz = st.hz := rfl
@[simp] theorem allocBib_longBits : (st.allocBib be).longBits = st.longBits := rfl
@[simp] theorem allocBib_next : (st.allocBib be).next = st.next + 1 := rfl

@[simp] theorem linkBib_bibs : (st.linkBib b i6 i4).bibs = st.bibs := rfl
@[simp] theorem linkBib_sessions : (st.linkBib b i6 i4).sessions = st.sessions := rfl
@[simp] theorem linkBib_hash6 :
    (st.linkBib b i6 i4).hash6 = fun j => if j = i6 then b :: st.hash6 j else st.hash6 j := rfl
@[simp] theorem linkBib_hash4 :
    (st.linkBib b i6 i4).hash4 = fun j => if j = i4 then b :: st.hash4 j else st.hash4 j := rfl
@[simp] theorem linkBib_expiryBase : (st.linkBib b i6 i4).expiryBase = st.expiryBase := rfl
@[simp] theorem linkBib_jiffies : (st.linkBib b i6 i4).jiffies = st.jiffies := rfl
@[simp] theorem linkBib_hz : (st.linkBib b i6 i4).hz = st.hz := rfl
@[simp] theorem linkBib_longBits : (st.linkBib b i6 i4).longBits = st.longBits := rfl
@[simp] theorem linkBib_next : (st.linkBib b i6 i4).next = st.next := rfl

@[simp] theorem queue_allocSession (q : ExpiryType) : (st.allocSession e).queue q = st.queue q := rfl
@[simp] theorem queue_allocBib (q : ExpiryType) : (st.allocBib be).queue q = st.queue q := rfl
@[simp] theorem queue_linkBib (q : ExpiryType) : (st.linkBib b i6 i4).queue q = st.queue q := rfl

end Alloc

@[simp] theorem queue_updSession (q : ExpiryType) : (st.updSession s f).queue q = st.queue q := rfl
@[simp] theorem queue_updBib (q : ExpiryType) : (st.updBib b g).queue q = st.queue q := rfl
@[simp] theorem queue_unlinkBib (q : ExpiryType) : (st.unlinkBib b).queue q = st.queue q := rfl
@[simp] theorem queue_freeBib (q : ExpiryType) : (st.freeBib b).queue q = st.queue q := rfl
@[simp] theorem queue_freeSession (q : ExpiryType) : (st.freeSession s).queue q = st.queue q := rfl

end Fields

-- ---------------------------------------------------------------------------
-- Lookups
-- ---------------------------------------------------------------------------

theorem mem_of_session? {s : Nat} {e : StEntry} (h : st.session? s = some e) :
    (s, e) ∈ st.sessions := by
  obtain ⟨p, hp, rfl⟩ := Option.map_eq_some'.1 h
  have hk : p.1 = s := by simpa using List.find?_some hp
  rw [← hk]
  exact List.mem_of_find?_eq_some hp

theorem session?_eq_none {s : Nat} : st.session? s = none ↔ s ∉ st.sessionIds := by
  simp only [session?, sessionIds, Option.map_eq_none', List.find?_eq_none, beq_iff_eq,
    List.mem_map, not_exists, not_and]

theorem mem_of_bib? {b : Nat} {e : BibEntry} (h : st.bib? b = some e) : (b, e) ∈ st.bibs := by
  obtain ⟨p, hp, rfl⟩ := Option.map_eq_some'.1 h
  have hk : p.1 = b := by simpa using List.find?_some hp
  rw [← hk]
  exact List.mem_of_find?_eq_some hp

section Lookups

variable (st : Store) (s b : Nat) (f : StEntry → StEntry) (g : BibEntry → BibEntry)
  (type : ExpiryType)

@[simp] theorem session?_updBib : (st.updBib b g).session? = st.session? := rfl
@[simp] theorem session?_delExpiry : (st.delExpiry s).session? = st.session? := rfl
@[simp] theorem session?_addTailExpiry : (st.addTailExpiry s type).session? = st.session? := rfl
@[simp] theorem session?_unlinkBib : (st.unlinkBib b).session? = st.session? := rfl
@[simp] theorem session?_freeBib : (st.freeBib b).session? = st.session? := rfl
@[simp] theorem session?_allocBib (be : BibEntry) : (st.allocBib be).session? = st.session? := rfl
@[simp] theorem session?_linkBib (i6 i4 : Nat) : (st.linkBib b i6 i4).session? = st.session? := rfl

@[simp] theorem bib?_updSession : (st.updSession s f).bib? = st.bib? := rfl
@[simp] theorem bib?_delExpiry : (st.delExpiry s).bib? = st.bib? := rfl
@[simp] theorem bib?_addTailExpiry : (st.addTailExpiry s type).bib? = st.bib? := rfl
@[simp] theorem bib?_unlinkBib : (st.unlinkBib b).bib? = st.bib? := rfl
@[simp] theorem bib?_freeSession : (st.freeSession s).bib? = st.bib? := rfl
@[simp] theorem bib?_allocSession (e : StEntry) : (st.allocSession e).bib? = st.bib? := rfl
@[simp] theorem bib?_linkBib (i6 i4 : Nat) : (st.linkBib b i6 i4).bib? = st.bib? := rfl

/-- A write to one session's fields, seen through a lookup. -/
@[simp] theorem session?_updSession (s' : Nat) :
    (st.updSession s f).session? s' = (st.session? s').map fun e => if s' = s then f e else e := by
  simp only [session?, updSession, List.find?_map]
  have hp : ((fun e : Nat × StEntry => e.1 == s') ∘ fun e => if e.1 = s then (e.1, f e.2) else e) =
      (fun e => e.1 == s') := by
    funext e; by_cases h : e.1 = s <;> simp [h]
  rw [hp]
  cases h : st.sessions.find? (·.1 == s') with
  | none => rfl
  | some p =>
    have hk : p.1 = s' := by simpa using List.find?_some h
    by_cases hs : s' = s <;> simp [hk, hs]

/-- A write to one BIB's fields, seen through a lookup. -/
@[simp] theorem bib?_updBib (b' : Nat) :
    (st.updBib b g).bib? b' = (st.bib? b').map fun e => if b' = b then g e else e := by
  simp only [bib?, updBib, List.find?_map]
  have hp : ((fun e : Nat × BibEntry => e.1 == b') ∘ fun e => if e.1 = b then (e.1, g e.2) else e) =
      (fun e => e.1 == b') := by
    funext e; by_cases h : e.1 = b <;> simp [h]
  rw [hp]
  cases h : st.bibs.find? (·.1 == b') with
  | none => rfl
  | some p =>
    have hk : p.1 = b' := by simpa using List.find?_some h
    by_cases hb : b' = b <;> simp [hk, hb]

end Lookups

theorem bib?_eq_none {b : Nat} : st.bib? b = none ↔ b ∉ st.bibIds := by
  simp only [bib?, bibIds, Option.map_eq_none', List.find?_eq_none, beq_iff_eq,
    List.mem_map, not_exists, not_and]

end Store

end Jool.Filtering
