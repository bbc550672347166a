-- SUMMARY: The TCP state machines of the filtering module seen one connection at a time: the transition table of the specification, the refinement of the store's operations by steps of one connection, and the invariants every run keeps.
import Jool.Filtering.Deadline

/-!
# The TCP state machine, one connection at a time

`tcp4_fsm`, `tcp6_fsm` and `tcp_timeout_fsm` each change one session: its state, and the expiry
queue it waits on. Seen from one connection they are a machine over pairs (state, queue), whose
transitions are the table of the specification: `tcpTable` for a packet, `graceMove` for the
reaper. This module

* abstracts a store to that pair for each live session (`Store.conn?`), and proves that each
  machine moves the pair of the session it is given by the table and leaves every other pair
  alone (`tcp_fsms_refine_table`);
* says what every other operation of the header does to the pairs;
* proves that along every run no session reaches `V4_SYN_RCV`, so the branches of the machines
  for it are dead (`v4SynRcv_unreachable`);
* that along every run in which TCP sessions are renewed by the machines only, a session out of
  `CLOSED` waits on exactly the queue its state calls for (`tcp_state_queue_agree`);
* and that a pass of the reaper never frees a session `ESTABLISHED` when it starts: it demotes it
  at most once, to `FOUR_MIN` with a fresh deadline (`reaper_spares_established`).
-/

namespace Jool.Filtering

-- ---------------------------------------------------------------------------
-- The connection machine
-- ---------------------------------------------------------------------------

/-- The side of the translator a TCP packet comes from. -/
inductive Side
  | v6 | v4
  deriving DecidableEq, Repr

/-- What a state machine does to a session: nothing, set its state, renew it on a queue, or
    both. -/
inductive TcpMove
  | stay
  | setState (state : StateType)
  | renew (type : ExpiryType)
  | renewTo (type : ExpiryType) (state : StateType)
  deriving DecidableEq, Repr

/-- A connection: the state of a session and the expiry queue it waits on. -/
abbrev Conn := StateType × ExpiryType

namespace TcpMove

/-- The move done to session `s` of a store. -/
def apply (st : Store) (s : Nat) : TcpMove → Store
  | stay => st
  | setState state => Filtering.setState st s state
  | renew type => sessionRenew st s type
  | renewTo type state => Filtering.renewTo st s type state

/-- The move on a connection. -/
def step : TcpMove → Conn → Conn
  | stay, c => c
  | setState state, c => (state, c.2)
  | renew type, c => (c.1, type)
  | renewTo type state, _ => (state, type)

end TcpMove

/-- The transition table of the specification: the move a packet from `side` with flags `tcph`
    makes on a session in `state` (a row marked "—" or "no transition" there is `stay`). -/
def tcpTable : StateType → Side → TcpFlags → TcpMove
  | .closed, .v6, tcph => if tcph.syn then .renewTo .tcpTrans .v6SynRcv else .stay
  | .closed, .v4, _ => .stay
  | .v6SynRcv, .v6, tcph => if tcph.syn then .renew .tcpTrans else .stay
  | .v6SynRcv, .v4, tcph => if tcph.syn then .renewTo .tcpEst .established else .stay
  | .v4SynRcv, .v6, tcph => if tcph.syn then .renewTo .tcpEst .established else .stay
  | .v4SynRcv, .v4, _ => .stay
  | .fourMin, _, tcph => if !tcph.rst then .renewTo .tcpEst .established else .stay
  | .established, .v6, tcph =>
    if tcph.fin then .setState .v6FinRcv
    else if tcph.rst then .renewTo .tcpTrans .fourMin else .renew .tcpEst
  | .established, .v4, tcph =>
    if tcph.fin then .setState .v4FinRcv
    else if tcph.rst then .renewTo .tcpTrans .fourMin else .renew .tcpEst
  | .v6FinRcv, .v6, _ => .renew .tcpEst
  | .v6FinRcv, .v4, tcph => if tcph.fin then .renewTo .tcpTrans .v6FinV4Fin else .renew .tcpEst
  | .v4FinRcv, .v6, tcph => if tcph.fin then .renewTo .tcpTrans .v6FinV4Fin else .renew .tcpEst
  | .v4FinRcv, .v4, _ => .renew .tcpEst
  | .v6FinV4Fin, _, _ => .stay

/-- The reaper's grace rule of the specification: an expired `ESTABLISHED` session is demoted to
    `FOUR_MIN` on `TCP_TRANS`; any other is left to be freed. -/
def graceMove : StateType → TcpMove
  | .established => .renewTo .tcpTrans .fourMin
  | _ => .stay

/-- A packet's step on a connection. -/
def connStep (side : Side) (tcph : TcpFlags) (c : Conn) : Conn := (tcpTable c.1 side tcph).step c

/-- The reaper's step on an expired connection it keeps. -/
def graceStep (c : Conn) : Conn := (graceMove c.1).step c

/-- The queue a state calls for: `TCP_EST` while the connection is established or half closed,
    `TCP_TRANS` in the transitory states. -/
def stateQueue : StateType → ExpiryType
  | .established | .v6FinRcv | .v4FinRcv => .tcpEst
  | _ => .tcpTrans

/-- A connection the machines can be in: never `V4_SYN_RCV`, and out of `CLOSED` on the queue its
    state calls for. -/
def ConnOk (c : Conn) : Prop := c.1 ≠ .v4SynRcv ∧ (c.1 = .closed ∨ c.2 = stateQueue c.1)

instance : DecidablePred ConnOk := fun _ => inferInstanceAs (Decidable (_ ∧ _))

/-- No packet moves a connection into `V4_SYN_RCV`. -/
theorem connStep_ne_v4SynRcv {c : Conn} (hc : c.1 ≠ .v4SynRcv) (side : Side) (tcph : TcpFlags) :
    (connStep side tcph c).1 ≠ .v4SynRcv := by
  obtain ⟨σ, q⟩ := c
  cases σ <;> cases side <;> simp only [connStep, tcpTable] <;> (try split_ifs) <;>
    simp_all [TcpMove.step]

/-- Every packet keeps a connection the machines can be in. -/
theorem connOk_connStep {c : Conn} (hc : ConnOk c) (side : Side) (tcph : TcpFlags) :
    ConnOk (connStep side tcph c) := by
  obtain ⟨σ, q⟩ := c
  obtain ⟨hv4, hq⟩ := hc
  cases σ <;> cases side <;> simp only [connStep, tcpTable] <;> (try split_ifs) <;>
    simp_all [TcpMove.step, ConnOk, stateQueue]

theorem connOk_graceStep {c : Conn} (hc : ConnOk c) : ConnOk (graceStep c) := by
  obtain ⟨σ, q⟩ := c
  cases σ <;> simp_all [graceStep, graceMove, TcpMove.step, ConnOk, stateQueue]

-- ---------------------------------------------------------------------------
-- The connections of a store
-- ---------------------------------------------------------------------------

/-- The connection of session `s`: its state and the first queue it waits on. -/
def Store.conn? (st : Store) (s : Nat) : Option Conn :=
  (st.session? s).bind fun e => (ExpiryType.all.find? fun q => s ∈ st.queue q).map (e.state, ·)

/-- The connections of a store with the one at `s` moved by `f`: what an operation on session `s`
    does to the connections, seen from above. -/
def moveConn (conns : Nat → Option Conn) (s : Nat) (f : Conn → Conn) : Nat → Option Conn :=
  fun x => if x = s then (conns s).map f else conns x

namespace Store

variable {st st' : Store}

theorem conn?_of_session?_none {s : Nat} (hs : st.session? s = none) : st.conn? s = none := by
  simp [conn?, hs]

/-- The connection of a session on exactly one queue. -/
theorem conn?_of_queue {s : Nat} {e : StEntry} {q : ExpiryType} (he : st.session? s = some e)
    (hq : ∀ q', s ∈ st.queue q' ↔ q' = q) : st.conn? s = some (e.state, q) := by
  simp only [conn?, he, hq, Option.some_bind]
  cases q <;> rfl

/-- A session keeps its connection when its entry and the queues holding it are kept. -/
theorem conn?_congr {x : Nat} (hs : st'.session? x = st.session? x)
    (hq : ∀ q, x ∈ st'.queue q ↔ x ∈ st.queue q) : st'.conn? x = st.conn? x := by
  simp only [conn?, hs, hq]

theorem session?_freeSession (s x : Nat) :
    (st.freeSession s).session? x = if x = s then none else st.session? x := by
  split_ifs with hx
  · subst hx
    simp [session?, List.find?_eq_none]
  · exact session?_freeSession_of_ne hx

theorem conn?_tick (d x : Nat) : (st.tick d).conn? x = st.conn? x := rfl

end Store

namespace StoreOk

variable {st : Store} (h : StoreOk st)
include h

/-- A session waits on one queue at most. -/
theorem queue_unique {s : Nat} {q q' : ExpiryType} (hq : s ∈ st.queue q) (hq' : s ∈ st.queue q') :
    q = q' := by
  by_contra hne
  have hsymm : Symmetric (List.Disjoint on st.queue) := fun _ _ hd _ h1 h2 => hd h2 h1
  exact (List.nodup_flatMap.1 h.queued_nodup).2.forall hsymm (ExpiryType.mem_all q)
    (ExpiryType.mem_all q') hne hq hq'

/-- A live session has a connection: its state, and the one queue it waits on. -/
theorem conn?_of_session? {s : Nat} {e : StEntry} (he : st.session? s = some e) :
    ∃ q, st.conn? s = some (e.state, q) ∧ ∀ q', s ∈ st.queue q' ↔ q' = q := by
  have hs : s ∈ st.queued := h.queued_perm.symm.subset
    (List.mem_map_of_mem Prod.fst (Store.mem_of_session? he))
  obtain ⟨q, -, hq⟩ := List.mem_flatMap.1 hs
  have hiff : ∀ q', s ∈ st.queue q' ↔ q' = q := fun q' =>
    ⟨fun hq' => h.queue_unique hq' hq, fun e => e ▸ hq⟩
  exact ⟨q, Store.conn?_of_queue he hiff, hiff⟩

/-- A renewed session waits on the queue it was renewed on, and on no other. -/
theorem mem_queue_sessionRenew (s : Nat) (type q : ExpiryType) :
    s ∈ (Filtering.sessionRenew st s type).queue q ↔ q = type := by
  rw [queue_sessionRenew]
  split_ifs with hq
  · simp [hq]
  · simpa [hq] using (h.queue_nodup q).not_mem_erase

end StoreOk

theorem mem_queue_sessionRenew_of_ne (st : Store) {s x : Nat} (hx : x ≠ s) (type q : ExpiryType) :
    x ∈ (sessionRenew st s type).queue q ↔ x ∈ st.queue q := by
  rw [queue_sessionRenew]
  split_ifs <;> simp [List.mem_erase_of_ne hx, hx]

-- ---------------------------------------------------------------------------
-- Refinement: a move on the store is a step of one connection
-- ---------------------------------------------------------------------------

section Refinement

variable {st : Store}

theorem conn?_apply_of_ne (m : TcpMove) {s x : Nat} (hx : x ≠ s) :
    (m.apply st s).conn? x = st.conn? x := by
  have hset : ∀ st' : Store, ∀ state, (setState st' s state).conn? x = st'.conn? x :=
    fun _ _ => Store.conn?_congr (by simp [setState, hx]) fun _ => Iff.rfl
  have hren : ∀ type, (sessionRenew st s type).conn? x = st.conn? x := fun type =>
    Store.conn?_congr (by simp [sessionRenew, hx]) (mem_queue_sessionRenew_of_ne st hx type)
  cases m with
  | stay => rfl
  | setState state => exact hset st state
  | renew type => exact hren type
  | renewTo type state => exact (hset _ state).trans (hren type)

theorem conn?_apply_self (h : StoreOk st) (m : TcpMove) (s : Nat) :
    (m.apply st s).conn? s = (st.conn? s).map m.step := by
  cases he : st.session? s with
  | none =>
    rw [Store.conn?_of_session?_none he]
    cases m <;> exact Store.conn?_of_session?_none (by simp [TcpMove.apply, setState, renewTo,
      sessionRenew, he])
  | some e =>
    obtain ⟨q, hc, hq⟩ := h.conn?_of_session? he
    rw [hc]
    cases m with
    | stay => exact hc
    | setState state =>
      exact Store.conn?_of_queue (e := { e with state := state })
        (by simp [TcpMove.apply, setState, he]) hq
    | renew type =>
      exact Store.conn?_of_queue (e := { e with expires := st.deadline type })
        (by simp [TcpMove.apply, sessionRenew, he]) (h.mem_queue_sessionRenew s type)
    | renewTo type state =>
      exact Store.conn?_of_queue (e := { e with expires := st.deadline type, state := state })
        (by simp [TcpMove.apply, renewTo, setState, sessionRenew, he])
        (h.mem_queue_sessionRenew s type)

/-- A move changes the connection of its session by its step, and no other connection. -/
theorem conn?_apply (h : StoreOk st) (m : TcpMove) (s x : Nat) :
    (m.apply st s).conn? x = if x = s then (st.conn? s).map m.step else st.conn? x := by
  split_ifs with hx
  · subst hx
    exact conn?_apply_self h m x
  · exact conn?_apply_of_ne m hx

/-- An operation that looks up session `s` and makes the move `move` of its state on it. -/
theorem conn?_of_lookup_move (h : StoreOk st) {s : Nat} (move : StateType → TcpMove)
    {st' : Store} (heq : st' = match st.session? s with
      | some e => (move e.state).apply st s
      | none => st) (x : Nat) :
    st'.conn? x = if x = s then (st.conn? s).map (fun c => (move c.1).step c) else st.conn? x := by
  subst heq
  cases he : st.session? s with
  | none =>
    split_ifs with hx
    · subst hx
      simp [Store.conn?_of_session?_none he]
    · rfl
  | some e =>
    obtain ⟨q, hc, -⟩ := h.conn?_of_session? he
    rw [conn?_apply h, hc]
    rfl

theorem tcp6Fsm_eq (st : Store) (s : Nat) (tcph : TcpFlags) :
    tcp6Fsm st s tcph = match st.session? s with
      | some e => (tcpTable e.state .v6 tcph).apply st s
      | none => st := by
  unfold tcp6Fsm
  cases st.session? s with
  | none => rfl
  | some e =>
    dsimp only
    generalize e.state = state
    cases state <;> simp only [tcpTable] <;> (try split_ifs) <;> rfl

theorem tcp4Fsm_eq (st : Store) (s : Nat) (tcph : TcpFlags) :
    tcp4Fsm st s tcph = match st.session? s with
      | some e => (tcpTable e.state .v4 tcph).apply st s
      | none => st := by
  unfold tcp4Fsm
  cases st.session? s with
  | none => rfl
  | some e =>
    dsimp only
    generalize e.state = state
    cases state <;> simp only [tcpTable] <;> (try split_ifs) <;> rfl

theorem tcpTimeoutFsm_eq (st : Store) (s : Nat) :
    (tcpTimeoutFsm st s).2 = match st.session? s with
      | some e => (graceMove e.state).apply st s
      | none => st := by
  unfold tcpTimeoutFsm
  cases st.session? s with
  | none => rfl
  | some e =>
    dsimp only
    generalize e.state = state
    cases state <;> rfl

theorem conn?_tcp6Fsm (h : StoreOk st) (s : Nat) (tcph : TcpFlags) (x : Nat) :
    (tcp6Fsm st s tcph).conn? x =
      if x = s then (st.conn? s).map (connStep .v6 tcph) else st.conn? x :=
  conn?_of_lookup_move h (tcpTable · .v6 tcph) (tcp6Fsm_eq st s tcph) x

theorem conn?_tcp4Fsm (h : StoreOk st) (s : Nat) (tcph : TcpFlags) (x : Nat) :
    (tcp4Fsm st s tcph).conn? x =
      if x = s then (st.conn? s).map (connStep .v4 tcph) else st.conn? x :=
  conn?_of_lookup_move h (tcpTable · .v4 tcph) (tcp4Fsm_eq st s tcph) x

theorem conn?_tcpTimeoutFsm (h : StoreOk st) (s x : Nat) :
    (tcpTimeoutFsm st s).2.conn? x = if x = s then (st.conn? s).map graceStep else st.conn? x :=
  conn?_of_lookup_move h graceMove (tcpTimeoutFsm_eq st s) x

/-- `tcp6_fsm`, `tcp4_fsm` and `tcp_timeout_fsm` refine the connection machine: on a consistent
    store each moves the connection of its session by the table of the specification, and
    leaves every other connection as it was. -/
theorem tcp_fsms_refine_table (h : StoreOk st) (s : Nat) (tcph : TcpFlags) :
    (tcp6Fsm st s tcph).conn? = moveConn st.conn? s (connStep .v6 tcph) ∧
      (tcp4Fsm st s tcph).conn? = moveConn st.conn? s (connStep .v4 tcph) ∧
      (tcpTimeoutFsm st s).2.conn? = moveConn st.conn? s graceStep :=
  ⟨funext (conn?_tcp6Fsm h s tcph), funext (conn?_tcp4Fsm h s tcph), funext (conn?_tcpTimeoutFsm h s)⟩

theorem tcp_fsms_refine_table_sample :
    StoreOk (sampleStore 9) ∧
      (tcp6Fsm (sampleStore 9) 1 ⟨false, true, false⟩).conn? = moveConn (sampleStore 9).conn? 1 (connStep .v6 ⟨false, true, false⟩) ∧
      (tcp4Fsm (sampleStore 9) 1 ⟨false, true, false⟩).conn? = moveConn (sampleStore 9).conn? 1 (connStep .v4 ⟨false, true, false⟩) ∧
      (tcpTimeoutFsm (sampleStore 9) 1).2.conn? = moveConn (sampleStore 9).conn? 1 graceStep :=
  have hr : Reach anyCreate anyTick (sampleStore 9) sampleDrawn := .sample trivial trivial trivial trivial trivial
  ⟨hr.storeOk, tcp_fsms_refine_table hr.storeOk 1 ⟨false, true, false⟩⟩

end Refinement

-- ---------------------------------------------------------------------------
-- The other operations, on connections
-- ---------------------------------------------------------------------------

section Operations

variable {st : Store}

theorem Store.state_of_conn? {s : Nat} {c : Conn} (hc : st.conn? s = some c) :
    ∃ e, st.session? s = some e ∧ e.state = c.1 := by
  simp only [Store.conn?, Option.bind_eq_some, Option.map_eq_some'] at hc
  obtain ⟨e, he, q, -, rfl⟩ := hc
  exact ⟨e, he, rfl⟩

/-- A creation: a connection `(CLOSED, type)` at an address no queue holds, and no other change. -/
theorem conn?_of_created {st' : Store} {n : Nat} {e : StEntry} {type : ExpiryType}
    (hfresh : ∀ q, n ∉ st.queue q) (hn : st'.session? n = some e) (hstate : e.state = .closed)
    (hsame : ∀ x, x ≠ n → st'.session? x = st.session? x)
    (hq : ∀ q, st'.queue q = if q = type then st.queue q ++ [n] else st.queue q) (x : Nat) :
    st'.conn? x = if x = n then some (.closed, type) else st.conn? x := by
  split_ifs with hx
  · subst hx
    rw [← hstate]
    exact Store.conn?_of_queue hn fun q => by
      rw [hq]
      split_ifs with hqt <;> simp [hqt, hfresh q]
  · exact Store.conn?_congr (hsame x hx) fun q => by
      rw [hq]
      split_ifs <;> simp [hx]

theorem session?_reapSession (s x : Nat) :
    (reapSession st s).session? x = if x = s then none else st.session? x := by
  unfold reapSession
  split
  · simp [Store.session?_freeSession]
  · split <;> simp [Store.session?_freeSession]

/-- The reaper's removal takes the connection of its session away, and no other. -/
theorem conn?_reapSession (s x : Nat) :
    (reapSession st s).conn? x = if x = s then none else st.conn? x := by
  split_ifs with hx
  · exact Store.conn?_of_session?_none (by simp [session?_reapSession, hx])
  · exact Store.conn?_congr (by simp [session?_reapSession, hx]) fun q => by
      simp [queue_reapSession, List.mem_erase_of_ne hx]

end Operations

-- ---------------------------------------------------------------------------
-- Invariants of the connections
-- ---------------------------------------------------------------------------

/-- Every connection of the store has property `P`. -/
def ConnsOk (P : Conn → Prop) (st : Store) : Prop := ∀ x c, st.conn? x = some c → P c

namespace ConnsOk

variable {P : Conn → Prop} {st : Store}

/-- An operation that changes the connection at `n` only keeps `P` if the new one has it. -/
theorem update (hP : ConnsOk P st) {st' : Store} {n : Nat} {o : Option Conn}
    (h' : ∀ x, st'.conn? x = if x = n then o else st.conn? x) (ho : ∀ c, o = some c → P c) :
    ConnsOk P st' := by
  intro x c hx
  rw [h'] at hx
  split_ifs at hx
  · exact ho c hx
  · exact hP x c hx

/-- An operation that moves the connection at `s` by `f` keeps `P` if the moved one has it. -/
theorem step (hP : ConnsOk P st) {st' : Store} {s : Nat} {f : Conn → Conn}
    (h' : ∀ x, st'.conn? x = if x = s then (st.conn? s).map f else st.conn? x)
    (hf : ∀ c, st.conn? s = some c → P (f c)) : ConnsOk P st' :=
  hP.update h' fun c hc => by
    obtain ⟨c0, hc0, rfl⟩ := Option.map_eq_some'.1 hc
    exact hf c0 hc0

section Creation

variable (hnew : ∀ q, P (.closed, q))
include hnew

theorem sessionCreate (hP : ConnsOk P st) (h : StoreOk st) (bib : Nat) (in6Daddr : In6Addr)
    (addr : UInt32) (port : UInt16) (type : ExpiryType) (allocOk : Bool) :
    ConnsOk P (Filtering.sessionCreate st bib in6Daddr addr port type allocOk).2 := by
  cases allocOk with
  | false => exact hP
  | true =>
    cases hb : st.bib? bib with
    | none => rw [sessionCreate_of_bib?_none hb]; exact hP
    | some b =>
      rw [sessionCreate_of_bib? hb]
      have hfresh : st.next ∉ st.sessionIds := fun hn => Nat.lt_irrefl _ (h.session_lt _ hn)
      exact hP.update (conn?_of_created (fun q hn => hfresh (h.mem_sessionIds_of_queue hn))
        (find?_append_fresh hfresh) rfl (fun x hx => Store.session?_allocSession_of_ne hx)
        (fun q => Store.queue_addTailExpiry _ _ _ q)) fun c hc => by cases hc; exact hnew type

theorem bibSessionCreate (hP : ConnsOk P st) (h : StoreOk st) (saddr in6Daddr : In6Addr)
    (daddr : UInt32) (sport dport : UInt16) (protocol : Int) (type : ExpiryType)
    (ta : Option TransportAddr) :
    ConnsOk P (Filtering.bibSessionCreate st saddr in6Daddr daddr sport dport protocol type ta
      true true).2 := by
  have hnext : st.next ∉ st.bibIds := fun hn => Nat.lt_irrefl _ (h.bib_lt _ hn)
  have hfresh : st.next + 1 ∉ st.sessionIds := fun hn => by
    have := h.session_lt _ hn
    omega
  rw [bibSessionCreate_eq hnext]
  exact hP.update (conn?_of_created (fun q hn => hfresh (h.mem_sessionIds_of_queue hn))
    (find?_append_fresh hfresh) rfl (fun x hx => Store.session?_allocSession_of_ne hx)
    (fun q => Store.queue_addTailExpiry _ _ _ q)) fun c hc => by cases hc; exact hnew type

end Creation

section Reaper

variable (hg : ∀ c, P c → P (graceStep c))
include hg

theorem expireStep (hP : ConnsOk P st) (h : StoreOk st) (s : Nat) :
    ConnsOk P (Filtering.expireStep st s) := by
  unfold Filtering.expireStep
  split
  · exact hP.step (conn?_tcpTimeoutFsm h s) fun c hc => hg c (hP s c hc)
  · exact hP.update (conn?_reapSession s) fun _ hc => by cases hc

theorem cleanLoop (hP : ConnsOk P st) (h : StoreOk st) (q : ExpiryType) :
    ConnsOk P (Filtering.cleanLoop q st) :=
  (cleanLoop_induction (fun x => StoreOk x ∧ ConnsOk P x)
    (fun _ pos _ _ hx _ he _ =>
      ⟨hx.1.expireStep (List.mem_map_of_mem Prod.fst (Store.mem_of_session? he)),
        hx.2.expireStep hg hx.1 pos⟩) st ⟨h, hP⟩).2

end Reaper

theorem init (timeout : ExpiryType → Int) (hz longBits jiffies next : Nat) :
    ConnsOk P (Store.init timeout hz longBits jiffies next) := fun _ _ hx => by
  simp [Store.conn?, Store.init, Store.session?] at hx

end ConnsOk

-- ---------------------------------------------------------------------------
-- Runs
-- ---------------------------------------------------------------------------

/-- The runs in which TCP sessions are renewed by the state machines only: as `Reach`, except that
    `session_renew` is called directly only on sessions in `CLOSED`, the state the UDP and ICMP
    sessions the translator renews itself keep. -/
inductive FsmRun (create : Store → In6Addr → UInt16 → Int → Option TransportAddr → Prop)
    (tick : Store → Nat → Prop) : Store → List TransportAddr → Prop where
  | init (timeout : ExpiryType → Int) (hz longBits jiffies next : Nat) :
      jiffies < 2 ^ longBits → FsmRun create tick (Store.init timeout hz longBits jiffies next) []
  | bibSessionCreate {st : Store} {drawn : List TransportAddr} (saddr in6Daddr : In6Addr)
      (daddr : UInt32) (sport dport : UInt16) (protocol : Int) (type : ExpiryType)
      (ta : Option TransportAddr) :
      FsmRun create tick st drawn → create st saddr sport protocol ta →
      FsmRun create tick
        (bibSessionCreate st saddr in6Daddr daddr sport dport protocol type ta true true).2
        (drawn ++ ta.toList)
  | sessionCreate {st : Store} {drawn : List TransportAddr} (bib : Nat) (in6Daddr : In6Addr)
      (addr : UInt32) (port : UInt16) (type : ExpiryType) (allocOk : Bool) :
      FsmRun create tick st drawn → bib ∈ st.bibIds →
      FsmRun create tick (sessionCreate st bib in6Daddr addr port type allocOk).2 drawn
  | sessionRenew {st : Store} {drawn : List TransportAddr} (session : Nat) (type : ExpiryType) :
      FsmRun create tick st drawn → session ∈ st.sessionIds →
      (∀ e, st.session? session = some e → e.state = .closed) →
      FsmRun create tick (sessionRenew st session type) drawn
  | tcp4Fsm {st : Store} {drawn : List TransportAddr} (session : Nat) (tcph : TcpFlags) :
      FsmRun create tick st drawn → session ∈ st.sessionIds →
      FsmRun create tick (tcp4Fsm st session tcph) drawn
  | tcp6Fsm {st : Store} {drawn : List TransportAddr} (session : Nat) (tcph : TcpFlags) :
      FsmRun create tick st drawn → session ∈ st.sessionIds →
      FsmRun create tick (tcp6Fsm st session tcph) drawn
  | tcpTimeoutFsm {st : Store} {drawn : List TransportAddr} (session : Nat) :
      FsmRun create tick st drawn → session ∈ st.sessionIds →
      FsmRun create tick (tcpTimeoutFsm st session).2 drawn
  | cleanExpiredSessions {st : Store} {drawn : List TransportAddr} (queue : ExpiryType) :
      FsmRun create tick st drawn → FsmRun create tick (cleanExpiredSessions st queue) drawn
  | tick {st : Store} {drawn : List TransportAddr} (d : Nat) :
      FsmRun create tick st drawn → tick st d → FsmRun create tick (st.tick d) drawn

section Runs

variable {create : Store → In6Addr → UInt16 → Int → Option TransportAddr → Prop}
  {tick : Store → Nat → Prop} {st : Store} {drawn : List TransportAddr} {P : Conn → Prop}

/-- A run whose TCP sessions are renewed by the machines only is a run. -/
theorem FsmRun.reach (hr : FsmRun create tick st drawn) : Reach create tick st drawn := by
  induction hr with
  | init timeout hz longBits jiffies next hj => exact .init timeout hz longBits jiffies next hj
  | bibSessionCreate saddr in6Daddr daddr sport dport protocol type ta _ hc ih =>
    exact .bibSessionCreate saddr in6Daddr daddr sport dport protocol type ta ih hc
  | sessionCreate bib in6Daddr addr port type allocOk _ hb ih =>
    exact .sessionCreate bib in6Daddr addr port type allocOk ih hb
  | sessionRenew s type _ hs _ ih => exact .sessionRenew s type ih hs
  | tcp4Fsm s tcph _ hs ih => exact .tcp4Fsm s tcph ih hs
  | tcp6Fsm s tcph _ hs ih => exact .tcp6Fsm s tcph ih hs
  | tcpTimeoutFsm s _ hs ih => exact .tcpTimeoutFsm s ih hs
  | cleanExpiredSessions q _ ih => exact .cleanExpiredSessions q ih
  | tick d _ hd ih => exact .tick d ih hd

section Kept

variable (hnew : ∀ q, P (.closed, q)) (hpkt : ∀ side tcph c, P c → P (connStep side tcph c))
  (hg : ∀ c, P c → P (graceStep c))
include hnew hpkt hg

/-- A property of connections that new sessions have and that every packet, the reaper's grace
    rule and every renewal keep holds of every connection along every run. -/
theorem Reach.connsOk (hrenew : ∀ c q, P c → P (c.1, q)) (hr : Reach create tick st drawn) :
    ConnsOk P st := by
  induction hr with
  | init timeout hz longBits jiffies next _ => exact .init timeout hz longBits jiffies next
  | bibSessionCreate saddr in6Daddr daddr sport dport protocol type ta hr _ ih =>
    exact ih.bibSessionCreate hnew hr.storeOk saddr in6Daddr daddr sport dport protocol type ta
  | sessionCreate bib in6Daddr addr port type allocOk hr _ ih =>
    exact ih.sessionCreate hnew hr.storeOk bib in6Daddr addr port type allocOk
  | sessionRenew s type hr _ ih =>
    exact ih.step (conn?_apply hr.storeOk (.renew type) s) fun c hc => hrenew c type (ih s c hc)
  | tcp4Fsm s tcph hr _ ih =>
    exact ih.step (conn?_tcp4Fsm hr.storeOk s tcph) fun c hc => hpkt .v4 tcph c (ih s c hc)
  | tcp6Fsm s tcph hr _ ih =>
    exact ih.step (conn?_tcp6Fsm hr.storeOk s tcph) fun c hc => hpkt .v6 tcph c (ih s c hc)
  | tcpTimeoutFsm s hr _ ih =>
    exact ih.step (conn?_tcpTimeoutFsm hr.storeOk s) fun c hc => hg c (ih s c hc)
  | cleanExpiredSessions q hr ih => exact ih.cleanLoop hg hr.storeOk q
  | tick _ _ _ ih => exact ih

/-- The same along the runs where only `CLOSED` sessions are renewed directly: a renewal then
    gives a connection `(CLOSED, type)`, which new sessions have. -/
theorem FsmRun.connsOk (hr : FsmRun create tick st drawn) : ConnsOk P st := by
  induction hr with
  | init timeout hz longBits jiffies next _ => exact .init timeout hz longBits jiffies next
  | bibSessionCreate saddr in6Daddr daddr sport dport protocol type ta hr _ ih =>
    exact ih.bibSessionCreate hnew hr.reach.storeOk saddr in6Daddr daddr sport dport protocol type ta
  | sessionCreate bib in6Daddr addr port type allocOk hr _ ih =>
    exact ih.sessionCreate hnew hr.reach.storeOk bib in6Daddr addr port type allocOk
  | sessionRenew s type hr _ hcl ih =>
    refine ih.step (conn?_apply hr.reach.storeOk (.renew type) s) fun c hc => ?_
    obtain ⟨e, he, hst⟩ := Store.state_of_conn? hc
    obtain ⟨σ, q⟩ := c
    obtain rfl : σ = .closed := hst.symm.trans (hcl e he)
    exact hnew type
  | tcp4Fsm s tcph hr _ ih =>
    exact ih.step (conn?_tcp4Fsm hr.reach.storeOk s tcph) fun c hc => hpkt .v4 tcph c (ih s c hc)
  | tcp6Fsm s tcph hr _ ih =>
    exact ih.step (conn?_tcp6Fsm hr.reach.storeOk s tcph) fun c hc => hpkt .v6 tcph c (ih s c hc)
  | tcpTimeoutFsm s hr _ ih =>
    exact ih.step (conn?_tcpTimeoutFsm hr.reach.storeOk s) fun c hc => hg c (ih s c hc)
  | cleanExpiredSessions q hr ih => exact ih.cleanLoop hg hr.reach.storeOk q
  | tick _ _ _ ih => exact ih

end Kept

theorem graceStep_ne_v4SynRcv {c : Conn} (hc : c.1 ≠ .v4SynRcv) : (graceStep c).1 ≠ .v4SynRcv := by
  obtain ⟨σ, q⟩ := c
  cases σ <;> simp_all [graceStep, graceMove, TcpMove.step]

/-- Along every run no session is in `V4_SYN_RCV`: no operation of the header sets that state, so
    the `V4_SYN_RCV` rows of `tcp6_fsm` and `tcp4_fsm` never fire. -/
theorem v4SynRcv_unreachable (hr : Reach create tick st drawn) :
    ∀ s e, st.session? s = some e → e.state ≠ .v4SynRcv := by
  intro s e he
  obtain ⟨q, hc, -⟩ := hr.storeOk.conn?_of_session? he
  exact hr.connsOk (P := (·.1 ≠ .v4SynRcv)) (fun _ => by simp)
    (fun side tcph _ hc => connStep_ne_v4SynRcv hc side tcph) (fun _ => graceStep_ne_v4SynRcv)
    (fun _ _ h => h) s _ hc

theorem v4SynRcv_unreachable_sample :
    Reach anyCreate anyTick (sampleStore 9) sampleDrawn ∧
    ∀ s e, (sampleStore 9).session? s = some e → e.state ≠ .v4SynRcv :=
  have hr : Reach anyCreate anyTick (sampleStore 9) sampleDrawn := .sample trivial trivial trivial trivial trivial
  ⟨hr, v4SynRcv_unreachable hr⟩

/-- Along every run in which TCP sessions are renewed by the state machines only, no session is in
    `V4_SYN_RCV`, and a session out of `CLOSED` waits on exactly the queue its state calls for:
    `TCP_EST` when established or half closed, `TCP_TRANS` otherwise. -/
theorem tcp_state_queue_agree (hr : FsmRun create tick st drawn) :
    ∀ s e, st.session? s = some e → e.state ≠ .v4SynRcv ∧
      (e.state ≠ .closed → ∀ q, s ∈ st.queue q ↔ q = stateQueue e.state) := by
  intro s e he
  obtain ⟨q, hc, hq⟩ := hr.reach.storeOk.conn?_of_session? he
  obtain ⟨hv4, hfit⟩ := hr.connsOk (P := ConnOk) (fun _ => ⟨by simp, .inl rfl⟩)
    (fun side tcph _ hc => connOk_connStep hc side tcph) (fun _ => connOk_graceStep) s _ hc
  refine ⟨hv4, fun hcl q' => ?_⟩
  rw [hq q', show q = stateQueue e.state from hfit.resolve_left hcl]

/-- The sample run renews no session directly, so it is a run of the machines. -/
theorem FsmRun.sample : FsmRun anyCreate anyTick (sampleStore 9) sampleDrawn := by
  have r1 : FsmRun anyCreate anyTick (sampleStore 1) [⟨sampleLocal4, 4⟩] :=
    (FsmRun.init _ _ _ _ _ (by decide)).bibSessionCreate sampleRemote6 sampleEmbedded6
      sampleRemote4 1000 80 6 .tcpTrans _ trivial
  have r3 : FsmRun anyCreate anyTick (sampleStore 3) [⟨sampleLocal4, 4⟩] :=
    (r1.tcp6Fsm 1 ⟨true, false, false⟩ (by decide)).tcp4Fsm 1 ⟨true, false, false⟩ (by decide)
  have r4 : FsmRun anyCreate anyTick (sampleStore 4) [⟨sampleLocal4, 4⟩, ⟨sampleLocal4, 516⟩] :=
    r3.bibSessionCreate sampleRemote6 sampleEmbedded6 sampleRemote4 2000 53 17 .udpDefault _
      trivial
  have r6 : FsmRun anyCreate anyTick (sampleStore 6) sampleDrawn :=
    (r4.tick 1000 trivial).bibSessionCreate sampleRemote6 sampleEmbedded6 sampleRemote4 2001 53 17
      .udpDefault _ trivial
  exact ((r6.sessionCreate 4 ⟨0x0064ff9b, 0, 0, 0xCB007107⟩ 0xCB007107 53 .udpDefault true
    (by decide)).tick 299500 trivial).cleanExpiredSessions .udpDefault

theorem tcp_state_queue_agree_sample :
    FsmRun anyCreate anyTick (sampleStore 9) sampleDrawn ∧
    ∀ s e, (sampleStore 9).session? s = some e → e.state ≠ .v4SynRcv ∧
      (e.state ≠ .closed → ∀ q, s ∈ (sampleStore 9).queue q ↔ q = stateQueue e.state) :=
  ⟨FsmRun.sample, tcp_state_queue_agree FsmRun.sample⟩

end Runs

-- ---------------------------------------------------------------------------
-- The grace rule over a pass of the reaper
-- ---------------------------------------------------------------------------

section Grace

variable {st : Store}

theorem SameClock.deadline_eq {st' : Store} (h : SameClock st st') (q : ExpiryType) :
    st'.deadline q = st.deadline q := by
  rw [Store.deadline_eq_offset, Store.deadline_eq_offset, h.jiffies_eq, h.longBits_eq, h.offset_eq]

theorem session?_renewTo_self (s : Nat) (type : ExpiryType) (state : StateType) :
    (renewTo st s type state).session? s =
      (st.session? s).map fun e => { e with expires := st.deadline type, state := state } := by
  simp [renewTo, setState, sessionRenew, Option.map_map, Function.comp_def]

theorem session?_expireStep_of_ne {s x : Nat} (hx : x ≠ s) :
    (expireStep st s).session? x = st.session? x := by
  rcases expireStep_eq_or st s with he | he <;> rw [he]
  · simp [renewTo, setState, sessionRenew, hx]
  · simp [session?_reapSession, hx]

/-- A pass of the reaper never frees a session that is `ESTABLISHED` when the pass starts, as
    long as a `TCP_TRANS` deadline is set ahead by less than half the clock's range: if it finds
    the session expired it demotes it to `FOUR_MIN` with a fresh `TCP_TRANS` deadline, which the
    same pass does not find expired, even when the pass is over `TCP_TRANS` itself. -/
theorem reaper_spares_established (st : Store) (q : ExpiryType) (hc : 0 ≤ st.offset .tcpTrans)
    (hcH : st.offset .tcpTrans < 2 ^ (st.longBits - 1)) :
    ∀ s e, st.session? s = some e → e.state = .established →
      (cleanExpiredSessions st q).session? s = some e ∨
      (cleanExpiredSessions st q).session? s =
        some { e with expires := st.deadline .tcpTrans, state := .fourMin } := by
  intro s e he hest
  have hfresh : timeAfter st.longBits st.jiffies (st.deadline .tcpTrans) = false :=
    timeAfter_deadline _ _ hc hcH
  refine (cleanLoop_induction (fun st' => SameClock st st' ∧ (st'.session? s = some e ∨
      st'.session? s = some { e with expires := st.deadline .tcpTrans, state := .fourMin }))
    (fun st' pos _ ep ⟨hclk, hs⟩ _ hep hexp => ⟨hclk.trans (sameClock_expireStep st' pos), ?_⟩)
    st ⟨.refl st, .inl he⟩).2
  by_cases hpos : s = pos
  · subst hpos
    rcases hs with hs | hs <;> rw [hs] at hep <;> cases hep
    · -- the session is still established: the grace rule demotes it
      rw [expireStep_of_established hs hest, session?_renewTo_self, hs, hclk.deadline_eq]
      exact .inr rfl
    · -- the demoted session has a fresh deadline, which has not passed
      rw [hclk.jiffies_eq, hclk.longBits_eq, hfresh] at hexp
      cases hexp
  · rw [session?_expireStep_of_ne hpos]
    exact hs

/-- On the sample store two hours later, the established TCP session's deadline has passed. -/
theorem reaper_spares_established_sample :
    0 ≤ ((sampleStore 8).tick 7200000).offset .tcpTrans ∧ ((sampleStore 8).tick 7200000).offset .tcpTrans < 2 ^ (((sampleStore 8).tick 7200000).longBits - 1) ∧
      ∀ s e, ((sampleStore 8).tick 7200000).session? s = some e → e.state = .established →
        (cleanExpiredSessions ((sampleStore 8).tick 7200000) .tcpEst).session? s = some e ∨
        (cleanExpiredSessions ((sampleStore 8).tick 7200000) .tcpEst).session? s =
          some { e with expires := ((sampleStore 8).tick 7200000).deadline .tcpTrans, state := .fourMin } :=
  have hc : 0 ≤ ((sampleStore 8).tick 7200000).offset .tcpTrans := by decide
  have hcH : ((sampleStore 8).tick 7200000).offset .tcpTrans < 2 ^ (((sampleStore 8).tick 7200000).longBits - 1) := by decide
  ⟨hc, hcH, reaper_spares_established _ .tcpEst hc hcH⟩

end Grace

end Jool.Filtering
