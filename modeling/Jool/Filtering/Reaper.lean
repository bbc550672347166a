-- SUMMARY: The session reaper clean_expired_sessions: its loop over an expiry queue, the removal of a session and of a BIB left without one, and why the loop ends.
import Jool.Filtering.Ops

/-!
# The reaper

`clean_expired_sessions(queue)` walks an expiry queue from its head with `list_for_each_safe`.
An expired session that `tcp_timeout_fsm` demotes moves to the tail of the `TCP_TRANS` queue;
any other expired session is removed, and its BIB with it when it was the BIB's last session.
The first session that has not expired ends the walk.

The loop ends on every store: each turn either shortens the queue or demotes an `ESTABLISHED`
session, which can happen only once per session (`measure_expireStep`), so it is defined by
well-founded recursion on their sum.
-/

namespace Jool.Filtering

/-- `list_empty(next_session)` after `list_del(&session->list)`. `next_session` is the node that
    followed `s` on its BIB's circular session list, the list head when `s` was last. A session
    node is never alone on its list, so only the head can be empty. -/
def listEmptyNext (l : List Nat) (s : Nat) : Bool :=
  match l.dropWhile (· != s) with
  | [_] => (l.erase s).isEmpty
  | _ => false

/-- The removal branch of the reaper's loop: the session leaves its queue and its BIB's list,
    the BIB is unlinked from both indices and freed if `list_empty(next_session)`, and the
    session is freed. The BIB is the one whose session list holds the session. -/
def reapSession (st : Store) (session : Nat) : Store :=
  let st1 := st.delExpiry session
  match st.bibs.find? (fun b => b.2.sessions.contains session) with
  | none => st1.freeSession session
  | some (bib, b) =>
    let st2 := st1.updBib bib fun e => { e with sessions := e.sessions.erase session }
    if listEmptyNext b.sessions session then ((st2.unlinkBib bib).freeBib bib).freeSession session
    else st2.freeSession session

/-- The loop body for an expired session: `if (tcp_timeout_fsm(session)) continue;`, and
    otherwise its removal. -/
def expireStep (st : Store) (session : Nat) : Store :=
  if (tcpTimeoutFsm st session).1 ≠ 0 then (tcpTimeoutFsm st session).2 else reapSession st session

-- ---------------------------------------------------------------------------
-- Why the loop ends
-- ---------------------------------------------------------------------------

/-- The number of `ESTABLISHED` sessions. -/
def estCount (st : Store) : Nat := st.sessions.countP fun e => e.2.state = .established

/-- A count drops when one element it counted stops being counted and none starts. -/
theorem countP_lt_of_mem {α : Type} {p q : α → Bool} {l : List α}
    (hle : ∀ a ∈ l, q a → p a) {x : α} (hx : x ∈ l) (hp : p x) (hq : ¬ q x) :
    l.countP q < l.countP p := by
  induction l with
  | nil => cases hx
  | cons a l ih =>
    have hle' : ∀ b ∈ l, q b → p b := fun b hb => hle b (List.mem_cons_of_mem _ hb)
    rw [List.countP_cons, List.countP_cons]
    rcases List.mem_cons.1 hx with rfl | hx
    · have := List.countP_mono_left hle'
      rw [if_pos hp, if_neg hq]
      omega
    · have := ih hle' hx
      by_cases hqa : q a
      · rw [if_pos hqa, if_pos (hle a (List.mem_cons_self _ _) hqa)]
        omega
      · rw [if_neg hqa]
        split <;> omega

theorem estCount_updSession {st : Store} {s : Nat} {f : StEntry → StEntry}
    (hf : ∀ e, (f e).state = e.state) : estCount (st.updSession s f) = estCount st := by
  simp only [estCount, Store.updSession, List.countP_map]
  exact List.countP_congr fun e _ => by by_cases h : e.1 = s <;> simp [h, hf]

theorem estCount_setState_lt {st : Store} {s : Nat} {e : StEntry} (he : st.session? s = some e)
    (hest : e.state = .established) {state : StateType} (hne : state ≠ .established) :
    estCount (setState st s state) < estCount st := by
  simp only [estCount, setState, Store.updSession, List.countP_map]
  refine countP_lt_of_mem (fun a _ => ?_) (Store.mem_of_session? he) (by simp [hest]) (by simp [hne])
  by_cases h : a.1 = s <;> simp [h, hne]

theorem queue_sessionRenew (st : Store) (s : Nat) (type q : ExpiryType) :
    (sessionRenew st s type).queue q =
      if q = type then (st.queue q).erase s ++ [s] else (st.queue q).erase s := by
  simp [sessionRenew]

@[simp] theorem queue_setState (st : Store) (s : Nat) (state : StateType) (q : ExpiryType) :
    (setState st s state).queue q = st.queue q := rfl

theorem estCount_sessionRenew (st : Store) (s : Nat) (type : ExpiryType) :
    estCount (sessionRenew st s type) = estCount st := by
  have h : estCount ((st.delExpiry s).updSession s fun e => { e with expires := st.deadline type }) =
      estCount (st.delExpiry s) := estCount_updSession fun _ => rfl
  exact h

theorem queue_reapSession (st : Store) (s : Nat) (q : ExpiryType) :
    (reapSession st s).queue q = (st.queue q).erase s := by
  unfold reapSession
  split
  · simp
  · split <;> simp

theorem estCount_reapSession_le (st : Store) (s : Nat) : estCount (reapSession st s) ≤ estCount st := by
  have hle : ∀ st' : Store, estCount (st'.freeSession s) ≤ estCount st' := fun st' =>
    (List.filter_sublist _).countP_le _
  unfold reapSession
  split
  · exact hle _
  · split
    · exact hle _
    · exact hle _

theorem expireStep_of_established {st : Store} {pos : Nat} {e : StEntry}
    (he : st.session? pos = some e) (hest : e.state = .established) :
    expireStep st pos = renewTo st pos .tcpTrans .fourMin := by
  simp [expireStep, tcpTimeoutFsm, he, hest]

theorem expireStep_of_not_established {st : Store} {pos : Nat}
    (h : ∀ e, st.session? pos = some e → e.state ≠ .established) :
    expireStep st pos = reapSession st pos := by
  unfold expireStep tcpTimeoutFsm
  cases he : st.session? pos with
  | none => simp
  | some e => simp [h e he]

/-- Each turn of the loop shortens the queue or demotes an established session. -/
theorem measure_expireStep {st : Store} {q : ExpiryType} {pos : Nat} {rest : List Nat}
    (hq : st.queue q = pos :: rest) :
    ((expireStep st pos).queue q).length + estCount (expireStep st pos) <
      (st.queue q).length + estCount st := by
  have hpos : pos ∈ st.queue q := hq ▸ List.mem_cons_self _ _
  have herase := List.length_erase_of_mem hpos
  have hlen : 0 < (st.queue q).length := List.length_pos_of_mem hpos
  by_cases hest : ∃ e, st.session? pos = some e ∧ e.state = .established
  · obtain ⟨e, he, hest⟩ := hest
    have hlt : estCount (renewTo st pos .tcpTrans .fourMin) < estCount st := by
      rw [← estCount_sessionRenew st pos .tcpTrans]
      exact estCount_setState_lt (e := { e with expires := st.deadline .tcpTrans })
        (by simp [sessionRenew, he]) hest (by decide)
    rw [expireStep_of_established he hest]
    rw [renewTo] at hlt ⊢
    simp only [queue_setState, queue_sessionRenew]
    split
    · simp only [List.length_append, List.length_singleton]
      omega
    · omega
  · rw [expireStep_of_not_established fun e he h => hest ⟨e, he, h⟩, queue_reapSession]
    have := estCount_reapSession_le st pos
    omega

-- ---------------------------------------------------------------------------
-- The loop
-- ---------------------------------------------------------------------------

/-- The loop of `clean_expired_sessions` over `expiry_base[queue].queue`. The node it visits is
    always the head of the queue, since every node before it has left, removed or moved to the
    tail of the `TCP_TRANS` queue. `list_for_each_safe` reads the next node before the body runs
    and stops when that is the list head, that is, after the node that was last when it was
    visited. (A queue node the store holds no session for stops it.) -/
def cleanLoop (queue : ExpiryType) (st : Store) : Store :=
  match hq : st.queue queue with
  | [] => st
  | pos :: rest =>
    match st.session? pos with
    | none => st
    | some e =>
      if timeAfter st.longBits st.jiffies e.expires then
        if rest = [] then expireStep st pos else cleanLoop queue (expireStep st pos)
      else st
termination_by (st.queue queue).length + estCount st
decreasing_by exact measure_expireStep hq

/-- `clean_expired_sessions`. -/
def cleanExpiredSessions (st : Store) (queue : ExpiryType) : Store := cleanLoop queue st

/-- `clean_expired_sessions_tcp`. -/
def cleanExpiredSessionsTcp (st : Store) (queue : ExpiryType) : Store := cleanLoop queue st

end Jool.Filtering
