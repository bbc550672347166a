-- SUMMARY: What each operation of the BIB and session store does, said once: the effects of the state machines, the store after a creation, and the removal the reaper makes.
import Jool.Filtering.Run

/-!
# What one call does

Each operation, stated once as an equation or a choice among a few effects, so that the
invariants of the store follow from these and never unfold the operations again:

* the TCP state machines and `tcp_timeout_fsm` do nothing, set the state, renew the session, or
  both (`FsmEffect`);
* a `session_create` on a live BIB and a successful `bib_session_create` on a store whose next
  address is unused give the store written out in full;
* the removal branch of the reaper, once the BIB holding the session is known, frees that BIB
  exactly when the session is the only one on its list (`listEmptyNext_iff`).
-/

namespace Jool.Filtering

-- ---------------------------------------------------------------------------
-- The state machines
-- ---------------------------------------------------------------------------

/-- What a state machine does to the session `s`. -/
inductive FsmEffect (st : Store) (s : Nat) : Store → Prop where
  | stay : FsmEffect st s st
  | setState (state : StateType) : FsmEffect st s (setState st s state)
  | renew (type : ExpiryType) : FsmEffect st s (sessionRenew st s type)
  | renewTo (type : ExpiryType) (state : StateType) : FsmEffect st s (renewTo st s type state)

theorem tcp4Fsm_effect (st : Store) (s : Nat) (tcph : TcpFlags) :
    FsmEffect st s (tcp4Fsm st s tcph) := by
  unfold tcp4Fsm
  split
  · exact .stay
  · split <;> (try split) <;> (try split) <;>
      first | exact .stay | exact .setState _ | exact .renew _ | exact .renewTo _ _

theorem tcp6Fsm_effect (st : Store) (s : Nat) (tcph : TcpFlags) :
    FsmEffect st s (tcp6Fsm st s tcph) := by
  unfold tcp6Fsm
  split
  · exact .stay
  · split <;> (try split) <;> (try split) <;>
      first | exact .stay | exact .setState _ | exact .renew _ | exact .renewTo _ _

theorem tcpTimeoutFsm_effect (st : Store) (s : Nat) : FsmEffect st s (tcpTimeoutFsm st s).2 := by
  unfold tcpTimeoutFsm
  split
  · split
    · exact .renewTo _ _
    · exact .stay
  · exact .stay

theorem expireStep_eq_or (st : Store) (s : Nat) :
    expireStep st s = renewTo st s .tcpTrans .fourMin ∨ expireStep st s = reapSession st s := by
  cases he : st.session? s with
  | none => exact .inr (expireStep_of_not_established (by simp [he]))
  | some e =>
    by_cases hest : e.state = .established
    · exact .inl (expireStep_of_established he hest)
    · exact .inr (expireStep_of_not_established fun e' he' => by
        rw [he, Option.some.injEq] at he'
        exact he' ▸ hest)

-- ---------------------------------------------------------------------------
-- Heaps with distinct addresses
-- ---------------------------------------------------------------------------

section Heap

variable {β : Type}

/-- A write at address `k` of a heap with no entry at `k` changes nothing. -/
theorem map_upd_of_not_mem {l : List (Nat × β)} {k : Nat} (f : β → β)
    (h : k ∉ l.map (·.1)) : l.map (fun e => if e.1 = k then (e.1, f e.2) else e) = l := by
  conv_rhs => rw [← List.map_id l]
  refine List.map_congr_left fun e he => ?_
  have : e.1 ≠ k := fun hk => h (hk ▸ List.mem_map_of_mem _ he)
  simp [this]

/-- An entry of a heap with distinct addresses splits it. -/
theorem split_of_mem {l : List (Nat × β)} {k : Nat} {v : β} (hnd : (l.map (·.1)).Nodup)
    (h : (k, v) ∈ l) :
    ∃ pre post, l = pre ++ (k, v) :: post ∧ k ∉ pre.map (·.1) ∧ k ∉ post.map (·.1) := by
  obtain ⟨pre, post, rfl⟩ := List.append_of_mem h
  rw [List.map_append, List.map_cons, List.nodup_middle, List.nodup_cons, List.mem_append] at hnd
  exact ⟨pre, post, rfl, fun hk => hnd.1 (.inl hk), fun hk => hnd.1 (.inr hk)⟩

theorem map_upd_split {pre post : List (Nat × β)} {k : Nat} {v : β} (f : β → β)
    (hpre : k ∉ pre.map (·.1)) (hpost : k ∉ post.map (·.1)) :
    (pre ++ (k, v) :: post).map (fun e => if e.1 = k then (e.1, f e.2) else e) =
      pre ++ (k, f v) :: post := by
  rw [List.map_append, List.map_cons, map_upd_of_not_mem f hpre, map_upd_of_not_mem f hpost]
  simp

/-- The lookup of an address not yet in the heap, after an entry is added there. -/
theorem find?_append_fresh {l : List (Nat × β)} {k : Nat} {v : β} (h : k ∉ l.map (·.1)) :
    ((l ++ [(k, v)]).find? (·.1 == k)).map (·.2) = some v := by
  have hnone : l.find? (·.1 == k) = none := List.find?_eq_none.2 fun e he hk => h (by
    rw [← beq_iff_eq.1 hk]
    exact List.mem_map_of_mem _ he)
  rw [List.find?_append, hnone]
  simp

/-- A heap split at an address, less that address. -/
theorem filter_split {pre post : List (Nat × β)} {k : Nat} {v : β} (hpre : k ∉ pre.map (·.1))
    (hpost : k ∉ post.map (·.1)) : (pre ++ (k, v) :: post).filter (·.1 ≠ k) = pre ++ post := by
  have hkeep : ∀ l : List (Nat × β), k ∉ l.map (·.1) → l.filter (·.1 ≠ k) = l := fun l hl =>
    List.filter_eq_self.2 fun e he => decide_eq_true fun hk => hl (hk ▸ List.mem_map_of_mem _ he)
  rw [List.filter_append, List.filter_cons, hkeep pre hpre, hkeep post hpost]
  simp

end Heap

-- ---------------------------------------------------------------------------
-- Creation
-- ---------------------------------------------------------------------------

/-- A `session_create` that allocates, on a live BIB. -/
theorem sessionCreate_of_bib? {st : Store} {bib : Nat} {b : BibEntry} (hb : st.bib? bib = some b)
    (in6Daddr : In6Addr) (addr : UInt32) (port : UInt16) (type : ExpiryType) :
    sessionCreate st bib in6Daddr addr port type true =
      (some st.next,
        ((st.allocSession (newSession b in6Daddr addr port (st.deadline type))).updBib bib
          fun e => { e with sessions := st.next :: e.sessions }).addTailExpiry st.next type) := by
  simp [sessionCreate, hb]

/-- A `session_create` that does not allocate changes nothing. -/
theorem sessionCreate_of_not_ok (st : Store) (bib : Nat) (in6Daddr : In6Addr) (addr : UInt32)
    (port : UInt16) (type : ExpiryType) :
    sessionCreate st bib in6Daddr addr port type false = (none, st) := rfl

/-- A `session_create` on a pointer the store holds no BIB at changes nothing. -/
theorem sessionCreate_of_bib?_none {st : Store} {bib : Nat} (hb : st.bib? bib = none)
    (in6Daddr : In6Addr) (addr : UInt32) (port : UInt16) (type : ExpiryType) (allocOk : Bool) :
    sessionCreate st bib in6Daddr addr port type allocOk = (none, st) := by
  cases allocOk <;> simp [sessionCreate, hb]

/-- The BIB `bib_session_create` makes, before its session is added. -/
def createdBib (saddr : In6Addr) (sport : UInt16) (protocol : Int) (ta : Option TransportAddr) :
    BibEntry :=
  ⟨protocol, saddr, (local4Of ta).2, sport, (local4Of ta).1, []⟩

/-- A successful `bib_session_create`: a new BIB at `next`, linked in both indices, with one new
    session at `next + 1`. -/
theorem bibSessionCreate_eq {st : Store} (hfresh : st.next ∉ st.bibIds) (saddr in6Daddr : In6Addr)
    (daddr : UInt32) (sport dport : UInt16) (protocol : Int) (type : ExpiryType)
    (ta : Option TransportAddr) :
    bibSessionCreate st saddr in6Daddr daddr sport dport protocol type ta true true =
      (some st.next,
        (((((st.allocBib (createdBib saddr sport protocol ta)).linkBib st.next
            (nat64Hash6 saddr sport).toNat (local4Of ta).1.toNat).allocSession
            (newSession (createdBib saddr sport protocol ta) in6Daddr daddr dport
              (st.deadline type))).updBib st.next
          fun e => { e with sessions := (st.next + 1) :: e.sessions }).addTailExpiry (st.next + 1) type)) := by
  have hnn : ¬ (((local4Of ta).1.toNat : Int) < 0) := by omega
  have hb : ((st.allocBib (createdBib saddr sport protocol ta)).linkBib st.next
      (nat64Hash6 saddr sport).toNat (local4Of ta).1.toNat).bib? st.next =
        some (createdBib saddr sport protocol ta) :=
    find?_append_fresh hfresh
  simp only [bibSessionCreate, bibCreate, Bool.not_true, Bool.false_eq_true, if_false, hnn]
  rw [createdBib] at hb
  rw [sessionCreate_of_bib? hb]
  rfl

-- ---------------------------------------------------------------------------
-- The reaper's removal
-- ---------------------------------------------------------------------------

/-- `list_empty(next_session)` holds exactly when the session was the only one on its list. -/
theorem listEmptyNext_iff {l : List Nat} {s : Nat} (hs : s ∈ l) :
    listEmptyNext l s = true ↔ l = [s] := by
  cases l with
  | nil => cases hs
  | cons x xs =>
    unfold listEmptyNext
    by_cases hx : x = s
    · subst hx
      cases xs <;> simp [List.dropWhile_cons]
    · have hdrop : (x :: xs).dropWhile (· != s) = xs.dropWhile (· != s) := by
        simp [List.dropWhile_cons, hx]
      have herase : (x :: xs).erase s = x :: xs.erase s := by
        simp [List.erase_cons, beq_iff_eq, hx]
      rw [hdrop]
      split <;> simp [herase, hx]

/-- The removal of `s` once the reaper has found the BIB `b` whose list holds it. -/
theorem reapSession_of_find? {st : Store} {s b : Nat} {e : BibEntry}
    (hfind : st.bibs.find? (fun p => p.2.sessions.contains s) = some (b, e)) :
    reapSession st s =
      if e.sessions = [s] then
        ((((st.delExpiry s).updBib b fun e' => { e' with sessions := e'.sessions.erase s })
          |>.unlinkBib b).freeBib b).freeSession s
      else ((st.delExpiry s).updBib b fun e' => { e' with sessions := e'.sessions.erase s })
          |>.freeSession s := by
  have hs : s ∈ e.sessions := by simpa using List.find?_some hfind
  simp only [reapSession, hfind]
  by_cases h : e.sessions = [s]
  · rw [if_pos ((listEmptyNext_iff hs).2 h), if_pos h]
  · rw [if_neg (mt (listEmptyNext_iff hs).1 h), if_neg h]

/-- The removal of a session no BIB lists. -/
theorem reapSession_of_find?_none {st : Store} {s : Nat}
    (hfind : st.bibs.find? (fun p => p.2.sessions.contains s) = none) :
    reapSession st s = (st.delExpiry s).freeSession s := by
  simp only [reapSession, hfind]

-- ---------------------------------------------------------------------------
-- The loop
-- ---------------------------------------------------------------------------

/-- What the reaper's loop leaves: `P` holds of the store at every turn; a turn on the last node
    of the queue gives `Q`, and so does a stop, where the head of the queue (if any) is a session
    whose deadline has not passed. -/
theorem cleanLoop_spec {q : ExpiryType} (P Q : Store → Prop)
    (step : ∀ st pos rest e, P st → st.queue q = pos :: rest → st.session? pos = some e →
      timeAfter st.longBits st.jiffies e.expires = true → P (expireStep st pos))
    (last : ∀ st pos e, P st → st.queue q = [pos] → st.session? pos = some e →
      timeAfter st.longBits st.jiffies e.expires = true → Q (expireStep st pos))
    (stop : ∀ st, P st → (∀ pos rest e, st.queue q = pos :: rest → st.session? pos = some e →
      timeAfter st.longBits st.jiffies e.expires = false) → Q st) :
    ∀ st, P st → Q (cleanLoop q st) := by
  intro st hP
  generalize hn : (st.queue q).length + estCount st = n
  induction n using Nat.strong_induction_on generalizing st with
  | _ n ih =>
    rw [cleanLoop]
    split
    · next hq => exact stop st hP fun _ _ _ h => by rw [hq] at h; cases h
    · next pos rest hq =>
      have hhead : ∀ pos' rest', st.queue q = pos' :: rest' → pos' = pos := fun _ _ h =>
        (List.cons.inj (h.symm.trans hq)).1
      split
      · next hnone =>
        exact stop st hP fun _ _ _ h he => by rw [hhead _ _ h, hnone] at he; cases he
      · next e he =>
        split
        · next hexp =>
          split
          · next hrest =>
            subst hrest
            exact last st pos e hP hq he hexp
          · exact ih _ (hn ▸ measure_expireStep hq) _ (step st pos rest e hP hq he hexp) rfl
        · next hexp =>
          exact stop st hP fun _ _ _ h he' => by
            rw [hhead _ _ h, he, Option.some.injEq] at he'
            exact he' ▸ eq_false_of_ne_true hexp

/-- What every turn of the reaper's loop keeps, the whole loop keeps. -/
theorem cleanLoop_induction {q : ExpiryType} (P : Store → Prop)
    (step : ∀ st pos rest e, P st → st.queue q = pos :: rest → st.session? pos = some e →
      timeAfter st.longBits st.jiffies e.expires = true → P (expireStep st pos)) :
    ∀ st, P st → P (cleanLoop q st) :=
  cleanLoop_spec P P step (fun st pos e hP hq => step st pos [] e hP hq) fun _ hP _ => hP

end Jool.Filtering
