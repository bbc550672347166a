-- SUMMARY: The deadline session_create, session_renew and tcp_timeout_fsm give a session: exactly jiffies + timeout*HZ, and not yet passed, as long as the int product timeout*HZ stays below 2^31.
import Jool.Filtering.Expiry

/-!
# Deadlines

`session->expires = jiffies + expiry_base[type].timeout*HZ`: the product is an `int` and the sum
an `unsigned long` (`Store.deadline`). While `0 ≤ timeout*HZ < 2^31` the product is exact, the
deadline is `jiffies + timeout*HZ` modulo the clock, and `time_after(jiffies, expires)` is false:
the session starts alive. A longer timeout (more than 24.8 days at `HZ = 1000`) wraps the product
to a negative `int`, and the session is created with a deadline already passed
(`session_created_expired`).
-/

namespace Jool.Filtering

/-- An `int` value in range is itself. -/
theorem toInt32_of_lt {x : Int} (h0 : 0 ≤ x) (h : x < 2 ^ 31) : toInt32 x = x := by
  unfold toInt32
  rw [Int.emod_eq_of_lt (by omega) (by omega)]
  omega

/-- A deadline set `c` ticks ahead, with `0 ≤ c < 2^(bits-1)`, has not passed. -/
theorem timeAfter_deadline (bits j : Nat) {c : Int} (hc : 0 ≤ c) (hcH : c < 2 ^ (bits - 1)) :
    timeAfter bits j (((j : Int) + c) % 2 ^ bits).toNat = false := by
  have hpos : (0 : Nat) < 2 ^ (bits - 1) := Nat.two_pow_pos _
  have hiff := timeAfter_iff_lt_ageAt (e := (((j : Int) + c) % 2 ^ bits).toNat) hc hcH
    (by rw [ageAt_deadline]; exact hpos)
  rw [ageAt_deadline] at hiff
  cases h : timeAfter bits j (((j : Int) + c) % 2 ^ bits).toNat
  · rfl
  · exact absurd (hiff.1 h) (by omega)

section Exact

variable (st : Store) (type : ExpiryType) (ht : 0 ≤ (st.expiryBase type).timeout)
  (hprod : (st.expiryBase type).timeout * st.hz < 2 ^ 31)
include ht hprod

/-- Without overflow, the deadline of queue `type` is `jiffies + timeout*HZ` on the clock. -/
theorem Store.deadline_eq_of_lt :
    st.deadline type =
      (((st.jiffies : Int) + (st.expiryBase type).timeout * st.hz) % 2 ^ st.longBits).toNat := by
  rw [Store.deadline, toInt32_of_lt (Int.mul_nonneg ht (Int.ofNat_nonneg _)) hprod]

/-- Without overflow, on a clock of at least 32 bits, the deadline has not passed. -/
theorem Store.deadline_not_passed (hbits : 32 ≤ st.longBits) :
    timeAfter st.longBits st.jiffies (st.deadline type) = false := by
  have hH : (2 : Int) ^ 31 ≤ 2 ^ (st.longBits - 1) := by
    exact_mod_cast Nat.pow_le_pow_right (by decide) (by omega)
  rw [Store.deadline_eq_of_lt st type ht hprod]
  exact timeAfter_deadline _ _ (Int.mul_nonneg ht (Int.ofNat_nonneg _)) (by omega)

end Exact

-- ---------------------------------------------------------------------------
-- The sessions given the deadline
-- ---------------------------------------------------------------------------

/-- `session_create` appends a session whose deadline is that of its queue. -/
theorem sessionCreate_deadline {st st' : Store} {bib : Nat} {in6Daddr : In6Addr} {addr : UInt32}
    {port : UInt16} {type : ExpiryType} {s : Nat}
    (h : sessionCreate st bib in6Daddr addr port type true = (some s, st')) :
    ∃ e, st'.sessions = st.sessions ++ [(s, e)] ∧ e.expires = st.deadline type := by
  cases hb : st.bib? bib with
  | none => rw [sessionCreate_of_bib?_none hb] at h; cases h
  | some b =>
    rw [sessionCreate_of_bib? hb] at h
    cases h
    exact ⟨_, rfl, rfl⟩

/-- `session_create` with a successful allocation on a live BIB creates a session, at `next`. -/
theorem sessionCreate_fst_of_mem {st : Store} {bib : Nat} (hb : bib ∈ st.bibIds)
    (in6Daddr : In6Addr) (addr : UInt32) (port : UInt16) (type : ExpiryType) :
    (sessionCreate st bib in6Daddr addr port type true).1 = some st.next := by
  obtain ⟨b, hb', -⟩ := Store.exists_bib? hb
  rw [sessionCreate_of_bib? hb']

/-- `session_renew` gives the session the deadline of its new queue. -/
theorem sessionRenew_deadline {st : Store} {s : Nat} {e : StEntry} (he : st.session? s = some e)
    (type : ExpiryType) :
    (sessionRenew st s type).session? s = some { e with expires := st.deadline type } := by
  simp [sessionRenew, he]

/-- `tcp_timeout_fsm` on an established session gives it the deadline of `TCP_TRANS`. -/
theorem tcpTimeoutFsm_deadline {st : Store} {s : Nat} {e : StEntry} (he : st.session? s = some e)
    (hest : e.state = .established) :
    (tcpTimeoutFsm st s).2.session? s =
      some { e with expires := st.deadline .tcpTrans, state := .fourMin } := by
  simp [tcpTimeoutFsm, he, hest, renewTo, setState, sessionRenew]

/-- On any store, for a queue whose `timeout*HZ` is a nonnegative `int` below `2^31` and a clock
    of at least 32 bits: the deadline is exactly `jiffies + timeout*HZ` modulo the clock and has
    not passed, and it is the deadline `session_create`, `session_create_tcp`, `session_renew`
    and (for `TCP_TRANS`) `tcp_timeout_fsm` give the session they create or renew. On a live BIB,
    with a successful allocation, `session_create` and `session_create_tcp` do create one. -/
theorem session_deadline_exact (st : Store) (type : ExpiryType)
    (ht : 0 ≤ (st.expiryBase type).timeout)
    (hprod : (st.expiryBase type).timeout * st.hz < 2 ^ 31) (hbits : 32 ≤ st.longBits) :
    st.deadline type =
      (((st.jiffies : Int) + (st.expiryBase type).timeout * st.hz) % 2 ^ st.longBits).toNat ∧
    timeAfter st.longBits st.jiffies (st.deadline type) = false ∧
    (∀ bib in6Daddr addr port s st', sessionCreate st bib in6Daddr addr port type true = (some s, st') →
      ∃ e, st'.sessions = st.sessions ++ [(s, e)] ∧ e.expires = st.deadline type) ∧
    (∀ bib in6Daddr addr port s st',
      sessionCreateTcp st bib in6Daddr addr port type true = (some s, st') →
      ∃ e, st'.sessions = st.sessions ++ [(s, e)] ∧ e.expires = st.deadline type) ∧
    (∀ bib ∈ st.bibIds, ∀ in6Daddr addr port,
      (sessionCreate st bib in6Daddr addr port type true).1 = some st.next ∧
      (sessionCreateTcp st bib in6Daddr addr port type true).1 = some st.next) ∧
    (∀ s e, st.session? s = some e →
      ∃ e', (sessionRenew st s type).session? s = some e' ∧ e'.expires = st.deadline type) ∧
    (type = .tcpTrans → ∀ s e, st.session? s = some e → e.state = .established →
      ∃ e', (tcpTimeoutFsm st s).2.session? s = some e' ∧ e'.expires = st.deadline type) :=
  ⟨Store.deadline_eq_of_lt st type ht hprod, Store.deadline_not_passed st type ht hprod hbits,
    fun _ _ _ _ _ _ h => sessionCreate_deadline h, fun _ _ _ _ _ _ h => sessionCreate_deadline h,
    fun _ hb _ _ _ => ⟨sessionCreate_fst_of_mem hb _ _ _ _, sessionCreate_fst_of_mem hb _ _ _ _⟩,
    fun _ _ he => ⟨_, sessionRenew_deadline he type, rfl⟩,
    fun htype _ _ he hest => htype ▸ ⟨_, tcpTimeoutFsm_deadline he hest, rfl⟩⟩

/-- A five-minute timeout at `HZ = 1000` on a 64-bit clock. -/
theorem session_deadline_exact_default :
    (0 : Int) ≤ ((Store.init (fun _ => 300) 1000 64 7 0).expiryBase .udpDefault).timeout ∧
    ((Store.init (fun _ => 300) 1000 64 7 0).expiryBase .udpDefault).timeout *
      (Store.init (fun _ => 300) 1000 64 7 0).hz < 2 ^ 31 ∧
    32 ≤ (Store.init (fun _ => 300) 1000 64 7 0).longBits ∧
    timeAfter 64 7 ((Store.init (fun _ => 300) 1000 64 7 0).deadline .udpDefault) = false :=
  ⟨by decide, by decide, by decide,
    (session_deadline_exact (Store.init (fun _ => 300) 1000 64 7 0) .udpDefault (by decide)
      (by decide) (by decide)).2.1⟩

/-- A timeout of 2147484 s (24.9 days) at `HZ = 1000` on a 64-bit clock: the `int` product wraps,
    and the session `bib_session_create` makes at `jiffies = 0` gets a deadline other than
    `timeout*HZ`, one that has already passed. -/
theorem session_created_expired :
    ∃ e, (bibSessionCreate (Store.init (fun _ => 2147484) 1000 64 0 0) ⟨0, 0, 0, 1⟩ ⟨0, 0, 0, 2⟩
        3 1 2 17 .udpDefault (some ⟨4, 5⟩) true true).2.session? 1 = some e ∧
      e.expires ≠ (0 + 2147484 * 1000) % 2 ^ 64 ∧ timeAfter 64 0 e.expires = true :=
  ⟨_, rfl, by decide, by decide⟩

end Jool.Filtering
