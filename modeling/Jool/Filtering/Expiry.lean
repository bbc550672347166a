-- SUMMARY: The order of the expiry queues: each session on a queue was given its deadline no later than those behind it, so the deadlines run in time_after order and a reaper pass that stops at the first live session leaves no expired one behind, as long as jiffies never carries a queued session half the clock's range past its deadline's start.
import Jool.Filtering.Invariant

/-!
# Ordered expiry queues

A session put on queue `q` at time `j` is given the deadline `j + timeout*HZ` (`Store.deadline`),
computed in an `unsigned long` that wraps. Its age on the queue is how long ago, as the clock
wraps, that was (`ageAt`): `jiffies + timeout*HZ - expires` modulo the clock. Every operation
puts a session at the tail of a queue with age `0`, or takes one away, so along each queue the
ages never grow from head to tail (`QueuesOrdered`).

`time_after` compares two times by the sign of their difference as a `long`, so it orders
deadlines only while they lie within half the clock's range of each other. The order holds
therefore for runs whose advances of `jiffies` keep every queued session younger than half the
clock's range (`ticksInRange`), and a pass of the reaper, which stops at the first session whose
deadline has not passed, then leaves none whose deadline has, as long as `timeout*HZ` is a
nonnegative `int` below half the clock's range. Without the bound on advances the order breaks:
two sessions put on a queue more than half the clock's range apart come out of `time_after`
order (`expiry_queue_out_of_order`).
-/

namespace Jool.Filtering

-- ---------------------------------------------------------------------------
-- The clock
-- ---------------------------------------------------------------------------

/-- How long before `jiffies`, on a clock of `bits` bits, a deadline `expires` was set with the
    offset `offset`. -/
def ageAt (bits jiffies : Nat) (offset : Int) (expires : Nat) : Nat :=
  (((jiffies : Int) + offset - expires) % 2 ^ bits).toNat

section Clock

theorem two_pow_pos_int (bits : Nat) : (0 : Int) < 2 ^ bits := by
  exact_mod_cast Nat.two_pow_pos bits

theorem ageAt_cast (bits j : Nat) (c : Int) (e : Nat) :
    (ageAt bits j c e : Int) = ((j : Int) + c - e) % 2 ^ bits :=
  Int.toNat_of_nonneg (Int.emod_nonneg _ (two_pow_pos_int bits).ne')

theorem ageAt_lt (bits j : Nat) (c : Int) (e : Nat) : ageAt bits j c e < 2 ^ bits := by
  have h : (ageAt bits j c e : Int) < 2 ^ bits := by
    rw [ageAt_cast]
    exact Int.emod_lt_of_pos _ (two_pow_pos_int bits)
  exact_mod_cast h

/-- A deadline set now has age `0`. -/
theorem ageAt_deadline (bits j : Nat) (c : Int) :
    ageAt bits j c ((((j : Int) + c) % 2 ^ bits).toNat) = 0 := by
  have h : (ageAt bits j c ((((j : Int) + c) % 2 ^ bits).toNat) : Int) = 0 := by
    rw [ageAt_cast, Int.toNat_of_nonneg (Int.emod_nonneg _ (two_pow_pos_int bits).ne'),
      Int.sub_emod, Int.emod_emod, Int.sub_self, Int.zero_emod]
  exact_mod_cast h

/-- An advance of the clock by `d` ages every deadline by `d`, modulo the clock. -/
theorem ageAt_tick (bits j d : Nat) (c : Int) (e : Nat) :
    ageAt bits ((j + d) % 2 ^ bits) c e = (ageAt bits j c e + d) % 2 ^ bits := by
  have h : (ageAt bits ((j + d) % 2 ^ bits) c e : Int) =
      ((ageAt bits j c e + d) % 2 ^ bits : Nat) := by
    push_cast [ageAt_cast]
    rw [Int.add_sub_assoc, Int.emod_add_emod, Int.emod_add_emod]
    congr 1
    omega
  exact_mod_cast h

/-- Of two deadlines set with one offset, the older is not `time_after` the younger, while the
    older is younger than half the clock's range. -/
theorem timeAfter_of_ageAt_le {bits j : Nat} {c : Int} {ea eb : Nat}
    (hle : ageAt bits j c eb ≤ ageAt bits j c ea) (hlt : ageAt bits j c ea < 2 ^ (bits - 1)) :
    timeAfter bits ea eb = false := by
  have hA := ageAt_cast bits j c ea
  have hB := ageAt_cast bits j c eb
  have hle' : (ageAt bits j c eb : Int) ≤ ageAt bits j c ea := by exact_mod_cast hle
  have hlt' : (ageAt bits j c ea : Int) < 2 ^ (bits - 1) := by exact_mod_cast hlt
  have hAM : (ageAt bits j c ea : Int) < 2 ^ bits := by exact_mod_cast ageAt_lt bits j c ea
  have hdiff : ((eb : Int) - ea) % 2 ^ bits = (ageAt bits j c ea : Int) - ageAt bits j c eb := by
    have h1 : (eb : Int) - ea = ((j : Int) + c - ea) - ((j : Int) + c - eb) := by omega
    rw [h1, Int.sub_emod, ← hA, ← hB]
    exact Int.emod_eq_of_lt (by omega) (by omega)
  unfold timeAfter
  rw [hdiff, decide_eq_false_iff_not]
  omega

/-- `time_after(jiffies, expires)` holds exactly when the deadline is older than its offset, for
    an offset and an age below half the clock's range. -/
theorem timeAfter_iff_lt_ageAt {bits j : Nat} {c : Int} {e : Nat} (hc : 0 ≤ c)
    (hcH : c < 2 ^ (bits - 1)) (hage : ageAt bits j c e < 2 ^ (bits - 1)) :
    timeAfter bits j e = true ↔ c < ageAt bits j c e := by
  have hA := ageAt_cast bits j c e
  have hage' : (ageAt bits j c e : Int) < 2 ^ (bits - 1) := by exact_mod_cast hage
  have hmod : ((e : Int) - j) % 2 ^ bits = (c - ageAt bits j c e) % 2 ^ bits := by
    rw [hA, Int.sub_emod c, Int.emod_emod, ← Int.sub_emod]
    congr 1
    omega
  unfold timeAfter
  rw [decide_eq_true_iff, hmod]
  rcases Nat.eq_zero_or_pos bits with rfl | hb
  · simp only [Nat.zero_le, Nat.sub_eq_zero_of_le, pow_zero, Nat.lt_one_iff] at hage
    omega
  · have hM : (2 : Int) ^ bits = 2 * 2 ^ (bits - 1) := by
      obtain ⟨k, rfl⟩ : ∃ k, bits = k + 1 := ⟨bits - 1, by omega⟩
      rw [Nat.add_sub_cancel, Int.pow_succ]
      omega
    by_cases hca : (ageAt bits j c e : Int) ≤ c
    · rw [Int.emod_eq_of_lt (by omega) (by omega)]
      omega
    · rw [← Int.add_emod_self, Int.emod_eq_of_lt (by omega) (by omega)]
      omega

end Clock

-- ---------------------------------------------------------------------------
-- Ages on the queues
-- ---------------------------------------------------------------------------

/-- `expiry_base[q].timeout*HZ`, the `int` a deadline on queue `q` adds to `jiffies`. -/
def Store.offset (st : Store) (q : ExpiryType) : Int := toInt32 ((st.expiryBase q).timeout * st.hz)

theorem Store.deadline_eq_offset (st : Store) (q : ExpiryType) :
    st.deadline q = (((st.jiffies : Int) + st.offset q) % 2 ^ st.longBits).toNat := rfl

/-- The age of session `s` on queue `q`. -/
def Store.age (st : Store) (q : ExpiryType) (s : Nat) : Nat :=
  match st.session? s with
  | some e => ageAt st.longBits st.jiffies (st.offset q) e.expires
  | none => 0

theorem Store.age_of_session? {st : Store} {q : ExpiryType} {s : Nat} {e : StEntry}
    (he : st.session? s = some e) :
    st.age q s = ageAt st.longBits st.jiffies (st.offset q) e.expires := by
  simp [Store.age, he]

/-- Two stores on one clock: the same `jiffies`, width and offsets. -/
structure SameClock (st st' : Store) : Prop where
  jiffies_eq : st'.jiffies = st.jiffies
  longBits_eq : st'.longBits = st.longBits
  offset_eq : ∀ q, st'.offset q = st.offset q

namespace SameClock

theorem refl (st : Store) : SameClock st st := ⟨rfl, rfl, fun _ => rfl⟩

theorem trans {st st' st'' : Store} (h : SameClock st st') (h' : SameClock st' st'') :
    SameClock st st'' :=
  ⟨h'.1.trans h.1, h'.2.trans h.2, fun q => (h'.3 q).trans (h.3 q)⟩

theorem addTailExpiry (st : Store) (s : Nat) (type : ExpiryType) :
    SameClock st (st.addTailExpiry s type) :=
  ⟨rfl, rfl, fun q => by simp [Store.offset]⟩

end SameClock

/-- The age of a session whose lookup a step leaves alone. -/
theorem Store.age_congr {st st' : Store} (hc : SameClock st st') {q : ExpiryType} {x : Nat}
    (hx : st'.session? x = st.session? x) : st'.age q x = st.age q x := by
  unfold Store.age
  rw [hx, hc.jiffies_eq, hc.longBits_eq, hc.offset_eq]

/-- Along each queue, no session is younger than one behind it, and all are younger than half
    the clock's range. -/
def QueuesOrdered (st : Store) : Prop :=
  ∀ q, (st.queue q).Pairwise (fun a b => st.age q b ≤ st.age q a) ∧
    ∀ s ∈ st.queue q, st.age q s < 2 ^ (st.longBits - 1)

/-- Advances of `jiffies` that leave every queued session younger than half the clock's
    range. -/
def ticksInRange : Store → Nat → Prop :=
  fun st d => ∀ q, ∀ s ∈ st.queue q, st.age q s + d < 2 ^ (st.longBits - 1)

-- ---------------------------------------------------------------------------
-- Lookups after the session primitives
-- ---------------------------------------------------------------------------

theorem find?_filter_of_imp {α : Type} {p r : α → Bool} (l : List α) (h : ∀ a, p a → r a) :
    (l.filter r).find? p = l.find? p := by
  induction l with
  | nil => rfl
  | cons a l ih =>
    by_cases hr : r a
    · simp [List.filter_cons, hr, List.find?_cons, ih]
    · have hp : p a = false := by
        cases hpa : p a
        · rfl
        · exact absurd (h a hpa) hr
      simp [List.filter_cons, hr, List.find?_cons, hp, ih]

namespace Store

variable {st : Store}

theorem session?_freeSession_of_ne {s x : Nat} (hx : x ≠ s) :
    (st.freeSession s).session? x = st.session? x := by
  simp only [session?, freeSession_sessions]
  rw [find?_filter_of_imp _ fun e he => by
    have : e.1 = x := by simpa using he
    simp [this, hx]]

theorem session?_allocSession_of_ne {e : StEntry} {x : Nat} (hx : x ≠ st.next) :
    (st.allocSession e).session? x = st.session? x := by
  simp only [session?, allocSession_sessions, List.find?_append]
  have : [(st.next, e)].find? (·.1 == x) = none := by simp [Ne.symm hx]
  rw [this, Option.or_none]

end Store

-- ---------------------------------------------------------------------------
-- Each operation keeps the queues ordered
-- ---------------------------------------------------------------------------

namespace StoreOk

variable {st : Store} (h : StoreOk st)
include h

theorem queue_nodup (q : ExpiryType) : (st.queue q).Nodup :=
  (List.nodup_flatMap.1 h.queued_nodup).1 q (ExpiryType.mem_all q)

theorem mem_sessionIds_of_queue {q : ExpiryType} {s : Nat} (hs : s ∈ st.queue q) :
    s ∈ st.sessionIds :=
  h.queued_perm.subset (List.mem_flatMap.2 ⟨q, ExpiryType.mem_all q, hs⟩)

theorem session?_of_queue {q : ExpiryType} {s : Nat} (hs : s ∈ st.queue q) :
    ∃ e, st.session? s = some e := by
  cases he : st.session? s with
  | none => exact absurd (h.mem_sessionIds_of_queue hs) (Store.session?_eq_none.1 he)
  | some e => exact ⟨e, rfl⟩

end StoreOk

namespace QueuesOrdered

/-- A step that takes one session off the queues and may put it back at the tail of one, with
    age `0`, touching no other session. -/
theorem update {st st' : Store} (h : QueuesOrdered st) (hnd : ∀ q, (st.queue q).Nodup)
    (hc : SameClock st st') {s : Nat} (hsame : ∀ x, x ≠ s → st'.session? x = st.session? x)
    (hq : ∀ q, st'.queue q = (st.queue q).erase s ∨
      st'.queue q = (st.queue q).erase s ++ [s] ∧ st'.age q s = 0) :
    QueuesOrdered st' := by
  intro q
  have hkeep : ∀ x ∈ (st.queue q).erase s, st'.age q x = st.age q x := fun x hx =>
    Store.age_congr hc (hsame x fun hxs => (hnd q).not_mem_erase (hxs ▸ hx))
  have hpw : ((st.queue q).erase s).Pairwise (fun a b => st'.age q b ≤ st'.age q a) :=
    ((h q).1.sublist (List.erase_sublist _ _)).imp_of_mem fun ha hb hab => by
      rw [hkeep _ ha, hkeep _ hb]
      exact hab
  have hbound : ∀ x ∈ (st.queue q).erase s, st'.age q x < 2 ^ (st'.longBits - 1) :=
    fun x hx => by
      rw [hkeep x hx, hc.longBits_eq]
      exact (h q).2 x (List.mem_of_mem_erase hx)
  rcases hq q with hq | ⟨hq, hage⟩ <;> rw [hq]
  · exact ⟨hpw, hbound⟩
  · refine ⟨List.pairwise_append.2 ⟨hpw, List.pairwise_singleton _ _, fun a _ b hb => ?_⟩,
      fun x hx => ?_⟩
    · rw [List.mem_singleton.1 hb, hage]
      exact Nat.zero_le _
    · rcases List.mem_append.1 hx with hx | hx
      · exact hbound x hx
      · rw [List.mem_singleton.1 hx, hage]
        exact Nat.two_pow_pos _

/-- A step that moves nothing and ages nothing. -/
theorem congr {st st' : Store} (h : QueuesOrdered st) (hW : st'.longBits = st.longBits)
    (hq : ∀ q, st'.queue q = st.queue q) (hage : ∀ q x, st'.age q x = st.age q x) :
    QueuesOrdered st' := by
  intro q
  rw [hq, hW]
  simp only [hage]
  exact h q

end QueuesOrdered

section Steps

variable {st : Store}

theorem sameClock_sessionRenew (st : Store) (s : Nat) (type : ExpiryType) :
    SameClock st (sessionRenew st s type) :=
  ⟨rfl, rfl, fun q => by simp [sessionRenew, Store.offset]⟩

theorem sameClock_setState (st : Store) (s : Nat) (state : StateType) :
    SameClock st (setState st s state) :=
  ⟨rfl, rfl, fun _ => rfl⟩

theorem sameClock_fsmEffect {s : Nat} {st' : Store} (he : FsmEffect st s st') : SameClock st st' := by
  cases he with
  | stay => exact .refl st
  | setState state => exact sameClock_setState st s state
  | renew type => exact sameClock_sessionRenew st s type
  | renewTo type state =>
    exact (sameClock_sessionRenew st s type).trans (sameClock_setState _ s state)

theorem sameClock_reapSession (st : Store) (s : Nat) : SameClock st (reapSession st s) := by
  unfold reapSession
  split
  · exact ⟨rfl, rfl, fun _ => rfl⟩
  · split <;> exact ⟨rfl, rfl, fun _ => rfl⟩

theorem sameClock_expireStep (st : Store) (s : Nat) : SameClock st (expireStep st s) := by
  rcases expireStep_eq_or st s with he | he <;> rw [he]
  · exact (sameClock_sessionRenew st s _).trans (sameClock_setState _ s _)
  · exact sameClock_reapSession st s

theorem sameClock_cleanLoop (st : Store) (q : ExpiryType) : SameClock st (cleanLoop q st) :=
  cleanLoop_induction (SameClock st) (fun _ pos _ _ h _ _ _ => h.trans (sameClock_expireStep _ pos))
    st (.refl st)

theorem age_setState (st : Store) (s : Nat) (state : StateType) (q : ExpiryType) (x : Nat) :
    (setState st s state).age q x = st.age q x := by
  unfold Store.age
  rw [setState, Store.session?_updSession]
  cases st.session? x with
  | none => rfl
  | some e => by_cases hx : x = s <;> simp only [hx, if_true, if_false, Option.map_some'] <;> rfl

/-- A session given a deadline on queue `q` now has age `0` there. -/
theorem age_of_deadline {st' : Store} (hc : SameClock st st') {q : ExpiryType} {s : Nat}
    {e : StEntry} (he : st'.session? s = some e) (hexp : e.expires = st.deadline q) :
    st'.age q s = 0 := by
  rw [Store.age_of_session? he, hexp, Store.deadline_eq_offset, hc.jiffies_eq, hc.longBits_eq,
    hc.offset_eq]
  exact ageAt_deadline _ _ _

/-- A renewed session has age `0` on the queue it joins. -/
theorem age_sessionRenew_self {s : Nat} {e : StEntry} (he : st.session? s = some e)
    (type : ExpiryType) : (sessionRenew st s type).age type s = 0 :=
  age_of_deadline (sameClock_sessionRenew st s type) (e := { e with expires := st.deadline type })
    (by simp [sessionRenew, he]) rfl

theorem QueuesOrdered.sessionRenew (h : QueuesOrdered st) (hok : StoreOk st) {s : Nat}
    (hs : s ∈ st.sessionIds) (type : ExpiryType) :
    QueuesOrdered (Filtering.sessionRenew st s type) := by
  obtain ⟨e, he⟩ : ∃ e, st.session? s = some e := by
    cases he : st.session? s with
    | none => exact absurd hs (Store.session?_eq_none.1 he)
    | some e => exact ⟨e, rfl⟩
  refine h.update hok.queue_nodup (sameClock_sessionRenew st s type) (s := s) (fun x hx => ?_)
    fun q => ?_
  · simp [Filtering.sessionRenew, hx]
  · rw [queue_sessionRenew]
    split
    · next hq =>
      subst hq
      exact .inr ⟨rfl, age_sessionRenew_self he q⟩
    · exact .inl rfl

theorem QueuesOrdered.setState (h : QueuesOrdered st) (s : Nat) (state : StateType) :
    QueuesOrdered (Filtering.setState st s state) :=
  h.congr rfl (fun _ => rfl) (age_setState st s state)

theorem QueuesOrdered.fsmEffect (h : QueuesOrdered st) (hok : StoreOk st) {s : Nat}
    (hs : s ∈ st.sessionIds) {st' : Store} (he : FsmEffect st s st') : QueuesOrdered st' := by
  cases he with
  | stay => exact h
  | setState state => exact h.setState s state
  | renew type => exact h.sessionRenew hok hs type
  | renewTo type state => exact (h.sessionRenew hok hs type).setState s state

/-- A session created at the tail of a queue, at an address no session has. -/
theorem QueuesOrdered.allocSession (h : QueuesOrdered st) (hok : StoreOk st) {st' : Store}
    {n : Nat} (hfresh : n ∉ st.sessionIds) (hc : SameClock st st')
    (hsame : ∀ x, x ≠ n → st'.session? x = st.session? x) (type : ExpiryType)
    (hq : ∀ q, st'.queue q = if q = type then st.queue q ++ [n] else st.queue q)
    (hage : st'.age type n = 0) : QueuesOrdered st' := by
  refine h.update hok.queue_nodup hc hsame fun q => ?_
  have hnq : n ∉ st.queue q := fun hn => hfresh (hok.mem_sessionIds_of_queue hn)
  rw [hq, List.erase_of_not_mem hnq]
  split
  · next hqt =>
    subst hqt
    exact .inr ⟨rfl, hage⟩
  · exact .inl rfl

theorem QueuesOrdered.sessionCreate (h : QueuesOrdered st) (hok : StoreOk st) (bib : Nat)
    (in6Daddr : In6Addr) (addr : UInt32) (port : UInt16) (type : ExpiryType) (allocOk : Bool) :
    QueuesOrdered (Filtering.sessionCreate st bib in6Daddr addr port type allocOk).2 := by
  cases allocOk with
  | false => exact h
  | true =>
    cases hb : st.bib? bib with
    | none => rw [sessionCreate_of_bib?_none hb]; exact h
    | some b =>
      rw [sessionCreate_of_bib? hb]
      have hfresh : st.next ∉ st.sessionIds := fun hn => Nat.lt_irrefl _ (hok.session_lt _ hn)
      have hc : SameClock st ((st.allocSession (newSession b in6Daddr addr port
          (st.deadline type))).updBib bib (fun e => { e with sessions := st.next :: e.sessions })
          |>.addTailExpiry st.next type) := ⟨rfl, rfl, fun q => by simp [Store.offset]⟩
      exact h.allocSession hok hfresh hc (fun x hx => Store.session?_allocSession_of_ne hx) type
        (fun q => Store.queue_addTailExpiry _ _ _ q) (age_of_deadline hc (find?_append_fresh hfresh) rfl)

theorem QueuesOrdered.bibSessionCreate (h : QueuesOrdered st) (hok : StoreOk st)
    (saddr in6Daddr : In6Addr) (daddr : UInt32) (sport dport : UInt16) (protocol : Int)
    (type : ExpiryType) (ta : Option TransportAddr) :
    QueuesOrdered (Filtering.bibSessionCreate st saddr in6Daddr daddr sport dport protocol type ta
      true true).2 := by
  have hnext : st.next ∉ st.bibIds := fun hn => Nat.lt_irrefl _ (hok.bib_lt _ hn)
  have hfresh : st.next + 1 ∉ st.sessionIds := fun hn => by
    have := hok.session_lt _ hn
    omega
  rw [bibSessionCreate_eq hnext]
  have hc : SameClock st ((((st.allocBib (createdBib saddr sport protocol ta)).linkBib st.next
      (nat64Hash6 saddr sport).toNat (local4Of ta).1.toNat).allocSession
      (newSession (createdBib saddr sport protocol ta) in6Daddr daddr dport (st.deadline type))).updBib
      st.next (fun e => { e with sessions := (st.next + 1) :: e.sessions }) |>.addTailExpiry
      (st.next + 1) type) := ⟨rfl, rfl, fun q => by simp [Store.offset]⟩
  exact h.allocSession hok hfresh hc (fun x hx => Store.session?_allocSession_of_ne hx) type
    (fun q => Store.queue_addTailExpiry _ _ _ q) (age_of_deadline hc (find?_append_fresh hfresh) rfl)

theorem QueuesOrdered.reapSession (h : QueuesOrdered st) (hok : StoreOk st) (s : Nat) :
    QueuesOrdered (Filtering.reapSession st s) := by
  refine h.update hok.queue_nodup (sameClock_reapSession st s) (fun x hx => ?_)
    fun q => .inl (queue_reapSession st s q)
  unfold Filtering.reapSession
  split
  · exact Store.session?_freeSession_of_ne hx
  · split <;> exact Store.session?_freeSession_of_ne hx

theorem QueuesOrdered.expireStep (h : QueuesOrdered st) (hok : StoreOk st) {s : Nat}
    (hs : s ∈ st.sessionIds) : QueuesOrdered (Filtering.expireStep st s) := by
  rcases expireStep_eq_or st s with he | he <;> rw [he]
  · exact (h.sessionRenew hok hs _).setState _ _
  · exact h.reapSession hok s

theorem QueuesOrdered.cleanLoop (h : QueuesOrdered st) (hok : StoreOk st) (q : ExpiryType) :
    QueuesOrdered (Filtering.cleanLoop q st) :=
  (cleanLoop_induction (fun x => StoreOk x ∧ QueuesOrdered x)
    (fun _ _ _ _ hx _ he _ =>
      have hpos := List.mem_map_of_mem Prod.fst (Store.mem_of_session? he)
      ⟨hx.1.expireStep hpos, hx.2.expireStep hx.1 hpos⟩) st ⟨hok, h⟩).2

/-- An advance of `jiffies` in range ages every queued session alike. -/
theorem QueuesOrdered.tick (h : QueuesOrdered st) (hok : StoreOk st) {d : Nat}
    (hd : ticksInRange st d) : QueuesOrdered (st.tick d) := by
  intro q
  have hage : ∀ x ∈ st.queue q, (st.tick d).age q x = st.age q x + d := fun x hx => by
    obtain ⟨e, he⟩ := hok.session?_of_queue hx
    have hlt : st.age q x + d < 2 ^ st.longBits :=
      lt_of_lt_of_le (hd q x hx) (Nat.pow_le_pow_right (by decide) (Nat.sub_le _ _))
    have he' : (st.tick d).session? x = some e := he
    rw [Store.age_of_session? he', Store.age_of_session? he] at *
    rw [Store.tick, ageAt_tick]
    exact Nat.mod_eq_of_lt hlt
  refine ⟨(h q).1.imp_of_mem fun ha hb hab => ?_, fun x hx => ?_⟩
  · rw [hage _ ha, hage _ hb]
    omega
  · rw [hage x hx]
    exact hd q x hx

end Steps

/-- Along every run whose advances of `jiffies` are in range, the queues stay ordered. -/
theorem Reach.queuesOrdered
    {create : Store → In6Addr → UInt16 → Int → Option TransportAddr → Prop} {st : Store}
    {drawn : List TransportAddr} (hr : Reach create ticksInRange st drawn) : QueuesOrdered st := by
  induction hr with
  | init => exact fun q => ⟨List.Pairwise.nil, fun _ hs => (List.not_mem_nil _ hs).elim⟩
  | bibSessionCreate saddr in6Daddr daddr sport dport protocol type ta hr _ ih =>
    exact ih.bibSessionCreate hr.storeOk saddr in6Daddr daddr sport dport protocol type ta
  | sessionCreate bib in6Daddr addr port type allocOk hr _ ih =>
    exact ih.sessionCreate hr.storeOk bib in6Daddr addr port type allocOk
  | sessionRenew s type hr hs ih => exact ih.sessionRenew hr.storeOk hs type
  | tcp4Fsm s tcph hr hs ih => exact ih.fsmEffect hr.storeOk hs (tcp4Fsm_effect _ s tcph)
  | tcp6Fsm s tcph hr hs ih => exact ih.fsmEffect hr.storeOk hs (tcp6Fsm_effect _ s tcph)
  | tcpTimeoutFsm s hr hs ih => exact ih.fsmEffect hr.storeOk hs (tcpTimeoutFsm_effect _ s)
  | cleanExpiredSessions q hr ih => exact ih.cleanLoop hr.storeOk q
  | tick d hr hd ih => exact ih.tick hr.storeOk hd

-- ---------------------------------------------------------------------------
-- A pass of the reaper
-- ---------------------------------------------------------------------------

/-- `time_after(jiffies, expires)` for a session on queue `q`: its age is past the offset. -/
theorem Store.timeAfter_iff_lt_age {st : Store} {q : ExpiryType} {s : Nat} {e : StEntry}
    (he : st.session? s = some e) (hc : 0 ≤ st.offset q)
    (hcH : st.offset q < 2 ^ (st.longBits - 1)) (hage : st.age q s < 2 ^ (st.longBits - 1)) :
    timeAfter st.longBits st.jiffies e.expires = true ↔ st.offset q < st.age q s := by
  rw [Store.age_of_session? he] at hage ⊢
  exact timeAfter_iff_lt_ageAt hc hcH hage

/-- After a pass of the reaper over queue `q` of an ordered store, no session left on `q` is
    older than the offset of `q`. -/
theorem cleanLoop_ages_le {st : Store} (hok : StoreOk st) (h : QueuesOrdered st) {q : ExpiryType}
    (hc : 0 ≤ st.offset q) (hcH : st.offset q < 2 ^ (st.longBits - 1)) :
    ∀ s ∈ (cleanLoop q st).queue q, ((cleanLoop q st).age q s : Int) ≤ st.offset q := by
  refine cleanLoop_spec (q := q) (fun x => StoreOk x ∧ QueuesOrdered x ∧ SameClock st x)
    (fun x => ∀ s ∈ x.queue q, (x.age q s : Int) ≤ st.offset q) ?_ ?_ ?_ st ⟨hok, h, .refl st⟩
  · intro x pos _ _ ⟨hx, hqx, hcx⟩ _ he _
    have hpos := List.mem_map_of_mem Prod.fst (Store.mem_of_session? he)
    exact ⟨hx.expireStep hpos, hqx.expireStep hx hpos, hcx.trans (sameClock_expireStep x pos)⟩
  · intro x pos e _ hq he _ s hs
    rcases expireStep_eq_or x pos with hst | hst <;> rw [hst] at hs ⊢
    · rw [renewTo, queue_setState, queue_sessionRenew, hq, List.erase_cons_head] at hs
      split at hs
      · next hqt =>
        subst hqt
        rw [List.nil_append, List.mem_singleton] at hs
        subst hs
        rw [renewTo, age_setState, age_sessionRenew_self he]
        exact_mod_cast hc
      · cases hs
    · rw [queue_reapSession, hq, List.erase_cons_head] at hs
      cases hs
  · intro x ⟨hx, hqx, hcx⟩ hhead s hs
    cases hqs : x.queue q with
    | nil => rw [hqs] at hs; cases hs
    | cons pos rest =>
      have hmem : pos ∈ x.queue q := hqs ▸ List.mem_cons_self pos rest
      obtain ⟨e, he⟩ := hx.session?_of_queue hmem
      have hc' : 0 ≤ x.offset q := by rw [hcx.offset_eq]; exact hc
      have hcH' : x.offset q < 2 ^ (x.longBits - 1) := by
        rw [hcx.offset_eq, hcx.longBits_eq]; exact hcH
      have hpos : ¬ x.offset q < x.age q pos := fun hlt =>
        absurd ((Store.timeAfter_iff_lt_age he hc' hcH' ((hqx q).2 pos hmem)).2 hlt)
          (by rw [hhead pos rest e hqs he]; decide)
      have hpw := (hqx q).1
      rw [hqs] at hpw hs
      rw [← hcx.offset_eq]
      rcases List.mem_cons.1 hs with rfl | hs
      · omega
      · have := List.rel_of_pairwise_cons hpw hs
        omega

/-- On every run whose advances of `jiffies` keep each queued session younger than half the
    clock's range, the deadlines along each expiry queue are in `time_after` order from head to
    tail; and a pass of the reaper over a queue whose `timeout*HZ` is a nonnegative `int` below
    half the clock's range leaves on it no session whose deadline has passed. -/
theorem expiry_queues_ordered
    {create : Store → In6Addr → UInt16 → Int → Option TransportAddr → Prop} {st : Store}
    {drawn : List TransportAddr} (hr : Reach create ticksInRange st drawn) :
    (∀ q, (st.queue q).Pairwise fun a b => ∀ ea eb, st.session? a = some ea →
      st.session? b = some eb → timeAfter st.longBits ea.expires eb.expires = false) ∧
    ∀ q, 0 ≤ st.offset q → st.offset q < 2 ^ (st.longBits - 1) →
      ∀ s ∈ (cleanExpiredSessions st q).queue q, ∀ e,
        (cleanExpiredSessions st q).session? s = some e →
        timeAfter st.longBits st.jiffies e.expires = false := by
  have hok := hr.storeOk
  have h := hr.queuesOrdered
  refine ⟨fun q => (h q).1.imp_of_mem fun {a b} ha _ hab ea eb hea heb => ?_,
    fun q hc hcH s hs e he => ?_⟩
  · have hlt := (h q).2 a ha
    rw [Store.age_of_session? hea, Store.age_of_session? heb] at hab
    rw [Store.age_of_session? hea] at hlt
    exact timeAfter_of_ageAt_le hab hlt
  · unfold cleanExpiredSessions at hs he
    have hcl := sameClock_cleanLoop st q
    have hle := cleanLoop_ages_le hok h hc hcH s hs
    rw [← hcl.offset_eq] at hc hle
    rw [← hcl.offset_eq, ← hcl.longBits_eq] at hcH
    rw [← hcl.jiffies_eq, ← hcl.longBits_eq]
    have hiff := Store.timeAfter_iff_lt_age he hc hcH ((h.cleanLoop hok q q).2 s hs)
    cases ht : timeAfter (cleanLoop q st).longBits (cleanLoop q st).jiffies e.expires with
    | false => rfl
    | true =>
      have := hiff.1 ht
      omega

theorem expiry_queues_ordered_sample :
    Reach anyCreate ticksInRange (sampleStore 9) sampleDrawn ∧
    (∀ q, ((sampleStore 9).queue q).Pairwise fun a b => ∀ ea eb, (sampleStore 9).session? a = some ea →
      (sampleStore 9).session? b = some eb → timeAfter (sampleStore 9).longBits ea.expires eb.expires = false) ∧
    ∀ q, 0 ≤ (sampleStore 9).offset q → (sampleStore 9).offset q < 2 ^ ((sampleStore 9).longBits - 1) →
      ∀ s ∈ (cleanExpiredSessions (sampleStore 9) q).queue q, ∀ e,
        (cleanExpiredSessions (sampleStore 9) q).session? s = some e →
        timeAfter (sampleStore 9).longBits (sampleStore 9).jiffies e.expires = false :=
  have hr : Reach anyCreate ticksInRange (sampleStore 9) sampleDrawn :=
    .sample trivial trivial trivial (fun q => by cases q <;> decide) (fun q => by cases q <;> decide)
  ⟨hr, expiry_queues_ordered hr⟩

/-- Without a bound on the advances of `jiffies` the order breaks: on a 32-bit clock, a session
    created at time `0` and one created on the same queue `2^31 + 1` jiffies later have
    deadlines out of `time_after` order. -/
theorem expiry_queue_out_of_order :
    ¬ ∀ (st : Store) (drawn : List TransportAddr), Reach anyCreate anyTick st drawn →
      ∀ q, (st.queue q).Pairwise fun a b => ∀ ea eb, st.session? a = some ea →
        st.session? b = some eb → timeAfter st.longBits ea.expires eb.expires = false := by
  intro H
  have hr1 : Reach anyCreate anyTick
      (bibSessionCreate (Store.init (fun _ => 300) 1000 32 0 0) ⟨0, 0, 0, 0⟩ ⟨0, 0, 0, 0⟩ 0 0 0 6
        .udpDefault (some ⟨1, 0⟩) true true).2 [⟨1, 0⟩] :=
    .bibSessionCreate _ _ _ _ _ _ _ _ (.init _ _ _ _ _ (by decide)) trivial
  have hr2 := Reach.sessionCreate 0 ⟨0, 0, 0, 0⟩ 0 0 .udpDefault true
    (Reach.tick (2 ^ 31 + 1) hr1 trivial) (by decide)
  have hord : List.Pairwise _ [1, 2] := (H _ _ hr2 .udpDefault).sublist (by decide)
  exact absurd (List.pairwise_pair.1 hord _ _ rfl rfl) (by decide)

end Jool.Filtering
