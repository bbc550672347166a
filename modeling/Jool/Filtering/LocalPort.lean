-- SUMMARY: bib_allocate_local4_port of nf_nat64_filtering_and_updating.h: its two 16-bit search loops, when the function returns, which port it returns, and when that port leaves the inside port's range.
import Jool.Filtering.Run

/-!
# Choosing a local port by search

`bib_allocate_local4_port(port, type)` (which `bib_session_create` does not call) looks for a
port of the parity of `ntohs(port)` whose bucket `hash4[htons(i)]` holds no BIB of `type`:
first upward from `ntohs(port)` while `i <= max`, then downward from `ntohs(port) - 2` while
`i >= min`. Its counter `i` is a 16-bit `__be16`, so `i <= 65535` and `i >= 0` always hold, and
`i += 2`, `i -= 2` wrap around. The upward loop of a port from 1024 up therefore never ends on
its condition: it goes on through the low ports and back; the downward loop of a low port goes on
through the high ports and back. So the function returns exactly when some bucket of the port's
parity, anywhere in `0..65535`, is free of the type (`bibAllocateLocal4Port_isSome`,
`bibAllocateLocal4Port_eq_none`), it then returns such a port (never the final `return -1`),
and the port lies in the inside port's range when that range has a free bucket ahead of the
search, not in general (`bibAllocateLocal4Port_high`, `bibAllocateLocal4Port_low`).

Each loop runs here for at most `fuel` turns; `none` means it is still running.
-/

namespace Jool.Filtering

/-- `htons`: on a little-endian host, the same swap as `ntohs`. -/
def htons (x : UInt16) : UInt16 := ntohs x

/-- The inner `hlist_for_each`: whether bucket `hash4[htons(i)]` holds a BIB of `type`. A
    pointer at which the store holds no BIB matches nothing. -/
def typeInBucket (st : Store) (type : Int) (i : UInt16) : Bool :=
  (st.hash4 (htons i).toNat).any fun b =>
    match st.bib? b with
    | some e => e.type == type
    | none => false

/-- How a `for` loop of `bib_allocate_local4_port` ends. -/
inductive LoopEnd where
  /-- `return htons(i)`. -/
  | returned (port : UInt16)
  /-- The loop condition failed. -/
  | exhausted
  deriving DecidableEq, Repr

/-- `for (i = start; cond(i); i = step(i))` with the body of both loops of
    `bib_allocate_local4_port`: `return htons(i)` when bucket `i` is free of the type. At most
    `fuel` turns. -/
def searchLoop (taken cond : UInt16 → Bool) (step : UInt16 → UInt16) : Nat → UInt16 → Option LoopEnd
  | 0, _ => none
  | fuel + 1, i =>
    if cond i then
      if taken i then searchLoop taken cond step fuel (step i) else some (.returned (htons i))
    else some .exhausted

/-- `bib_allocate_local4_port`, each loop for at most `fuel` turns. -/
def bibAllocateLocal4Port (fuel : Nat) (st : Store) (port : UInt16) (type : Int) : Option UInt16 :=
  let port := ntohs port
  let min : UInt16 := if port < 1024 then 0 else 1024
  let max : UInt16 := if port < 1024 then 1023 else 65535
  match searchLoop (typeInBucket st type) (fun i => decide (i ≤ max)) (· + 2) fuel port with
  | some (.returned p) => some p
  | some .exhausted =>
    match searchLoop (typeInBucket st type) (fun i => decide (min ≤ i)) (· - 2) fuel (port - 2) with
    | some (.returned p) => some p
    | some .exhausted => some (0 - 1)
    | none => none
  | none => none

/-- Port `q` has the parity of `p`, and its bucket holds no BIB of `type`. -/
def FreeLike (st : Store) (type : Int) (p q : UInt16) : Prop :=
  q.toNat % 2 = p.toNat % 2 ∧ typeInBucket st type q = false

instance (st : Store) (type : Int) (p q : UInt16) : Decidable (FreeLike st type p q) :=
  inferInstanceAs (Decidable (_ ∧ _))

-- ---------------------------------------------------------------------------
-- One search loop
-- ---------------------------------------------------------------------------

section Loop

variable {taken cond : UInt16 → Bool} {step : UInt16 → UInt16}

/-- A loop that returns, returns at the first free bucket of its sequence. -/
theorem searchLoop_returned :
    ∀ {fuel : Nat} {i v : UInt16}, searchLoop taken cond step fuel i = some (.returned v) →
      ∃ k < fuel, (∀ j < k, taken (step^[j] i) = true) ∧ cond (step^[k] i) = true ∧
        taken (step^[k] i) = false ∧ v = htons (step^[k] i)
  | 0, _, _, h => by cases h
  | fuel + 1, i, v, h => by
    unfold searchLoop at h
    split at h
    · next hc =>
      split at h
      · next ht =>
        obtain ⟨k, hk, hpre, hck, htk, rfl⟩ := searchLoop_returned h
        refine ⟨k + 1, by omega, fun j hj => ?_, hck, htk, rfl⟩
        cases j with
        | zero => exact ht
        | succ j => exact hpre j (by omega)
      · next ht =>
        cases h
        exact ⟨0, by omega, fun _ hj => absurd hj (Nat.not_lt_zero _), hc, by simpa using ht, rfl⟩
    · cases h

/-- A loop that stops on its condition has met only taken buckets before. -/
theorem searchLoop_exhausted :
    ∀ {fuel : Nat} {i : UInt16}, searchLoop taken cond step fuel i = some .exhausted →
      ∃ k < fuel, (∀ j < k, cond (step^[j] i) = true ∧ taken (step^[j] i) = true) ∧
        cond (step^[k] i) = false
  | 0, _, h => by cases h
  | fuel + 1, i, h => by
    unfold searchLoop at h
    split at h
    · next hc =>
      split at h
      · next ht =>
        obtain ⟨k, hk, hpre, hck⟩ := searchLoop_exhausted h
        refine ⟨k + 1, by omega, fun j hj => ?_, hck⟩
        cases j with
        | zero => exact ⟨hc, ht⟩
        | succ j => exact hpre j (by omega)
      · cases h
    · next hc => exact ⟨0, by omega, fun _ hj => absurd hj (Nat.not_lt_zero _), by simpa using hc⟩

/-- A loop ends within its fuel if, within it, its sequence meets a free bucket or a failing
    condition after holding its condition. -/
theorem searchLoop_isSome :
    ∀ {fuel k : Nat} {i : UInt16}, k < fuel → (∀ j < k, cond (step^[j] i) = true) →
      (cond (step^[k] i) = false ∨ taken (step^[k] i) = false) →
      (searchLoop taken cond step fuel i).isSome
  | 0, _, _, hk, _, _ => absurd hk (Nat.not_lt_zero _)
  | fuel + 1, k, i, hk, hpre, hend => by
    unfold searchLoop
    split
    · next hc =>
      split
      · next ht =>
        cases k with
        | zero => exact absurd hend (by simp only [Function.iterate_zero, id, hc, ht]; decide)
        | succ k =>
          exact searchLoop_isSome (by omega) (fun j hj => hpre (j + 1) (by omega)) hend
      · rfl
    · rfl

/-- A loop whose sequence meets only taken buckets under a condition that holds never ends. -/
theorem searchLoop_eq_none (hall : ∀ j, cond (step^[j] i) = true ∧ taken (step^[j] i) = true) :
    ∀ fuel, searchLoop taken cond step fuel i = none := by
  intro fuel
  induction fuel generalizing i with
  | zero => rfl
  | succ fuel ih =>
    rw [searchLoop, if_pos (show cond i = true from (hall 0).1),
      if_pos (show taken i = true from (hall 0).2)]
    exact ih fun j => hall (j + 1)

/-- The first free bucket of a sequence comes no later than any free bucket of it. -/
theorem le_of_first_free {f : Nat → UInt16} {k n : Nat} (hpre : ∀ j < k, taken (f j) = true)
    (hn : taken (f n) = false) : k ≤ n :=
  Nat.le_of_not_lt fun hlt => by
    rw [hpre n hlt] at hn
    cases hn

end Loop

-- ---------------------------------------------------------------------------
-- The two 16-bit sequences
-- ---------------------------------------------------------------------------

theorem UInt16.toNat_add_two (i : UInt16) : (i + 2).toNat = (i.toNat + 2) % 65536 :=
  BitVec.toNat_add _ _

theorem UInt16.toNat_sub_two (i : UInt16) : (i - 2).toNat = (i.toNat + 65534) % 65536 := by
  show (65536 - 2 + i.toNat) % 65536 = _
  omega

/-- `i += 2`, `j` times. -/
theorem toNat_iterate_add_two (i : UInt16) :
    ∀ j, ((· + 2)^[j] i).toNat = (i.toNat + 2 * j) % 65536
  | 0 => (Nat.mod_eq_of_lt i.toBitVec.isLt).symm
  | j + 1 => by
    rw [Function.iterate_succ_apply', UInt16.toNat_add_two, toNat_iterate_add_two i j]
    omega

/-- `i -= 2`, `j` times. -/
theorem toNat_iterate_sub_two (i : UInt16) :
    ∀ j, ((· - 2)^[j] i).toNat = (i.toNat + 65534 * j) % 65536
  | 0 => (Nat.mod_eq_of_lt i.toBitVec.isLt).symm
  | j + 1 => by
    rw [Function.iterate_succ_apply', UInt16.toNat_sub_two, toNat_iterate_sub_two i j]
    omega

/-- The downward loop's `j`-th port, from `i - 2`. -/
theorem toNat_iterate_sub_two_from (i : UInt16) (j : Nat) :
    ((· - 2)^[j] (i - 2)).toNat = (i.toNat + 65534 * (j + 1)) % 65536 := by
  rw [← Function.iterate_succ_apply, toNat_iterate_sub_two]

/-- Every port of `i`'s parity is on the upward loop from `i`, within 32768 turns. -/
theorem iterate_add_two_eq {i q : UInt16} (hq : q.toNat % 2 = i.toNat % 2) :
    (· + 2)^[(q.toNat + 65536 - i.toNat) % 65536 / 2] i = q := by
  have hi : i.toNat < 65536 := i.toBitVec.isLt
  have hq' : q.toNat < 65536 := q.toBitVec.isLt
  apply UInt16.toNat.inj
  rw [toNat_iterate_add_two]
  omega

/-- Every port of `i`'s parity is on the downward loop from `i - 2`, within 32768 turns. -/
theorem iterate_sub_two_eq {i q : UInt16} (hq : q.toNat % 2 = i.toNat % 2) :
    (· - 2)^[((i.toNat + 65536 - q.toNat) % 65536 + 65534) % 65536 / 2] (i - 2) = q := by
  have hi : i.toNat < 65536 := i.toBitVec.isLt
  have hq' : q.toNat < 65536 := q.toBitVec.isLt
  apply UInt16.toNat.inj
  rw [toNat_iterate_sub_two_from]
  omega

/-- `i <= 65535` holds of every `__be16`. -/
theorem decide_le_max (i : UInt16) : decide (i ≤ 65535) = true :=
  decide_eq_true (show i.toNat ≤ 65535 from Nat.le_of_lt_succ i.toBitVec.isLt)

/-- `i >= 0` holds of every `__be16`. -/
theorem decide_zero_le (i : UInt16) : decide (0 ≤ i) = true :=
  decide_eq_true (Nat.zero_le i.toNat)

/-- A loop whose condition always holds does not stop on it. -/
theorem searchLoop_ne_exhausted {taken cond : UInt16 → Bool} {step : UInt16 → UInt16}
    (hcond : ∀ i, cond i = true) {fuel : Nat} {i : UInt16} :
    searchLoop taken cond step fuel i ≠ some .exhausted := fun h => by
  obtain ⟨k, -, -, hk⟩ := searchLoop_exhausted h
  rw [hcond] at hk
  cases hk

theorem toNat_iterate_add_two_mod_two (i : UInt16) (j : Nat) :
    ((· + 2)^[j] i).toNat % 2 = i.toNat % 2 := by
  rw [toNat_iterate_add_two]
  omega

theorem toNat_iterate_sub_two_from_mod_two (i : UInt16) (j : Nat) :
    ((· - 2)^[j] (i - 2)).toNat % 2 = i.toNat % 2 := by
  rw [toNat_iterate_sub_two_from]
  omega

-- ---------------------------------------------------------------------------
-- The search
-- ---------------------------------------------------------------------------

section Search

variable {st : Store} {type : Int} {port : UInt16}

/-- From a port of 1024 up, the call returns what the upward loop finds: a free port of the
    parity, and one from 1024 up if some free port of the parity lies ahead of the search. -/
theorem bibAllocateLocal4Port_high (hhigh : ¬ (ntohs port).toNat < 1024) {fuel : Nat} {v : UInt16}
    (h : bibAllocateLocal4Port fuel st port type = some v) :
    ∃ q, v = htons q ∧ FreeLike st type (ntohs port) q ∧
      ((∃ r, FreeLike st type (ntohs port) r ∧ (ntohs port).toNat ≤ r.toNat) → 1024 ≤ q.toNat) := by
  simp only [bibAllocateLocal4Port, show ¬ ntohs port < 1024 from hhigh, if_false] at h
  split at h
  · next hup =>
    cases h
    obtain ⟨k, -, hpre, -, hfree, rfl⟩ := searchLoop_returned hup
    refine ⟨_, rfl, ⟨toNat_iterate_add_two_mod_two _ _, hfree⟩, fun ⟨r, ⟨hr2, hrfree⟩, hr⟩ => ?_⟩
    -- the loop meets `r` after `(r - p) / 2` turns, so it stops no later
    have hk := le_of_first_free hpre (n := (r.toNat + 65536 - (ntohs port).toNat) % 65536 / 2)
      (by rw [iterate_add_two_eq hr2]; exact hrfree)
    have hr' : r.toNat < 65536 := r.toBitVec.isLt
    rw [toNat_iterate_add_two]
    omega
  · next hup => exact absurd hup (searchLoop_ne_exhausted decide_le_max)
  · cases h

/-- From a port below 1024, the call returns a free port of the parity, below 1024 if some free
    port of the parity is: the upward loop finds one up to 1023, or the downward loop one
    between it and the port. -/
theorem bibAllocateLocal4Port_low (hlow : (ntohs port).toNat < 1024) {fuel : Nat} {v : UInt16}
    (h : bibAllocateLocal4Port fuel st port type = some v) :
    ∃ q, v = htons q ∧ FreeLike st type (ntohs port) q ∧
      ((∃ r, FreeLike st type (ntohs port) r ∧ r.toNat < 1024) → q.toNat < 1024) := by
  simp only [bibAllocateLocal4Port, show ntohs port < 1024 from hlow, if_true] at h
  split at h
  · next hup =>
    cases h
    obtain ⟨k, -, -, hcond, hfree, rfl⟩ := searchLoop_returned hup
    exact ⟨_, rfl, ⟨toNat_iterate_add_two_mod_two _ _, hfree⟩,
      fun _ => Nat.lt_succ_of_le (of_decide_eq_true hcond)⟩
  · next hup =>
    obtain ⟨ke, -, hpre, hend⟩ := searchLoop_exhausted hup
    split at h
    · next hdown =>
      cases h
      obtain ⟨k, -, hpre', -, hfree, rfl⟩ := searchLoop_returned hdown
      refine ⟨_, rfl, ⟨toNat_iterate_sub_two_from_mod_two _ _, hfree⟩,
        fun ⟨r, ⟨hr2, hrfree⟩, hr⟩ => ?_⟩
      -- the upward loop met only taken buckets up to 1023, so `r` lies below the port
      have hrp : r.toNat < (ntohs port).toNat := Nat.lt_of_not_le fun hle => by
        by_cases hj : (r.toNat + 65536 - (ntohs port).toNat) % 65536 / 2 < ke
        · have := (hpre _ hj).2
          rw [iterate_add_two_eq hr2, hrfree] at this
          cases this
        · refine of_decide_eq_false hend (show ((· + 2)^[ke] (ntohs port)).toNat ≤ 1023 from ?_)
          rw [toNat_iterate_add_two]
          omega
      -- and the downward loop meets `r` after `(p - r) / 2 - 1` turns
      have hk := le_of_first_free hpre'
        (n := (((ntohs port).toNat + 65536 - r.toNat) % 65536 + 65534) % 65536 / 2)
        (by rw [iterate_sub_two_eq hr2]; exact hrfree)
      rw [toNat_iterate_sub_two_from]
      omega
    · next hdown => exact absurd hdown (searchLoop_ne_exhausted decide_zero_le)
    · cases h
  · cases h

/-- With a free port of the parity anywhere, the call returns within 65536 turns of each loop:
    the upward loop of a low port stops on its condition within 512 turns, and every port of the
    parity is on each loop whose condition always holds. -/
theorem bibAllocateLocal4Port_isSome (hfree : ∃ q, FreeLike st type (ntohs port) q) :
    (bibAllocateLocal4Port 65536 st port type).isSome := by
  obtain ⟨q, hq2, hqfree⟩ := hfree
  have hp : (ntohs port).toNat < 65536 := (ntohs port).toBitVec.isLt
  by_cases hlow : (ntohs port).toNat < 1024
  · simp only [bibAllocateLocal4Port, show ntohs port < 1024 from hlow, if_true]
    split
    · rfl
    · split
      · rfl
      · rfl
      · next hdown =>
        refine absurd hdown (Option.ne_none_iff_isSome.2 (searchLoop_isSome
          (k := (((ntohs port).toNat + 65536 - q.toNat) % 65536 + 65534) % 65536 / 2) (by omega)
          (fun _ _ => decide_zero_le _) (.inr ?_)))
        rw [iterate_sub_two_eq hq2, hqfree]
    · next hup =>
      refine absurd hup (Option.ne_none_iff_isSome.2 (searchLoop_isSome
        (k := (1025 - (ntohs port).toNat) / 2) (by omega) (fun j hj => ?_) (.inl ?_)))
      · exact decide_eq_true (show ((· + 2)^[j] (ntohs port)).toNat ≤ 1023 by
          rw [toNat_iterate_add_two]; omega)
      · refine decide_eq_false fun hle => absurd (show ((· + 2)^[(1025 - (ntohs port).toNat) / 2]
          (ntohs port)).toNat ≤ 1023 from hle) ?_
        rw [toNat_iterate_add_two]
        omega
  · simp only [bibAllocateLocal4Port, show ¬ ntohs port < 1024 from hlow, if_false]
    split
    · rfl
    · next hup => exact absurd hup (searchLoop_ne_exhausted decide_le_max)
    · next hup =>
      refine absurd hup (Option.ne_none_iff_isSome.2 (searchLoop_isSome
        (k := (q.toNat + 65536 - (ntohs port).toNat) % 65536 / 2) (by omega)
        (fun _ _ => decide_le_max _) (.inr ?_)))
      rw [iterate_add_two_eq hq2, hqfree]

/-- With every bucket of the parity holding a BIB of the type, the call never returns: neither
    loop finds a free bucket, and the loop that cannot stop on its condition runs forever. -/
theorem bibAllocateLocal4Port_eq_none (hnone : ¬ ∃ q, FreeLike st type (ntohs port) q)
    (fuel : Nat) : bibAllocateLocal4Port fuel st port type = none := by
  have htaken : ∀ q : UInt16, q.toNat % 2 = (ntohs port).toNat % 2 →
      typeInBucket st type q = true := fun q hq => by
    cases h : typeInBucket st type q
    · exact absurd ⟨q, hq, h⟩ hnone
    · rfl
  have hup : ∀ {cond v}, searchLoop (typeInBucket st type) cond (· + 2) fuel (ntohs port) ≠
      some (.returned v) := fun h => by
    obtain ⟨k, -, -, -, hfree, -⟩ := searchLoop_returned h
    rw [htaken _ (toNat_iterate_add_two_mod_two _ _)] at hfree
    cases hfree
  by_cases hlow : (ntohs port).toNat < 1024
  · simp only [bibAllocateLocal4Port, show ntohs port < 1024 from hlow, if_true]
    rw [searchLoop_eq_none fun j =>
      ⟨decide_zero_le _, htaken _ (toNat_iterate_sub_two_from_mod_two _ j)⟩]
    split
    · next hr => exact absurd hr hup
    · rfl
    · rfl
  · simp only [bibAllocateLocal4Port, show ¬ ntohs port < 1024 from hlow, if_false]
    rw [searchLoop_eq_none fun j => ⟨decide_le_max _, htaken _ (toNat_iterate_add_two_mod_two _ j)⟩]

end Search

/-- For every index and inside port: a call that returns gives `htons(q)` for a free port `q` of
    the parity of `ntohs(port)`, which lies in that port's range when a free port of the parity
    lies in the range ahead of the search (anywhere below 1024 for a low port, from `ntohs(port)`
    up for a high one); the call returns, within 65536 turns, exactly when some bucket of the
    parity is free, anywhere in `0..65535`; and it never returns when none is. -/
theorem bib_allocate_local4_port_search (st : Store) (port : UInt16) (type : Int) :
    (∀ fuel v, bibAllocateLocal4Port fuel st port type = some v →
      ∃ q, v = htons q ∧ FreeLike st type (ntohs port) q ∧
        ((∃ r, FreeLike st type (ntohs port) r ∧
            if (ntohs port).toNat < 1024 then r.toNat < 1024 else (ntohs port).toNat ≤ r.toNat) →
          if (ntohs port).toNat < 1024 then q.toNat < 1024 else 1024 ≤ q.toNat)) ∧
    ((∃ q, FreeLike st type (ntohs port) q) → (bibAllocateLocal4Port 65536 st port type).isSome) ∧
    ((¬ ∃ q, FreeLike st type (ntohs port) q) →
      ∀ fuel, bibAllocateLocal4Port fuel st port type = none) := by
  refine ⟨fun fuel v h => ?_, bibAllocateLocal4Port_isSome, bibAllocateLocal4Port_eq_none⟩
  by_cases hlow : (ntohs port).toNat < 1024
  · simpa only [hlow, if_true] using bibAllocateLocal4Port_low hlow h
  · simpa only [hlow, if_false] using bibAllocateLocal4Port_high hlow h

/-- With bucket `htons(65534)` alone holding a UDP BIB, a search from port 65534 passes 65535,
    wraps, and returns port 0, outside the range 1024 to 65535; with every bucket holding one, the
    search from port 80 never returns. -/
theorem bib_allocate_local4_port_wraps :
    bibAllocateLocal4Port 2 { Store.init (fun _ => 300) 1000 32 0 1 with
        bibs := [(0, ⟨17, ⟨0, 0, 0, 0⟩, 0, 0, 0, []⟩)],
        hash4 := fun i => if i = (htons 65534).toNat then [0] else [] } (htons 65534) 17 =
      some (htons 0) ∧
    ∀ fuel, bibAllocateLocal4Port fuel { Store.init (fun _ => 300) 1000 32 0 1 with
        bibs := [(0, ⟨17, ⟨0, 0, 0, 0⟩, 0, 0, 0, []⟩)], hash4 := fun _ => [0] } (htons 80) 17 =
      none :=
  ⟨by decide, bibAllocateLocal4Port_eq_none fun ⟨_, _, h⟩ => Bool.noConfusion h⟩

end Jool.Filtering
