-- SUMMARY: The incremental checksum update of nf_nat64_auxiliary_functions.h (checksum_adjust, checksum_remove, checksum_add, checksum_change and the address adjustments) and the one's-complement law it keeps.
import Mathlib
import Jool.Filtering.Store

/-!
# Incremental checksum update

A TCP or UDP checksum field holds a one's-complement sum, so what matters of it is its class
modulo `0xFFFF`. When a translation swaps the IPv6 pseudo-header addresses for IPv4 ones (or
back), the field is patched word by word: `checksum_adjust(sum, old, new)` adds `old - new`.

The C computes `*sum + old - new` in `int` (the `uint16_t` operands are promoted), so the value
may be negative; storing it in the `uint32_t s` wraps it modulo `2^32`, the fold
`(s & 0xffff) + (s >> 16)` adds the carry back once, and storing the fold in the 16-bit `*sum`
drops bit 16. Each wrap moves the value by a multiple of `0xFFFF` or by one, and the two
off-by-ones cancel: one step keeps the class of `sum + old - new` (`checksumAdjust_modEq`).

For UDP a zero field means "no checksum": `checksum_adjust` leaves it alone, and writes
`0xffff` for a result of zero, so a present checksum never becomes absent. The law for a whole
update therefore holds except on an absent UDP checksum, which stays absent.

The two address adjustments undo each other: a checksum taken from IPv6 to IPv4 and back with the
same addresses is the one's-complement value it started from (`adjust_checksum_round_trip`).
-/

namespace Jool.Packet

open Jool.Filtering (In6Addr)

/-- The body of `checksum_adjust` before its UDP tests: `*sum + old - new`, an `int`, stored in
    the `uint32_t s` (modulo `2^32`), folded once as `(s & 0xffff) + (s >> 16)` and stored in
    the 16-bit `*sum`. -/
def foldedSum (sum old new : UInt16) : UInt16 :=
  let s : UInt32 := UInt32.ofNat (((sum.toNat : Int) + old.toNat - new.toNat) % 2 ^ 32).toNat
  ((s &&& (0xffff : UInt32)) + (s >>> 16)).toUInt16

/-- `checksum_adjust`: an absent UDP checksum is left alone, and a UDP result of zero is
    written as `0xffff`. -/
def checksumAdjust (sum old new : UInt16) (udp : Bool) : UInt16 :=
  if udp && sum == 0 then sum
  else if udp && foldedSum sum old new == 0 then 0xffff
  else foldedSum sum old new

/-- The loop of `checksum_remove` and `checksum_add`: `checksum_adjust` once per word from
    `begin` to `end`, the word passed as `old` and `new` through `oldNew`. -/
def checksumAdjustAll (sum : UInt16) (words : List UInt16) (oldNew : UInt16 → UInt16 × UInt16)
    (udp : Bool) : UInt16 :=
  words.foldl (fun sum w => checksumAdjust sum (oldNew w).1 (oldNew w).2 udp) sum

/-- `checksum_remove`: each word leaves the sum. -/
def checksumRemove (sum : UInt16) (words : List UInt16) (udp : Bool) : UInt16 :=
  checksumAdjustAll sum words (fun w => (w, 0)) udp

/-- `checksum_add`: each word joins the sum. -/
def checksumAdd (sum : UInt16) (words : List UInt16) (udp : Bool) : UInt16 :=
  checksumAdjustAll sum words (fun w => (0, w)) udp

/-- `checksum_change`: `checksum_adjust` from the word `*x` to `new`, then `*x = new`; the new
    field and the new word. -/
def checksumChange (sum x new : UInt16) (udp : Bool) : UInt16 × UInt16 :=
  (checksumAdjust sum x new udp, new)

/-- The two `uint16_t` words of a 32-bit word in memory, on a little-endian host. -/
def halves (w : UInt32) : List UInt16 := [w.toUInt16, (w >>> 16).toUInt16]

/-- The eight `uint16_t` words of an IPv6 address in memory. -/
def addrWords (a : In6Addr) : List UInt16 := [a.word0, a.word1, a.word2, a.word3].flatMap halves

/-- `adjust_checksum_ipv6_to_ipv4`: the words from `&ip6->saddr` to `&ip6->saddr + 2` (the
    source and destination addresses) leave the sum, those of `ip4->saddr` and `ip4->daddr`
    join it. `WARN_ON_ONCE` only warns. -/
def adjustChecksumIpv6ToIpv4 (sum : UInt16) (ip6Saddr ip6Daddr : In6Addr)
    (ip4Saddr ip4Daddr : UInt32) (udp : Bool) : UInt16 :=
  checksumAdd (checksumRemove sum (addrWords ip6Saddr ++ addrWords ip6Daddr) udp)
    (halves ip4Saddr ++ halves ip4Daddr) udp

/-- `adjust_checksum_ipv4_to_ipv6`, the other way round. Its `int udp` reaches the `bool`
    parameters as "nonzero". -/
def adjustChecksumIpv4ToIpv6 (sum : UInt16) (ip4Saddr ip4Daddr : UInt32)
    (ip6Saddr ip6Daddr : In6Addr) (udp : Bool) : UInt16 :=
  checksumAdd (checksumRemove sum (halves ip4Saddr ++ halves ip4Daddr) udp)
    (addrWords ip6Saddr ++ addrWords ip6Daddr) udp

-- ---------------------------------------------------------------------------
-- One step
-- ---------------------------------------------------------------------------

/-- The end-around-carry fold of `checksum_adjust`, in numbers: `N` is the `int` value
    `sum + old - new` stored in 32 bits, and the folded sum stored in 16 bits keeps its class
    modulo `0xFFFF`. -/
theorem fold_modEq {sum old new N : Nat} (hs : sum < 65536) (ho : old < 65536)
    (hn : new < 65536) (hN : (N : Int) = ((sum : Int) + old - new) % 4294967296) :
    (((N % 65536 + N / 65536) % 4294967296 % 65536 : Nat) : Int) ≡
      (sum : Int) + old - new [ZMOD 0xFFFF] := by
  unfold Int.ModEq
  rcases le_or_lt 0 ((sum : Int) + old - new) with hx | hx
  · rw [Int.emod_eq_of_lt hx (by omega)] at hN
    have hfold : N % 65536 + N / 65536 < 65536 := by omega
    rw [Nat.mod_eq_of_lt (show N % 65536 + N / 65536 < 4294967296 by omega),
      Nat.mod_eq_of_lt hfold]
    omega
  · rw [← Int.add_emod_self, Int.emod_eq_of_lt (by omega) (by omega)] at hN
    have hhigh : N / 65536 = 65535 := by omega
    rw [hhigh, Nat.mod_eq_of_lt (show N % 65536 + 65535 < 4294967296 by omega)]
    omega

theorem UInt32.toNat_shiftRight_sixteen (s : UInt32) : (s >>> 16).toNat = s.toNat / 65536 := by
  show (s.toBitVec >>> (UInt32.mod 16 32).toBitVec.toNat).toNat = _
  rw [BitVec.toNat_ushiftRight, Nat.shiftRight_eq_div_pow]
  rfl

theorem UInt32.toNat_and_ffff (s : UInt32) : (s &&& (0xffff : UInt32)).toNat = s.toNat % 65536 := by
  rw [UInt32.and_toNat]
  exact Nat.and_pow_two_sub_one_eq_mod _ 16

theorem UInt32.toNat_add' (a b : UInt32) : (a + b).toNat = (a.toNat + b.toNat) % 4294967296 :=
  BitVec.toNat_add _ _

theorem UInt32.toNat_toUInt16 (s : UInt32) : s.toUInt16.toNat = s.toNat % 65536 := by
  simp [UInt32.toUInt16, Nat.toUInt16, UInt16.toNat, UInt16.ofNat]

/-- The folded sum keeps the class of `sum + old - new`. -/
theorem foldedSum_modEq (sum old new : UInt16) :
    ((foldedSum sum old new).toNat : Int) ≡ (sum.toNat : Int) + old.toNat - new.toNat [ZMOD 0xFFFF] := by
  have hpos : (0 : Int) ≤ ((sum.toNat : Int) + old.toNat - new.toNat) % 2 ^ 32 :=
    Int.emod_nonneg _ (by decide)
  have hlt : (((sum.toNat : Int) + old.toNat - new.toNat) % 2 ^ 32).toNat < UInt32.size := by
    have := Int.emod_lt_of_pos ((sum.toNat : Int) + old.toNat - new.toNat) (by decide : (0 : Int) < 2 ^ 32)
    simp only [UInt32.size]
    omega
  rw [foldedSum, UInt32.toNat_toUInt16, UInt32.toNat_add', UInt32.toNat_and_ffff,
    UInt32.toNat_shiftRight_sixteen, UInt32.toNat_ofNat_of_lt hlt]
  exact fold_modEq (show sum.toNat < 65536 from sum.toBitVec.isLt)
    (show old.toNat < 65536 from old.toBitVec.isLt) (show new.toNat < 65536 from new.toBitVec.isLt)
    (by rw [Int.toNat_of_nonneg hpos]; rfl)

/-- Outside an absent UDP checksum, one `checksum_adjust` adds `old - new` modulo `0xFFFF`. -/
theorem checksumAdjust_modEq {sum : UInt16} {udp : Bool} (h : udp = false ∨ sum ≠ 0)
    (old new : UInt16) :
    ((checksumAdjust sum old new udp).toNat : Int) ≡ sum.toNat + old.toNat - new.toNat [ZMOD 0xFFFF] := by
  have hskip : (udp && sum == 0) = false := by
    rcases h with rfl | h
    · rfl
    · simp [h]
  rw [checksumAdjust, hskip, if_neg Bool.false_ne_true]
  split
  · next hz =>
    have h0 : foldedSum sum old new = 0 := by
      simp only [Bool.and_eq_true, beq_iff_eq] at hz
      exact hz.2
    have hf := foldedSum_modEq sum old new
    rw [h0] at hf
    exact (show ((0xffff : UInt16).toNat : Int) ≡ ((0 : UInt16).toNat : Int) [ZMOD 0xFFFF] by
      decide).trans hf
  · exact foldedSum_modEq sum old new

/-- An absent UDP checksum stays absent. -/
theorem checksumAdjust_absent (old new : UInt16) : checksumAdjust 0 old new true = 0 := rfl

/-- A present UDP checksum stays present. -/
theorem checksumAdjust_ne_zero {sum : UInt16} (h : sum ≠ 0) (old new : UInt16) :
    checksumAdjust sum old new true ≠ 0 := by
  simp only [checksumAdjust, Bool.true_and, beq_iff_eq, h, if_false]
  split
  · decide
  · next hz => exact hz

/-- Outside an absent UDP checksum, `checksum_change` keeps a checksum valid: the field and the
    word it rewrites still sum, with the rest of the data, to zero modulo `0xFFFF`. -/
theorem checksumChange_valid {sum : UInt16} {udp : Bool} (h : udp = false ∨ sum ≠ 0)
    (x new : UInt16) (rest : Int) (hvalid : (sum.toNat : Int) + rest + x.toNat ≡ 0 [ZMOD 0xFFFF]) :
    ((checksumChange sum x new udp).1.toNat : Int) + rest + (checksumChange sum x new udp).2.toNat ≡
      0 [ZMOD 0xFFFF] := by
  have hstep := (checksumAdjust_modEq h x new).add_right (rest + new.toNat)
  unfold Int.ModEq at hvalid hstep ⊢
  simp only [checksumChange]
  omega

-- ---------------------------------------------------------------------------
-- A run of words
-- ---------------------------------------------------------------------------

/-- Outside an absent UDP checksum, a run of `checksum_adjust` adds each word's `old - new`,
    and a present UDP checksum stays present. -/
theorem checksumAdjustAll_modEq (oldNew : UInt16 → UInt16 × UInt16) (udp : Bool) :
    ∀ (words : List UInt16) (sum : UInt16), (udp = false ∨ sum ≠ 0) →
      (udp = false ∨ checksumAdjustAll sum words oldNew udp ≠ 0) ∧
      ((checksumAdjustAll sum words oldNew udp).toNat : Int) ≡
        sum.toNat + (words.map fun w => ((oldNew w).1.toNat : Int) - (oldNew w).2.toNat).sum
        [ZMOD 0xFFFF]
  | [], sum, h => ⟨h, by simp [checksumAdjustAll]⟩
  | w :: ws, sum, h => by
    have hstep : udp = false ∨ checksumAdjust sum (oldNew w).1 (oldNew w).2 udp ≠ 0 := by
      rcases h with h | h
      · exact .inl h
      · cases udp
        · exact .inl rfl
        · exact .inr (checksumAdjust_ne_zero h _ _)
    obtain ⟨hne, hmod⟩ := checksumAdjustAll_modEq oldNew udp ws _ hstep
    refine ⟨hne, hmod.trans ?_⟩
    rw [List.map_cons, List.sum_cons, ← Int.add_assoc, ← Int.add_sub_assoc]
    exact (checksumAdjust_modEq h _ _).add_right _

/-- An absent UDP checksum stays absent through a run of words. -/
theorem checksumAdjustAll_absent (oldNew : UInt16 → UInt16 × UInt16) :
    ∀ words : List UInt16, checksumAdjustAll 0 words oldNew true = 0
  | [] => rfl
  | _ :: ws => checksumAdjustAll_absent oldNew ws

theorem sum_map_sub_zero (words : List UInt16) :
    (words.map fun w => ((w.toNat : Int) - ((0 : UInt16).toNat : Int))).sum =
      ((words.map (·.toNat)).sum : Nat) := by
  induction words with
  | nil => rfl
  | cons w ws ih =>
    rw [List.map_cons, List.sum_cons, ih, List.map_cons, List.sum_cons, UInt16.toNat_zero]
    push_cast
    omega

theorem sum_map_zero_sub (words : List UInt16) :
    (words.map fun w => (((0 : UInt16).toNat : Int) - w.toNat)).sum =
      -((words.map (·.toNat)).sum : Nat) := by
  induction words with
  | nil => rfl
  | cons w ws ih =>
    rw [List.map_cons, List.sum_cons, ih, List.map_cons, List.sum_cons, UInt16.toNat_zero]
    push_cast
    omega

/-- `checksum_remove` adds the words' sum, modulo `0xFFFF`. -/
theorem checksumRemove_modEq {sum : UInt16} {udp : Bool} (h : udp = false ∨ sum ≠ 0)
    (words : List UInt16) :
    (udp = false ∨ checksumRemove sum words udp ≠ 0) ∧
    ((checksumRemove sum words udp).toNat : Int) ≡ sum.toNat + (words.map (·.toNat)).sum [ZMOD 0xFFFF] := by
  obtain ⟨hne, hmod⟩ := checksumAdjustAll_modEq (fun w => (w, 0)) udp words sum h
  dsimp only at hmod
  rw [sum_map_sub_zero] at hmod
  exact ⟨hne, hmod⟩

/-- `checksum_add` takes the words' sum away, modulo `0xFFFF`. -/
theorem checksumAdd_modEq {sum : UInt16} {udp : Bool} (h : udp = false ∨ sum ≠ 0)
    (words : List UInt16) :
    (udp = false ∨ checksumAdd sum words udp ≠ 0) ∧
    ((checksumAdd sum words udp).toNat : Int) ≡ sum.toNat - (words.map (·.toNat)).sum [ZMOD 0xFFFF] := by
  obtain ⟨hne, hmod⟩ := checksumAdjustAll_modEq (fun w => (0, w)) udp words sum h
  dsimp only at hmod
  rw [sum_map_zero_sub, ← Int.sub_eq_add_neg] at hmod
  exact ⟨hne, hmod⟩

-- ---------------------------------------------------------------------------
-- The update law
-- ---------------------------------------------------------------------------

/-- `checksum_remove` over `R` and then `checksum_add` over `A`, as the address adjustments run
    them: unless the field is an absent UDP checksum, the result is `c + ΣR - ΣA` modulo
    `0xFFFF`, so a checksum valid over data holding `R` is valid over the data holding `A`
    instead; with `udp` set, an absent checksum stays absent and a present one stays present. -/
theorem checksum_update_law (c : UInt16) (udp : Bool) (R A : List UInt16) :
    ((udp = false ∨ c ≠ 0) →
      ((checksumAdd (checksumRemove c R udp) A udp).toNat : Int) ≡
        c.toNat + (R.map (·.toNat)).sum - (A.map (·.toNat)).sum [ZMOD 0xFFFF]) ∧
    ((udp = false ∨ c ≠ 0) → ∀ rest : Int,
      (c.toNat : Int) + rest + (R.map (·.toNat)).sum ≡ 0 [ZMOD 0xFFFF] →
      ((checksumAdd (checksumRemove c R udp) A udp).toNat : Int) + rest + (A.map (·.toNat)).sum ≡
        0 [ZMOD 0xFFFF]) ∧
    (udp = true → c = 0 → checksumAdd (checksumRemove c R udp) A udp = 0) ∧
    (udp = true → c ≠ 0 → checksumAdd (checksumRemove c R udp) A udp ≠ 0) := by
  have hlaw : (udp = false ∨ c ≠ 0) →
      ((checksumAdd (checksumRemove c R udp) A udp).toNat : Int) ≡
        c.toNat + (R.map (·.toNat)).sum - (A.map (·.toNat)).sum [ZMOD 0xFFFF] := fun h =>
    let hr := checksumRemove_modEq h R
    (checksumAdd_modEq hr.1 A).2.trans (hr.2.sub_right _)
  refine ⟨hlaw, fun h rest hvalid => ?_, fun hu hc => ?_, fun hu hc => ?_⟩
  · have hsum := (hlaw h).add_right (rest + ((A.map (·.toNat)).sum : Nat))
    unfold Int.ModEq at hvalid hsum ⊢
    omega
  · subst hu hc
    rw [checksumRemove, checksumAdjustAll_absent, checksumAdd, checksumAdjustAll_absent]
  · subst hu
    exact (checksumAdd_modEq (checksumRemove_modEq (.inr hc) R).1 A).1.resolve_left (by decide)

/-- A present UDP checksum `0x1234` patched by removing the words `1, 2` and adding `3`. -/
theorem checksum_update_law_present :
    (true = false ∨ (0x1234 : UInt16) ≠ 0) ∧
    ((checksumAdd (checksumRemove 0x1234 [1, 2] true) [3] true).toNat : Int) ≡
      (0x1234 : UInt16).toNat + ([1, 2].map UInt16.toNat).sum - ([3].map UInt16.toNat).sum
      [ZMOD 0xFFFF] :=
  ⟨.inr (by decide), (checksum_update_law 0x1234 true [1, 2] [3]).1 (.inr (by decide))⟩

/-- The update is not `c + ΣR - ΣA` on an absent UDP checksum: removing the word `1` from the
    field `0` leaves `0`. -/
theorem checksum_absent_udp_not_updated :
    ¬ ∀ (c : UInt16) (udp : Bool) (R A : List UInt16),
      ((checksumAdd (checksumRemove c R udp) A udp).toNat : Int) ≡
        c.toNat + (R.map (·.toNat)).sum - (A.map (·.toNat)).sum [ZMOD 0xFFFF] := fun h => by
  have h1 := h 0 true [1] []
  rw [checksumRemove, checksumAdd, checksumAdjustAll_absent, checksumAdjustAll_absent] at h1
  exact absurd h1 (by decide)

-- ---------------------------------------------------------------------------
-- There and back
-- ---------------------------------------------------------------------------

/-- A `checksum_remove` over `R` then a `checksum_add` over `A` on a field that is not an absent UDP
    checksum: a field that is still not absent, of class `c + ΣR - ΣA`. -/
theorem checksumAdd_checksumRemove_modEq {c : UInt16} {udp : Bool} (h : udp = false ∨ c ≠ 0)
    (R A : List UInt16) :
    (udp = false ∨ checksumAdd (checksumRemove c R udp) A udp ≠ 0) ∧
    ((checksumAdd (checksumRemove c R udp) A udp).toNat : Int) ≡
      c.toNat + (R.map (·.toNat)).sum - (A.map (·.toNat)).sum [ZMOD 0xFFFF] :=
  have hr := checksumRemove_modEq h R
  have ha := checksumAdd_modEq hr.1 A
  ⟨ha.1, ha.2.trans (hr.2.sub_right _)⟩

/-- `adjust_checksum_ipv6_to_ipv4` and then `adjust_checksum_ipv4_to_ipv6` with the same addresses
    give back the checksum field's one's-complement value (its class modulo `0xFFFF`), for every
    field and either value of `udp`; with `udp` set, the field ends absent exactly when it
    started absent. -/
theorem adjust_checksum_round_trip (c : UInt16) (udp : Bool) (ip6Saddr ip6Daddr : In6Addr)
    (ip4Saddr ip4Daddr : UInt32) :
    ((adjustChecksumIpv4ToIpv6 (adjustChecksumIpv6ToIpv4 c ip6Saddr ip6Daddr ip4Saddr ip4Daddr udp)
        ip4Saddr ip4Daddr ip6Saddr ip6Daddr udp).toNat : Int) ≡ c.toNat [ZMOD 0xFFFF] ∧
    (udp = true → (adjustChecksumIpv4ToIpv6 (adjustChecksumIpv6ToIpv4 c ip6Saddr ip6Daddr ip4Saddr
        ip4Daddr udp) ip4Saddr ip4Daddr ip6Saddr ip6Daddr udp = 0 ↔ c = 0)) := by
  unfold adjustChecksumIpv4ToIpv6 adjustChecksumIpv6ToIpv4
  by_cases h : udp = false ∨ c ≠ 0
  · -- a present field: the second adjustment takes back what the first added
    have h1 := checksumAdd_checksumRemove_modEq h (addrWords ip6Saddr ++ addrWords ip6Daddr)
      (halves ip4Saddr ++ halves ip4Daddr)
    have h2 := checksumAdd_checksumRemove_modEq h1.1 (halves ip4Saddr ++ halves ip4Daddr)
      (addrWords ip6Saddr ++ addrWords ip6Daddr)
    refine ⟨?_, fun hu => ?_⟩
    · have hmod := h2.2.trans ((h1.2.add_right _).sub_right _)
      unfold Int.ModEq at hmod ⊢
      omega
    · subst hu
      have hc : c ≠ 0 := h.resolve_left (by decide)
      exact iff_of_false (h2.1.resolve_left (by decide)) hc
  · -- an absent UDP checksum stays absent
    obtain ⟨rfl, rfl⟩ : udp = true ∧ c = 0 := by
      simp only [not_or, Bool.not_eq_false, ne_eq, not_not] at h
      exact h
    simp only [checksumRemove, checksumAdd, checksumAdjustAll_absent]
    exact ⟨Int.ModEq.refl _, fun _ => trivial⟩

end Jool.Packet
