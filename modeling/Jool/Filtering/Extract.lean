-- SUMMARY: nat64_extract2 of nf_nat64_filtering_and_updating.h against the RFC 6052 embedding of an IPv4 address under an IPv6 prefix.
import Jool.Filtering.Store

/-!
# Extracting an embedded IPv4 address

RFC 6052 (section 2.2) embeds an IPv4 address in an IPv6 address after a prefix of 32, 40, 48,
56, 64 or 96 bits: the prefix's bytes, then the four bytes of the IPv4 address, skipping byte 8
(bits 64 to 71, `u`), and zero in `u` and the suffix. `rfc6052Embed` states that embedding byte
by byte, as the RFC's table does; `nat64_extract2` is meant to undo it.

An IPv6 address is its four words `s6_addr32[0..3]`; on the little-endian host the rest of the
model assumes, byte `j` of a word in memory is its `j`-th byte from the least significant. An
IPv4 `__be32` is held the same way, so byte `j` of it is the `j`-th octet in network order.
-/

namespace Jool.Filtering

/-- `nat64_extract2`. -/
def nat64Extract2 (addr : In6Addr) (plen : Int) : UInt32 :=
  match plen with
  | 32 => addr.word3
  | 40 => 0
  | 48 => 0
  | 56 => 0
  | 64 => 0
  | 96 => addr.word1
  | _ => 0

-- ---------------------------------------------------------------------------
-- Bytes
-- ---------------------------------------------------------------------------

/-- Byte `j` (0 to 3) of a word in memory. -/
def wordByte (w : UInt32) (j : Nat) : UInt8 := UInt8.ofNat (w.toNat / 256 ^ j % 256)

/-- The word whose bytes in memory are `b0` to `b3`. -/
def wordOfBytes (b0 b1 b2 b3 : UInt8) : UInt32 :=
  UInt32.ofNat (b0.toNat + b1.toNat * 256 + b2.toNat * 65536 + b3.toNat * 16777216)

/-- Byte `i` (0 to 15) of an IPv6 address, in network order. -/
def In6Addr.byte (a : In6Addr) (i : Nat) : UInt8 :=
  wordByte (match i / 4 with
    | 0 => a.word0
    | 1 => a.word1
    | 2 => a.word2
    | _ => a.word3) (i % 4)

/-- The IPv6 address with bytes `f 0` to `f 15`. -/
def In6Addr.ofBytes (f : Nat → UInt8) : In6Addr where
  word0 := wordOfBytes (f 0) (f 1) (f 2) (f 3)
  word1 := wordOfBytes (f 4) (f 5) (f 6) (f 7)
  word2 := wordOfBytes (f 8) (f 9) (f 10) (f 11)
  word3 := wordOfBytes (f 12) (f 13) (f 14) (f 15)

theorem toNat_wordByte (w : UInt32) (j : Nat) : (wordByte w j).toNat = w.toNat / 256 ^ j % 256 :=
  UInt8.toNat_ofNat_of_lt (Nat.mod_lt _ (by decide))

/-- A word is the word of its bytes. -/
theorem wordOfBytes_wordByte (w : UInt32) :
    wordOfBytes (wordByte w 0) (wordByte w 1) (wordByte w 2) (wordByte w 3) = w := by
  have hw : w.toNat < 4294967296 := w.toBitVec.isLt
  apply UInt32.toNat.inj
  rw [wordOfBytes, toNat_wordByte, toNat_wordByte, toNat_wordByte, toNat_wordByte,
    UInt32.toNat_ofNat_of_lt (by simp only [UInt32.size]; omega)]
  simp only [Nat.pow_zero, Nat.pow_one, Nat.div_one, show 256 ^ 2 = 65536 from rfl,
    show 256 ^ 3 = 16777216 from rfl]
  omega

-- ---------------------------------------------------------------------------
-- The RFC 6052 embedding
-- ---------------------------------------------------------------------------

/-- The IPv6 address RFC 6052 builds from the first `n` bits of `pref` and the IPv4 address
    `v4`: the prefix's `n / 8` bytes, then the octets of `v4`, skipping byte 8 (`u`) when the
    prefix ends before it, and zero elsewhere. -/
def rfc6052Embed (pref : In6Addr) (n : Nat) (v4 : UInt32) : In6Addr :=
  In6Addr.ofBytes fun i =>
    if i < n / 8 then pref.byte i
    else if i = 8 then 0
    else
      let j := if 8 < i ∧ n / 8 ≤ 8 then i - n / 8 - 1 else i - n / 8
      if j < 4 then wordByte v4 j else 0

/-- Under a 96-bit prefix the IPv4 address is the last word, as RFC 6052 places it. -/
theorem rfc6052Embed_96_word3 (pref : In6Addr) (v4 : UInt32) :
    (rfc6052Embed pref 96 v4).word3 = v4 :=
  wordOfBytes_wordByte v4

/-- Under a 32-bit prefix the IPv4 address is the second word. -/
theorem rfc6052Embed_32_word1 (pref : In6Addr) (v4 : UInt32) :
    (rfc6052Embed pref 32 v4).word1 = v4 :=
  wordOfBytes_wordByte v4

/-- What `nat64_extract2` returns on an RFC 6052 address, for every prefix length it supports:
    the second word of the prefix under a 96-bit prefix, and 0 under every other. -/
theorem nat64Extract2_rfc6052Embed (pref : In6Addr) (v4 : UInt32) :
    nat64Extract2 (rfc6052Embed pref 96 v4) 96 = pref.word1 ∧
    ∀ n ∈ [32, 40, 48, 56, 64], nat64Extract2 (rfc6052Embed pref n v4) n = 0 := by
  refine ⟨wordOfBytes_wordByte pref.word1, ?_⟩
  simp only [List.mem_cons, List.mem_singleton, List.not_mem_nil, or_false]
  rintro n (rfl | rfl | rfl | rfl | rfl)
  · simp [nat64Extract2, rfc6052Embed, In6Addr.ofBytes, wordOfBytes]
  all_goals rfl

/-- The RFC 6052 address of `192.0.2.33` under the well-known prefix `64:ff9b::/96`, and under
    `2001:db8::/32`: `nat64_extract2` returns 0 from each. -/
theorem nat64_extract2_misses_embedded :
    nat64Extract2 (rfc6052Embed ⟨0x9bff6400, 0, 0, 0⟩ 96 0x210200c0) 96 = 0 ∧
    nat64Extract2 (rfc6052Embed ⟨0xb80d0120, 0, 0, 0⟩ 32 0x210200c0) 32 = 0 ∧
    (0x210200c0 : UInt32) ≠ 0 := by
  decide

end Jool.Filtering
