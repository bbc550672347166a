-- SUMMARY: Shared vocabulary of the NAT64 module: IPv4 addresses, protocol numbers, byte order and response codes.
import Mathlib.Data.List.Perm.Subperm
import Mathlib.Data.List.Range
import Mathlib.Data.List.Nodup
import Mathlib.Algebra.Group.Nat.Basic
import Mathlib.Algebra.Group.Int

/-!
# Basic types

The values every part of the translator passes around: IPv4 addresses, the layer-4
protocol numbers, the conversion between network and host byte order, and the
`response_code` of the administrative operations.

Ports and identifiers are 16-bit values; they are modelled as `Nat`, and the operations
that could take them out of 16 bits say why they do not.
-/

namespace Jool

/-- `struct in_addr`: an IPv4 address, compared by `ipv4_addr_equals` on `s_addr`. -/
structure InAddr where
  sAddr : UInt32
  deriving DecidableEq, Repr

/-- `struct ipv4_tuple_address`: an IPv4 address with a port (or ICMP identifier). -/
structure Ipv4TupleAddress where
  address : InAddr
  l4Id : Nat
  deriving DecidableEq, Repr

def ipprotoIcmp : Nat := 1
def ipprotoTcp : Nat := 6
def ipprotoUdp : Nat := 17
def ipprotoIcmpv6 : Nat := 58

/-- `be16_to_cpu` (and `ntohs`, `htons`) on a little-endian host: the two bytes of a
    16-bit value swap places. -/
def be16ToCpu (x : Nat) : Nat := x % 256 * 256 + x / 256 % 256

/-- `enum response_code`, the answers of the administrative operations. -/
inductive ResponseCode where
  | success
  | missingParam
  | allocFailed
  | notFound
  deriving DecidableEq, Repr

end Jool

/-- A list that fits, up to order, inside a list without repetitions has none either. -/
theorem List.Subperm.nodup_of {α : Type} {l₁ l₂ : List α} (h : l₁.Subperm l₂)
    (hd : l₂.Nodup) : l₁.Nodup := by
  obtain ⟨l, hp, hs⟩ := h
  exact hp.nodup_iff.1 (hd.sublist hs)
