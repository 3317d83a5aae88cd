import VpnClient.Library.BinaryBlocks

/-! Host addresses of the two families, as `QHostAddress` stores them. -/

namespace VpnClient.Address

open Library.BinaryBlocks

inductive Protocol where
  | IPv4Protocol
  | IPv6Protocol
  deriving DecidableEq, Repr

/-- The sixteen bytes of an IPv6 address, the most significant one first. -/
abbrev Q_IPV6ADDR := Vector (BitVec 8) 16

def Q_IPV6ADDR.byte (a : Q_IPV6ADDR) (i : ℕ) : BitVec 8 := a[i]?.getD 0

inductive QHostAddress where
  | ipv4 (a : BitVec 32)
  | ipv6 (a : Q_IPV6ADDR)
  deriving DecidableEq

namespace QHostAddress

def protocol : QHostAddress → Protocol
  | ipv4 _ => .IPv4Protocol
  | ipv6 _ => .IPv6Protocol

def toIPv4Address : QHostAddress → BitVec 32
  | ipv4 a => a
  | ipv6 _ => 0

def toIPv6Address : QHostAddress → Q_IPV6ADDR
  | ipv4 _ => Vector.replicate 16 0
  | ipv6 a => a

/-- The number of bits of an address of the family. -/
def width (a : QHostAddress) : ℕ :=
  match a.protocol with
  | .IPv4Protocol => 32
  | .IPv6Protocol => 128

/-- The bits of an address, the most significant one first. -/
def bits : QHostAddress → Bits
  | ipv4 a => fun i => a.getMsbD i
  | ipv6 a => fun i => (a.byte (i / 8)).getMsbD (i % 8)

lemma width_eq {a b : QHostAddress} (h : a.protocol = b.protocol) : a.width = b.width := by
  simp [width, h]

lemma bits_ext {a b : QHostAddress} (hp : a.protocol = b.protocol)
    (h : Agree a.width a.bits b.bits) : a = b := by
  cases a with
  | ipv4 a =>
    cases b with
    | ipv4 b =>
      congr 1
      apply BitVec.eq_of_getMsbD_eq
      intro i hi
      exact h i hi
    | ipv6 b => simp [protocol] at hp
  | ipv6 a =>
    cases b with
    | ipv4 b => simp [protocol] at hp
    | ipv6 b =>
      congr 1
      apply Vector.ext
      intro j hj
      apply BitVec.eq_of_getMsbD_eq
      intro i hi
      have hb := h (8 * j + i) (by simp only [width, protocol]; omega)
      have hd : (8 * j + i) / 8 = j := by omega
      have hm : (8 * j + i) % 8 = i := by omega
      simpa [bits, Q_IPV6ADDR.byte, hd, hm, hj] using hb

section Classes

/-- The IPv4 address that an address is or, for an IPv6 address, maps. -/
def ipv4Part : QHostAddress → Option (BitVec 32)
  | ipv4 a => some a
  | ipv6 a =>
    if (List.range 10).all (fun i => a.byte i == 0) ∧ a.byte 10 = 0xff ∧ a.byte 11 = 0xff then
      some (a.byte 12 ++ a.byte 13 ++ a.byte 14 ++ a.byte 15)
    else none

def isLoopback (address : QHostAddress) : Bool :=
  match address.ipv4Part with
  | some a => a &&& 0xff000000 == 0x7f000000
  | none =>
    (List.range 15).all (fun i => address.toIPv6Address.byte i == 0) && address.toIPv6Address.byte 15 == 1

def isBroadcast (address : QHostAddress) : Bool := address.ipv4Part == some 0xffffffff

def isLinkLocal (address : QHostAddress) : Bool :=
  match address.ipv4Part with
  | some a => a &&& 0xffff0000 == 0xa9fe0000
  | none => address.toIPv6Address.byte 0 == 0xfe && address.toIPv6Address.byte 1 &&& 0xc0 == 0x80

def isMulticast (address : QHostAddress) : Bool :=
  match address.ipv4Part with
  | some a => a &&& 0xf0000000 == 0xe0000000
  | none => address.toIPv6Address.byte 0 == 0xff

/-- The test before a route is set up. -/
def isRoutable (address : QHostAddress) : Bool :=
  !(address.isLoopback || address.isBroadcast || address.isLinkLocal || address.isMulticast)

end Classes

end QHostAddress

end VpnClient.Address
