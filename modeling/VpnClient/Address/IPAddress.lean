import VpnClient.Address.HostAddress

/-! Prefixes of addresses and the removal of one list of prefixes from another. -/

namespace VpnClient.Address

open Library.BinaryBlocks

@[ext] structure IPAddress where
  address : QHostAddress
  prefixLength : ℕ
  deriving DecidableEq

/-- How the loop of `excludeAddresses` can go wrong: a failed assertion, an access outside
the list of subnets, or no end within the given number of rounds. -/
inductive LoopFault where
  | assertion
  | outOfRange
  | outOfFuel
  deriving DecidableEq, Repr

namespace IPAddress

def contains (p : IPAddress) (address : QHostAddress) : Bool :=
  if address.protocol ≠ p.address.protocol then false
  else if p.prefixLength = 0 then true
  else
    match p.address.protocol with
    | .IPv6Protocol =>
      let a := p.address.toIPv6Address
      let b := address.toIPv6Address
      let bytes := p.prefixLength / 8
      if (List.range bytes).any (fun i => a.byte i != b.byte i) then false
      else if p.prefixLength % 8 ≠ 0 then
        (a.byte bytes ^^^ b.byte bytes) >>> (8 - p.prefixLength % 8) == 0
      else true
    | .IPv4Protocol =>
      let diff := p.address.toIPv4Address ^^^ address.toIPv4Address
      (if p.prefixLength < 32 then diff >>> (32 - p.prefixLength) else diff) == 0

def overlaps (p other : IPAddress) : Bool :=
  if p.prefixLength < other.prefixLength then p.contains other.address
  else other.contains p.address

def subnetOf (p other : IPAddress) : Bool :=
  if other.address.protocol ≠ p.address.protocol then false
  else if p.prefixLength < other.prefixLength then false
  else other.contains p.address

def subnets (p : IPAddress) : List IPAddress :=
  match p.address with
  | .ipv4 rawAddress =>
    if p.prefixLength ≥ 32 then [p]
    else
      [⟨.ipv4 rawAddress, p.prefixLength + 1⟩,
        ⟨.ipv4 (rawAddress ||| 0x80000000#32 >>> p.prefixLength), p.prefixLength + 1⟩]
  | .ipv6 rawAddress =>
    if p.prefixLength ≥ 128 then [p]
    else
      let i := p.prefixLength / 8
      [⟨.ipv6 rawAddress, p.prefixLength + 1⟩,
        ⟨.ipv6 (rawAddress.setIfInBounds i (rawAddress.byte i ||| 0x80#8 >>> (p.prefixLength % 8))),
          p.prefixLength + 1⟩]

def broadcastAddress (p : IPAddress) : QHostAddress :=
  match p.address with
  | .ipv6 rawAddress =>
    let offset := (p.prefixLength + 7) / 8
    let filled : Q_IPV6ADDR := Vector.ofFn fun i => if offset ≤ i then 0xff#8 else rawAddress[i]
    let i := p.prefixLength / 8
    if p.prefixLength % 8 ≠ 0 then
      .ipv6 (filled.setIfInBounds i (filled.byte i ||| 0xff#8 >>> (p.prefixLength % 8)))
    else .ipv6 filled
  | .ipv4 rawAddress =>
    .ipv4 (if p.prefixLength < 32 then rawAddress ||| 0xffffffff#32 >>> p.prefixLength else rawAddress)

/-- The `while` loop of `excludeAddresses`: `sn` is the list of subnets it halves next and
`result` the list it appends to, in at most `fuel` rounds. -/
def excludeLoop (ip : IPAddress) : ℕ → List IPAddress → List IPAddress → Except LoopFault (List IPAddress)
  | 0, _, _ => .error .outOfFuel
  | fuel + 1, [sn₀, sn₁], result =>
    if sn₀ ≠ ip ∧ sn₁ ≠ ip then
      if ip.subnetOf sn₀ then excludeLoop ip fuel sn₀.subnets (result ++ [sn₁])
      else if ip.subnetOf sn₁ then excludeLoop ip fuel sn₁.subnets (result ++ [sn₀])
      else .error .assertion
    else if sn₀ = ip then .ok (result ++ [sn₁])
    else .ok (result ++ [sn₀])
  | _ + 1, _, _ => .error .outOfRange

def excludeAddresses (fuel : ℕ) (p ip : IPAddress) : Except LoopFault (List IPAddress) :=
  if p.subnets.length ≥ 2 then excludeLoop ip fuel p.subnets [] else .error .assertion

/-- The inner loop of the static `excludeAddresses`: what is left of `results` without `exclude`. -/
def excludeFrom (fuel : ℕ) (exclude : IPAddress) : List IPAddress → Except LoopFault (List IPAddress)
  | [] => .ok []
  | ip :: results => do
    let range ←
      if !ip.overlaps exclude then pure [ip]
      else if exclude.subnetOf ip ∧ exclude ≠ ip then ip.excludeAddresses fuel exclude
      else pure []
    let newResults ← excludeFrom fuel exclude results
    return range ++ newResults

/-- A prefix of one of the two families whose host bits are zero. -/
structure Canonical (p : IPAddress) : Prop where
  length_le : p.prefixLength ≤ p.address.width
  host_bits : ∀ i, p.prefixLength ≤ i → p.address.bits i = false

/-- The host addresses that a prefix covers. -/
def hosts (p : IPAddress) : Set QHostAddress := {h | p.contains h = true}

end IPAddress

def excludeAddresses (fuel : ℕ) (sourceList excludeList : List IPAddress) :
    Except LoopFault (List IPAddress) :=
  excludeList.foldlM (fun results exclude => IPAddress.excludeFrom fuel exclude results) sourceList

end VpnClient.Address
