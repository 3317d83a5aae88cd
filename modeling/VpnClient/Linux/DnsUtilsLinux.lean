import Mathlib.Data.List.AList
import VpnClient.Address.HostAddress

/-! The resolvers of the tunnel on Linux: the requests to the resolver of the system, and its replies about the domains
of the links. -/

namespace VpnClient.Linux

open Address

structure DnsLinkDomain where
  domain : String
  search : Bool
  deriving DecidableEq

structure DnsDomain where
  ifindex : ℕ
  domain : String
  search : Bool
  deriving DecidableEq

abbrev LinkDomains := AList fun _ : ℕ => List DnsLinkDomain

inductive Request where
  | SetLinkDNS (ifindex : ℕ) (resolvers : List QHostAddress)
  | SetLinkDefaultRoute (ifindex : ℕ) (enable : Bool)
  | SetLinkDomains (ifindex : ℕ) (domains : List DnsLinkDomain)
  | RevertLink (ifindex : ℕ)
  | GetDomains

/-- The resolver of the system with the domains of its links, none of which has the index zero. -/
structure Resolver where
  links : LinkDomains
  nonzero : 0 ∉ links
  globalDomains : List DnsLinkDomain := []

namespace Resolver

def domains (r : Resolver) (link : ℕ) : List DnsLinkDomain := (r.links.lookup link).getD []

/-- A request for a link that does not exist is an error. -/
def setDomains (ifindex : ℕ) (domains : List DnsLinkDomain) (r : Resolver) : Resolver :=
  if h : ifindex ∈ r.links then
    { r with
      links := r.links.insert ifindex domains
      nonzero := by
        rw [AList.mem_insert]
        rintro (h₀ | h₀)
        · exact r.nonzero (h₀ ▸ h)
        · exact r.nonzero h₀ }
  else r

def process (r : Resolver) : Request → Resolver
  | .SetLinkDomains ifindex domains => r.setDomains ifindex domains
  | .RevertLink ifindex => r.setDomains ifindex []
  | .SetLinkDNS _ _ | .SetLinkDefaultRoute _ _ | .GetDomains => r

/-- The value of the property `Domains`. -/
def report (r : Resolver) : List DnsDomain :=
  r.globalDomains.map (fun d => ⟨0, d.domain, d.search⟩) ++
    r.links.entries.flatMap fun link => link.2.map fun d => ⟨link.1, d.domain, d.search⟩

end Resolver

/-- The object with the requests that it has sent and the resolver has not processed, and the replies that it has not
handled. -/
structure DnsUtilsLinux where
  ifindex : ℕ := 0
  linkDomains : LinkDomains := ∅
  sent : List Request := []
  replies : List (List DnsDomain) := []
  resolver : Resolver

namespace DnsUtilsLinux

def send (requests : List Request) (s : DnsUtilsLinux) : DnsUtilsLinux := { s with sent := s.sent ++ requests }

def root : DnsLinkDomain := ⟨".", true⟩

/-- An interface that is not found has the index zero. -/
def updateResolvers (ifindex : ℕ) (resolvers : List QHostAddress) (s : DnsUtilsLinux) : DnsUtilsLinux :=
  let s := { s with ifindex }
  if s.ifindex = 0 then s
  else s.send [.SetLinkDNS s.ifindex resolvers, .SetLinkDefaultRoute s.ifindex true, .GetDomains]

def restoreResolvers (s : DnsUtilsLinux) : DnsUtilsLinux :=
  let s := s.send (s.linkDomains.entries.map fun link => .SetLinkDomains link.1 link.2)
  let s := { s with linkDomains := ∅ }
  if s.ifindex > 0 then { s.send [.RevertLink s.ifindex] with ifindex := 0 } else s

/-- What the reply says about the links. The order of the keys does not matter. -/
def collect (reply : List DnsDomain) : LinkDomains :=
  reply.foldl (fun links d =>
    if d.ifindex = 0 then links
    else links.insert d.ifindex ((links.lookup d.ifindex).getD [] ++ [⟨d.domain, d.search⟩])) ∅

/-- The requests that drop the root search domain from the links that have it. -/
def dropRoot (links : LinkDomains) : List Request :=
  (links.entries.filter fun link => root ∈ link.2).map fun link =>
    .SetLinkDomains link.1 (link.2.filter (· ≠ root))

def dnsDomainsReceived (reply : List DnsDomain) (s : DnsUtilsLinux) : DnsUtilsLinux :=
  let s := { s with linkDomains := collect reply }
  let s := s.send (dropRoot s.linkDomains)
  s.send [.SetLinkDomains s.ifindex [root]]

/-- The resolver processes its next request, and replies if it asks for the domains. -/
def process (s : DnsUtilsLinux) : DnsUtilsLinux :=
  match s.sent with
  | [] => s
  | .GetDomains :: sent => { s with sent, replies := s.replies ++ [s.resolver.report] }
  | request :: sent => { s with sent, resolver := s.resolver.process request }

/-- One of the replies arrives. -/
def receive (i : ℕ) (s : DnsUtilsLinux) : DnsUtilsLinux :=
  match s.replies[i]? with
  | none => s
  | some reply => { s with replies := s.replies.eraseIdx i }.dnsDomainsReceived reply

end DnsUtilsLinux

end VpnClient.Linux
