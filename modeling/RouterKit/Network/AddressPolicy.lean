import Mathlib.Data.Prod.Lex
import RouterKit.Lib.Checked
import RouterKit.Lib.IpAddress
import RouterKit.Lib.Keyed

/-!
Which destination addresses a profile source may be fetched from. The tables are
fixed; the classification of the standard library can only refuse more.
-/

namespace RouterKit.Network

open RouterKit.Lib RouterKit.Lib.Checked RouterKit.Lib.IpText

/-- The subclasses of `ProfileNetworkError`, and the base class itself. -/
inductive ProfileNetworkErrorClass where
  | profileNetworkError
  | urlPolicyError
  | dnsResolutionError
  | destinationPolicyError
  | tlsConnectionError
  | redirectPolicyError
  | responsePolicyError
deriving DecidableEq, Repr

/-- The exceptions that can leave a function of the two network modules: the two
hierarchies that are safe to display, a `ValueError` of the standard library,
and anything else a collaborator raises. -/
inductive Raised where
  | profileNetwork (kind : ProfileNetworkErrorClass) (message : String)
  | artifactNetwork (message : String)
  | valueError
  | otherException
deriving DecidableEq, Repr

def maxDnsAddresses : Nat := 16

structure IpNetwork where
  version : Nat
  base : Nat
  prefixLength : Nat
deriving DecidableEq

def width (version : Nat) : Nat := if version = 4 then 32 else 128

/-- `address in network`: the network bits agree. -/
def IpNetwork.contains (network : IpNetwork) (address : IpAddress) : Bool :=
  network.version = address.version &&
    address.value / 2 ^ (width network.version - network.prefixLength) =
      network.base / 2 ^ (width network.version - network.prefixLength)

/-- `ipaddress.ip_network` on an address and a prefix length; host bits must be
zero. -/
def ipNetwork (text : String) : Option IpNetwork :=
  match text.toList.splitOn '/' with
  | [address, digits] =>
      match ipAddress address with
      | some base =>
          let prefixLength := fromDigits 10 (digits.map PyText.hexValue)
          if digits ≠ [] ∧ digits.all PyText.isAsciiDigit ∧ prefixLength ≤ width base.version ∧
              base.value % 2 ^ (width base.version - prefixLength) = 0 then
            some ⟨base.version, base.value, prefixLength⟩
          else none
      | none => none
  | _ => none

def ipNetworks (texts : List String) : List IpNetwork := texts.filterMap ipNetwork

def deniedIpv4Networks : List IpNetwork :=
  ipNetworks ["0.0.0.0/8", "10.0.0.0/8", "100.64.0.0/10", "127.0.0.0/8", "169.254.0.0/16",
    "172.16.0.0/12", "192.0.0.0/24", "192.0.2.0/24", "192.88.99.0/24", "192.168.0.0/16",
    "198.18.0.0/15", "198.51.100.0/24", "203.0.113.0/24", "224.0.0.0/4", "240.0.0.0/4"]

def deniedIpv6Networks : List IpNetwork := ipNetworks ["2001::/23", "2001:db8::/32", "3fff::/20"]

def conservativelyDeniedIpv6Networks : List IpNetwork :=
  ipNetworks ["::ffff:0:0/96", "64:ff9b::/96", "64:ff9b:1::/48", "2001::/32", "2001:10::/28",
    "2001:20::/28", "2002::/16"]

def allowedSpecialPurposeNetworks : List IpNetwork :=
  ipNetworks ["192.0.0.9/32", "192.0.0.10/32", "2001:1::1/128", "2001:1::2/128", "2001:1::3/128",
    "2001:3::/32", "2001:4:112::/48", "2001:30::/28"]

def ipv6PublicUnicastNetwork : List IpNetwork := ipNetworks ["2000::/3"]

def containsAddress (networks : List IpNetwork) (address : IpAddress) : Bool :=
  networks.any fun network => network.version = address.version && network.contains address

def isAllowedSpecialPurpose (address : IpAddress) : Bool :=
  containsAddress allowedSpecialPurposeNetworks address

def isExplicitlyDenied (address : IpAddress) : Bool :=
  if address.version = 6 && containsAddress conservativelyDeniedIpv6Networks address then true
  else if isAllowedSpecialPurpose address then false
  else if address.version = 4 then containsAddress deniedIpv4Networks address
  else if !ipv6PublicUnicastNetwork.any (·.contains address) then true
  else containsAddress deniedIpv6Networks address

/-- The class properties of the standard library. -/
structure AddressClasses where
  isGlobal : IpAddress → Bool
  isPrivate : IpAddress → Bool
  isLoopback : IpAddress → Bool
  isLinkLocal : IpAddress → Bool
  isMulticast : IpAddress → Bool
  isUnspecified : IpAddress → Bool
  isReserved : IpAddress → Bool

/-- `ipv4_mapped` is not `None`. -/
def isIpv4Mapped : IpAddress → Bool
  | .v4 _ => false
  | .v6 value _ => value / 2 ^ 32 = 0xffff

def hasDisallowedIpaddressProperties (classes : AddressClasses) (address : IpAddress) : Bool :=
  !classes.isGlobal address || classes.isPrivate address || classes.isLoopback address ||
    classes.isLinkLocal address || classes.isMulticast address || classes.isUnspecified address ||
    classes.isReserved address || isIpv4Mapped address

def addressNotAllowed : Raised :=
  .profileNetwork .destinationPolicyError "Destination address is not allowed by policy."

def addressSetNotAllowed : Raised :=
  .profileNetwork .destinationPolicyError "Destination address set is not allowed by policy."

def normalizeAddress (value : List Char) : Except Raised (List Char) :=
  match ipAddress value with
  | some address => .ok address.text
  | none => .error addressNotAllowed

/-- The accepted addresses by version and number, each with its text. -/
abbrev AcceptedAddresses := List (Lex (Nat × Nat) × List Char)

def addressKey (address : IpAddress) : Lex (Nat × Nat) := toLex (address.version, address.value)

/-- One round of the loop of `validate_address_set`. -/
def acceptAddress (classes : AddressClasses) (accepted : AcceptedAddresses) (value : List Char) :
    Except Raised AcceptedAddresses := do
  let normalized ← normalizeAddress value
  match ipAddress normalized with
  | none => .error .valueError
  | some address =>
      if isExplicitlyDenied address ||
          (!isAllowedSpecialPurpose address &&
              hasDisallowedIpaddressProperties classes address) then
        .error addressSetNotAllowed
      else
        .ok (Keyed.touch Prod.fst (addressKey address, normalized)
          (fun entry => (entry.1, normalized)) accepted)

def acceptAddresses (classes : AddressClasses) (accepted : AcceptedAddresses) :
    List (List Char) → Except Raised AcceptedAddresses
  | [] => .ok accepted
  | value :: rest => do acceptAddresses classes (← acceptAddress classes accepted value) rest

def validateAddressSet (classes : AddressClasses) (addresses : List (List Char)) :
    Except Raised (List (List Char)) := do
  raiseIf (addresses = [] ∨ addresses.length > maxDnsAddresses) addressSetNotAllowed
  let accepted ← acceptAddresses classes [] addresses
  raiseIf (accepted = []) addressSetNotAllowed
  .ok ((Keyed.sortByKey Prod.fst accepted).map Prod.snd)

theorem deniedIpv4Networks_eq : deniedIpv4Networks =
    [⟨4, 0x00000000, 8⟩, ⟨4, 0x0a000000, 8⟩, ⟨4, 0x64400000, 10⟩, ⟨4, 0x7f000000, 8⟩,
      ⟨4, 0xa9fe0000, 16⟩, ⟨4, 0xac100000, 12⟩, ⟨4, 0xc0000000, 24⟩, ⟨4, 0xc0000200, 24⟩,
      ⟨4, 0xc0586300, 24⟩, ⟨4, 0xc0a80000, 16⟩, ⟨4, 0xc6120000, 15⟩, ⟨4, 0xc6336400, 24⟩,
      ⟨4, 0xcb007100, 24⟩, ⟨4, 0xe0000000, 4⟩, ⟨4, 0xf0000000, 4⟩] := by
  decide +kernel

theorem deniedIpv6Networks_eq : deniedIpv6Networks =
    [⟨6, 0x2001 <<< 112, 23⟩, ⟨6, 0x20010db8 <<< 96, 32⟩, ⟨6, 0x3fff <<< 112, 20⟩] := by
  decide +kernel

theorem conservativelyDeniedIpv6Networks_eq : conservativelyDeniedIpv6Networks =
    [⟨6, 0xffff <<< 32, 96⟩, ⟨6, 0x0064ff9b <<< 96, 96⟩, ⟨6, 0x0064ff9b0001 <<< 80, 48⟩,
      ⟨6, 0x20010000 <<< 96, 32⟩, ⟨6, 0x20010010 <<< 96, 28⟩, ⟨6, 0x20010020 <<< 96, 28⟩,
      ⟨6, 0x2002 <<< 112, 16⟩] := by
  decide +kernel

theorem allowedSpecialPurposeNetworks_eq : allowedSpecialPurposeNetworks =
    [⟨4, 0xc0000009, 32⟩, ⟨4, 0xc000000a, 32⟩, ⟨6, (0x20010001 <<< 96) + 1, 128⟩,
      ⟨6, (0x20010001 <<< 96) + 2, 128⟩, ⟨6, (0x20010001 <<< 96) + 3, 128⟩,
      ⟨6, 0x20010003 <<< 96, 32⟩, ⟨6, 0x200100040112 <<< 80, 48⟩, ⟨6, 0x20010030 <<< 96, 28⟩] := by
  decide +kernel

theorem ipv6PublicUnicastNetwork_eq : ipv6PublicUnicastNetwork = [⟨6, 0x2000 <<< 112, 3⟩] := by
  decide +kernel

end RouterKit.Network
