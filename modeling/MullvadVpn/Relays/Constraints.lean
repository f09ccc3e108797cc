import MullvadVpn.Systems.Intersection
import MullvadVpn.Relays.RelayList

/-!
Constraints on relays and the settings that are made of them (`mullvad_types::constraints`,
`relay_constraints` and `custom_list`), with the intersection that merges two constraints and the order
by which the merged constraint refines them.
-/

namespace MullvadVpn.Relays

open Net Systems Intersection LawfulIntersection

inductive Constraint (α : Type) where
  | any
  | only (value : α)
  deriving DecidableEq

namespace Constraint

variable {α : Type}

/-- Whether the constraint holds, given a test of what it asks for. -/
def satisfiedBy (test : α → Bool) : Constraint α → Bool
  | any => true
  | only value => test value

def isOnlyAnd (test : α → Bool) : Constraint α → Bool
  | any => false
  | only value => test value

instance [Intersection α] : Intersection (Constraint α) where
  intersection
    | any, any => some any
    | only value, any | any, only value => some (only value)
    | only left, only right => (intersection left right).map only

@[simp]
theorem intersection_only [Intersection α] (left right : α) :
    intersection (only left) (only right) = (intersection left right).map only :=
  rfl

@[simp]
theorem any_intersection [Intersection α] (constraint : Constraint α) :
    intersection any constraint = some constraint := by
  cases constraint <;> rfl

@[simp]
theorem intersection_any [Intersection α] (constraint : Constraint α) :
    intersection constraint any = some constraint := by
  cases constraint <;> rfl

/-- `any` asks for nothing; a value is refined by the values that refine it. -/
def refines [Intersection α] [LawfulIntersection α] : Constraint α → Constraint α → Prop
  | _, any => True
  | any, only _ => False
  | only value, only other => Refines value other

instance [Intersection α] [LawfulIntersection α] : LawfulIntersection (Constraint α) where
  Refines := refines
  refl
    | any => trivial
    | only value => refl value
  trans {a b c} hab hbc := by
    cases c with
    | any => exact trivial
    | only z =>
      cases b with
      | any => exact hbc.elim
      | only y =>
        cases a with
        | any => exact hab.elim
        | only x => exact trans (show Refines x y from hab) hbc
  refines_left {a b c} h := by
    cases a with
    | any => exact trivial
    | only left =>
      cases b with
      | any =>
        cases h
        exact refl left
      | only right =>
        obtain ⟨value, hvalue, rfl⟩ := Option.map_eq_some_iff.mp h
        exact refines_left hvalue
  refines_right {a b c} h := by
    cases b with
    | any => exact trivial
    | only right =>
      cases a with
      | any =>
        cases h
        exact refl right
      | only left =>
        obtain ⟨value, hvalue, rfl⟩ := Option.map_eq_some_iff.mp h
        exact refines_right hvalue

section PartialEq

variable [DecidableEq α] [PartialEqIntersection α]

/-- Where values intersect only if they are equal, a chosen value can only be kept. -/
theorem eq_only_of_refines {constraint : Constraint α} {value : α}
    (h : Refines constraint (only value)) : constraint = only value := by
  cases constraint with
  | any => exact h.elim
  | only other => exact congrArg only h

theorem satisfiedBy_of_refines {test : α → Bool} {constraint user : Constraint α}
    (h : Refines constraint user) (hsat : constraint.satisfiedBy test = true) :
    user.satisfiedBy test = true := by
  cases user with
  | any => rfl
  | only value =>
    rw [eq_only_of_refines h] at hsat
    exact hsat

end PartialEq

end Constraint

instance : PartialEqIntersection (BitVec 16) where

instance : PartialEqIntersection Bool where

instance : PartialEqIntersection TransportProtocol where

instance : PartialEqIntersection TunnelType where

instance : PartialEqIntersection IpVersion where

namespace Constraint

theorem only_beq_true (value : Bool) : (only value == only true) = value := by
  cases value <;> rfl

theorem isSome_intersection_true (value : Bool) : (intersection (only value) (only true)).isSome = value := by
  cases value <;> rfl

end Constraint

inductive GeographicLocationConstraint where
  | country (country : String)
  | city (country city : String)
  | hostname (country city hostname : String)
  deriving DecidableEq

namespace GeographicLocationConstraint

def isCountry : GeographicLocationConstraint → Bool
  | country _ => true
  | _ => false

def matchesRelay (relay : Relay) : GeographicLocationConstraint → Bool
  | country code => relay.location.countryCode == code
  | city countryCode code =>
    relay.location.countryCode == countryCode && relay.location.cityCode == code
  | hostname countryCode cityCode name =>
    relay.location.countryCode == countryCode && relay.location.cityCode == cityCode && relay.hostname == name

end GeographicLocationConstraint

/-- The identifier of a custom list, a UUID. -/
abbrev ListId := BitVec 128

inductive LocationConstraint where
  | location (location : GeographicLocationConstraint)
  | customList (listId : ListId)
  deriving DecidableEq

instance : PartialEqIntersection LocationConstraint where

structure CustomList where
  id : ListId
  locations : List GeographicLocationConstraint

inductive Ownership where
  | mullvadOwned
  | rented
  deriving DecidableEq

instance : PartialEqIntersection Ownership where

def Ownership.matchesRelay (relay : Relay) : Ownership → Bool
  | mullvadOwned => relay.owned
  | rented => !relay.owned

structure Providers where
  providers : Finset String
  deriving DecidableEq

instance : PartialEqIntersection Providers where

def Providers.matchesRelay (relay : Relay) (providers : Providers) : Bool :=
  relay.provider ∈ providers.providers

structure TransportPort where
  protocol : TransportProtocol
  port : Constraint (BitVec 16)
  deriving DecidableEq

structure OpenVpnConstraints where
  port : Constraint TransportPort

structure AllowedIps where
  networks : List IpNetwork
  deriving DecidableEq

instance : PartialEqIntersection AllowedIps where

namespace AllowedIps

def allowAll : AllowedIps :=
  ⟨[.v4 ⟨0, 0⟩, .v6 ⟨0, 0⟩]⟩

/-- The networks with the addresses of the gateways added. -/
def resolve (ips : AllowedIps) (hostIpv4 : Option (BitVec 32)) (hostIpv6 : Option (BitVec 128)) :
    List IpNetwork :=
  ips.networks ++ (hostIpv6.toList.map fun bits => .ofIpAddr (.v6 bits)) ++
    hostIpv4.toList.map fun bits => .ofIpAddr (.v4 bits)

/-- The empty list of networks, like no list, stands for all networks. -/
def resolveFromConstraint (constraint : Constraint AllowedIps) (hostIpv4 : Option (BitVec 32))
    (hostIpv6 : Option (BitVec 128)) : List IpNetwork :=
  match constraint with
  | .any => allowAll.resolve hostIpv4 hostIpv6
  | .only ips =>
    if ips.networks.isEmpty then allowAll.resolve hostIpv4 hostIpv6
    else ips.resolve hostIpv4 hostIpv6

end AllowedIps

structure WireguardConstraints where
  port : Constraint (BitVec 16)
  ipVersion : Constraint IpVersion
  allowedIps : Constraint AllowedIps
  useMultihop : Bool
  entryLocation : Constraint LocationConstraint

structure RelayConstraints where
  location : Constraint LocationConstraint
  providers : Constraint Providers
  ownership : Constraint Ownership
  tunnelProtocol : TunnelType
  wireguardConstraints : WireguardConstraints
  openvpnConstraints : OpenVpnConstraints

inductive QuantumResistantState where
  | auto
  | on
  | off
  deriving DecidableEq

inductive SelectedObfuscation where
  | auto
  | off
  | udp2Tcp
  | shadowsocks
  | quic
  | lwo

structure Udp2TcpObfuscationSettings where
  port : Constraint (BitVec 16)
  deriving DecidableEq

structure ShadowsocksSettings where
  port : Constraint (BitVec 16)
  deriving DecidableEq

structure ObfuscationSettings where
  selectedObfuscation : SelectedObfuscation
  udp2tcp : Udp2TcpObfuscationSettings
  shadowsocks : ShadowsocksSettings

structure BridgeConstraints where
  location : Constraint LocationConstraint
  providers : Constraint Providers
  ownership : Constraint Ownership
  deriving DecidableEq

inductive BridgeType where
  | normal
  | custom

structure BridgeSettings where
  bridgeType : BridgeType
  normal : BridgeConstraints
  custom : Option CustomProxy

inductive BridgeState where
  | auto
  | on
  | off

/-- The connection of a custom endpoint, without its credentials. -/
inductive ConnectionConfig where
  | openVpn (endpoint : Endpoint)
  | wireguard (peer : PeerConfig) (exitPeer : Option PeerConfig)

structure CustomTunnelEndpoint where
  host : String
  config : ConnectionConfig

inductive RelaySettings where
  | customTunnelEndpoint (endpoint : CustomTunnelEndpoint)
  | normal (constraints : RelayConstraints)

end MullvadVpn.Relays
