import MullvadVpn.Systems.Netlink
import MullvadVpn.Wireguard.Config

/-!
The messages by which a WireGuard device of the kernel is set up and asked for its state
(`wireguard_kernel::wg_message`), and the parsers of their values (`wireguard_kernel::parsers`). A device
has attributes, among them peers, whose attributes in turn have the allowed IPs. The nanoseconds of a
handshake time are read where its seconds are.
-/

namespace MullvadVpn.Wireguard

open Systems Fallible Netlink List Framing
open Endianness (big field_append field_write field_write_self parseWord_write read_write)
open Net (IpAddr IpNetwork)

/-- `netlink_packet_core::DecodeError`, by the messages that it has here. -/
inductive DecodeError where
  | nla (buffer : List UInt8)
  | word (value : List UInt8)
  | ipAddress (bytes : List UInt8)
  | keyLength (length : Nat)
  | sockaddrLength (length : Nat)
  | addressFamily (family : BitVec 16)
  | timespecSize (length : Nat)
  | interiorNul (position : Nat)
  | notNulTerminated
  | allowedIpKind (kind : BitVec 16)
  | peerKind (kind : BitVec 16)
  | deviceKind (kind : BitVec 16)

theorem map_eq_self_iff {α : Type} {f : α → α} {as : List α} : as.map f = as ↔ ∀ a ∈ as, f a = a := by
  have hmap : as.map f = as.map id ↔ ∀ a ∈ as, f a = id a := map_inj_left
  rwa [map_id] at hmap

/-- `AF_INET`. -/
def afInet : BitVec 16 := 2

/-- `AF_INET6`. -/
def afInet6 : BitVec 16 := 10

structure TimeSpec where
  tvSec : BitVec 64
  tvNsec : BitVec 64

structure CString where
  bytes : List UInt8
  noNul : 0 ∉ bytes

def CString.bytesWithNul (name : CString) : List UInt8 :=
  name.bytes ++ [0]

def ipAddrToBytes : IpAddr → List UInt8
  | .v4 ip => big.write ip
  | .v6 ip => big.write ip

def parseIpAddr (bytes : List UInt8) : Except DecodeError IpAddr :=
  if bytes.length = 4 then .ok (.v4 (big.read 32 bytes))
  else if bytes.length = 16 then .ok (.v6 (big.read 128 bytes))
  else .error (.ipAddress bytes)

def parseWgKey (buffer : List UInt8) : Except DecodeError Key :=
  if h : buffer.length = 32 then .ok ⟨buffer.toArray, h⟩ else .error (.keyLength buffer.length)

/-- `CStr::from_bytes_with_nul`. -/
def parseCstring (buffer : List UInt8) : Except DecodeError CString :=
  if h : 0 ∈ buffer.dropLast then .error (.interiorNul (buffer.idxOf 0))
  else if buffer.getLast? = some 0 then .ok ⟨buffer.dropLast, h⟩
  else .error .notNulTerminated

section Native

variable (nativeEnd : Endianness)

/-- The memory of a `sockaddr_in` or a `sockaddr_in6`. -/
def sockaddr : SocketAddr → List UInt8
  | .v4 ip port => nativeEnd.write afInet ++ (big.write port ++ (big.write ip ++ replicate 8 0))
  | .v6 ip port flowinfo scopeId => nativeEnd.write afInet6 ++ (big.write port ++
      (nativeEnd.write flowinfo ++ (big.write ip ++ nativeEnd.write scopeId)))

def parseInetSockaddr (buffer : List UInt8) : Except DecodeError SocketAddr :=
  if buffer.length < 2 then .error (.sockaddrLength buffer.length)
  else if nativeEnd.field 16 0 buffer = afInet then
    if buffer.length = 16 then
      .ok (.v4 (big.field 32 4 buffer) (big.field 16 2 buffer))
    else .error (.sockaddrLength buffer.length)
  else if nativeEnd.field 16 0 buffer = afInet6 then
    if buffer.length = 28 then
      .ok (.v6 (big.field 128 8 buffer) (big.field 16 2 buffer)
        (nativeEnd.field 32 4 buffer) (nativeEnd.field 32 24 buffer))
    else .error (.sockaddrLength buffer.length)
  else .error (.addressFamily (nativeEnd.field 16 0 buffer))

def timespec (time : TimeSpec) : List UInt8 :=
  nativeEnd.write time.tvSec ++ nativeEnd.write time.tvNsec

/-- Both numbers are read at the start of the buffer. -/
def parseTimespec (buffer : List UInt8) : Except DecodeError TimeSpec :=
  if buffer.length = 16 then .ok ⟨nativeEnd.field 64 0 buffer, nativeEnd.field 64 0 buffer⟩
  else .error (.timespecSize buffer.length)

theorem parseIpAddr_ipAddrToBytes (ip : IpAddr) : parseIpAddr (ipAddrToBytes ip) = .ok ip := by
  cases ip with
  | v4 ip | v6 ip => simp [parseIpAddr, ipAddrToBytes, read_write]

theorem parseWgKey_toList (key : Key) : parseWgKey key.toList = .ok key := by
  simp [parseWgKey, Vector.toList]

theorem parseCstring_bytesWithNul (name : CString) : parseCstring name.bytesWithNul = .ok name := by
  simp [parseCstring, CString.bytesWithNul, name.noNul]

theorem parseInetSockaddr_sockaddr (address : SocketAddr) :
    parseInetSockaddr nativeEnd (sockaddr nativeEnd address) = .ok address := by
  cases address with
  | v4 ip port => simp [parseInetSockaddr, sockaddr, field_write, field_append]
  | v6 ip port flowinfo scopeId =>
    have hfamily : afInet6 ≠ afInet := by decide
    simp [parseInetSockaddr, sockaddr, field_write, field_append, field_write_self, hfamily]

end Native

inductive AllowedIpNla where
  | unspec (payload : List UInt8)
  | addressFamily (family : BitVec 16)
  | ipAddr (ip : IpAddr)
  | cidrMask (mask : BitVec 8)

abbrev AllowedIpMessage := List AllowedIpNla

/-- `AllowedIpMessage::from(&IpNetwork)`. -/
def AllowedIpMessage.ofIpNetwork : IpNetwork → AllowedIpMessage
  | .v4 net => [.addressFamily afInet, .cidrMask (BitVec.ofNat 8 net.prefixLen), .ipAddr (.v4 net.ip)]
  | .v6 net => [.addressFamily afInet6, .cidrMask (BitVec.ofNat 8 net.prefixLen), .ipAddr (.v6 net.ip)]

section Codecs

variable (nativeEnd : Endianness) (framing : Framing DecodeError)

namespace AllowedIpNla

def kind : AllowedIpNla → BitVec 16
  | unspec _ => 0
  | addressFamily _ => 1
  | ipAddr _ => 2
  | cidrMask _ => 3

def valueLen : AllowedIpNla → Nat
  | unspec payload => payload.length
  | addressFamily _ => 2
  | ipAddr ip => (ipAddrToBytes ip).length
  | cidrMask _ => 1

def emitValue : AllowedIpNla → List UInt8
  | unspec payload => payload
  | addressFamily family => nativeEnd.write family
  | ipAddr ip => ipAddrToBytes ip
  | cidrMask mask => nativeEnd.write mask

def parse (kind : BitVec 16) (value : List UInt8) : Except DecodeError AllowedIpNla :=
  match kind.toNat with
  | 0 => .ok (unspec value)
  | 1 => (nativeEnd.parseWord .word 16 value).map addressFamily
  | 2 => (parseIpAddr value).map ipAddr
  | 3 => (nativeEnd.parseWord .word 8 value).map cidrMask
  | _ => .error (.allowedIpKind kind)

def codec : Codec DecodeError AllowedIpNla where
  kind := kind
  valueLen := valueLen
  emitValue nla := some (nla.emitValue nativeEnd)
  parse := parse nativeEnd

theorem codec_returns : (codec nativeEnd).Returns id := by
  intro nla _
  refine ⟨_, rfl, ?_, ?_⟩
  · cases nla <;> simp [codec, emitValue, valueLen]
  · cases nla <;> simp [codec, emitValue, kind, parse, typeMask, parseWord_write,
      parseIpAddr_ipAddrToBytes, Except.map]

end AllowedIpNla

inductive PeerNla where
  | unspec (payload : List UInt8)
  | publicKey (key : Key)
  | presharedKey (key : Key)
  | flags (value : BitVec 32)
  | endpoint (address : SocketAddr)
  | persistentKeepaliveInterval (interval : BitVec 16)
  | lastHandshakeTime (time : TimeSpec)
  | rxBytes (bytes : BitVec 64)
  | txBytes (bytes : BitVec 64)
  | allowedIps (ips : List AllowedIpMessage)
  | protocolVersion (version : BitVec 32)

abbrev PeerMessage := List PeerNla

namespace PeerNla

def kind : PeerNla → BitVec 16
  | unspec _ => 0
  | publicKey _ => 1
  | presharedKey _ => 2
  | flags _ => 3
  | endpoint _ => 4
  | persistentKeepaliveInterval _ => 5
  | lastHandshakeTime _ => 6
  | rxBytes _ => 7
  | txBytes _ => 8
  | allowedIps _ => 9 ||| nested
  | protocolVersion _ => 10

def valueLen : PeerNla → Nat
  | unspec payload => payload.length
  | publicKey _ | presharedKey _ => 32
  | flags _ | protocolVersion _ => 4
  | endpoint (.v4 ..) => 16
  | endpoint (.v6 ..) => 28
  | persistentKeepaliveInterval _ => 2
  | lastHandshakeTime _ => 16
  | rxBytes _ | txBytes _ => 8
  | allowedIps ips => framing.bufferLenAll (framing.nest (AllowedIpNla.codec nativeEnd)) ips

def emitValue : PeerNla → Option (List UInt8)
  | unspec payload => some payload
  | publicKey key | presharedKey key => some key.toList
  | flags value | protocolVersion value => some (nativeEnd.write value)
  | endpoint address => some (sockaddr nativeEnd address)
  | persistentKeepaliveInterval interval => some (nativeEnd.write interval)
  | lastHandshakeTime time => some (timespec nativeEnd time)
  | rxBytes bytes | txBytes bytes => some (nativeEnd.write bytes)
  | allowedIps ips => framing.emitAll (framing.nest (AllowedIpNla.codec nativeEnd)) ips

def parse (kind : BitVec 16) (value : List UInt8) : Except DecodeError PeerNla :=
  match kind.toNat with
  | 0 => .ok (unspec value)
  | 1 => (parseWgKey value).map publicKey
  | 2 => (parseWgKey value).map presharedKey
  | 3 => (nativeEnd.parseWord .word 32 value).map flags
  | 4 => (parseInetSockaddr nativeEnd value).map endpoint
  | 5 => (nativeEnd.parseWord .word 16 value).map persistentKeepaliveInterval
  | 6 => (parseTimespec nativeEnd value).map lastHandshakeTime
  | 7 => (nativeEnd.parseWord .word 64 value).map rxBytes
  | 8 => (nativeEnd.parseWord .word 64 value).map txBytes
  | 9 => (framing.parseAll (framing.nest (AllowedIpNla.codec nativeEnd)) value).map allowedIps
  | 10 => (nativeEnd.parseWord .word 32 value).map protocolVersion
  | _ => .error (.peerKind kind)

def codec : Codec DecodeError PeerNla where
  kind := kind
  valueLen := valueLen nativeEnd framing
  emitValue := emitValue nativeEnd framing
  parse := parse nativeEnd framing

/-- The attribute that is read when this one was written. -/
def received : PeerNla → PeerNla
  | lastHandshakeTime time => lastHandshakeTime ⟨time.tvSec, time.tvSec⟩
  | nla => nla

def handshakeTime : PeerNla → Option TimeSpec
  | lastHandshakeTime time => some time
  | _ => none

theorem received_eq_self_iff {nla : PeerNla} :
    nla.received = nla ↔ ∀ time ∈ nla.handshakeTime, time.tvNsec = time.tvSec := by
  cases nla with
  | lastHandshakeTime time =>
    obtain ⟨tvSec, tvNsec⟩ := time
    simp [received, handshakeTime, eq_comm]
  | _ => simp [received, handshakeTime]

variable {framing}

theorem codec_returns (hframing : framing.Correct) : (codec nativeEnd framing).Returns received := by
  intro nla hfits
  cases nla with
  | allowedIps ips =>
    have hnest := hframing.nest_returns (hframing.nest_returns (AllowedIpNla.codec_returns nativeEnd))
    obtain ⟨value, hemit, hlength, hparse⟩ := hnest ips hfits
    refine ⟨value, hemit, hlength, ?_⟩
    rw [nest_parse, map_id_fun] at hparse
    simp [codec, kind, parse, nested, typeMask, hparse, received, Except.map]
  | endpoint address =>
    refine ⟨_, rfl, ?_, ?_⟩
    · cases address <;> simp [codec, sockaddr, valueLen]
    · simp [codec, kind, parse, typeMask, received, parseInetSockaddr_sockaddr, Except.map]
  | _ =>
    refine ⟨_, rfl, ?_, ?_⟩
    · simp [codec, valueLen, timespec]
    · simp [codec, kind, parse, typeMask, received, parseWord_write, parseWgKey_toList,
        parseTimespec, timespec, field_write, Except.map]

end PeerNla

inductive DeviceNla where
  | unspec (payload : List UInt8)
  | ifIndex (index : BitVec 32)
  | ifName (name : CString)
  | privateKey (key : Key)
  | publicKey (key : Key)
  | flags (value : BitVec 32)
  | listenPort (port : BitVec 16)
  | fwmark (mark : BitVec 32)
  | peers (messages : List PeerMessage)

namespace DeviceNla

def kind : DeviceNla → BitVec 16
  | unspec _ => 0
  | ifIndex _ => 1
  | ifName _ => 2
  | privateKey _ => 3
  | publicKey _ => 4
  | flags _ => 5
  | listenPort _ => 6
  | fwmark _ => 7
  | peers _ => 8 ||| nested

def valueLen : DeviceNla → Nat
  | unspec payload => payload.length
  | ifIndex _ | fwmark _ | flags _ => 4
  | ifName name => name.bytesWithNul.length
  | privateKey _ | publicKey _ => 32
  | listenPort _ => 2
  | peers messages => framing.bufferLenAll (framing.nest (PeerNla.codec nativeEnd framing)) messages

def emitValue : DeviceNla → Option (List UInt8)
  | unspec payload => some payload
  | ifIndex value | fwmark value | flags value => some (nativeEnd.write value)
  | ifName name => some name.bytesWithNul
  | privateKey key | publicKey key => some key.toList
  | listenPort port => some (nativeEnd.write port)
  | peers messages => framing.emitAll (framing.nest (PeerNla.codec nativeEnd framing)) messages

def parse (kind : BitVec 16) (value : List UInt8) : Except DecodeError DeviceNla :=
  match kind.toNat with
  | 0 => .ok (unspec value)
  | 1 => (nativeEnd.parseWord .word 32 value).map ifIndex
  | 2 => (parseCstring value).map ifName
  | 3 => (parseWgKey value).map privateKey
  | 4 => (parseWgKey value).map publicKey
  | 5 => (nativeEnd.parseWord .word 32 value).map flags
  | 6 => (nativeEnd.parseWord .word 16 value).map listenPort
  | 7 => (nativeEnd.parseWord .word 32 value).map fwmark
  | 8 => (framing.parseAll (framing.nest (PeerNla.codec nativeEnd framing)) value).map peers
  | _ => .error (.deviceKind kind)

def codec : Codec DecodeError DeviceNla where
  kind := kind
  valueLen := valueLen nativeEnd framing
  emitValue := emitValue nativeEnd framing
  parse := parse nativeEnd framing

def received : DeviceNla → DeviceNla
  | peers messages => peers (messages.map (·.map PeerNla.received))
  | nla => nla

def handshakeTimes : DeviceNla → List TimeSpec
  | peers messages => messages.flatten.filterMap PeerNla.handshakeTime
  | _ => []

theorem received_eq_self_iff {nla : DeviceNla} :
    nla.received = nla ↔ ∀ time ∈ nla.handshakeTimes, time.tvNsec = time.tvSec := by
  cases nla with
  | peers messages =>
    simp only [received, handshakeTimes, peers.injEq, map_eq_self_iff, PeerNla.received_eq_self_iff,
      mem_filterMap, mem_flatten]
    constructor
    · rintro h time ⟨nla, ⟨message, hmessage, hnla⟩, htime⟩
      exact h message hmessage nla hnla time htime
    · intro h message hmessage nla hnla time htime
      exact h time ⟨nla, ⟨message, hmessage, hnla⟩, htime⟩
  | _ => simp [received, handshakeTimes]

variable {framing}

theorem codec_returns (hframing : framing.Correct) : (codec nativeEnd framing).Returns received := by
  intro nla hfits
  cases nla with
  | peers messages =>
    have hnest := hframing.nest_returns (hframing.nest_returns (PeerNla.codec_returns nativeEnd hframing))
    obtain ⟨value, hemit, hlength, hparse⟩ := hnest messages hfits
    refine ⟨value, hemit, hlength, ?_⟩
    rw [nest_parse] at hparse
    simp [codec, kind, parse, nested, typeMask, hparse, received, Except.map]
  | _ =>
    refine ⟨_, rfl, ?_, ?_⟩
    · simp [codec, valueLen]
    · simp [codec, kind, parse, typeMask, received, parseWord_write, parseWgKey_toList,
        parseCstring_bytesWithNul, Except.map]

end DeviceNla

structure DeviceMessage where
  nlas : List DeviceNla
  messageType : BitVec 16
  command : UInt8

/-- Of the errors of `wireguard_kernel::Error`, those of reading a message. -/
inductive DeviceMessage.Error where
  | truncated
  | unknownWireguardCommand (command : UInt8)
  | decode (error : DecodeError)

namespace DeviceMessage

/-- The `genlmsghdr`, with the version of the protocol, and the attributes. -/
def serialize (message : DeviceMessage) : Option (List UInt8) := do
  return [message.command, 1, 0, 0] ++ (← framing.emitAll (DeviceNla.codec nativeEnd framing) message.nlas)

def readGenlmsghdr : List UInt8 → Except Error UInt8
  | command :: _ :: _ :: _ :: _ =>
    if command = 0 ∨ command = 1 then .ok command else .error (.unknownWireguardCommand command)
  | _ => .error .truncated

def deserialize (messageType : BitVec 16) (payload : List UInt8) : Except Error DeviceMessage := do
  let command ← readGenlmsghdr payload
  let nlas ← (framing.parseAll (DeviceNla.codec nativeEnd framing) (payload.drop 4)).mapError .decode
  return { nlas, messageType, command }

/-- The length of every attribute fits, and thereby those of the attributes in it. -/
structure WellFormed (message : DeviceMessage) : Prop where
  command : message.command = 0 ∨ message.command = 1
  fits : ∀ nla ∈ message.nlas, Fits (nla.valueLen nativeEnd framing)

def received (message : DeviceMessage) : DeviceMessage :=
  { message with nlas := message.nlas.map DeviceNla.received }

def handshakeTimes (message : DeviceMessage) : List TimeSpec :=
  message.nlas.flatMap DeviceNla.handshakeTimes

variable {nativeEnd framing} {message : DeviceMessage}

theorem exists_serialize (hframing : framing.Correct) (hmessage : message.WellFormed nativeEnd framing) :
    ∃ payload, message.serialize nativeEnd framing = some payload ∧
      deserialize nativeEnd framing message.messageType payload = .ok message.received := by
  obtain ⟨bytes, hemit, -, hparse⟩ :=
    hframing.exists_emitAll (DeviceNla.codec_returns nativeEnd hframing) hmessage.fits
  refine ⟨[message.command, 1, 0, 0] ++ bytes, by simp [serialize, hemit], ?_⟩
  have hcommand : readGenlmsghdr ([message.command, 1, 0, 0] ++ bytes) = .ok message.command :=
    if_pos hmessage.command
  have hdrop : ([message.command, 1, 0, 0] ++ bytes).drop 4 = bytes := rfl
  rw [deserialize, hcommand, ok_bind, hdrop, hparse]
  rfl

theorem received_eq_self_iff :
    message.received = message ↔ ∀ time ∈ message.handshakeTimes, time.tvNsec = time.tvSec := by
  obtain ⟨nlas, messageType, command⟩ := message
  simp only [received, handshakeTimes, mk.injEq, and_true, map_eq_self_iff, mem_flatMap,
    DeviceNla.received_eq_self_iff]
  constructor
  · rintro h time ⟨nla, hnla, htime⟩
    exact h nla hnla time htime
  · intro h nla hnla time htime
    exact h time ⟨nla, hnla, htime⟩

/-- A message comes back as it was sent if the nanoseconds of its handshake times are their seconds. -/
theorem round_trip_iff (nativeEnd : Endianness) (framing : Framing DecodeError) (message : DeviceMessage)
    (hframing : framing.Correct) (hmessage : message.WellFormed nativeEnd framing) :
    (∃ payload, message.serialize nativeEnd framing = some payload ∧
        deserialize nativeEnd framing message.messageType payload = .ok message) ↔
      ∀ time ∈ message.handshakeTimes, time.tvNsec = time.tvSec := by
  obtain ⟨payload, hserialize, hdeserialize⟩ := exists_serialize hframing hmessage
  rw [← received_eq_self_iff, hserialize]
  constructor
  · rintro ⟨payload', hpayload, h⟩
    cases hpayload
    rw [hdeserialize] at h
    exact Except.ok.inj h
  · exact fun h => ⟨payload, rfl, hdeserialize.trans (congrArg _ h)⟩

end DeviceMessage

end Codecs

namespace Sample

def framing : Framing DecodeError :=
  aligned .little .nla

/-- A device with a peer that had a handshake at the time, to an endpoint of IPv6. -/
def handshakeMessage (time : TimeSpec) : DeviceMessage where
  nlas := [.listenPort 51820, .peers [[.endpoint (.v6 1 51820 2 3), .lastHandshakeTime time,
    .allowedIps [.ofIpNetwork (.v4 ⟨0, 0⟩)]]]]
  messageType := 0
  command := 0

theorem handshakeMessage_wellFormed (time : TimeSpec) :
    (handshakeMessage time).WellFormed .little framing where
  command := .inl rfl
  fits := by
    simp [handshakeMessage, Fits, DeviceNla.valueLen, bufferLenAll, nest, PeerNla.codec,
      PeerNla.valueLen, AllowedIpNla.codec, AllowedIpNla.valueLen, AllowedIpMessage.ofIpNetwork,
      ipAddrToBytes, framing, aligned, padding]

end Sample

theorem DeviceMessage.round_trip_epoch :
    ∃ payload, (Sample.handshakeMessage ⟨0, 0⟩).serialize .little Sample.framing = some payload ∧
      deserialize .little Sample.framing 0 payload = .ok (Sample.handshakeMessage ⟨0, 0⟩) :=
  (round_trip_iff .little Sample.framing _ (aligned_correct ..)
    (Sample.handshakeMessage_wellFormed _)).mpr (by decide)

/-- One second after the epoch is read as one second and one nanosecond. -/
theorem DeviceMessage.nanoseconds_lost :
    (∃ payload, (Sample.handshakeMessage ⟨1, 0⟩).serialize .little Sample.framing = some payload ∧
      deserialize .little Sample.framing 0 payload = .ok (Sample.handshakeMessage ⟨1, 1⟩)) ∧
    Sample.handshakeMessage ⟨1, 1⟩ ≠ Sample.handshakeMessage ⟨1, 0⟩ := by
  refine ⟨exists_serialize (aligned_correct ..) (Sample.handshakeMessage_wellFormed ⟨1, 0⟩), ?_⟩
  change (Sample.handshakeMessage ⟨1, 0⟩).received ≠ _
  rw [Ne, received_eq_self_iff]
  decide

def PeerMessage.ofPeerConfig (peer : PeerConfig) : PeerMessage :=
  [.publicKey peer.publicKey, .endpoint peer.endpoint,
    .allowedIps (peer.allowedIps.map AllowedIpMessage.ofIpNetwork),
    -- `WGPEER_F_REPLACE_ALLOWEDIPS`.
    .flags 2] ++ peer.psk.toList.map .presharedKey

section Reset

variable {target : Target}

def DeviceMessage.resetConfig (messageType : BitVec 16) (interfaceIndex : BitVec 32)
    (config : Config target) (hos : target.os = .linux) : DeviceMessage where
  nlas :=
    [.ifIndex interfaceIndex, .listenPort 0, .fwmark ((config.fwmark hos).getD 0),
      .privateKey config.tunnel.privateKey,
      -- `WGDEVICE_F_REPLACE_PEERS`.
      .flags 1,
      .peers (config.peers.map PeerMessage.ofPeerConfig)]
  messageType := messageType
  command := 1

/-- The attribute is there with the value, and with no other. -/
def Only {α β : Type} (nlas : List α) (nla : β → α) (value : β) : Prop :=
  ∀ x, nla x ∈ nlas ↔ x = value

def AllowedIpMessage.Specifies (message : AllowedIpMessage) : IpNetwork → Prop
  | .v4 net => Only message .addressFamily afInet ∧ Only message .ipAddr (.v4 net.ip) ∧
      ∃ mask, Only message .cidrMask mask ∧ mask.toNat = net.prefixLen
  | .v6 net => Only message .addressFamily afInet6 ∧ Only message .ipAddr (.v6 net.ip) ∧
      ∃ mask, Only message .cidrMask mask ∧ mask.toNat = net.prefixLen

structure PeerMessage.Specifies (message : PeerMessage) (peer : PeerConfig) : Prop where
  publicKey : Only message .publicKey peer.publicKey
  endpoint : Only message .endpoint peer.endpoint
  presharedKey : ∀ key, .presharedKey key ∈ message ↔ peer.psk = some key
  flags : Only message .flags 2
  allowedIps : ∃ ips, Only message .allowedIps ips ∧ Forall₂ AllowedIpMessage.Specifies ips peer.allowedIps

structure DeviceMessage.Specifies (message : DeviceMessage) (config : Config target)
    (hos : target.os = .linux) : Prop where
  privateKey : Only message.nlas .privateKey config.tunnel.privateKey
  fwmark : Only message.nlas .fwmark ((config.fwmark hos).getD 0)
  flags : Only message.nlas .flags 1
  peers : ∃ peers, Only message.nlas .peers peers ∧ Forall₂ PeerMessage.Specifies peers config.peers

theorem AllowedIpMessage.ofIpNetwork_specifies (net : IpNetwork) : (ofIpNetwork net).Specifies net := by
  rcases net with net | net
  all_goals
    have hmask : (BitVec.ofNat 8 net.prefixLen).toNat = net.prefixLen := by
      rw [BitVec.toNat_ofNat]
      omega
    exact ⟨by simp [Only, ofIpNetwork], by simp [Only, ofIpNetwork], _, by simp [Only, ofIpNetwork], hmask⟩

theorem PeerMessage.ofPeerConfig_specifies (peer : PeerConfig) : (ofPeerConfig peer).Specifies peer where
  publicKey := by simp [Only, ofPeerConfig]
  endpoint := by simp [Only, ofPeerConfig]
  presharedKey := by simp [ofPeerConfig]
  flags := by simp [Only, ofPeerConfig]
  allowedIps := by
    refine ⟨peer.allowedIps.map .ofIpNetwork, by simp [Only, ofPeerConfig], ?_⟩
    rw [forall₂_map_left_iff, forall₂_same]
    exact fun net _ => AllowedIpMessage.ofIpNetwork_specifies net

namespace DeviceMessage

variable {messageType : BitVec 16} {interfaceIndex : BitVec 32} {config : Config target}
  {hos : target.os = .linux}

theorem resetConfig_specifies : (resetConfig messageType interfaceIndex config hos).Specifies config hos where
  privateKey := by simp [Only, resetConfig]
  fwmark := by simp [Only, resetConfig]
  flags := by simp [Only, resetConfig]
  peers := by
    refine ⟨config.peers.map .ofPeerConfig, by simp [Only, resetConfig], ?_⟩
    rw [forall₂_map_left_iff, forall₂_same]
    exact fun peer _ => PeerMessage.ofPeerConfig_specifies peer

theorem reset_config_faithful (nativeEnd : Endianness) (framing : Framing DecodeError)
    (hframing : framing.Correct) (messageType : BitVec 16) (interfaceIndex : BitVec 32)
    (config : Config target) (hos : target.os = .linux)
    (hfits : Fits (framing.bufferLenAll (framing.nest (PeerNla.codec nativeEnd framing))
      (config.peers.map PeerMessage.ofPeerConfig))) :
    ∃ payload message,
      (resetConfig messageType interfaceIndex config hos).serialize nativeEnd framing = some payload ∧
      deserialize nativeEnd framing messageType payload = .ok message ∧ message.Specifies config hos := by
  have hmessage : (resetConfig messageType interfaceIndex config hos).WellFormed nativeEnd framing := by
    refine ⟨.inr rfl, ?_⟩
    simp only [resetConfig, forall_mem_cons, DeviceNla.valueLen]
    exact ⟨by decide, by decide, by decide, by decide, by decide, hfits, by simp⟩
  obtain ⟨payload, hserialize, hdeserialize⟩ := exists_serialize hframing hmessage
  have hreceived : (resetConfig messageType interfaceIndex config hos).received = _ :=
    received_eq_self_iff.mpr (by simp [resetConfig, handshakeTimes, DeviceNla.handshakeTimes,
      PeerMessage.ofPeerConfig, PeerNla.handshakeTime])
  rw [hreceived] at hdeserialize
  exact ⟨payload, _, hserialize, hdeserialize, resetConfig_specifies⟩

end DeviceMessage

end Reset

namespace Sample

/-- A peer with so many allowed IPs that its length is 65536. -/
def manyIps (ips : Nat) : Config linux where
  tunnel := ⟨Vector.replicate 32 1, [.v4 1]⟩
  entryPeer := ⟨Vector.replicate 32 2, replicate ips (.v4 ⟨0, 0⟩), .v4 1 51820, none, false⟩
  exitPeer := none
  ipv4Gateway := 1
  ipv6Gateway := none
  mtu := 1380
  fwmark := fun _ => none
  enableIpv6 := fun _ => false
  obfuscatorConfig := none
  quantumResistant := false
  daita := false

theorem bufferLenAll_manyIps (ips : Nat) :
    framing.bufferLenAll (framing.nest (PeerNla.codec .little framing))
      ((manyIps ips).peers.map PeerMessage.ofPeerConfig) = 72 + 28 * ips := by
  simp [manyIps, Config.peers, PeerMessage.ofPeerConfig, bufferLenAll, nest,
    PeerNla.codec, PeerNla.valueLen, AllowedIpNla.codec, AllowedIpNla.valueLen,
    AllowedIpMessage.ofIpNetwork, ipAddrToBytes, framing, aligned, padding]
  omega

end Sample

/-- An entry with three allowed IPs, and an exit with a preshared key and networks of both versions. -/
theorem DeviceMessage.reset_config_multihop :
    let config := { Sample.manyIps 3 with exitPeer := some ⟨Vector.replicate 32 3,
      [.v4 ⟨0x0a400001, 10⟩, .v6 ⟨1, 64⟩], .v6 1 51820 2 3, some (Vector.replicate 32 4), false⟩ }
    ∃ payload message, (resetConfig 0 1 config rfl).serialize .little Sample.framing = some payload ∧
      deserialize .little Sample.framing 0 payload = .ok message ∧ message.Specifies config rfl :=
  reset_config_faithful .little Sample.framing (aligned_correct ..) 0 1 _ rfl (by decide)

/-- With 2338 allowed IPs the length of the peers does not fit. -/
theorem DeviceMessage.too_many_ips : Sample.framing.Correct ∧
    ¬ ∃ payload message,
      (resetConfig 0 1 (Sample.manyIps 2338) rfl).serialize .little Sample.framing = some payload ∧
      deserialize .little Sample.framing 0 payload = .ok message ∧
      message.Specifies (Sample.manyIps 2338) rfl := by
  refine ⟨aligned_correct .., ?_⟩
  rintro ⟨payload, message, hserialize, -⟩
  have hpeers : Sample.framing.emitNla (DeviceNla.codec .little Sample.framing)
      (.peers ((Sample.manyIps 2338).peers.map PeerMessage.ofPeerConfig)) = none := by
    apply aligned_emitNla_eq_none
    change ¬ Fits (Sample.framing.bufferLenAll _ _)
    rw [Sample.bufferLenAll_manyIps]
    decide
  have hmem : _ ∈ (resetConfig 0 1 (Sample.manyIps 2338) rfl).nlas :=
    mem_of_mem_getLast? rfl
  have hnone := emitAll_eq_none hmem hpeers
  rw [serialize, hnone] at hserialize
  cases hserialize

end MullvadVpn.Wireguard
