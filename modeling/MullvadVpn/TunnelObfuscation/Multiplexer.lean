import MullvadVpn.Net.Address
import MullvadVpn.Systems.TransitionSystem

/-!
The multiplexer (`tunnel-obfuscation/src/multiplexer.rs`): packets of WireGuard go to all running transports,
until one of them answers and is selected. The answers are then forwarded by a task that does not look at the
address they come from. A step is one turn of the event loop or of a task, with all sends succeeding; there is
none once the multiplexer returns. What was sent and delivered is kept beside the state.
-/

namespace MullvadVpn.TunnelObfuscation

open Net Systems

abbrev Packet := List UInt8

inductive Transport (Settings : Type) where
  | direct (addr : SocketAddr)
  | obfuscated (settings : Settings)

inductive Phase where
  | discovery
  | connected (localAddress proxyAddress : SocketAddr)
  deriving DecidableEq

structure Multiplexer (Settings : Type) where
  /-- The keys of the map. -/
  runningEndpoints : List SocketAddr
  transports : List (Transport Settings)
  initialPacketsToSend : List Packet
  wgAddr : Option SocketAddr
  phase : Phase
  sent : SocketAddr → List Packet
  /-- With the addresses the datagrams come from. -/
  delivered : List (SocketAddr × Packet)

inductive Event where
  | wireguard (fromAddr : SocketAddr) (packet : Packet)
  /-- A datagram on the proxy socket of the family of its sender. -/
  | obfuscator (addr : SocketAddr) (packet : Packet)
  /-- The endpoint of the obfuscator, if an obfuscator has to be created and can be. -/
  | tick (created : Option SocketAddr)

def maxInitialPackets : Nat := 100

namespace Multiplexer

variable {Settings : Type}

def new (transports : List (Transport Settings)) : Multiplexer Settings :=
  ⟨[], transports, [], none, .discovery, fun _ => [], []⟩

variable (self : Multiplexer Settings)

def sendTo (addr : SocketAddr) (packets : List Packet) : Multiplexer Settings :=
  { self with sent := Function.update self.sent addr (self.sent addr ++ packets) }

def sendToAll (packet : Packet) : Multiplexer Settings :=
  { self with sent := fun addr =>
      if addr ∈ self.runningEndpoints then self.sent addr ++ [packet] else self.sent addr }

/-- Adds the endpoint and replays the packets to it. -/
def addEndpoint (addr : SocketAddr) : Multiplexer Settings :=
  { self with runningEndpoints := addr :: self.runningEndpoints }.sendTo addr self.initialPacketsToSend

/-- The endpoint that is spawned from the next transport. -/
def spawns (created : Option SocketAddr) : Option SocketAddr :=
  match self.transports with
  | [] => none
  | .direct addr :: _ => some addr
  | .obfuscated _ :: _ => created

def spawnNewTransport (created : Option SocketAddr) : Multiplexer Settings :=
  match self.spawns created with
  | none => { self with transports := self.transports.tail }
  | some addr => { self with transports := self.transports.tail }.addEndpoint addr

def processObfuscatorRecv (addr : SocketAddr) (packet : Packet) : Multiplexer Settings :=
  match self.wgAddr with
  | some wgAddr =>
    if addr ∈ self.runningEndpoints then
      { self with delivered := self.delivered ++ [(addr, packet)], phase := .connected wgAddr addr }
    else self
  | none => self

def step (event : Event) : Option (Multiplexer Settings) :=
  match self.phase, event with
  | .discovery, .wireguard fromAddr packet =>
    if self.initialPacketsToSend.length ≥ maxInitialPackets then none
    else some ({ self with
      wgAddr := some fromAddr
      initialPacketsToSend := self.initialPacketsToSend ++ [packet] }.sendToAll packet)
  | .discovery, .obfuscator addr packet => some (self.processObfuscatorRecv addr packet)
  | .discovery, .tick created => some (self.spawnNewTransport created)
  -- The client socket is connected, so that it receives from the one address only.
  | .connected localAddress proxyAddress, .wireguard fromAddr packet =>
    some (if fromAddr = localAddress then self.sendTo proxyAddress [packet] else self)
  | .connected _ proxyAddress, .obfuscator addr packet =>
    some (if addr.ip.isIpv4 = proxyAddress.ip.isIpv4 then
      { self with delivered := self.delivered ++ [(addr, packet)] } else self)
  | .connected _ _, .tick _ => some self

def system (transports : List (Transport Settings)) : TransitionSystem (Multiplexer Settings) Event where
  Init self := self = new transports
  step := step

/-- The packets of WireGuard in a history, in the order they came. -/
def packets : List Event → List Packet
  | [] => []
  | .wireguard _ packet :: history => packets history ++ [packet]
  | _ :: history => packets history

/-- What is spawned is not running yet. -/
def SpawnsNew (event : Event) : Prop :=
  ∀ created, event = .tick created → ∀ addr ∈ self.spawns created, addr ∉ self.runningEndpoints

structure FannedOut (history : List Event) (state : Multiplexer Settings) : Prop where
  initial : state.initialPacketsToSend = packets history
  running : ∀ addr ∈ state.runningEndpoints, state.sent addr = packets history
  other : ∀ addr ∉ state.runningEndpoints, state.sent addr = []

/-- A datagram that is read while a transport is selected, and does not come from it. -/
def Foreign (event : Event) : Prop :=
  ∃ localAddress proxyAddress addr packet, self.phase = .connected localAddress proxyAddress ∧
    event = .obfuscator addr packet ∧ addr.ip.isIpv4 = proxyAddress.ip.isIpv4 ∧ addr ≠ proxyAddress

variable {self} {self' : Multiplexer Settings} {event : Event} {history : List Event}
  {transports : List (Transport Settings)}

theorem FannedOut.step (h : FannedOut history self) (hnew : self.SpawnsNew event)
    (hbefore : self.phase = .discovery) (hstep : self.step event = some self')
    (hafter : self'.phase = .discovery) : FannedOut (event :: history) self' := by
  cases event with
  | wireguard fromAddr packet =>
    simp only [Multiplexer.step, hbefore] at hstep
    split_ifs at hstep
    cases hstep
    refine ⟨congrArg (· ++ [packet]) h.initial, fun addr haddr => ?_, fun addr haddr => ?_⟩
    · exact (if_pos haddr).trans (congrArg (· ++ [packet]) (h.running addr haddr))
    · exact (if_neg haddr).trans (h.other addr haddr)
  | obfuscator addr packet =>
    simp only [Multiplexer.step, hbefore, processObfuscatorRecv] at hstep
    split at hstep
    · split_ifs at hstep <;> cases hstep
      · cases hafter
      · exact ⟨h.initial, h.running, h.other⟩
    · cases hstep
      exact ⟨h.initial, h.running, h.other⟩
  | tick created =>
    simp only [Multiplexer.step, hbefore, spawnNewTransport] at hstep
    cases hspawns : self.spawns created with
    | none =>
      rw [hspawns] at hstep
      cases hstep
      exact ⟨h.initial, h.running, h.other⟩
    | some new =>
      rw [hspawns] at hstep
      cases hstep
      have hfresh := h.other new (hnew created rfl new hspawns)
      refine ⟨h.initial, fun addr haddr => ?_, fun addr haddr => ?_⟩
      · by_cases heq : addr = new
        · subst heq
          refine (Function.update_self ..).trans ?_
          rw [hfresh, List.nil_append]
          exact h.initial
        · exact (Function.update_of_ne heq ..).trans
            (h.running addr ((List.mem_cons.mp haddr).resolve_left heq))
      · obtain ⟨hne, hnot⟩ := not_or.mp (mt List.mem_cons.mpr haddr)
        exact (Function.update_of_ne hne ..).trans (h.other addr hnot)

theorem step_connected {localAddress proxyAddress : SocketAddr}
    (hphase : self.phase = .connected localAddress proxyAddress) (hstep : self.step event = some self') :
    self'.phase = self.phase ∧ self'.runningEndpoints = self.runningEndpoints ∧
      (self'.delivered = self.delivered ∧ ¬self.Foreign event ∨ ∃ addr packet,
        event = .obfuscator addr packet ∧ addr.ip.isIpv4 = proxyAddress.ip.isIpv4 ∧
          self'.delivered = self.delivered ++ [(addr, packet)]) := by
  cases event with
  | wireguard fromAddr packet =>
    simp only [step, hphase, Option.some.injEq] at hstep
    subst hstep
    split_ifs <;> exact ⟨rfl, rfl, .inl ⟨rfl, by simp [Foreign]⟩⟩
  | obfuscator addr packet =>
    simp only [step, hphase, Option.some.injEq] at hstep
    subst hstep
    split_ifs with hsocket
    · exact ⟨hphase.symm, rfl, .inr ⟨addr, packet, rfl, hsocket, rfl⟩⟩
    · refine ⟨rfl, rfl, .inl ⟨rfl, ?_⟩⟩
      rintro ⟨_, _, _, _, hphase', ⟨⟩, hsocket', -⟩
      cases hphase.symm.trans hphase'
      exact hsocket hsocket'
  | tick created =>
    simp only [step, hphase, Option.some.injEq] at hstep
    subst hstep
    exact ⟨rfl, rfl, .inl ⟨rfl, by simp [Foreign]⟩⟩

/-- In every run of the discovery whose transports have distinct endpoints, each of the running ones was sent
the packets of WireGuard, once and in order, whenever it was spawned. -/
theorem running_sent_packets
    (hrun : (system transports).RunWhere (fun _ before event => before.SpawnsNew event) history self)
    (hdiscovery : self.phase = .discovery) (addr : SocketAddr) (hrunning : addr ∈ self.runningEndpoints) :
    self.sent addr = packets history := by
  refine (TransitionSystem.RunWhere.invariant
    (I := fun history self => self.phase = .discovery → FannedOut history self) ?_ ?_ hrun
    hdiscovery).running addr hrunning
  · rintro _ rfl _
    exact ⟨rfl, nofun, fun _ _ => rfl⟩
  · intro history before event after _ hnew ih hstep hafter
    cases hbefore : before.phase with
    | discovery => exact (ih hbefore).step hnew hbefore hstep hafter
    | connected => cases hafter.symm.trans ((step_connected hbefore hstep).1.trans hbefore)

/-- A transport that is spawned after the first packet. -/
theorem late_transport_sent_packets :
    ∃ self : Multiplexer Unit, ⟨.v4 1, 1⟩ ∈ self.runningEndpoints ∧ self.sent ⟨.v4 1, 1⟩ = [[1]] := by
  have hrun : (system [(.direct ⟨.v4 1, 1⟩ : Transport Unit)]).RunWhere
      (fun _ before event => before.SpawnsNew event) [.tick none, .wireguard ⟨.v4 0, 1⟩ [1]] _ :=
    .step (.step (.init rfl) nofun rfl) (fun _ _ _ _ => nofun) rfl
  exact ⟨_, .head _, running_sent_packets hrun rfl _ (.head _)⟩

/-- What was delivered came from running endpoints, and from the selected one if there is one. -/
def FromTransports (self : Multiplexer Settings) : Prop :=
  ∀ datagram ∈ self.delivered, datagram.1 ∈ self.runningEndpoints ∧
    ∀ localAddress proxyAddress, self.phase = .connected localAddress proxyAddress → datagram.1 = proxyAddress

structure Sound (state : Multiplexer Settings) : Prop where
  discovery : state.phase = .discovery → state.delivered = []
  connected : ∀ localAddress proxyAddress, state.phase = .connected localAddress proxyAddress →
    proxyAddress ∈ state.runningEndpoints ∧ ∀ datagram ∈ state.delivered, datagram.1 = proxyAddress

theorem Sound.fromTransports (h : self.Sound) : self.FromTransports := by
  intro datagram hdatagram
  cases hphase : self.phase with
  | discovery =>
    rw [h.discovery hphase] at hdatagram
    cases hdatagram
  | connected localAddress proxyAddress =>
    obtain ⟨hrunning, hfrom⟩ := h.connected _ _ hphase
    refine ⟨hfrom datagram hdatagram ▸ hrunning, ?_⟩
    rintro _ _ ⟨⟩
    exact hfrom datagram hdatagram

theorem Sound.step (h : self.Sound) (hforeign : ¬self.Foreign event) (hstep : self.step event = some self') :
    self'.Sound := by
  cases hphase : self.phase with
  | connected localAddress proxyAddress =>
    obtain ⟨hphase', hrunning, hdelivered⟩ := step_connected hphase hstep
    obtain ⟨hproxy, hfrom⟩ := h.connected _ _ hphase
    refine ⟨fun hdiscovery => ?_, fun _ _ hconnected => ?_⟩
    · cases hdiscovery.symm.trans (hphase'.trans hphase)
    cases hconnected.symm.trans (hphase'.trans hphase)
    rw [hrunning]
    rcases hdelivered with ⟨hsame, -⟩ | ⟨addr, packet, rfl, hsocket, hmore⟩
    · rw [hsame]
      exact ⟨hproxy, hfrom⟩
    · have haddr : addr = proxyAddress := by
        by_contra hne
        exact hforeign ⟨_, _, addr, packet, hphase, rfl, hsocket, hne⟩
      rw [hmore]
      exact ⟨hproxy, List.forall_mem_append.mpr ⟨hfrom, List.forall_mem_singleton.mpr haddr⟩⟩
  | discovery =>
    have hnone := h.discovery hphase
    cases event with
    | wireguard fromAddr packet =>
      simp only [Multiplexer.step, hphase] at hstep
      split_ifs at hstep
      cases hstep
      exact ⟨fun _ => hnone, nofun⟩
    | obfuscator addr packet =>
      simp only [Multiplexer.step, hphase, processObfuscatorRecv, Option.some.injEq] at hstep
      split at hstep
      · split_ifs at hstep with hrunning
        · subst hstep
          refine ⟨nofun, ?_⟩
          rintro _ _ ⟨⟩
          simp [hrunning, hnone]
        · exact hstep ▸ h
      · exact hstep ▸ h
    | tick created =>
      simp only [Multiplexer.step, hphase, spawnNewTransport, Option.some.injEq] at hstep
      split at hstep <;> subst hstep <;> exact ⟨fun _ => hnone, nofun⟩

/-- In a run WireGuard gets datagrams of running endpoints only, and of the selected one once there is one,
exactly if no other address sends to the socket that is used for the selected endpoint. -/
theorem run_fromTransports_iff (history : List Event) (self : Multiplexer Settings) :
    (system transports).RunWhere
        (fun _ before event => ∀ after ∈ before.step event, after.FromTransports) history self ↔
      (system transports).RunWhere (fun _ before event => ¬before.Foreign event) history self := by
  have hnot : ∀ {before after : Multiplexer Settings} {event}, before.step event = some after →
      after.FromTransports → ¬before.Foreign event := by
    rintro before after _ hstep hfrom ⟨_, _, addr, packet, hphase, rfl, hsocket, hne⟩
    obtain ⟨hphase', -, ⟨-, hforeign⟩ | ⟨_, _, ⟨⟩, -, hmore⟩⟩ := step_connected hphase hstep
    · exact hforeign ⟨_, _, addr, packet, hphase, rfl, hsocket, hne⟩
    · exact hne ((hfrom (addr, packet) (by simp [hmore])).2 _ _ (hphase'.trans hphase))
  refine TransitionSystem.runWhere_congr (I := fun _ self => self.Sound) ?_ ?_ ?_ history self
  · rintro _ rfl
    exact ⟨fun _ => rfl, nofun⟩
  · intro _ before event after hsound hstep
    refine ⟨fun hfrom => hnot hstep (hfrom after hstep), fun hforeign => ?_⟩
    intro after' hstep'
    exact (hsound.step hforeign hstep').fromTransports
  · exact fun _ before event after hsound hfrom hstep =>
      hsound.step (hnot hstep (hfrom after hstep)) hstep

/-- After a transport was selected, WireGuard gets a datagram of another address. -/
theorem foreign_datagram_delivered :
    ∃ history, ∃ self : Multiplexer Unit,
      (system [.direct ⟨.v4 1, 1⟩]).Run history self ∧ ¬self.FromTransports := by
  refine ⟨[.obfuscator ⟨.v4 2, 1⟩ [3], .obfuscator ⟨.v4 1, 1⟩ [2], .wireguard ⟨.v4 0, 1⟩ [1], .tick none], _,
    (((TransitionSystem.Run.init rfl).step rfl).step rfl).step rfl |>.step rfl, fun hfrom => ?_⟩
  exact absurd (hfrom (⟨.v4 2, 1⟩, [3]) (.tail _ (.head _))).1 (by decide)

end Multiplexer

end MullvadVpn.TunnelObfuscation
