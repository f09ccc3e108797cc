import MullvadVpn.Net.TunnelParameters

/-!
The connectivity check of a WireGuard tunnel (`connectivity/check.rs`), with the time as an argument.
Received traffic and a suspended computer put an end to a phase of pings, and a phase without either that
takes too long means that the connection is lost. How often a ping is sent within a phase is meant to
be limited, but the limit is applied the wrong way round: a ping is followed by further ones only while
they are too many.
-/

namespace MullvadVpn.Wireguard

open Net List

/-- A number of seconds as a duration, in nanoseconds. -/
def seconds (n : Nat) : Nat :=
  n * 10 ^ 9

def bytesRxTimeout : Nat := seconds 5

def trafficTimeout : Nat := seconds 120

def pingTimeout : Nat := seconds 15

def secondsPerPing : Nat := seconds 3

structure Stats where
  txBytes : BitVec 64
  rxBytes : BitVec 64

abbrev StatsMap := List (PublicKey × Stats)

/-- The sum is a `u64`. -/
def StatsMap.txBytes (stats : StatsMap) : BitVec 64 :=
  (stats.map fun peer => peer.2.txBytes).sum

inductive ConnState where
  | connecting (start : Nat) (stats : StatsMap) (txTimestamp : Option Nat)
  | connected (rxTimestamp txTimestamp : Nat) (stats : StatsMap)

namespace ConnState

def isConnected : ConnState → Bool
  | connecting _ _ _ => false
  | connected _ _ _ => true

variable (now : Nat) (newStats : StatsMap) (conn : ConnState)

def rxIncremented : ConnState → Bool
  | connecting _ _ _ => !newStats.isEmpty && newStats.all fun peer => 0 < peer.2.rxBytes
  | connected _ _ stats => stats.all fun peer =>
      (newStats.lookup peer.1).any fun new => peer.2.rxBytes < new.rxBytes

def update : ConnState × Bool :=
  match conn with
  | connecting start stats txTimestamp =>
    if conn.rxIncremented newStats then (connected now (txTimestamp.getD start) newStats, true)
    else if stats.txBytes < newStats.txBytes then (connecting start newStats (some now), false)
    else (conn, false)
  | connected rxTimestamp txTimestamp stats =>
    (connected (if conn.rxIncremented newStats then now else rxTimestamp)
      (if stats.txBytes < newStats.txBytes then now else txTimestamp) newStats,
      conn.rxIncremented newStats)

def resetAfterSuspension : ConnState → ConnState
  | connected _ txTimestamp stats => connected now txTimestamp stats
  | conn => conn

def rxTimedOut : ConnState → Bool
  | connecting start _ _ => bytesRxTimeout ≤ now - start
  | connected rxTimestamp txTimestamp _ =>
    rxTimestamp ≤ txTimestamp && bytesRxTimeout ≤ now - rxTimestamp

def trafficTimedOut : Bool :=
  match conn with
  | connecting _ _ _ => conn.rxTimedOut now
  | connected rxTimestamp txTimestamp _ =>
    trafficTimeout ≤ now - rxTimestamp || trafficTimeout ≤ now - txTimestamp

theorem update_snd : (conn.update now newStats).2 = conn.rxIncremented newStats := by
  cases conn with
  | connecting start stats txTimestamp =>
    simp only [update]
    split_ifs with h <;> simp [h]
  | connected rxTimestamp txTimestamp stats => rfl

theorem isConnected_update {conn : ConnState} (h : conn.isConnected = true) (now : Nat)
    (newStats : StatsMap) : (conn.update now newStats).1.isConnected = true := by
  cases conn with
  | connecting start stats txTimestamp => cases h
  | connected rxTimestamp txTimestamp stats => rfl

end ConnState

/-- The number of pings is a `u32` in the source. With three seconds per ping it does not overflow. -/
structure PingState where
  initialPingTimestamp : Option Nat := none
  numPingsSent : Nat := 0

structure Check where
  conn : ConnState
  ping : PingState

namespace Check

def new (start : Nat) : Check :=
  { conn := .connecting start [] none, ping := {} }

/-- Whether a ping is sent, and how that is remembered. -/
def maybeSendPing (conn : ConnState) (now : Nat) (ping : PingState) : Bool × PingState :=
  if (conn.rxTimedOut now || conn.trafficTimedOut now) && ping.initialPingTimestamp.all fun initial =>
      (now - initial) / ping.numPingsSent < secondsPerPing then
    (true,
      { initialPingTimestamp := some (ping.initialPingTimestamp.getD now)
        numPingsSent := ping.numPingsSent + 1 })
  else (false, ping)

/-- The verdict of a poll, whether it has sent a ping, and the new state. -/
structure Polled where
  established : Bool
  pinged : Bool
  check : Check

/-- Statistics and pings cannot fail here: if they do, the monitor ends with an error. -/
def checkConnectivityInterval (now timeout : Nat) (newStats : StatsMap) (check : Check) : Polled :=
  if newStats.isEmpty then { established := false, pinged := false, check }
  else
    let conn := (check.conn.update now newStats).1
    if (check.conn.update now newStats).2 then
      { established := true, pinged := false, check := { conn, ping := {} } }
    else
      let sent := maybeSendPing conn now check.ping
      let pingTimedOut := sent.2.initialPingTimestamp.any fun initial => timeout < now - initial
      { established := !pingTimedOut && conn.isConnected
        pinged := sent.1
        check := { conn, ping := sent.2 } }

def checkConnectivity (now : Nat) (newStats : StatsMap) (check : Check) : Polled :=
  check.checkConnectivityInterval now pingTimeout newStats

/-- What the monitor does: it polls, or notices that the computer has been suspended. -/
inductive Event where
  | poll (now : Nat) (newStats : StatsMap)
  | reset (now : Nat)

def Event.time : Event → Nat
  | poll now _ | reset now => now

/-- Whether a ping is sent, and the new state. -/
def handle (check : Check) : Event → Bool × Check
  | .poll now newStats =>
    let polled := check.checkConnectivity now newStats
    (polled.pinged, polled.check)
  | .reset now => (false, { conn := check.conn.resetAfterSuspension now, ping := {} })

def run (check : Check) (events : List Event) : Check :=
  events.foldl (fun check event => (check.handle event).2) check

theorem run_append (check : Check) (events more : List Event) :
    check.run (events ++ more) = (check.run events).run more :=
  foldl_append

theorem run_concat (check : Check) (events : List Event) (event : Event) :
    check.run (events ++ [event]) = ((check.run events).handle event).2 :=
  foldl_concat ..

def pings : Check → List Event → Nat
  | _, [] => 0
  | check, event :: events => (check.handle event).1.toNat + (check.handle event).2.pings events

/-- Bytes have been received on all peers, or the computer has been suspended. -/
def restarts (check : Check) : Event → Bool
  | .poll _ newStats => !newStats.isEmpty && check.conn.rxIncremented newStats
  | .reset _ => true

/-- No event puts an end to the phase. -/
def Quiet : Check → List Event → Prop
  | _, [] => True
  | check, event :: events => check.restarts event = false ∧ (check.handle event).2.Quiet events

/-- A ping is sent, and none has been sent in this phase. -/
def Begins (check : Check) (event : Event) : Prop :=
  (check.handle event).1 = true ∧ check.ping = {}

def timedOut (check : Check) : Event → Bool
  | .poll now newStats => !newStats.isEmpty && ((check.conn.update now newStats).1.rxTimedOut now ||
        (check.conn.update now newStats).1.trafficTimedOut now)
  | .reset _ => false

variable {check : Check} {event : Event} {events : List Event} {first : Event} {rest : List Event}

theorem quiet_concat :
    check.Quiet (events ++ [event]) ↔ check.Quiet events ∧ (check.run events).restarts event = false := by
  induction events generalizing check with
  | nil => simp [Quiet, run]
  | cons other events ih => simp only [cons_append, Quiet, ih, and_assoc, run, foldl_cons]

theorem quiet_of_start {more} (h : events <+: more) (hquiet : check.Quiet more) :
    check.Quiet events := by
  induction events generalizing check more with
  | nil => trivial
  | cons event events ih =>
    obtain ⟨rest, rfl⟩ := h
    exact ⟨hquiet.1, ih (prefix_append ..) hquiet.2⟩

theorem handle_of_restarts (h : check.restarts event = true) :
    (check.handle event).1 = false ∧ (check.handle event).2.ping = {} := by
  cases event with
  | reset now => exact ⟨rfl, rfl⟩
  | poll now newStats =>
    obtain ⟨hstats, hincremented⟩ := Bool.and_eq_true_iff.mp h
    rw [Bool.not_eq_true'] at hstats
    simp [handle, checkConnectivity, checkConnectivityInterval, hstats, ConnState.update_snd, hincremented]

theorem checkConnectivityInterval_of_quiet {now : Nat} {newStats} (timeout : Nat)
    (hstats : newStats.isEmpty = false) (h : check.restarts (.poll now newStats) = false) :
    check.checkConnectivityInterval now timeout newStats =
      let conn := (check.conn.update now newStats).1
      let sent := maybeSendPing conn now check.ping
      { established := !(sent.2.initialPingTimestamp.any fun initial => timeout < now - initial) &&
          conn.isConnected
        pinged := sent.1
        check := { conn, ping := sent.2 } } := by
  have hincremented : check.conn.rxIncremented newStats = false := by simpa [restarts, hstats] using h
  simp [checkConnectivityInterval, hstats, ConnState.update_snd, hincremented]

/-- Within a phase, a ping is sent if traffic has timed out and the pings so far are too many. -/
theorem pinged_iff (h : check.restarts event = false) : (check.handle event).1 = true ↔
      check.timedOut event = true ∧ ∀ initial, check.ping.initialPingTimestamp = some initial →
        (event.time - initial) / check.ping.numPingsSent < secondsPerPing := by
  cases event with
  | reset now => cases h
  | poll now newStats =>
    cases hstats : newStats.isEmpty with
    | true => simp [handle, checkConnectivity, checkConnectivityInterval, timedOut, hstats]
    | false =>
      simp only [handle, checkConnectivity, checkConnectivityInterval_of_quiet _ hstats h, maybeSendPing,
        timedOut, hstats, Event.time]
      split_ifs with hsend <;> simpa [Option.all_eq_true] using hsend

theorem ping_handle (h : check.restarts event = false) : (check.handle event).2.ping =
      if (check.handle event).1 then
        { initialPingTimestamp := some (check.ping.initialPingTimestamp.getD event.time)
          numPingsSent := check.ping.numPingsSent + 1 }
      else check.ping := by
  cases event with
  | reset now => cases h
  | poll now newStats =>
    cases hstats : newStats.isEmpty with
    | true => simp [handle, checkConnectivity, checkConnectivityInterval, hstats]
    | false =>
      simp only [handle, checkConnectivity, checkConnectivityInterval_of_quiet _ hstats h, maybeSendPing,
        Event.time]
      split_ifs <;> simp_all

theorem pings_concat :
    check.pings (events ++ [event]) = check.pings events + ((check.run events).handle event).1.toNat := by
  induction events generalizing check with
  | nil => simp [pings, run]
  | cons other events ih => simp only [cons_append, pings, ih, run, foldl_cons, Nat.add_assoc]

theorem initialPingTimestamp_run {t : Nat} (hquiet : check.Quiet events)
    (h : check.ping.initialPingTimestamp = some t) :
    (check.run events).ping.initialPingTimestamp = some t := by
  induction events generalizing check with
  | nil => exact h
  | cons event events ih =>
    refine ih hquiet.2 ?_
    rw [ping_handle hquiet.1, h]
    split_ifs <;> simp [h]

/-- After the first ping, a phase has no further ones if traffic has timed out only later. -/
theorem pings_eq_zero {t : Nat} (hquiet : check.Quiet events) (hping : check.ping = ⟨some t, 1⟩)
    (hfree : ∀ before event, before ++ [event] <+: events → event.time - t < secondsPerPing →
      (check.run before).timedOut event = false) : check.pings events = 0 := by
  induction events generalizing check with
  | nil => rfl
  | cons event events ih =>
    have hnone : (check.handle event).1 = false := by
      rw [← Bool.not_eq_true, pinged_iff hquiet.1, hping]
      rintro ⟨htimedOut, hclose⟩
      have hlt := hclose t rfl
      rw [Nat.div_one] at hlt
      have hfirst : check.timedOut event = false := hfree [] event (by simp) hlt
      rw [hfirst] at htimedOut
      cases htimedOut
    have hnext : (check.handle event).2.ping = ⟨some t, 1⟩ := by
      rw [ping_handle hquiet.1, hnone, ← hping]
      rfl
    rw [pings, hnone, ih hquiet.2 hnext fun before other h => ?_]
    · rfl
    · exact hfree (event :: before) other (by simpa using h)

/-- Within a phase that began with the first event, the number of pings is within the limit at all times,
exactly if traffic has not timed out at any later event that is too close to the first. -/
theorem ping_rate_iff (hbegins : check.Begins first) (hquiet : (check.handle first).2.Quiet rest)
    (htimes : ((first :: rest).map Event.time).Pairwise (· ≤ ·)) :
    (∀ events t, events <+: rest → (∀ event ∈ first :: events, event.time ≤ t) →
        check.pings (first :: events) ≤ 1 + (t - first.time) / secondsPerPing) ↔
      ∀ events event, events ++ [event] <+: rest → event.time - first.time < secondsPerPing →
        ((check.handle first).2.run events).timedOut event = false := by
  obtain ⟨hpinged, hping⟩ := hbegins
  have hfirst : (check.handle first).2.ping = ⟨some first.time, 1⟩ := by
    have hrestarts : check.restarts first = false := by
      by_contra h
      have hnone := (handle_of_restarts (Bool.not_eq_false _ ▸ h)).1
      rw [hpinged] at hnone
      cases hnone
    rw [ping_handle hrestarts, hpinged, hping]
    rfl
  constructor
  · intro hlimit events event hstart hclose
    by_contra htimedOut
    have hquiet' := quiet_concat.mp (quiet_of_start hstart hquiet)
    have hsent : (((check.handle first).2.run events).handle event).1 = true := by
      refine (pinged_iff hquiet'.2).mpr ⟨Bool.not_eq_false _ ▸ htimedOut, fun initial hinitial => ?_⟩
      rw [initialPingTimestamp_run hquiet'.1 (congrArg PingState.initialPingTimestamp hfirst)] at hinitial
      cases hinitial
      exact (Nat.div_le_self ..).trans_lt hclose
    have hbound := hlimit (events ++ [event]) event.time hstart ?_
    · rw [pings, hpinged, pings_concat, hsent, Nat.div_eq_of_lt hclose] at hbound
      rw [Bool.toNat_true] at hbound
      omega
    · obtain ⟨later, rfl⟩ := hstart
      rw [← cons_append, ← cons_append, map_append, map_append] at htimes
      obtain ⟨-, -, hlast⟩ := pairwise_append.mp (pairwise_append.mp htimes).1
      intro other hother
      rcases mem_append.mp (cons_append ▸ hother) with hmem | hmem
      · exact hlast _ (mem_map_of_mem hmem) _ (mem_singleton_self _)
      · rw [mem_singleton.mp hmem]
  · intro hfree events t hstart htime
    rw [pings, hpinged, pings_eq_zero (quiet_of_start hstart hquiet) hfirst fun before event h =>
      hfree before event (h.trans hstart)]
    exact Nat.le_add_right _ _

namespace Sample

/-- Bytes have been sent to and received from one peer. -/
def stats : StatsMap :=
  [(⟨0⟩, ⟨1, 1⟩)]

def connected : Check :=
  { conn := .connected 0 0 stats, ping := {} }

end Sample

/-- Two polls that are three seconds apart. -/
theorem ping_rate_three_seconds :
    Sample.connected.pings [.poll (seconds 5) Sample.stats, .poll (seconds 8) Sample.stats] ≤
      1 + (seconds 8 - seconds 5) / secondsPerPing := by
  refine (@ping_rate_iff Sample.connected (.poll (seconds 5) Sample.stats)
    [.poll (seconds 8) Sample.stats] ⟨rfl, rfl⟩ ⟨rfl, trivial⟩ (by decide)).mpr ?_ _ (seconds 8)
    (prefix_refl _) (by decide)
  intro events event hstart hclose
  obtain rfl : events = [] := length_eq_zero_iff.mp (by simpa using hstart.length_le)
  obtain rfl : event = .poll (seconds 8) Sample.stats := by simpa using hstart
  exact absurd hclose (by decide)

/-- Two pings within a second. -/
theorem pings_too_close :
    Sample.connected.Begins (.poll (seconds 5) Sample.stats) ∧
      (Sample.connected.handle (.poll (seconds 5) Sample.stats)).2.Quiet [.poll (seconds 6) Sample.stats] ∧
      1 + (seconds 6 - seconds 5) / secondsPerPing <
        Sample.connected.pings [.poll (seconds 5) Sample.stats, .poll (seconds 6) Sample.stats] :=
  ⟨⟨rfl, rfl⟩, ⟨rfl, trivial⟩, by decide⟩

theorem ping_eq_of_none (start : Nat) (h : ((new start).run events).ping.initialPingTimestamp = none) :
    ((new start).run events).ping = {} := by
  induction events using reverseRecOn with
  | nil => rfl
  | append_singleton events event ih =>
    rw [run_concat] at h ⊢
    cases hrestarts : ((new start).run events).restarts event with
    | true => exact (handle_of_restarts hrestarts).2
    | false =>
      rw [ping_handle hrestarts] at h ⊢
      split_ifs at h ⊢
      exact ih h

/-- A phase that has begun with the given event goes on as long as no event puts an end to it. -/
theorem quiet_after_concat {before after} (start : Nat)
    (h : events = before ++ first :: after) :
    ((new start).run (before ++ [first])).Quiet (after ++ [event]) ↔
      ((new start).run (before ++ [first])).Quiet after ∧ ((new start).run events).restarts event = false := by
  rw [quiet_concat, ← run_append, append_assoc, singleton_append, ← h]

theorem initialPingTimestamp_iff (start t : Nat) :
    ((new start).run events).ping.initialPingTimestamp = some t ↔
      ∃ before first after, events = before ++ first :: after ∧ ((new start).run before).Begins first ∧
        ((new start).run (before ++ [first])).Quiet after ∧ first.time = t := by
  induction events using reverseRecOn with
  | nil => simp [run, new]
  | append_singleton events event ih =>
    -- The phase begins with the last event, or it has begun before and goes on.
    have hstep : ((new start).run (events ++ [event])).ping.initialPingTimestamp = some t ↔
        ((new start).run events).Begins event ∧ event.time = t ∨
          ((new start).run events).ping.initialPingTimestamp = some t ∧
            ((new start).run events).restarts event = false := by
      rw [run_concat, Begins]
      cases hrestarts : ((new start).run events).restarts event with
      | true => simp [handle_of_restarts hrestarts]
      | false =>
        rw [ping_handle hrestarts]
        cases hinitial : ((new start).run events).ping.initialPingTimestamp with
        | none =>
          rw [ping_eq_of_none start hinitial]
          split_ifs with hpinged <;> simp [hpinged]
        | some initial =>
          have hne : ((new start).run events).ping ≠ {} := fun h => by simp [h] at hinitial
          split_ifs <;> simp [hne, hinitial]
    rw [hstep, ih]
    constructor
    · rintro (⟨hbegins, htime⟩ | ⟨⟨before, first, after, heq, hbegins, hquiet, htime⟩, hrestarts⟩)
      · exact ⟨events, event, [], rfl, hbegins, trivial, htime⟩
      · refine ⟨before, first, after ++ [event], by rw [heq]; simp, hbegins, ?_, htime⟩
        exact (quiet_after_concat start heq).mpr ⟨hquiet, hrestarts⟩
    · rintro ⟨before, first, after, heq, hbegins, hquiet, htime⟩
      rcases eq_nil_or_concat after with rfl | ⟨after, last, rfl⟩
      · obtain ⟨rfl, hlast⟩ := append_inj' heq rfl
        cases hlast
        exact .inl ⟨hbegins, htime⟩
      · rw [concat_eq_append, ← cons_append, ← append_assoc] at heq
        obtain ⟨rfl, hlast⟩ := append_inj' heq rfl
        cases hlast
        obtain ⟨hquiet, hrestarts⟩ := (quiet_after_concat start rfl).mp (concat_eq_append ▸ hquiet)
        exact .inr ⟨⟨before, first, after, rfl, hbegins, hquiet, htime⟩, hrestarts⟩

/-- Once connected, the connection is considered lost exactly if a phase has begun, nothing has put an
end to it, and it has taken too long. -/
theorem not_established_iff (start now : Nat) (events : List Event) {newStats : StatsMap}
    (hstats : newStats ≠ []) (hconnected : ((new start).run events).conn.isConnected = true) :
    (((new start).run events).checkConnectivity now newStats).established = false ↔
      ∃ before first after, events = before ++ first :: after ∧ ((new start).run before).Begins first ∧
        ((new start).run (before ++ [first])).Quiet (after ++ [.poll now newStats]) ∧
          pingTimeout < now - first.time := by
  have hempty : newStats.isEmpty = false := isEmpty_eq_false_iff.mpr hstats
  have hverdict : (((new start).run events).checkConnectivity now newStats).established = false ↔
      ((new start).run events).restarts (.poll now newStats) = false ∧
        ∃ t, ((new start).run events).ping.initialPingTimestamp = some t ∧ pingTimeout < now - t := by
    unfold checkConnectivity
    cases hrestarts : ((new start).run events).restarts (.poll now newStats) with
    | true =>
      have hincremented : ((new start).run events).conn.rxIncremented newStats = true := by
        simpa [restarts, hempty] using hrestarts
      simp [checkConnectivityInterval, hempty, ConnState.update_snd, hincremented]
    | false =>
      rw [checkConnectivityInterval_of_quiet _ hempty hrestarts]
      simp only [maybeSendPing, ConnState.isConnected_update hconnected]
      split_ifs <;> cases ((new start).run events).ping.initialPingTimestamp <;> simp
  rw [hverdict]
  simp only [initialPingTimestamp_iff]
  constructor
  · rintro ⟨hrestarts, t, ⟨before, first, after, heq, hbegins, hquiet, rfl⟩, hlong⟩
    exact ⟨before, first, after, heq, hbegins, (quiet_after_concat start heq).mpr ⟨hquiet, hrestarts⟩, hlong⟩
  · rintro ⟨before, first, after, heq, hbegins, hquiet, hlong⟩
    obtain ⟨hquiet, hrestarts⟩ := (quiet_after_concat start heq).mp hquiet
    exact ⟨hrestarts, first.time, ⟨before, first, after, heq, hbegins, hquiet, rfl⟩, hlong⟩

/-- Connected after one second, and then silence. -/
theorem not_established_silence :
    let events := [1, 6, 11, 16].map fun n => Event.poll (seconds n) [(⟨0⟩, ⟨.ofNat 64 n, 1⟩)]
    ∃ before first after, events = before ++ first :: after ∧ ((new 0).run before).Begins first ∧
      ((new 0).run (before ++ [first])).Quiet (after ++ [.poll (seconds 22) Sample.stats]) ∧
        pingTimeout < seconds 22 - first.time :=
  (not_established_iff 0 (seconds 22) _ (by decide) rfl).mp rfl

end Check

end MullvadVpn.Wireguard
