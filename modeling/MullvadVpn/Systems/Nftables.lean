import Mathlib

/-!
Packets and the rule language of netfilter. A rule runs its expressions in order over one register;
an expression that has nothing to load and a comparison that fails end the rule, and a verdict ends
the chain. Three notions carry the reasoning: the packets that a list of expressions lets through
(`Guards`), those that the rules of a chain accept at most (`Permits`), and rules that do nothing but
accept (`Accepts`).
-/

namespace MullvadVpn.Systems.Nftables

open List

inductive NetworkHeader where
  | ipv4 (saddr daddr : BitVec 32)
  | ipv6 (saddr daddr : BitVec 128)

/-- The transport header as far as it can be read. A fragment without one is `other` with the number
of its protocol. -/
inductive TransportHeader where
  | udp (sport dport : BitVec 16)
  | tcp (sport dport : BitVec 16)
  | icmpv6 (type code : BitVec 8)
  | other (protocol : Nat)

structure Packet where
  network : NetworkHeader
  transport : TransportHeader
  /-- The index of the interface it came in through, 0 if there is none. -/
  iif : Nat
  oif : Nat
  /-- The owner of the socket, if there is a socket. -/
  skuid : Option Nat
  cgroup : Option Nat
  mark : Nat
  ctState : Nat
  /-- The mark of the connection, if the packet is tracked. -/
  ctMark : Option Nat

/-- What an expression can load into the register. -/
inductive Source where
  | iif
  | oif
  | nfproto
  | l4proto
  | skuid
  | cgroup
  | metaMark
  | ctState
  | ctMark
  | ipv4Saddr
  | ipv4Daddr
  | ipv6Saddr
  | ipv6Daddr
  | udpSport
  | udpDport
  | tcpSport
  | tcpDport
  | icmpv6Type
  | icmpv6Code

def nfprotoIpv4 : Nat := 2
def nfprotoIpv6 : Nat := 10
def ipprotoTcp : Nat := 6
def ipprotoUdp : Nat := 17
def ipprotoIcmpv6 : Nat := 58

namespace Packet

variable (packet : Packet)

def nfproto : Nat :=
  match packet.network with
  | .ipv4 _ _ => nfprotoIpv4
  | .ipv6 _ _ => nfprotoIpv6

def l4proto : Nat :=
  match packet.transport with
  | .udp _ _ => ipprotoUdp
  | .tcp _ _ => ipprotoTcp
  | .icmpv6 _ _ => ipprotoIcmpv6
  | .other protocol => protocol

/-- The value of a source. A field of a header that the packet does not have has none; rules check the
protocol before they load one. -/
def read : Source → Option Nat
  | .iif => some packet.iif
  | .oif => some packet.oif
  | .nfproto => some packet.nfproto
  | .l4proto => some packet.l4proto
  | .skuid => packet.skuid
  | .cgroup => packet.cgroup
  | .metaMark => some packet.mark
  | .ctState => some packet.ctState
  | .ctMark => packet.ctMark
  | .ipv4Saddr =>
    match packet.network with
    | .ipv4 saddr _ => some saddr.toNat
    | _ => none
  | .ipv4Daddr =>
    match packet.network with
    | .ipv4 _ daddr => some daddr.toNat
    | _ => none
  | .ipv6Saddr =>
    match packet.network with
    | .ipv6 saddr _ => some saddr.toNat
    | _ => none
  | .ipv6Daddr =>
    match packet.network with
    | .ipv6 _ daddr => some daddr.toNat
    | _ => none
  | .udpSport | .tcpSport =>
    match packet.transport with
    | .udp sport _ | .tcp sport _ => some sport.toNat
    | _ => none
  | .udpDport | .tcpDport =>
    match packet.transport with
    | .udp _ dport | .tcp _ dport => some dport.toNat
    | _ => none
  | .icmpv6Type =>
    match packet.transport with
    | .icmpv6 type _ => some type.toNat
    | _ => none
  | .icmpv6Code =>
    match packet.transport with
    | .icmpv6 _ code => some code.toNat
    | _ => none

end Packet

inductive RejectionType where
  | icmpPortUnreach
  | tcpRst
  deriving DecidableEq

inductive Verdict where
  | accept
  | drop
  | reject (type : RejectionType)
  /-- Accept with the source address rewritten. -/
  | masquerade
  deriving DecidableEq

inductive CmpOp where
  | eq
  | neq

def CmpOp.holds : CmpOp → Nat → Nat → Bool
  | eq, a, b => a == b
  | neq, a, b => a != b

inductive Expr where
  | load (source : Source)
  | immediate (data : Nat)
  | bitwise (mask xor : Nat)
  | cmp (op : CmpOp) (data : Nat)
  | metaMarkSet
  | ctMarkSet
  | counter
  | verdict (verdict : Verdict)

/-- How a rule goes on after an expression. -/
inductive Flow where
  | next (register : Nat) (packet : Packet)
  | stop
  | decided (verdict : Verdict)

def Expr.eval (register : Nat) (packet : Packet) : Expr → Flow
  | load source =>
    match packet.read source with
    | some value => .next value packet
    | none => .stop
  | immediate data => .next data packet
  | bitwise mask xor => .next ((register &&& mask) ^^^ xor) packet
  | cmp op data => if op.holds register data then .next register packet else .stop
  | metaMarkSet => .next register { packet with mark := register }
  -- an untracked packet has no connection to mark
  | ctMarkSet => .next register { packet with ctMark := packet.ctMark.map fun _ => register }
  | counter => .next register packet
  | verdict v => .decided v

/-- Run expressions. Without a verdict the packet goes on to the next rule. -/
def run : List Expr → Nat → Packet → Option Verdict × Packet
  | [], _, packet => (none, packet)
  | expr :: exprs, register, packet =>
    match expr.eval register packet with
    | .next register packet => run exprs register packet
    | .stop => (none, packet)
    | .decided verdict => (some verdict, packet)

structure Rule (χ : Type*) where
  chain : χ
  exprs : List Expr

variable {χ : Type*}

/-- Send a packet through the rules of one chain. Without a verdict the policy of the chain decides. -/
def evaluate [DecidableEq χ] (chain : χ) : List (Rule χ) → Packet → Option Verdict × Packet
  | [], packet => (none, packet)
  | rule :: rules, packet =>
    if rule.chain = chain then
      match run rule.exprs 0 packet with
      | (some verdict, packet) => (some verdict, packet)
      | (none, packet) => evaluate chain rules packet
    else
      evaluate chain rules packet

/-- The expressions let exactly the packets of `C` through, and unchanged. -/
structure Guards (exprs : List Expr) (C : Packet → Prop) : Prop where
  pass : ∀ {packet} rest register, C packet →
    ∃ register', run (exprs ++ rest) register packet = run rest register' packet
  stop : ∀ {packet} rest register, ¬ C packet → run (exprs ++ rest) register packet = (none, packet)

namespace Guards

variable {exprs exprs' : List Expr} {C D : Packet → Prop}

theorem congr (h : Guards exprs C) (hiff : ∀ packet, C packet ↔ D packet) : Guards exprs D :=
  ⟨fun rest register hD => h.pass rest register ((hiff _).mpr hD),
    fun rest register hD => h.stop rest register (mt (hiff _).mp hD)⟩

theorem nil : Guards [] fun _ => True :=
  ⟨fun _ register _ => ⟨register, rfl⟩, fun _ _ h => absurd trivial h⟩

theorem append (h : Guards exprs C) (h' : Guards exprs' D) :
    Guards (exprs ++ exprs') fun packet => C packet ∧ D packet := by
  constructor
  · rintro packet rest register ⟨hC, hD⟩
    obtain ⟨register₁, hrun⟩ := h.pass (exprs' ++ rest) register hC
    obtain ⟨register₂, hrun'⟩ := h'.pass rest register₁ hD
    exact ⟨register₂, by rw [append_assoc, hrun, hrun']⟩
  · intro packet rest register hnot
    rw [append_assoc]
    by_cases hC : C packet
    · obtain ⟨register₁, hrun⟩ := h.pass (exprs' ++ rest) register hC
      rw [hrun]
      exact h'.stop rest register₁ fun hD => hnot ⟨hC, hD⟩
    · exact h.stop (exprs' ++ rest) register hC

theorem ite {c : Prop} [Decidable c] (h : Guards exprs C) :
    Guards (if c then exprs else []) fun packet => c → C packet := by
  by_cases hc : c
  · rw [if_pos hc]
    exact h.congr fun packet => ⟨fun hC _ => hC, fun hC => hC hc⟩
  · rw [if_neg hc]
    exact nil.congr fun packet => ⟨fun _ hc' => absurd hc' hc, fun _ => trivial⟩

theorem counter : Guards [.counter] fun _ => True :=
  ⟨fun _ register _ => ⟨register, rfl⟩, fun _ _ h => absurd trivial h⟩

variable (source : Source)

theorem load_eq (data : Nat) :
    Guards [.load source, .cmp .eq data] fun packet => packet.read source = some data := by
  constructor <;> intro packet rest register h
  · exact ⟨data, by simp [run, Expr.eval, h, CmpOp.holds]⟩
  · cases hread : packet.read source with
    | none => simp [run, Expr.eval, hread]
    | some value =>
      have hne : value ≠ data := fun heq => h (heq ▸ hread)
      simp [run, Expr.eval, hread, CmpOp.holds, hne]

theorem load_neq (data : Nat) : Guards [.load source, .cmp .neq data]
      fun packet => ∃ value, packet.read source = some value ∧ value ≠ data := by
  constructor
  · rintro packet rest register ⟨value, hread, hne⟩
    exact ⟨value, by simp [run, Expr.eval, hread, CmpOp.holds, hne]⟩
  · intro packet rest register h
    cases hread : packet.read source with
    | none => simp [run, Expr.eval, hread]
    | some value =>
      have heq : value = data := by_contra fun hne => h ⟨value, hread, hne⟩
      simp [run, Expr.eval, hread, CmpOp.holds, heq]

theorem load_bitwise (mask xor : Nat) (op : CmpOp) (data : Nat) :
    Guards [.load source, .bitwise mask xor, .cmp op data]
      fun packet => ∃ value, packet.read source = some value ∧
        op.holds ((value &&& mask) ^^^ xor) data = true := by
  constructor
  · rintro packet rest register ⟨value, hread, hholds⟩
    exact ⟨(value &&& mask) ^^^ xor, by simp [run, Expr.eval, hread, hholds]⟩
  · intro packet rest register h
    cases hread : packet.read source with
    | none => simp [run, Expr.eval, hread]
    | some value =>
      have hholds : op.holds ((value &&& mask) ^^^ xor) data = false := by
        rw [← Bool.not_eq_true]
        exact fun hholds => h ⟨value, hread, hholds⟩
      simp [run, Expr.eval, hread, hholds]

/-- A rule that ends in a verdict gives it to exactly the packets it lets through. -/
theorem run_verdict (h : Guards exprs C) (verdict : Verdict) (packet : Packet) :
    C packet ∧ run (exprs ++ [.verdict verdict]) 0 packet = (some verdict, packet) ∨
      ¬ C packet ∧ run (exprs ++ [.verdict verdict]) 0 packet = (none, packet) := by
  by_cases hC : C packet
  · obtain ⟨register, hrun⟩ := h.pass [.verdict verdict] 0 hC
    exact .inl ⟨hC, hrun⟩
  · exact .inr ⟨hC, h.stop [.verdict verdict] 0 hC⟩

end Guards

def Each (chain : χ) (rules : List (Rule χ)) (Q : Rule χ → Prop) : Prop :=
  ∀ rule ∈ rules, rule.chain = chain → Q rule

namespace Each

variable {chain : χ} {rules rules' : List (Rule χ)} {Q : Rule χ → Prop}

theorem nil : Each chain [] Q := fun _ hrule => absurd hrule not_mem_nil

theorem append (h : Each chain rules Q) (h' : Each chain rules' Q) : Each chain (rules ++ rules') Q := by
  intro rule hrule
  rcases mem_append.mp hrule with hmem | hmem
  · exact h rule hmem
  · exact h' rule hmem

theorem flatMap {α : Type*} {items : List α} {f : α → List (Rule χ)}
    (h : ∀ item ∈ items, Each chain (f item) Q) : Each chain (items.flatMap f) Q := by
  intro rule hrule
  obtain ⟨item, hitem, hmem⟩ := mem_flatMap.mp hrule
  exact h item hitem rule hmem

theorem of_ne (h : ∀ rule ∈ rules, rule.chain ≠ chain) : Each chain rules Q :=
  fun rule hrule hchain => absurd hchain (h rule hrule)

end Each

/-- The rules of the chain change no packet and accept those of `C` at most. -/
def Permits (chain : χ) (rules : List (Rule χ)) (C : Packet → Prop) : Prop :=
  ∀ rule ∈ rules, rule.chain = chain → ∀ packet,
    (run rule.exprs 0 packet).2 = packet ∧ ((run rule.exprs 0 packet).1 = some .accept → C packet)

/-- The rules of the chain change no packet, and all they do is to accept packets of `C`. -/
def Accepts (chain : χ) (rules : List (Rule χ)) (C : Packet → Prop) : Prop :=
  ∀ rule ∈ rules, rule.chain = chain → ∀ packet, (run rule.exprs 0 packet).2 = packet ∧
    ∀ verdict, (run rule.exprs 0 packet).1 = some verdict → verdict = .accept ∧ C packet

namespace Accepts

variable {chain : χ} {rules rules' : List (Rule χ)} {C D : Packet → Prop}

theorem mono (h : Accepts chain rules C) (himp : ∀ packet, C packet → D packet) : Accepts chain rules D := by
  intro rule hrule hchain packet
  obtain ⟨hsame, haccept⟩ := h rule hrule hchain packet
  exact ⟨hsame, fun verdict hverdict => (haccept verdict hverdict).imp_right (himp packet)⟩

theorem nil (C : Packet → Prop) : Accepts chain [] C := Each.nil

theorem append (h : Accepts chain rules C) (h' : Accepts chain rules' C) :
    Accepts chain (rules ++ rules') C :=
  Each.append h h'

theorem flatMap {α : Type*} {items : List α} {f : α → List (Rule χ)}
    (h : ∀ item ∈ items, Accepts chain (f item) C) : Accepts chain (items.flatMap f) C :=
  Each.flatMap h

theorem accept {exprs} (h : Guards exprs C) (chain' : χ) :
    Accepts chain [⟨chain', exprs ++ [.verdict .accept]⟩] C := by
  intro rule hrule _ packet
  obtain rfl := mem_singleton.mp hrule
  rcases h.run_verdict .accept packet with ⟨hC, hrun⟩ | ⟨_, hrun⟩
  · rw [hrun]
    exact ⟨rfl, fun verdict hverdict => ⟨(Option.some.inj hverdict).symm, hC⟩⟩
  · rw [hrun]
    exact ⟨rfl, fun verdict hverdict => by cases hverdict⟩

theorem permits (h : Accepts chain rules C) : Permits chain rules C :=
  fun rule hrule hchain packet =>
    (h rule hrule hchain packet).imp_right fun haccept hverdict => (haccept .accept hverdict).2

end Accepts

namespace Permits

variable {chain : χ} {rules rules' : List (Rule χ)} {C D : Packet → Prop} {packet : Packet}

theorem mono (h : Permits chain rules C) (himp : ∀ packet, C packet → D packet) : Permits chain rules D :=
  fun rule hrule hchain packet =>
    ⟨(h rule hrule hchain packet).1, fun haccept => himp _ ((h rule hrule hchain packet).2 haccept)⟩

theorem nil (C : Packet → Prop) : Permits chain [] C := Each.nil

theorem append (h : Permits chain rules C) (h' : Permits chain rules' C) :
    Permits chain (rules ++ rules') C :=
  Each.append h h'

theorem flatMap {α : Type*} {items : List α} {f : α → List (Rule χ)}
    (h : ∀ item ∈ items, Permits chain (f item) C) : Permits chain (items.flatMap f) C :=
  Each.flatMap h

theorem refuse {exprs} (h : Guards exprs C) (chain' : χ) {verdict}
    (hverdict : verdict ≠ .accept) :
    Permits chain [⟨chain', exprs ++ [.verdict verdict]⟩] fun _ => False := by
  intro rule hrule _ packet
  obtain rfl := mem_singleton.mp hrule
  rcases h.run_verdict verdict packet with ⟨_, hrun⟩ | ⟨_, hrun⟩
  · rw [hrun]
    exact ⟨rfl, fun h => hverdict (Option.some.inj h)⟩
  · rw [hrun]
    exact ⟨rfl, fun h => by cases h⟩

variable [DecidableEq χ]

theorem evaluate_snd (h : Permits chain rules C) : (evaluate chain rules packet).2 = packet := by
  induction rules with
  | nil => rfl
  | cons rule rules ih =>
    have hrest := ih fun rule hrule => h rule (mem_cons_of_mem _ hrule)
    unfold evaluate
    split_ifs with hchain
    · have hsame := (h rule (mem_cons_self ..) hchain packet).1
      rcases hrun : run rule.exprs 0 packet with ⟨_ | verdict, packet'⟩
      · rw [hrun] at hsame
        subst hsame
        exact hrest
      · rw [hrun] at hsame
        exact hsame
    · exact hrest

theorem of_accept (h : Permits chain rules C)
    (haccept : (evaluate chain rules packet).1 = some .accept) : C packet := by
  induction rules with
  | nil => cases haccept
  | cons rule rules ih =>
    have hrest := ih fun rule hrule => h rule (mem_cons_of_mem _ hrule)
    unfold evaluate at haccept
    split_ifs at haccept with hchain
    · have hrule := h rule (mem_cons_self ..) hchain packet
      rcases hrun : run rule.exprs 0 packet with ⟨_ | verdict, packet'⟩
      · rw [hrun] at haccept hrule
        obtain rfl := hrule.1
        exact hrest haccept
      · rw [hrun] at haccept hrule
        exact hrule.2 haccept
    · exact hrest haccept

end Permits

variable [DecidableEq χ] {rules : List (Rule χ)} {packet : Packet} {chain : χ}

/-- First match: where no rule changes the packet, the chain decides it as one of its rules does. -/
theorem evaluate_of_decides (hsame : Each chain rules fun rule => (run rule.exprs 0 packet).2 = packet)
    (hdecides : ∃ rule ∈ rules, rule.chain = chain ∧ (run rule.exprs 0 packet).1 ≠ none) :
    ∃ verdict, (evaluate chain rules packet).1 = some verdict ∧
      ∃ rule ∈ rules, rule.chain = chain ∧ (run rule.exprs 0 packet).1 = some verdict := by
  obtain ⟨rule, hmem, hchain, hdecides⟩ := hdecides
  induction rules with
  | nil => cases hmem
  | cons first rules ih =>
    have hrest : rule ∈ rules → ∃ verdict, (evaluate chain rules packet).1 = some verdict ∧
        ∃ rule ∈ first :: rules, rule.chain = chain ∧ (run rule.exprs 0 packet).1 = some verdict := by
      intro hmem
      obtain ⟨verdict, hverdict, rule', hmem', hrule'⟩ :=
        ih (fun rule hrule => hsame rule (mem_cons_of_mem _ hrule)) hmem
      exact ⟨verdict, hverdict, rule', mem_cons_of_mem _ hmem', hrule'⟩
    unfold evaluate
    split_ifs with hfirst
    · have hkeeps : (run first.exprs 0 packet).2 = packet := hsame first (mem_cons_self ..) hfirst
      rcases hrun : run first.exprs 0 packet with ⟨_ | verdict, packet'⟩
      · rw [hrun] at hkeeps
        obtain rfl : packet' = packet := hkeeps
        rcases mem_cons.mp hmem with rfl | hmem
        · simp [hrun] at hdecides
        · exact hrest hmem
      · exact ⟨verdict, rfl, first, mem_cons_self .., hfirst, by rw [hrun]⟩
    · rcases mem_cons.mp hmem with rfl | hmem
      · exact absurd hchain hfirst
      · exact hrest hmem

/-- The rules of the chain refuse every packet of `D`. -/
def Refuses (chain : χ) (rules : List (Rule χ)) (D : Packet → Prop) : Prop :=
  ∀ packet, D packet → ∃ verdict, (evaluate chain rules packet).1 = some verdict ∧ verdict ≠ .accept

theorem Permits.refuses {D} (h : Permits chain rules fun _ => False)
    (hD : ∀ packet, D packet → ∃ rule ∈ rules, rule.chain = chain ∧ (run rule.exprs 0 packet).1 ≠ none) :
    Refuses chain rules D := by
  intro packet hpacket
  obtain ⟨verdict, hverdict, rule, hrule, hchain, hrun⟩ := evaluate_of_decides
    (fun rule hrule hchain => (h rule hrule hchain packet).1) (hD packet hpacket)
  refine ⟨verdict, hverdict, ?_⟩
  rintro rfl
  exact (h rule hrule hchain packet).2 hrun

theorem Accepts.evaluate_of_decides {C} (h : Accepts chain rules C)
    (hdecides : ∃ rule ∈ rules, rule.chain = chain ∧ (run rule.exprs 0 packet).1 ≠ none) :
    (evaluate chain rules packet).1 = some .accept := by
  obtain ⟨verdict, hverdict, rule, hrule, hchain, hrun⟩ := Nftables.evaluate_of_decides
    (fun rule hrule hchain => (h rule hrule hchain packet).1) hdecides
  obtain ⟨rfl, _⟩ := (h rule hrule hchain packet).2 verdict hrun
  exact hverdict

theorem evaluate_append (chain : χ) (rules rules' : List (Rule χ)) (packet : Packet) :
    evaluate chain (rules ++ rules') packet = match evaluate chain rules packet with
      | (some verdict, packet) => (some verdict, packet)
      | (none, packet) => evaluate chain rules' packet := by
  induction rules generalizing packet with
  | nil => rfl
  | cons rule rules ih =>
    simp only [cons_append, evaluate]
    split_ifs with hchain
    · rcases run rule.exprs 0 packet with ⟨_ | verdict, packet'⟩
      · exact ih packet'
      · rfl
    · exact ih packet

theorem evaluate_append_of_some {rules'}
    {verdict} (h : (evaluate chain rules packet).1 = some verdict) :
    (evaluate chain (rules ++ rules') packet).1 = some verdict := by
  rw [evaluate_append]
  rcases hrules : evaluate chain rules packet with ⟨_ | verdict', packet'⟩
  · rw [hrules] at h
    cases h
  · rw [hrules] at h
    exact h

/-- What is accepted although later rules refuse it is accepted by the rules before. -/
theorem Permits.of_accept_before {before refusing after C D}
    (hpermits : Permits chain before C) (hrefuses : Refuses chain refusing D) (hD : D packet)
    (haccept : (evaluate chain (before ++ (refusing ++ after)) packet).1 = some .accept) : C packet := by
  refine hpermits.of_accept ?_
  have hsame : (evaluate chain before packet).2 = packet := hpermits.evaluate_snd
  rw [evaluate_append] at haccept
  rcases hbefore : evaluate chain before packet with ⟨_ | verdict, packet'⟩
  · rw [hbefore] at haccept hsame
    obtain rfl : packet' = packet := hsame
    obtain ⟨verdict, hverdict, hne⟩ := hrefuses packet' hD
    dsimp only at haccept
    rw [evaluate_append] at haccept
    rcases hrefusing : evaluate chain refusing packet' with ⟨_ | verdict', packet''⟩
    · rw [hrefusing] at hverdict
      cases hverdict
    · rw [hrefusing] at hverdict haccept
      obtain rfl := Option.some.inj hverdict
      exact absurd (Option.some.inj haccept) hne
  · rw [hbefore] at haccept
    exact haccept

end MullvadVpn.Systems.Nftables
