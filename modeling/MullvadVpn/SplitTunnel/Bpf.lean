import Mathlib

/-!
The packets of a BPF buffer (`talpid-core/src/split_tunnel/macos/bpf.rs`). Each record says itself how long it
is, and the next one is looked for behind it, as far as 32 bits say. A record that says its header and its
capture are empty is followed by itself.
-/

namespace MullvadVpn.SplitTunnel

/-- The fields of `bpf_hdr` that are read. -/
structure BpfHdr where
  hdrlen : BitVec 16
  caplen : BitVec 32

/-- How `bpf_hdr` lies in memory. -/
structure BpfHdr.Layout where
  size : Nat
  read : List UInt8 → BpfHdr

def bpfAlignment : BitVec 32 := 4

def bpfWordalign (n : BitVec 32) : BitVec 32 :=
  (n + (bpfAlignment - 1)) &&& ~~~(bpfAlignment - 1)

structure BpfIterMut where
  data : List UInt8
  currentPacketOffset : Nat

namespace BpfIterMut

def new (data : List UInt8) : BpfIterMut :=
  ⟨data, 0⟩

variable (layout : BpfHdr.Layout)

/-- The bounds of the next payload. -/
def next (self : BpfIterMut) : Option ((Nat × Nat) × BpfIterMut) :=
  let offset := self.currentPacketOffset
  if self.data.length ≤ offset ∨ self.data.length - offset < layout.size then none
  else
    let hdr := layout.read ((self.data.drop offset).take layout.size)
    if offset + hdr.hdrlen.toNat + hdr.caplen.toNat > self.data.length then none
    else some ((offset + hdr.hdrlen.toNat, offset + (hdr.hdrlen.toNat + hdr.caplen.toNat)),
      { self with currentPacketOffset :=
          offset + (bpfWordalign (hdr.hdrlen.setWidth 32 + hdr.caplen)).toNat })

/-- What at most `n` calls yield. -/
def payloads : Nat → BpfIterMut → List (Nat × Nat)
  | 0, _ => []
  | n + 1, self =>
    match self.next layout with
    | none => []
    | some (payload, self) => payload :: payloads n self

/-- Both ranges contain some byte. -/
def Overlap (a b : Nat × Nat) : Prop :=
  max a.1 b.1 < min a.2 b.2

/-- The iteration ends, and its payloads lie in the buffer and do not overlap. -/
structure Safe (data : List UInt8) : Prop where
  ends : ∃ n, (payloads layout n (new data)).length < n
  within : ∀ n, ∀ payload ∈ payloads layout n (new data), payload.1 ≤ payload.2 ∧ payload.2 ≤ data.length
  apart : ∀ n, (payloads layout n (new data)).Pairwise fun a b => ¬Overlap a b

end BpfIterMut

def BpfHdr.length (hdr : BpfHdr) : Nat :=
  hdr.hdrlen.toNat + hdr.caplen.toNat

/-- The length rounded up to a multiple of four, in 32 bits. -/
def BpfHdr.rounded (hdr : BpfHdr) : Nat :=
  (hdr.length + 3) % 2 ^ 32 / 4 * 4

theorem toNat_bpfWordalign (hdr : BpfHdr) :
    (bpfWordalign (hdr.hdrlen.setWidth 32 + hdr.caplen)).toNat = hdr.rounded := by
  have hclear : ∀ x : BitVec 32, x &&& ~~~(3 : BitVec 32) = x >>> 2 <<< 2 := by
    intro x
    ext i hi
    interval_cases i <;> simp
  change ((hdr.hdrlen.setWidth 32 + hdr.caplen + 3) &&& ~~~(3 : BitVec 32)).toNat = _
  rw [hclear, BitVec.toNat_shiftLeft, BitVec.toNat_ushiftRight, BitVec.toNat_add, BitVec.toNat_add,
    BitVec.toNat_setWidth, Nat.shiftLeft_eq, Nat.shiftRight_eq_div_pow]
  change ((_ % 2 ^ 32 + _) % 2 ^ 32 + 3) % 2 ^ 32 / 4 * 4 % 2 ^ 32 = (_ + _ + 3) % 2 ^ 32 / 4 * 4
  omega

namespace BpfIterMut

variable (layout : BpfHdr.Layout) (data : List UInt8)

def hdrAt (offset : Nat) : BpfHdr :=
  layout.read ((data.drop offset).take layout.size)

/-- The record at the offset lies in the buffer. -/
def Fits (offset : Nat) : Prop :=
  offset < data.length ∧ offset + layout.size ≤ data.length ∧
    offset + (hdrAt layout data offset).length ≤ data.length

def payloadAt (offset : Nat) : Nat × Nat :=
  (offset + (hdrAt layout data offset).hdrlen.toNat, offset + (hdrAt layout data offset).length)

/-- The next record is looked for at `offset'`. -/
def Follows (offset offset' : Nat) : Prop :=
  Fits layout data offset ∧ offset' = offset + (hdrAt layout data offset).rounded

open Relation

variable {layout data} {offset offset' : Nat}

theorem next_of_fits (h : Fits layout data offset) : next layout ⟨data, offset⟩ = some
    (payloadAt layout data offset, ⟨data, offset + (hdrAt layout data offset).rounded⟩) := by
  obtain ⟨hoffset, hsize, hlength⟩ := h
  rw [BpfHdr.length] at hlength
  rw [next, if_neg (by simp only; omega), ← toNat_bpfWordalign]
  exact if_neg (by unfold hdrAt at hlength; simp only; omega)

theorem next_of_not_fits (h : ¬Fits layout data offset) : next layout ⟨data, offset⟩ = none := by
  unfold next
  dsimp only
  split_ifs with hend hlong
  · rfl
  · rfl
  · refine absurd ⟨by omega, by omega, ?_⟩ h
    unfold BpfHdr.length hdrAt
    omega

theorem payloads_of_fits (h : Fits layout data offset) (n : Nat) : payloads layout (n + 1) ⟨data, offset⟩ =
    payloadAt layout data offset :: payloads layout n ⟨data, offset + (hdrAt layout data offset).rounded⟩ := by
  rw [payloads, next_of_fits h]

theorem Follows.le (h : ReflTransGen (Follows layout data) offset offset') : offset ≤ offset' := by
  induction h with
  | refl => exact Nat.le_refl _
  | tail _ hstep ih => exact hstep.2 ▸ ih.trans (Nat.le_add_right ..)

/-- The payloads are those of the records that are reached. -/
theorem exists_of_mem_payloads {payload : Nat × Nat} {n : Nat}
    (h : payload ∈ payloads layout n ⟨data, offset⟩) :
    ∃ offset', ReflTransGen (Follows layout data) offset offset' ∧ Fits layout data offset' ∧
      payload = payloadAt layout data offset' := by
  induction n generalizing offset with
  | zero => cases h
  | succ n ih =>
    by_cases hfits : Fits layout data offset
    · rw [payloads_of_fits hfits] at h
      obtain rfl | hlater := List.mem_cons.mp h
      · exact ⟨offset, .refl, hfits, rfl⟩
      · obtain ⟨offset', hreached, hrecord⟩ := ih hlater
        exact ⟨offset', .head ⟨hfits, rfl⟩ hreached, hrecord⟩
    · rw [payloads, next_of_not_fits hfits] at h
      cases h

/-- Enough calls come to every record that is reached. -/
theorem exists_payloads_append (h : ReflTransGen (Follows layout data) offset offset') (n : Nat) :
    ∃ m before, payloads layout m ⟨data, offset⟩ = before ++ payloads layout n ⟨data, offset'⟩ := by
  induction h using ReflTransGen.head_induction_on with
  | refl => exact ⟨n, [], rfl⟩
  | @head offset _ hstep _ ih =>
    obtain ⟨m, before, hbefore⟩ := ih
    obtain ⟨hfits, rfl⟩ := hstep
    refine ⟨m + 1, payloadAt layout data offset :: before, ?_⟩
    rw [payloads_of_fits hfits, hbefore, List.cons_append]

theorem length_payloads_eq (h : ReflTransGen (Follows layout data) offset offset')
    (hfits : Fits layout data offset') (hrounded : (hdrAt layout data offset').rounded = 0) (n : Nat) :
    (payloads layout n ⟨data, offset⟩).length = n := by
  induction n generalizing offset with
  | zero => rfl
  | succ n ih =>
    have hstep : Fits layout data offset ∧
        ReflTransGen (Follows layout data) (offset + (hdrAt layout data offset).rounded) offset' := by
      obtain rfl | ⟨next, ⟨hfirst, rfl⟩, hrest⟩ := ReflTransGen.cases_head h
      · exact ⟨hfits, by rw [hrounded]; exact .refl⟩
      · exact ⟨hfirst, hrest⟩
    rw [payloads_of_fits hstep.1]
    exact congrArg (· + 1) (ih hstep.2)

theorem length_payloads_lt {n : Nat} (hn : data.length - offset < n)
    (h : ∀ offset', ReflTransGen (Follows layout data) offset offset' → Fits layout data offset' →
      (hdrAt layout data offset').rounded ≠ 0) : (payloads layout n ⟨data, offset⟩).length < n := by
  induction n generalizing offset with
  | zero => cases hn
  | succ n ih =>
    by_cases hfits : Fits layout data offset
    · have hrounded := h offset .refl hfits
      have hoffset := hfits.1
      rw [payloads_of_fits hfits]
      refine Nat.succ_lt_succ (ih (by omega) fun offset' hreached => h offset' ?_)
      exact .head ⟨hfits, rfl⟩ hreached
    · rw [payloads, next_of_not_fits hfits]
      exact Nat.succ_pos n

variable (layout data) in
/-- A record that is reached is not followed by itself, and if its length does not fit in 32 bits, then no
record that is reached after it has a payload in its own. -/
def SafeHeaders : Prop :=
  ∀ offset, ReflTransGen (Follows layout data) 0 offset → Fits layout data offset →
    (hdrAt layout data offset).rounded ≠ 0 ∧
    (2 ^ 32 < (hdrAt layout data offset).length → ∀ offset', TransGen (Follows layout data) offset offset' →
      Fits layout data offset' → ¬Overlap (payloadAt layout data offset) (payloadAt layout data offset'))

theorem payloads_apart (h : SafeHeaders layout data) (n : Nat)
    (hreached : ReflTransGen (Follows layout data) 0 offset) :
    (payloads layout n ⟨data, offset⟩).Pairwise fun a b => ¬Overlap a b := by
  induction n generalizing offset with
  | zero => exact .nil
  | succ n ih =>
    by_cases hfits : Fits layout data offset
    · have hstep : Follows layout data offset _ := ⟨hfits, rfl⟩
      rw [payloads_of_fits hfits]
      refine .cons (fun payload hlater => ?_) (ih (hreached.tail hstep))
      obtain ⟨offset', hrest, hfits', rfl⟩ := exists_of_mem_payloads hlater
      obtain ⟨hrounded, hlong⟩ := h offset hreached hfits
      by_cases hlength : 2 ^ 32 < (hdrAt layout data offset).length
      · exact hlong hlength offset' (.head' hstep hrest) hfits'
      · have hle := Follows.le hrest
        unfold BpfHdr.rounded at hrounded hle
        unfold Overlap payloadAt
        dsimp only
        omega
    · rw [payloads, next_of_not_fits hfits]
      exact .nil

/-- Every payload lies in the buffer. The iteration ends without an overlap exactly if the headers of the
records that it reaches are safe. -/
theorem payloads_safe_iff (layout : BpfHdr.Layout) (data : List UInt8) :
    Safe layout data ↔ SafeHeaders layout data := by
  constructor
  · rintro ⟨⟨n, hends⟩, -, hapart⟩ offset hreached hfits
    refine ⟨fun hrounded => hends.ne (length_payloads_eq hreached hfits hrounded n), ?_⟩
    intro _ offset' hafter hfits'
    obtain ⟨_, ⟨_, rfl⟩, hrest⟩ := TransGen.head'_iff.mp hafter
    obtain ⟨m, before', hbefore'⟩ := exists_payloads_append hrest 1
    obtain ⟨m', before, hbefore⟩ := exists_payloads_append hreached (m + 1)
    have hpairwise := hapart m'
    rw [new, hbefore, payloads_of_fits hfits, hbefore', payloads_of_fits hfits'] at hpairwise
    have hfirst := (List.pairwise_cons.mp (List.pairwise_append.mp hpairwise).2.1).1
    exact hfirst _ (List.mem_append_right _ List.mem_cons_self)
  · intro h
    refine ⟨⟨data.length + 1, length_payloads_lt (Nat.lt_succ_self _) fun offset hreached hfits =>
      (h offset hreached hfits).1⟩, fun n payload hpayload => ?_, fun n => payloads_apart h n .refl⟩
    obtain ⟨offset, -, hfits, rfl⟩ := exists_of_mem_payloads hpayload
    exact ⟨Nat.add_le_add_left (Nat.le_add_right ..) _, hfits.2.2⟩

/-- The layout of macOS. -/
def macosLayout : BpfHdr.Layout where
  size := 20
  read bytes :=
    let number (first count : Nat) : Nat :=
      ((bytes.drop first).take count).foldr (fun byte rest => byte.toNat + 256 * rest) 0
    ⟨.ofNat 16 (number 16 2), .ofNat 32 (number 8 4)⟩

theorem zeros_never_end : ¬Safe macosLayout (List.replicate 20 0) := by
  rintro ⟨⟨n, hends⟩, -, -⟩
  have hfits : Fits macosLayout (List.replicate 20 0) 0 := ⟨by decide, by decide, by decide⟩
  exact hends.ne (length_payloads_eq .refl hfits rfl n)

end BpfIterMut

end MullvadVpn.SplitTunnel
