import MullvadVpn.Update.Version

/-!
Version metadata (`mullvad_update::format`): what is signed, and the signatures that are attached to it.
-/

namespace MullvadVpn.Update

/-- The fraction of users that a release is rolled out to, or that a client asks for. The source has a
finite `f32` in this range, which is a rational number; only the order is used. -/
structure Rollout where
  value : ℚ
  valid : 0 ≤ value ∧ value ≤ 1

instance : LE Rollout := ⟨fun a b => a.value ≤ b.value⟩

instance : DecidableLE Rollout := fun a b => inferInstanceAs (Decidable (a.value ≤ b.value))

theorem Rollout.le_trans {a b c : Rollout} (hab : a ≤ b) (hbc : b ≤ c) : a ≤ c :=
  Rat.le_trans hab hbc

/-- The threshold of a client that accepts all releases (`IGNORE`). -/
def Rollout.ignore : Rollout := ⟨0, by decide⟩

/-- The threshold of a client that only accepts releases for all users (`FULLY_ROLLED_OUT`). -/
def Rollout.fullyRolledOut : Rollout := ⟨1, by decide⟩

inductive Architecture where
  | x86
  | arm64
  deriving DecidableEq

structure Installer where
  architecture : Architecture
  urls : List String
  size : Nat
  /-- As a hexadecimal string. -/
  sha256 : String

structure Release where
  version : AppVersion
  changelog : String
  installers : List Installer
  rollout : Rollout

structure Response where
  metadataVersion : Nat
  /-- In time since the epoch. -/
  metadataExpiry : Int
  releases : List Release

end MullvadVpn.Update
