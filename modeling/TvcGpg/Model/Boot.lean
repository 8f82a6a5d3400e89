import TvcGpg.Model.Router

/-!
# The start of the server

`main.rs` and `cli.rs`: what a process does before it serves, in the order it does it, once
its arguments have been parsed.  A process ends, with an exit code and what `main` prints to
stdout, or it serves.  What it logs is left out.

Which subkey fingerprint a build pins is a constant of the build.  `mainPinning` takes it
as an argument, so that what a pin is good for can be said; `main` is this build.
-/

namespace TvcGpg

namespace Allowlist

/-- Whether no key can verify a signature. -/
def isEmpty (allowlist : Allowlist) : Bool := allowlist.byFingerprint.entries.isEmpty

end Allowlist

namespace Boot

open Lib Lib.Text Lib.Fallible Router

/-- The arguments of the server. -/
structure Cli where
  host : String
  port : UInt16
  quorumFile : String
  appId : String
  printPublicKey : Bool

/-- What a process meets when it starts. -/
structure Machine where
  /-- `P256Pair::from_hex_file`. -/
  fromHexFile : String → Except Team.P256Error P256Pair
  /-- The joined armored keys the build embeds. -/
  embedded : Bytes
  /-- `Timestamp::now`. -/
  clock : UInt32
  /-- Whether `MetricsLayerBuilder::build` gives a layer. -/
  buildsMetrics : Bool
  /-- Whether `TcpListener::bind` gives a listener. -/
  binds : String → Bool

/-- The end of a process. -/
structure Exit where
  code : Nat
  printed : String
  deriving DecidableEq, Repr

/-- How a process ends that has met an error. -/
def Exit.failure : Exit where
  code := 1
  printed := ""

/-- A process that serves. -/
structure Serving where
  addr : String
  state : ServerState

section Main

variable (crates : Crates) (keys : Team.KeyCrates) (exports : Team.ExportCrates)

/-- `?` in `main`: an error ends the process. -/
def orFail {ε α : Type} (result : Except ε α) : Except Exit α :=
  result.mapError fun _ => .failure

/-- The result of a derivation, without its log. -/
def deriveTeamKey (quorum : P256Pair) : Except Team.TeamKeyError Team.TeamKey :=
  match Team.TeamKey.derive keys quorum [] with
  | .ok teamKey _ => .ok teamKey
  | .error error _ => .error error

/-- The allowlist from the keys embedded at build time. -/
def embeddedAllowlist (machine : Machine) : Except AllowlistError Allowlist :=
  Allowlist.parseAt crates.rpgp machine.embedded machine.clock

/-- The entry point of a build that pins this subkey fingerprint, or none. -/
def mainPinning (expected : Option String) (cli : Cli) (machine : Machine) :
    Except Exit Serving := do
  let quorumKey ← orFail (machine.fromHexFile cli.quorumFile)
  let teamKey ← orFail (deriveTeamKey keys quorumKey)
  let fingerprint := teamKey.subkeyFingerprint crates
  require (∀ pinned ∈ expected, pinned = fingerprint) .failure
  if cli.printPublicKey then do
    let armored ← orFail (teamKey.publicKeyArmored exports)
    .error { code := 0, printed := armored }
  else do
    require (machine.buildsMetrics = true) .failure
    let allowlist ← orFail (embeddedAllowlist crates machine)
    require (¬ allowlist.isEmpty) .failure
    let addr := s!"{cli.host}:{cli.port}"
    require (machine.binds addr = true) .failure
    return { addr, state := { quorumKey, teamKey, allowlist, appId := cli.appId } }

/-- The entry point. -/
def main (cli : Cli) (machine : Machine) : Except Exit Serving :=
  mainPinning crates keys exports Team.expectedSubkeyFingerprint cli machine

end Main

end Boot
end TvcGpg
