import TvcGpg.Allowlist.Index
import TvcGpg.Model.Boot

/-!
# How a process comes to serve

One specification lemma for each way `main` can go: it serves, prints the public key, or
fails.  `Starts` says all that is true of a process that serves, and nothing else is needed
of `main` to reason about one.
-/

namespace TvcGpg

open Lib Lib.Text Lib.Fallible

/-- An allowlist that could be built is not empty. -/
theorem isEmpty_of_parseAt {rpgp : Rpgp} {armored : Bytes} {now : UInt32} {allowlist : Allowlist}
    (hParse : Allowlist.parseAt rpgp armored now = .ok allowlist) : allowlist.isEmpty = false := by
  unfold Allowlist.parseAt at hParse
  obtain ⟨certificates, -, hParse⟩ := bind_eq_ok_iff.mp hParse
  obtain ⟨_, hSome, hParse⟩ := bind_eq_ok_iff.mp hParse
  obtain rfl := Except.ok.inj hParse
  exact Bool.eq_false_iff.mpr (require_eq_ok_iff.mp hSome)

namespace Boot

open Router

theorem orFail_eq_ok_iff {ε α : Type} {result : Except ε α} {value : α} :
    orFail result = .ok value ↔ result = .ok value := mapError_eq_ok_iff

theorem orFail_eq_error {ε α : Type} {result : Except ε α} {exit : Exit}
    (hError : orFail result = .error exit) : exit = .failure := by
  cases result with
  | ok found => cases hError
  | error error =>
      cases hError
      rfl

section Starts

variable {crates : Crates} {keys : Team.KeyCrates} {exports : Team.ExportCrates}
  {expected : Option String} {cli : Cli} {machine : Machine}

/-- A process has the quorum key of its file and the team key derived from it, and the
fingerprint its build pins. -/
structure HoldsKeys (crates : Crates) (keys : Team.KeyCrates) (expected : Option String)
    (cli : Cli) (machine : Machine) (quorumKey : P256Pair) (teamKey : Team.TeamKey) : Prop where
  quorum : machine.fromHexFile cli.quorumFile = .ok quorumKey
  derived : deriveTeamKey keys quorumKey = .ok teamKey
  pinned : ∀ pinned ∈ expected, pinned = teamKey.subkeyFingerprint crates

/-- What is true of a process that serves. -/
structure Starts (crates : Crates) (keys : Team.KeyCrates) (expected : Option String) (cli : Cli)
    (machine : Machine) (serving : Serving) : Prop
    extends HoldsKeys crates keys expected cli machine serving.state.quorumKey
      serving.state.teamKey where
  serves : cli.printPublicKey = false
  metrics : machine.buildsMetrics = true
  allowlist : embeddedAllowlist crates machine = .ok serving.state.allowlist
  appId : serving.state.appId = cli.appId
  addr : serving.addr = s!"{cli.host}:{cli.port}"
  binds : machine.binds serving.addr = true

/-- A process serves exactly when nothing is in its way. -/
theorem mainPinning_eq_ok_iff {serving : Serving} :
    mainPinning crates keys exports expected cli machine = .ok serving ↔
      Starts crates keys expected cli machine serving := by
  unfold mainPinning
  constructor
  · intro hOk
    obtain ⟨quorumKey, hQuorum, hOk⟩ := bind_eq_ok_iff.mp hOk
    obtain ⟨teamKey, hTeam, hOk⟩ := bind_eq_ok_iff.mp hOk
    obtain ⟨_, hPinned, hOk⟩ := bind_eq_ok_iff.mp hOk
    split at hOk
    · obtain ⟨armored, -, hOk⟩ := bind_eq_ok_iff.mp hOk
      cases hOk
    · rename_i hPrint
      obtain ⟨_, hMetrics, hOk⟩ := bind_eq_ok_iff.mp hOk
      obtain ⟨allowlist, hAllowlist, hOk⟩ := bind_eq_ok_iff.mp hOk
      obtain ⟨_, -, hOk⟩ := bind_eq_ok_iff.mp hOk
      obtain ⟨_, hBinds, hOk⟩ := bind_eq_ok_iff.mp hOk
      obtain rfl := Except.ok.inj hOk
      exact {
        quorum := orFail_eq_ok_iff.mp hQuorum
        derived := orFail_eq_ok_iff.mp hTeam
        pinned := require_eq_ok_iff.mp hPinned
        serves := Bool.eq_false_iff.mpr hPrint
        metrics := require_eq_ok_iff.mp hMetrics
        allowlist := orFail_eq_ok_iff.mp hAllowlist
        appId := rfl
        addr := rfl
        binds := require_eq_ok_iff.mp hBinds }
  · intro hStarts
    obtain ⟨addr, state⟩ := serving
    obtain rfl : addr = s!"{cli.host}:{cli.port}" := hStarts.addr
    have hEmpty : ¬ state.allowlist.isEmpty = true :=
      Bool.eq_false_iff.mp (isEmpty_of_parseAt hStarts.allowlist)
    have hAppId : state.appId = cli.appId := hStarts.appId
    simp only [orFail_eq_ok_iff.mpr hStarts.quorum, orFail_eq_ok_iff.mpr hStarts.derived,
      orFail_eq_ok_iff.mpr hStarts.allowlist, ok_bind, require_of _ hStarts.pinned,
      require_of _ hStarts.metrics, require_of _ hStarts.binds, require_of _ hEmpty,
      hStarts.serves, Bool.false_eq_true, if_false, ← hAppId]
    rfl

/-- The process has printed the public key of the team key it holds. -/
structure Prints (crates : Crates) (keys : Team.KeyCrates) (exports : Team.ExportCrates)
    (expected : Option String) (cli : Cli) (machine : Machine) (exit : Exit)
    (quorumKey : P256Pair) (teamKey : Team.TeamKey) : Prop
    extends HoldsKeys crates keys expected cli machine quorumKey teamKey where
  asked : cli.printPublicKey = true
  code : exit.code = 0
  exported : teamKey.publicKeyArmored exports = .ok exit.printed

/-- A process that holds its keys prints the public key, if it is asked for it. -/
theorem mainPinning_of_prints {exit : Exit} {quorumKey : P256Pair} {teamKey : Team.TeamKey}
    (hPrints : Prints crates keys exports expected cli machine exit quorumKey teamKey) :
    mainPinning crates keys exports expected cli machine = .error exit := by
  obtain ⟨code, printed⟩ := exit
  obtain rfl : code = 0 := hPrints.code
  unfold mainPinning
  simp only [orFail_eq_ok_iff.mpr hPrints.quorum, orFail_eq_ok_iff.mpr hPrints.derived, ok_bind,
    require_of _ hPrints.pinned, hPrints.asked, if_true, orFail_eq_ok_iff.mpr hPrints.exported]

/-- A process that does not serve has failed, or it was asked for the public key. -/
theorem prints_of_error {exit : Exit}
    (hError : mainPinning crates keys exports expected cli machine = .error exit) :
    exit = .failure ∨ ∃ quorumKey teamKey,
      Prints crates keys exports expected cli machine exit quorumKey teamKey := by
  unfold mainPinning at hError
  rcases bind_eq_error_iff.mp hError with hFail | ⟨quorumKey, hQuorum, hError⟩
  · exact .inl (orFail_eq_error hFail)
  rcases bind_eq_error_iff.mp hError with hFail | ⟨teamKey, hTeam, hError⟩
  · exact .inl (orFail_eq_error hFail)
  rcases bind_eq_error_iff.mp hError with hFail | ⟨_, hPinned, hError⟩
  · exact .inl (require_eq_error_iff.mp hFail).2.symm
  split at hError
  · rename_i hPrint
    rcases bind_eq_error_iff.mp hError with hFail | ⟨armored, hArmored, hError⟩
    · exact .inl (orFail_eq_error hFail)
    · obtain rfl := Except.error.inj hError
      exact .inr ⟨quorumKey, teamKey, {
        quorum := orFail_eq_ok_iff.mp hQuorum
        derived := orFail_eq_ok_iff.mp hTeam
        pinned := require_eq_ok_iff.mp hPinned
        asked := hPrint
        code := rfl
        exported := orFail_eq_ok_iff.mp hArmored }⟩
  · left
    rcases bind_eq_error_iff.mp hError with hFail | ⟨_, -, hError⟩
    · exact (require_eq_error_iff.mp hFail).2.symm
    rcases bind_eq_error_iff.mp hError with hFail | ⟨allowlist, -, hError⟩
    · exact orFail_eq_error hFail
    rcases bind_eq_error_iff.mp hError with hFail | ⟨_, -, hError⟩
    · exact (require_eq_error_iff.mp hFail).2.symm
    rcases bind_eq_error_iff.mp hError with hFail | ⟨_, -, hError⟩
    · exact (require_eq_error_iff.mp hFail).2.symm
    · cases hError

end Starts

end Boot
end TvcGpg
