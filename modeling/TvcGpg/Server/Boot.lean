import TvcGpg.Server.Start
import TvcGpg.TeamKey.Export

/-!
# What a process comes to

A process serves, or prints the public key, or fails, and nothing else: `boot_outcomes`.
One that serves has somebody to serve.  The key a process prints is the key another process
with the same quorum key serves, whatever the allowlist, the address and the app id of the
other one are (`printed_key_is_served`).
-/

namespace TvcGpg
namespace Boot

open Lib Lib.Text Lib.Fallible Router

section Outcomes

variable {crates : Crates} {keys : Team.KeyCrates} {exports : Team.ExportCrates}
  {expected : Option String} {cli : Cli} {machine : Machine}

/-- An index that is not empty has a key to find. -/
theorem exists_usable {allowlist : Allowlist} {armored : Bytes} {now : UInt32}
    (hParse : Allowlist.parseAt crates.rpgp armored now = .ok allowlist) :
    ∃ certificate key entry, Usable crates.rpgp allowlist.certificates now certificate key ∧
      allowlist.lookup (some key.fingerprint) none = some entry ∧
        entry.verifyingKey.fingerprint = key.fingerprint := by
  have hEmpty := isEmpty_of_parseAt hParse
  have hExact := (parseAt_spec hParse).2.exact
  unfold Allowlist.isEmpty at hEmpty
  cases hEntries : allowlist.byFingerprint.entries with
  | nil =>
      rw [hEntries] at hEmpty
      cases hEmpty
  | cons first rest =>
      obtain ⟨fingerprint, entry⟩ := first
      have hFound : allowlist.byFingerprint.lookup fingerprint = some entry := by
        rw [AList.lookup, hEntries]
        exact List.dlookup_cons_eq _ _ _
      have hLookup : allowlist.lookup (some fingerprint) none = some entry := by
        rw [lookup_some_none, hFound]
      obtain ⟨certificate, key, hUsable, rfl⟩ :=
        (hExact.fingerprint_found fingerprint).mp ⟨entry, hLookup⟩
      exact ⟨certificate, key, entry, hUsable, hLookup,
        (hExact.fingerprint_entry _ _ hLookup).1⟩

/-- A process serves exactly when all of `Starts` is true, and then its allowlist finds a key
that is usable at its start.  One that does not serve fails with exit code 1 and `main` prints
nothing, unless it was asked for the public key and prints that of the team key it holds. -/
theorem boot_outcomes (crates : Crates) (keys : Team.KeyCrates) (exports : Team.ExportCrates)
    (expected : Option String) (cli : Cli) (machine : Machine) :
    (∀ serving, mainPinning crates keys exports expected cli machine = .ok serving ↔
      Starts crates keys expected cli machine serving) ∧
    (∀ serving, mainPinning crates keys exports expected cli machine = .ok serving →
      ∃ certificate key entry,
        Usable crates.rpgp serving.state.allowlist.certificates machine.clock certificate key ∧
          serving.state.allowlist.lookup (some key.fingerprint) none = some entry ∧
            entry.verifyingKey.fingerprint = key.fingerprint) ∧
    ∀ exit, (∃ quorumKey teamKey,
        Prints crates keys exports expected cli machine exit quorumKey teamKey) ↔
      mainPinning crates keys exports expected cli machine = .error exit ∧ exit ≠ .failure := by
  refine ⟨fun _ => mainPinning_eq_ok_iff, ?_, ?_⟩
  · intro serving hServes
    exact exists_usable (mainPinning_eq_ok_iff.mp hServes).allowlist
  · intro exit
    constructor
    · rintro ⟨quorumKey, teamKey, hPrints⟩
      refine ⟨mainPinning_of_prints hPrints, ?_⟩
      rintro rfl
      cases hPrints.code
    · rintro ⟨hError, hNot⟩
      exact (prints_of_error hError).resolve_left hNot

/-- Whoever prints the public key, on a machine with the quorum key of a server, prints what
the server answers to `GET /public-key`. -/
theorem printed_key_is_served {expected' : Option String} {cli' : Cli} {machine' : Machine}
    {exit : Exit} {serving : Serving}
    (hPrints : mainPinning crates keys exports expected cli machine = .error exit)
    (hCode : exit.code = 0)
    (hServes : mainPinning crates keys exports expected' cli' machine' = .ok serving)
    (hQuorum : machine.fromHexFile cli.quorumFile = machine'.fromHexFile cli'.quorumFile)
    (axum : Axum) (clock : Option UInt64) (entropy : Bytes) {request : Request}
    (hPath : request.path = "/public-key") (hMethod : request.method = .get) :
    handle crates exports axum serving.state clock entropy request =
      { status := .ok, body := asBytes exit.printed } := by
  obtain ⟨quorumKey, teamKey, hPrinted⟩ := (prints_of_error hPrints).resolve_left fun hFailure => by
    rw [hFailure] at hCode
    cases hCode
  have hStarts := mainPinning_eq_ok_iff.mp hServes
  -- both processes read one quorum key, and so derive one team key
  obtain rfl : quorumKey = serving.state.quorumKey :=
    Except.ok.inj (hPrinted.quorum.symm.trans (hQuorum.trans hStarts.quorum))
  obtain rfl : teamKey = serving.state.teamKey :=
    Except.ok.inj (hPrinted.derived.symm.trans hStarts.derived)
  have hPublic : publicKey exports serving.state = .ok exit.printed := by
    unfold publicKey
    rw [hPrinted.exported]
    rfl
  unfold handle Router.get
  simp only [hPath, hMethod]
  rw [hPublic]
  rfl

end Outcomes

end Boot

/-! ## A team's machine -/

namespace Reference

open Lib Lib.Text Lib.Fallible Team Router Boot

theorem deriveTeamKey_keyCrates : deriveTeamKey keyCrates ⟨[0x07]⟩ = .ok derivedTeamKey := by
  obtain ⟨after, hDerive⟩ := derive_keyCrates
  unfold deriveTeamKey
  rw [hDerive]

/-- The machine the server starts on. -/
def machine : Machine where
  fromHexFile _ := .ok ⟨[0x07]⟩
  embedded := asBytes firstBlock
  clock := 1000
  buildsMetrics := true
  binds _ := true

/-- Its arguments. -/
def cli : Cli where
  host := "127.0.0.1"
  port := 44020
  quorumFile := "qos.quorum.key"
  appId := "team app"
  printPublicKey := false

/-- What it serves. -/
def serverState : ServerState where
  quorumKey := ⟨[0x07]⟩
  teamKey := derivedTeamKey
  allowlist := allowlist none
  appId := "team app"

/-- Its subkey fingerprint. -/
def subkeyText : String := toUppercase (Hex.encode (List.replicate 20 0xB2))

theorem embeddedAllowlist_machine :
    embeddedAllowlist deployedCrates machine = .ok (allowlist none) :=
  parseAt_engineer readCertificates_deployed (unlimited_fresh 1000)

/-- The process serves, whether its build pins no fingerprint or the one it derives. -/
theorem starts_machine {expected : Option String}
    (hPin : ∀ pinned ∈ expected, pinned = subkeyText) :
    Starts deployedCrates keyCrates expected cli machine
      { addr := "127.0.0.1:44020", state := serverState } where
  quorum := rfl
  derived := deriveTeamKey_keyCrates
  pinned := hPin
  serves := rfl
  metrics := rfl
  allowlist := embeddedAllowlist_machine
  appId := rfl
  addr := by decide
  binds := rfl

theorem pinned_subkeyText : ∀ pinned ∈ some subkeyText, pinned = subkeyText := by
  intro pinned hPinned
  exact (Option.some.inj hPinned).symm

/-- The machine without an allowlist still prints the public key. -/
theorem prints_machine : Prints deployedCrates keyCrates exportCrates none
    { cli with printPublicKey := true } { machine with embedded := [] }
    { code := 0, printed := teamArmor } ⟨[0x07]⟩ derivedTeamKey where
  quorum := rfl
  derived := deriveTeamKey_keyCrates
  pinned := by
    intro pinned hPinned
    cases hPinned
  asked := rfl
  code := rfl
  exported := publicKeyArmored_derivedTeamKey

end Reference

namespace Boot

open Lib Lib.Text Router

open Reference in
/-- The team's machine prints its public key without an allowlist, and serves it with one. -/
theorem printed_key_is_served_machine :
    handle deployedCrates exportCrates ⟨[], []⟩ serverState none []
        { method := .get, path := "/public-key", body := [], complete := true } =
      { status := .ok, body := asBytes teamArmor } :=
  printed_key_is_served (mainPinning_of_prints prints_machine) rfl
    (mainPinning_eq_ok_iff.mpr (starts_machine pinned_subkeyText)) rfl ⟨[], []⟩ none [] rfl rfl

end Boot
end TvcGpg
