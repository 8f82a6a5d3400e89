import TvcGpg.EndToEnd.HonestRun

/-!
# Two clocks

The index is built once, at boot, with the keys that can verify at that time, and
a request is handled later, by the clock of its own time.  A release looks at the
index only, so the key that signed a released request was usable at boot; whether
it still is depends on the expiries reached since.
-/

namespace TvcGpg

open Lib Lib.Text Lib.Fallible

namespace Reference

/-- The certificate of the engineer, given a lifetime of 500 seconds, is fresh at
second 1200. -/
theorem limited_fresh :
    expiredAt primaryKey.createdAt (selfSignature (some 500)) 1200 = none := by
  decide

/-- It has expired at second 2000. -/
theorem limited_reached : Reached (primaryExpiry (certificate (some 500) [])) 2000 :=
  ⟨1500, rfl, by decide⟩

end Reference

open Reference in
/-- An app that booted at second 1200 still serves, at second 2000, the key that
expired at second 1500. -/
theorem expired_key_released :
    Allowlist.parseAt (engineerCrates (some 500)).rpgp (asBytes firstBlock) 1200 =
        .ok (state (some 500)).allowlist ∧
      ∃ response request signature entry,
        release (engineerCrates (some 500)) (state (some 500))
            (bodyAt (some 500) 2000 fingerprintArea) (2000 : UInt32).toUInt64 [] = .ok response ∧
          Authenticated (engineerCrates (some 500)) (state (some 500))
              (bodyAt (some 500) 2000 fingerprintArea) request signature entry ∧
            entry.key ∉ (classify (engineerCrates (some 500)).rpgp entry.certificate 2000).1 := by
  obtain ⟨response, hRelease, -⟩ :=
    release_bodyAt (some 500) 2000 (.inl rfl) nextPacket_fingerprint []
  have hAuthenticated := authenticated_bodyFor (some 500) (Hex.encode pkeskBytes) 2000 (.inl rfl)
    nextPacket_fingerprint
  refine ⟨parseAt_firstBlock limited_fresh, response, _, _, _, hRelease, hAuthenticated, ?_⟩
  intro hKey
  obtain ⟨-, -, -, hFresh, -⟩ := mem_classify_iff.mp hKey
  exact hFresh limited_reached

/-- The key behind a released session key was usable when the index was built, and
is still usable at the time of the release exactly when neither its certificate
nor its own binding has expired since. -/
theorem released_key_usable_at_boot {crates : Crates} {armored : Bytes} {boot now : UInt32}
    {state : AppState}
    (hParse : Allowlist.parseAt crates.rpgp armored boot = .ok state.allowlist)
    (hLater : boot ≤ now) {body entropy : Bytes} {response : SessionKeyResponse}
    (hRelease : release crates state body now.toUInt64 entropy = .ok response) :
    ∃ request signature entry, Authenticated crates state body request signature entry ∧
      entry.key ∈ (classify crates.rpgp entry.certificate boot).1 ∧
        (entry.key ∈ (classify crates.rpgp entry.certificate now).1 ↔
          ¬ Reached (primaryExpiry entry.certificate) now ∧
            ¬ BindingsLapsed crates.rpgp entry.certificate entry.key boot now) := by
  obtain ⟨-, hIndexed⟩ := parseAt_spec hParse
  obtain ⟨request, signature, entry, payload, transport, opening, hAuthenticated, -⟩ :=
    (release_eq_ok_iff crates).mp hRelease
  have hMem := mem_acceptedEntries_of_lookup hIndexed hAuthenticated.listed
  have hBoot := (mem_acceptedEntries_iff.mp hMem).1.2
  exact ⟨request, signature, entry, hAuthenticated, hBoot, mem_classify_later_iff hLater hBoot⟩

open Reference in
/-- The key of the engineer was usable at boot, and has expired since. -/
theorem released_key_usable_at_boot_bodyAt : ∃ request signature entry,
    Authenticated (engineerCrates (some 500)) (state (some 500))
        (bodyAt (some 500) 2000 fingerprintArea) request signature entry ∧
      entry.key ∈ (classify (engineerCrates (some 500)).rpgp entry.certificate 1200).1 ∧
        (entry.key ∈ (classify (engineerCrates (some 500)).rpgp entry.certificate 2000).1 ↔
          ¬ Reached (primaryExpiry entry.certificate) 2000 ∧
            ¬ BindingsLapsed (engineerCrates (some 500)).rpgp entry.certificate entry.key 1200
                2000) := by
  obtain ⟨response, hRelease, -⟩ :=
    release_bodyAt (some 500) 2000 (.inl rfl) nextPacket_fingerprint []
  exact released_key_usable_at_boot (parseAt_firstBlock limited_fresh) (by decide) hRelease

end TvcGpg
