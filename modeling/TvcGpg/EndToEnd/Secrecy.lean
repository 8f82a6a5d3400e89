import TvcGpg.EndToEnd.Replays

/-!
# What the answers say about the session keys

The server opens PKESKs for whoever may ask, and what it finds in them is the one thing it
must not show to anybody else.  Two servers are compared here that differ in nothing but
that: `withDecrypt` exchanges the session keys in all PKESKs for others.  In every run they
send the same responses and observe the same series, except for the envelopes of the
released session keys (`session_keys_do_not_show`).  Receipts, refusals and metrics have
nothing of a session key in them.

What the envelope itself shows is the business of its encryption, of which only one thing is
asked: whether it succeeds does not depend on what is encrypted.
-/

namespace TvcGpg
namespace Service

open Lib Lib.Text Lib.Fallible Lib.Runs Router

/-- The crates with other session keys in the PKESKs. -/
def withDecrypt (crates : Crates)
    (decrypt : SecretSubkey → PkeskBytes → Option (Option PlainSessionKey)) : Crates :=
  { crates with rpgp := { crates.rpgp with decrypt } }

/-- Two results of a decryption that differ in the session key only. -/
inductive SameShape : Option (Option PlainSessionKey) → Option (Option PlainSessionKey) → Prop
  | key (symAlg symAlg' : UInt8) (key key' : Bytes) :
      SameShape (some (some (.v3_4 symAlg key))) (some (some (.v3_4 symAlg' key')))
  | same (result : Option (Option PlainSessionKey)) : SameShape result result

/-- Whether something can be encrypted to a key does not depend on what it is. -/
def SealsAlike (p256 : QosP256) : Prop :=
  ∀ transport plain plain' entropy,
    (p256.encrypt transport plain entropy).isSome = (p256.encrypt transport plain' entropy).isSome

/-- Two session key responses that differ in their envelopes only. -/
structure ButEnvelope (response response' : SessionKeyResponse) : Prop where
  receiptJson : response.receiptJson = response'.receiptJson
  receiptSignature : response.receiptSignature = response'.receiptSignature
  quorumPublicKey : response.quorumPublicKey = response'.quorumPublicKey

/-- Two responses that differ in the envelope of a released session key only. -/
inductive AlikeResponse (crates : Crates) : Response → Response → Prop
  | same (response : Response) : AlikeResponse crates response response
  | granted {response response' : SessionKeyResponse} (hBut : ButEnvelope response response') :
      AlikeResponse crates (released crates response) (released crates response')

section Secrecy

variable {crates : Crates} {exports : Team.ExportCrates} {axum : Axum} {state : ServerState}
  {decrypt : SecretSubkey → PkeskBytes → Option (Option PlainSessionKey)}

/-! ## One release -/

/-- A step that finds a value in both chains or in neither. -/
theorem alike_okOr {ε α β : Type} {related : α → β → Prop} {value : Option α} {value' : Option β}
    (hSome : value.isSome = value'.isSome)
    (hRelated : ∀ a b, value = some a → value' = some b → related a b) (error : ε) :
    Alike related (okOr value error) (okOr value' error) := by
  cases value with
  | none =>
      cases value' with
      | none => exact .error error
      | some b => cases hSome
  | some a =>
      cases value' with
      | none => cases hSome
      | some b => exact .ok (hRelated a b rfl rfl)

/-- The stage that opens the PKESK. -/
theorem alike_releasePkesk (hSeals : SealsAlike crates.p256)
    (hShape : ∀ subkey values, SameShape (crates.rpgp.decrypt subkey values)
      (decrypt subkey values)) (state : AppState) (entropy : Bytes) (entry : SignerEntry)
    (payload : SessionKeyPayload) (transport : P256EncryptPublic) :
    Alike ButEnvelope (releasePkesk crates state entropy entry payload transport)
      (releasePkesk (withDecrypt crates decrypt) state entropy entry payload transport) := by
  unfold releasePkesk
  refine alike_bind _ fun pkeskBytes => ?_
  refine alike_bind _ fun values => ?_
  have hDecrypt : (withDecrypt crates decrypt).rpgp.decrypt = decrypt := rfl
  rw [hDecrypt]
  generalize hFound : crates.rpgp.decrypt state.teamKey.encryptionSubkey values = found
  generalize hFound' : decrypt state.teamKey.encryptionSubkey values = found'
  have hSame := hShape state.teamKey.encryptionSubkey values
  rw [hFound, hFound'] at hSame
  cases hSame with
  | key symAlg symAlg' key key' =>
      simp only [okOr_some, ok_bind]
      -- from here on only the envelope has the session key in it
      refine (alike_okOr (hSeals transport _ _ entropy) (fun _ _ _ _ => trivial) _).bind
        fun envelope envelope' _ => ?_
      refine alike_bind _ fun receiptBytes => ?_
      refine alike_bind _ fun receiptSignature => ?_
      exact alike_bind _ fun receiptJson =>
        .ok ⟨rfl, rfl, rfl⟩
  | same result =>
      refine alike_bind _ fun plain => alike_bind _ fun plain => ?_
      cases plain with
      | other key => exact .error _
      | v3_4 symAlg key =>
          refine alike_bind _ fun envelope => ?_
          refine alike_bind _ fun receiptBytes => ?_
          refine alike_bind _ fun receiptSignature => ?_
          exact alike_bind _ fun receiptJson =>
            .ok ⟨rfl, rfl, rfl⟩

/-- The whole of a release: nothing in front of that stage looks at the PKESK. -/
theorem alike_release (hSeals : SealsAlike crates.p256)
    (hShape : ∀ subkey values, SameShape (crates.rpgp.decrypt subkey values)
      (decrypt subkey values)) (state : AppState) (body : Bytes) (now : UInt64)
    (entropy : Bytes) :
    Alike ButEnvelope (release crates state body now entropy)
      (release (withDecrypt crates decrypt) state body now entropy) := by
  unfold release
  refine alike_bind _ fun request => alike_bind _ fun signature => alike_bind _ fun _ =>
    alike_bind _ fun entry => alike_bind _ fun _ => ?_
  unfold releaseSigned
  exact alike_bind _ fun payload => alike_bind _ fun _ => alike_bind _ fun _ =>
    alike_bind _ fun _ => alike_bind _ fun transport =>
      alike_releasePkesk hSeals hShape state entropy entry payload transport

/-! ## One answer -/

theorem alike_answer {clock : Option UInt64} {entropy body : Bytes}
    (hSeals : SealsAlike crates.p256)
    (hShape : ∀ subkey values, SameShape (crates.rpgp.decrypt subkey values)
      (decrypt subkey values)) :
    AlikeResponse crates
      (answer crates ((sessionKey crates state clock entropy body).map fun response =>
        asBytes (crates.json.write response.toJson)))
      (answer crates ((sessionKey (withDecrypt crates decrypt) state clock entropy body).map
        fun response => asBytes (crates.json.write response.toJson))) := by
  unfold sessionKey releaseSessionKey
  cases clock with
  | none => exact .same _
  | some now =>
      rw [okOr_some, ok_bind, ok_bind]
      have hRelease := @alike_release crates decrypt hSeals hShape state.forRelease body now entropy
      generalize release crates state.forRelease body now entropy = outcome at hRelease
      generalize release (withDecrypt crates decrypt) state.forRelease body now entropy =
        outcome' at hRelease
      cases hRelease with
      | error reason => exact .same _
      | ok hBut => exact .granted hBut

/-- The two servers answer a request alike. -/
theorem alike_handle (hSeals : SealsAlike crates.p256)
    (hShape : ∀ subkey values, SameShape (crates.rpgp.decrypt subkey values)
      (decrypt subkey values)) (clock : Option UInt64) (entropy : Bytes) (request : Request) :
    AlikeResponse crates (handle crates exports axum state clock entropy request)
      (handle (withDecrypt crates decrypt) exports axum state clock entropy request) := by
  by_cases hPath : request.path = "/session-key"
  · rw [handle_sessionKey hPath, handle_sessionKey hPath]
    unfold post
    split
    · cases readBody axum request with
      | error response => exact .same response
      | ok body => exact alike_answer hSeals hShape
    · exact .same _
  · unfold handle
    simp only [if_neg hPath]
    exact .same _

theorem AlikeResponse.status {response response' : Response}
    (hAlike : AlikeResponse crates response response') : response.status = response'.status := by
  cases hAlike with
  | same => rfl
  | granted hBut => rfl

/-! ## Whole runs -/

/-- Two servers that differ in the envelopes they have sent only. -/
structure AlikeServers (crates : Crates) (s s' : Server) : Prop where
  observed : s.observed = s'.observed
  pending : s.pending = s'.pending
  answered : List.Forall₂ (fun reply reply' => reply.1 = reply'.1 ∧
    AlikeResponse crates reply.2 reply'.2) s.answered s'.answered

theorem AlikeServers.step (hSeals : SealsAlike crates.p256)
    (hShape : ∀ subkey values, SameShape (crates.rpgp.decrypt subkey values)
      (decrypt subkey values)) {s t s' : Server} {event : Event} (hAlike : AlikeServers crates s t)
    (hStep : step crates exports axum state s event = some s') :
    ∃ t', step (withDecrypt crates decrypt) exports axum state t event = some t' ∧
      AlikeServers crates s' t' := by
  rcases step_cases hStep with ⟨request, rfl, hMetrics, rfl⟩ | ⟨request, rfl, hOther, rfl⟩ |
    ⟨request, clock, entropy, rfl, hPending, rfl⟩ | ⟨request, rfl, hPending, rfl⟩
  · exact ⟨t, if_pos hMetrics, hAlike⟩
  · exact ⟨_, if_neg hOther, hAlike.observed, by rw [hAlike.pending], hAlike.answered⟩
  · rw [hAlike.pending] at hPending
    have hReply :=
      @alike_handle crates exports axum state decrypt hSeals hShape clock entropy request
    refine ⟨_, if_pos hPending, ?_, by rw [hAlike.pending], ?_⟩
    · -- the status is all the layer looks at
      unfold labelsOf
      rw [hAlike.observed, hReply.status]
    · exact List.rel_append hAlike.answered (.cons ⟨rfl, hReply⟩ .nil)
  · rw [hAlike.pending] at hPending
    exact ⟨_, if_pos hPending, hAlike.observed, by rw [hAlike.pending], hAlike.answered⟩

/-- Nobody but the owner of a transport key is told a session key: with other session keys in
all the PKESKs the server goes through the same events with the same observations, and
answers the same, but for the envelopes of the session keys it releases. -/
theorem session_keys_do_not_show (hSeals : SealsAlike crates.p256)
    (hShape : ∀ subkey values, SameShape (crates.rpgp.decrypt subkey values)
      (decrypt subkey values)) {events : List Event} {s : Server}
    (hRun : Run (step crates exports axum state) Any start events s) :
    ∃ s', Run (step (withDecrypt crates decrypt) exports axum state) Any start events s' ∧
      AlikeServers crates s s' := by
  obtain ⟨s', hRun', hAlike⟩ := @Run.simulation _ _ _ _ _ _ _
    (step (withDecrypt crates decrypt) exports axum state) start (AlikeServers crates) id events s
    hRun ⟨rfl, rfl, .nil⟩ fun _ _ _ _ hAlike hStep => hAlike.step hSeals hShape hStep
  rw [List.map_id] at hRun'
  exact ⟨s', hRun', hAlike⟩

end Secrecy

end Service

namespace Reference

open Service

/-- Other session keys in the PKESKs of the team. -/
def otherKeys (subkey : SecretSubkey) (values : PkeskBytes) : Option (Option PlainSessionKey) :=
  match deployedCrates.rpgp.decrypt subkey values with
  | some (some (.v3_4 symAlg key)) => some (some (.v3_4 symAlg (key.map fun byte => byte + 1)))
  | result => result

theorem sameShape_otherKeys (subkey : SecretSubkey) (values : PkeskBytes) :
    SameShape (deployedCrates.rpgp.decrypt subkey values) (otherKeys subkey values) := by
  unfold otherKeys
  split
  · rename_i symAlg key hFound
    rw [hFound]
    exact .key symAlg symAlg key _
  · exact .same _

end Reference

namespace Service

open Lib.Runs Router Reference

/-- Three requests of the engineer, with and without the session key of the message. -/
theorem session_keys_do_not_show_otherKeys : ∃ s s',
    s.answered.length = 3 ∧
      Run (step (withDecrypt deployedCrates otherKeys) exportCrates axumTexts serverState) Any start
          (sentThrice deployedRequest 1560 1700 1900) s' ∧
        AlikeServers deployedCrates s s' := by
  have hPath : deployedRequest.path ≠ Metrics.metricsPath := by
    show "/session-key" ≠ "/metrics"
    decide
  obtain ⟨s, hRun, hAnswered⟩ := @run_sentThrice deployedCrates exportCrates axumTexts serverState
    deployedRequest hPath 1560 1700 1900
  have hSeals : SealsAlike deployedCrates.p256 := fun _ _ _ _ => rfl
  obtain ⟨s', hRun', hAlike⟩ := session_keys_do_not_show hSeals sameShape_otherKeys hRun
  refine ⟨s, s', ?_, hRun', hAlike⟩
  rw [hAnswered]
  rfl

end Service
end TvcGpg
