import LwsClient.Acceptance
import LwsClient.Service

/-!
# Failure paths and the ledger

What the failure paths of `client.c` release, close and announce, read off
the ledger of `Event`s.  Two of them release a resource twice: the random
device failing inside `libwebsockets_generate_client_handshake` closes the
session there and again in its caller, and a receive buffer allocation that
fails after the offered protocol list was freed frees it again at `bail3`.
The filter callback's verdict is never read, and that late allocation failure
leaves a connection that fails in state `ESTABLISHED` and mode `WS_CLIENT`.
-/

namespace LwsClient

/-- Lines 592-640 reached by a reply that passed the checks of lines 384-590,
with a protocol that needs no user memory and a failing receive buffer
allocation: the connection is committed before `bail3` frees the offered
list and `bail2` reports the error and closes the session. -/
theorem lwsClientInterpretServerHandshake_of_rxFailure {w w₁ : World} {i : Nat}
    {protocol : Protocol} (checked : checkServerHandshake w = .next () w₁)
    (selected : w₁.wsi.protocol = some i)
    (registered : w₁.context.protocols[i]? = some protocol)
    (noUserSpace : protocol.perSessionDataSize = 0) (rxFailure : w₁.io.mallocOk = false) :
    ∃ events w', lwsClientInterpretServerHandshake w = .next 1 w' ∧
      w'.wsi = clearUnion { w₁.wsi with pendingTimeout := .noPendingTimeout,
                                        state := .established, mode := .wsClient } ∧
      w'.log = w₁.log ++ events ++ freedIfSet w₁.wsi.cProtocol .cProtocol ++
        bail2Events w'.wsi := by
  obtain ⟨size, committed⟩ := establish_of_rxFailure selected registered noUserSpace rxFailure
  have body : interpretBody w = establish w₁ := by rw [interpretBody, Exec.bind_of_next checked]
  rw [committed] at body
  rw [lwsClientInterpretServerHandshake_of_bail3 body, interpretBail3_apply]
  exact ⟨.protocolCallback i .clientFilterPreEstablish :: tokenFrees w₁.wsi.hdrs Token.all ++
    [.malloc size false], _, rfl, rfl, by simp [clearUnion]⟩

/-- Resources released twice on two failure paths.  A plain-socket connection
whose random device fails while the request is made is closed by the
generator (lines 714-727) and again by its caller (lines 204-209).  A reply
that passed the checks of lines 384-590, met by a failing receive buffer
allocation (lines 634-637), has its offered protocol list freed at line 433
or 455 and again at `bail3` (lines 670-672). -/
theorem failurePaths_release_twice :
    (∀ (parser : Parser) (revents : Revents) (w : World),
      w.wsi.mode = .wsClientIssueHandshake → w.wsi.useSsl = .off →
      w.io.nextRandom.length < 16 →
      ∃ w', lwsClientSocketService parser revents w = .next 0 w' ∧
        closeCount w'.log = closeCount w.log + 2) ∧
    (∀ (w w₁ : World) (offered : CStr) (i : Nat) (protocol : Protocol),
      w.wsi.cProtocol = some offered → checkServerHandshake w = .next () w₁ →
      w₁.wsi.protocol = some i → w₁.context.protocols[i]? = some protocol →
      protocol.perSessionDataSize = 0 → w₁.io.mallocOk = false →
      ∃ w', lwsClientInterpretServerHandshake w = .next 1 w' ∧
        freeCount .cProtocol w.log + 2 ≤ freeCount .cProtocol w'.log) := by
  constructor
  · intro parser revents w issuing plain short
    refine ⟨_, by rw [lwsClientSocketService_apply, issuing]
                  exact withLabels_of_ret (issueHandshake_of_short_random plain short), ?_⟩
    simp only [closeCount_append, closeCount_freedIfSet]
    rfl
  · intro w w₁ offered i protocol offeredSlot checked selected registered noUserSpace rxFailure
    obtain ⟨-, events, -, -, keepsOffer, -, -, -, logged⟩ := checkServerHandshake_frame checked
    obtain ⟨events', w', run, -, relogged⟩ :=
      lwsClientInterpretServerHandshake_of_rxFailure checked selected registered noUserSpace
        rxFailure
    refine ⟨w', run, ?_⟩
    rw [relogged, logged, keepsOffer, offeredSlot]
    simp only [freedIfSet_some, freeCount_append]
    simp [freeCount]
    omega

/-- A connection about to make its request on a plain socket, offering `chat`. -/
def aboutToRequest : World :=
  let w := awaitingReply [quietProtocol ⟨"chat".toList, by decide⟩] (by simp) []
    (some ⟨"chat".toList, by decide⟩) .empty
  { w with wsi := { w.wsi with mode := .wsClientIssueHandshake, parserComplete := false } }

/-- A conformant reply without a protocol token to a client that offered
`chat`, met by a failing receive buffer allocation. -/
def rxStarvedReply : World :=
  let w := awaitingReply [quietProtocol ⟨"chat".toList, by decide⟩] (by simp) []
    (some ⟨"chat".toList, by decide⟩) (.ofList (switchingHeaders rfcAccept))
  { w with io := { w.io with mallocs := [false] } }

theorem starvedRuns_release_twice :
    (∃ w', lwsClientSocketService (fun _ => ⟨true, false, .empty⟩)
        ⟨true, false, false, false⟩ aboutToRequest = .next 0 w' ∧
      closeCount w'.log = closeCount aboutToRequest.log + 2) ∧
    ∃ w', lwsClientInterpretServerHandshake rxStarvedReply = .next 1 w' ∧
      freeCount .cProtocol rxStarvedReply.log + 2 ≤ freeCount .cProtocol w'.log :=
  ⟨failurePaths_release_twice.1 _ _ aboutToRequest rfl rfl (by decide),
    failurePaths_release_twice.2 rxStarvedReply (checkServerHandshake rxStarvedReply).state _ 0 _
      rfl rfl rfl rfl rfl rfl⟩

/-- The filter callback cannot veto the connection, and a failure after it
leaves the connection established.  Lines 602-604 ignore what
`CLIENT_FILTER_PRE_ESTABLISH` returns: when every allocation succeeds the
connection is established and told so.  A receive buffer allocation failing
at lines 634-637 comes after lines 618-619 marked the connection
established, so the failed handshake reports `CLIENT_CONNECTION_ERROR` and
leaves the connection in state `ESTABLISHED` and mode `WS_CLIENT`. -/
theorem establishment_ignores_failure :
    (∀ (w w₁ : World) (i : Nat) (protocol : Protocol),
      checkServerHandshake w = .next () w₁ → w₁.wsi.protocol = some i →
      w₁.context.protocols[i]? = some protocol →
      protocol.callback .clientFilterPreEstablish ≠ 0 →
      (∀ b ∈ w₁.io.mallocs, b = true) →
      ∃ w', lwsClientInterpretServerHandshake w = .next 0 w' ∧
        .protocolCallback i .clientFilterPreEstablish ∈ w'.log ∧
        .protocolCallback i .clientEstablished ∈ w'.log ∧
        w'.wsi.state = .established ∧ w'.wsi.mode = .wsClient) ∧
    (∀ (w w₁ : World) (i : Nat) (protocol : Protocol),
      checkServerHandshake w = .next () w₁ → w₁.wsi.protocol = some i →
      w₁.context.protocols[i]? = some protocol → protocol.perSessionDataSize = 0 →
      w₁.io.mallocOk = false →
      ∃ w', lwsClientInterpretServerHandshake w = .next 1 w' ∧
        .protocolCallback i .clientConnectionError ∈ w'.log ∧
        w'.wsi.state = .established ∧ w'.wsi.mode = .wsClient) := by
  constructor
  · rintro w w₁ i protocol checked selected registered - allocations
    obtain ⟨w', committed, filtered, established⟩ :=
      establish_of_allocations selected registered allocations
    obtain ⟨-, -, state, mode⟩ := establish_commits committed
    exact ⟨w', lwsClientInterpretServerHandshake_of_checked checked committed, filtered,
      established, state, mode⟩
  · intro w w₁ i protocol checked selected registered noUserSpace rxFailure
    obtain ⟨j, -, chosen, callback, -⟩ := checkServerHandshake_frame checked
    obtain rfl : j = i := Option.some.inj (chosen.symm.trans selected)
    obtain ⟨events, w', run, conn, logged⟩ :=
      lwsClientInterpretServerHandshake_of_rxFailure checked selected registered noUserSpace
        rxFailure
    refine ⟨w', run, ?_, by simp [conn, clearUnion], by simp [conn, clearUnion]⟩
    rw [logged, conn]
    simp [bail2Events, clearUnion, callback]

/-- A registry protocol whose filter callback vetoes every connection. -/
def vetoingProtocol : Protocol :=
  { quietProtocol ⟨"chat".toList, by decide⟩ with
    callback := fun
      | .clientFilterPreEstablish => 1
      | _ => 0 }

/-- A conformant reply without a protocol token, selecting `vetoingProtocol`. -/
def vetoingReply : World :=
  awaitingReply [vetoingProtocol] (by simp) [] none (.ofList (switchingHeaders rfcAccept))

theorem vetoedAndStarved_established :
    (∃ w', lwsClientInterpretServerHandshake vetoingReply = .next 0 w' ∧
      .protocolCallback 0 .clientFilterPreEstablish ∈ w'.log ∧
      .protocolCallback 0 .clientEstablished ∈ w'.log ∧
      w'.wsi.state = .established ∧ w'.wsi.mode = .wsClient) ∧
    ∃ w', lwsClientInterpretServerHandshake rxStarvedReply = .next 1 w' ∧
      .protocolCallback 0 .clientConnectionError ∈ w'.log ∧
      w'.wsi.state = .established ∧ w'.wsi.mode = .wsClient :=
  ⟨establishment_ignores_failure.1 vetoingReply (checkServerHandshake vetoingReply).state 0
    vetoingProtocol rfl rfl rfl (by decide) (by decide),
    establishment_ignores_failure.2 rxStarvedReply (checkServerHandshake rxStarvedReply).state 0 _
      rfl rfl rfl rfl rfl⟩

end LwsClient
