import LwsClient.Generate
import LwsClient.Interpret

/-!
# What the client accepts

Results about `lws_client_interpret_server_handshake` as a whole, over every
header table a server can make the parser produce: an extension the generator
never proposed that it instantiates all the same, the replies it reads
through NULL on instead of failing, and the conformant replies it refuses.
What an accepted reply must have carried is `acceptedHandshake_sound`, stated
against the generator's key once the request is modelled.

The examples run on `awaitingReply`, a connection that has sent its request
and whose parser has completed on the reply `hdrs`.
-/

namespace LwsClient

/-- The header table with the given slots set and every other slot NULL. -/
def HeaderTable.ofList (entries : List (Token × CStr)) : HeaderTable :=
  fun t => entries.lookup t

/-- A registry protocol whose callback returns 0 for every reason. -/
def quietProtocol (name : CStr) : Protocol where
  name := name
  callback := fun _ => 0
  appendHandshakeHeader := fun _ => []
  perSessionDataSize := 0
  rxBufferSize := 0

/-- The accept value of RFC 6455's example nonce `the sample nonce`. -/
def rfcAccept : CStr := ⟨"s3pPLMBiTxaQ9kYGzzhZRbK+xOo=".toList, by decide⟩

/-- A client that offered `offered`, stored `rfcAccept`, and whose parser has
completed on the reply `hdrs`. -/
def awaitingReply (protocols : List Protocol) (nonempty : protocols ≠ [])
    (extensions : List Extension) (offered : Option CStr) (hdrs : HeaderTable) : World where
  context :=
    { protocols, protocolsNonempty := nonempty, extensions, serviceBuffer := fun _ => '\x00',
      serviceBufferSize := 4096, maxSocketIoBuf := 4096, sendBufferPrePadding := 0,
      sendBufferPostPadding := 0 }
  wsi :=
    { mode := .wsClientWaitingServerReply, state := .other, useSsl := .off, ssl := false,
      cPath := ⟨"/".toList, by decide⟩, cHost := ⟨"server.example.com".toList, by decide⟩,
      cOrigin := none, cProtocol := offered, ietfSpecRevision := 13, hdrs, parsed := [],
      parserComplete := true, initialHandshakeHashBase64 := rfcAccept, protocol := none,
      cCallback := none, activeExtensions := [], userSpace := false, rxUserBuffer := false,
      pendingTimeout := .awaitingServerResponse }
  io := { arrivals := [], writes := [], connects := [], verifyResult := .ok, randoms := [],
          mallocs := [], uninitialized := '\x00' }
  log := []

/-- The status line and upgrade headers of a conformant reply, with `accept`. -/
def switchingHeaders (accept : CStr) : List (Token × CStr) :=
  [(.http, ⟨"101".toList, by decide⟩), (.upgrade, ⟨"WebSocket".toList, by decide⟩),
    (.connection, ⟨"Upgrade".toList, by decide⟩), (.accept, accept)]

theorem switchingHeaders_accepted (accept : CStr) (rest : List (Token × CStr)) :
    ResponseHeadersAccepted (.ofList (switchingHeaders accept ++ rest)) :=
  ⟨⟨_, rfl, by decide⟩, ⟨_, rfl, by decide⟩, ⟨_, rfl, by decide⟩⟩

/-! ## An extension the generator vetoes -/

/-- An extension whose own callback vetoes proposing it. -/
def vetoedDeflate : Extension where
  name := ⟨"deflate".toList, by decide⟩
  callback := fun
    | .checkOkToProposeExtension _ => 1
    | _ => 0
  perSessionDataSize := 0

/-- A conformant reply naming the vetoed extension, to a client that offered
no protocol. -/
def vetoedReply : World :=
  awaitingReply [quietProtocol ⟨"chat".toList, by decide⟩] (by simp) [vetoedDeflate] none
    (.ofList (switchingHeaders rfcAccept ++ [(.extensions, ⟨"deflate".toList, by decide⟩)]))

/-- The connection after `vetoedReply` is checked and committed. -/
def vetoedEstablished : World :=
  (establish (checkServerHandshake vetoedReply).state).state

theorem vetoedReply_accepted :
    lwsClientInterpretServerHandshake vetoedReply = .next 0 vetoedEstablished :=
  @lwsClientInterpretServerHandshake_of_checked _ (checkServerHandshake vetoedReply).state _ rfl rfl

/-- The generator proposes no extension for a registry whose only extension
vetoes itself, yet the interpreter instantiates that extension when the
server names it. -/
theorem vetoedExtension_instantiated :
    (∃ w', proposeExtensions 0 vetoedReply.context.extensions.enum vetoedReply = .next [] w') ∧
      ∃ w', lwsClientInterpretServerHandshake vetoedReply = .next 0 w' ∧
        0 ∈ w'.wsi.activeExtensions :=
  ⟨⟨_, rfl⟩, _, vetoedReply_accepted, by decide⟩

/-! ## Missing headers -/

/-- The replies on which lines 384-590 read through NULL: no status token;
past the status check without `Upgrade`, or past `Upgrade` without
`Connection`; past the three checks with a protocol token but no offered
list; or past them with neither a protocol nor an extensions token and no
accept token. -/
def ReadsNullHeader (wsi : Conn) : Prop :=
  wsi.hdrs .http = none ∨
    StatusSwitching wsi.hdrs ∧ wsi.hdrs .upgrade = none ∨
    StatusSwitching wsi.hdrs ∧ UpgradeWebsocket wsi.hdrs ∧ wsi.hdrs .connection = none ∨
    ResponseHeadersAccepted wsi.hdrs ∧ tokenLen (wsi.hdrs .protocol) ≠ 0 ∧
      wsi.cProtocol = none ∨
    ResponseHeadersAccepted wsi.hdrs ∧ tokenLen (wsi.hdrs .protocol) = 0 ∧
      tokenLen (wsi.hdrs .extensions) = 0 ∧ wsi.hdrs .accept = none

theorem checkServerHandshake_reads_null {w : World} (missing : ReadsNullHeader w.wsi) :
    ∃ w', checkServerHandshake w = .exit (.undefined .nullDeref) w' := by
  have untouched : ∀ t, t ≠ .http → t ≠ .upgrade → t ≠ .connection →
      lowerStatusHeaders w.wsi.hdrs t = w.wsi.hdrs t :=
    fun _ notHttp notUpgrade notConnection =>
      lowerStatusHeaders_other notHttp notUpgrade notConnection
  rcases missing with early | early | early | ⟨headers, present, noOffer⟩ |
    ⟨headers, noProtocol, noExtensions, noAccept⟩
  · obtain ⟨w', run⟩ := checkResponseHeaders_reads_null (.inl early)
    exact ⟨w', Exec.bind_of_exit run⟩
  · obtain ⟨w', run⟩ := checkResponseHeaders_reads_null (.inr (.inl early))
    exact ⟨w', Exec.bind_of_exit run⟩
  · obtain ⟨w', run⟩ := checkResponseHeaders_reads_null (.inr (.inr early))
    exact ⟨w', Exec.bind_of_exit run⟩
  · let w₁ : World := { w with wsi := { w.wsi with hdrs := lowerStatusHeaders w.wsi.hdrs } }
    have present₁ : tokenLen (w₁.wsi.hdrs .protocol) ≠ 0 := by
      simpa [w₁, untouched] using present
    exact ⟨_, by simp only [checkServerHandshake, Exec.bind_apply,
      checkResponseHeaders_eq_next.mpr ⟨headers, rfl⟩,
      selectProtocol_reads_null present₁ noOffer]; rfl⟩
  · let w₁ : World := { w with wsi := { w.wsi with hdrs := lowerStatusHeaders w.wsi.hdrs } }
    have absent₁ : tokenLen (w₁.wsi.hdrs .protocol) = 0 := by
      simpa [w₁, untouched] using noProtocol
    let w₂ : World :=
      { w₁ with wsi := { w₁.wsi with protocol := some 0, cCallback := some 0 },
                log := w₁.log ++ freedIfSet w₁.wsi.cProtocol .cProtocol }
    have noExtensions₂ : tokenLen (w₂.wsi.hdrs .extensions) = 0 := by
      simpa [w₂, w₁, untouched] using noExtensions
    have noAccept₂ : w₂.wsi.hdrs .accept = none := by
      simpa [w₂, w₁, untouched] using noAccept
    exact ⟨_, by simp only [checkServerHandshake, Exec.bind_apply,
      checkResponseHeaders_eq_next.mpr ⟨headers, rfl⟩, selectProtocol_of_absent absent₁,
      instantiateExtensions_of_absent noExtensions₂, checkAccept_reads_null noAccept₂]; rfl⟩

/-- Every reply of `ReadsNullHeader` makes the handshake read through NULL
instead of failing through `bail2`. -/
theorem missingHeader_reads_null {w : World} (missing : ReadsNullHeader w.wsi) :
    ∃ w', lwsClientInterpretServerHandshake w = .exit (.undefined .nullDeref) w' := by
  obtain ⟨w', run⟩ := checkServerHandshake_reads_null missing
  exact ⟨w', lwsClientInterpretServerHandshake_of_undefined (Exec.bind_of_exit run)⟩

/-- A conformant reply naming the protocol `chat` to a client that offered none. -/
def unofferedProtocolReply : World :=
  awaitingReply [quietProtocol ⟨"chat".toList, by decide⟩] (by simp) [] none
    (.ofList (switchingHeaders rfcAccept ++ [(.protocol, ⟨"chat".toList, by decide⟩)]))

theorem unofferedProtocol_reads_null :
    ∃ w', lwsClientInterpretServerHandshake unofferedProtocolReply =
      .exit (.undefined .nullDeref) w' :=
  missingHeader_reads_null
    (.inr (.inr (.inr (.inl ⟨switchingHeaders_accepted _ _, by decide, rfl⟩))))

/-! ## Completeness -/

/-- A server that picks an entry of the offered list other than the first is
refused: the skip of lines 446-449 stops on a space, never at the start of a
later entry, so the match of lines 438-450 fails and lines 452-459 jump to
`bail2`, which closes the session and returns 1. -/
theorem laterOfferedProtocol_refused {w : World} {p offered : CStr}
    (headers : ResponseHeadersAccepted w.wsi.hdrs) (picked : w.wsi.hdrs .protocol = some p)
    (nonempty : p.chars ≠ []) (trimmed : p.chars.head? ≠ some ' ')
    (offeredSlot : w.wsi.cProtocol = some offered)
    (notFirst : offered.chars ≠ p.chars ∧ ¬p.chars ++ [','] <+: offered.chars) :
    ∃ w', lwsClientInterpretServerHandshake w = .next 1 w' ∧
      .close .protocolErr w.wsi.mode w.wsi.state ∈ w'.log := by
  have unmatched : matchOffered p.chars offered.chars = false := by
    rw [← Bool.not_eq_true, matchOffered_iff nonempty trimmed p.noNul offered.noNul]
    exact fun first => first.elim notFirst.1 notFirst.2
  let w₁ : World := { w with wsi := { w.wsi with hdrs := lowerStatusHeaders w.wsi.hdrs } }
  have lowered : w₁.wsi.hdrs .protocol = some p := by
    simp only [w₁, picked,
      lowerStatusHeaders_other (t := .protocol) (by decide) (by decide) (by decide)]
  have refused : interpretBody w =
      .exit (.goto .bail2) { w₁ with log := w₁.log ++ [.free .cProtocol] } := by
    simp only [interpretBody, checkServerHandshake, Exec.bind_apply,
      checkResponseHeaders_eq_next.mpr ⟨headers, rfl⟩,
      selectProtocol_of_unmatched lowered nonempty offeredSlot unmatched]
  rw [lwsClientInterpretServerHandshake_of_bail2 refused, interpretBail2_apply]
  exact ⟨_, rfl, by simp [bail2Events]⟩

/-- The failing input: `chat,superchat` offered, `superchat` picked. -/
def superchatReply : World :=
  awaitingReply [quietProtocol ⟨"chat".toList, by decide⟩,
      quietProtocol ⟨"superchat".toList, by decide⟩] (by simp) []
    (some ⟨"chat,superchat".toList, by decide⟩)
    (.ofList (switchingHeaders rfcAccept ++ [(.protocol, ⟨"superchat".toList, by decide⟩)]))

theorem superchat_refused :
    ∃ w', lwsClientInterpretServerHandshake superchatReply = .next 1 w' ∧
      .close .protocolErr superchatReply.wsi.mode superchatReply.wsi.state ∈ w'.log :=
  laterOfferedProtocol_refused (switchingHeaders_accepted _ _) rfl (by decide) (by decide) rfl
    ⟨by decide, by decide⟩

end LwsClient
