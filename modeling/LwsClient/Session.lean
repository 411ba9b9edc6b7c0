import LwsClient.Decision
import LwsClient.Request
import LwsClient.Transport

/-!
# One handshake, from the request to the established connection

The client draws a key, sends the request that carries it, and stores the
value the server must answer with (lines 91-236 and 713-859); a later call
reads the reply byte by byte (lines 240-312), and the interpreter checks it
(lines 351-690).  This module puts the three phases together over the event
loop `serviceRun`: served once to send and once when the reply is readable, a
connection is established exactly when the reply answers the request that was
sent, whose accept value is the hash of that request's own key, and is closed
otherwise.  Established so, it has released the request's path, host and
origin, the offered protocol list and every header slot of the reply, each
once (`serviceRun_handshake_releases`).  The soundness of acceptance
(`acceptedHandshake_sound`) is stated here too, against the key the generator
drew.

The connection connects at the first call, on a plain socket or over TLS; a
TLS connect that takes several calls is `connectTls_of_stalled`'s case.
-/

namespace LwsClient

/-- `key_b64` of lines 713-729: sixteen bytes of the random device in base 64. -/
def drawnKey (w : World) : List Char := lwsB64Encode (w.io.nextRandom.take 16)

/-- The accept value lines 846-852 store for the reply to match. -/
def expectedAccept (w : World) : List Char :=
  lwsB64Encode (sha1 (drawnKey w ++ magicWebsocketGuid))

theorem World.closed_eq_false_iff {w : World} : w.closed = false ↔ closeCount w.log = 0 := by
  simp [World.closed, closeCount, List.countP_eq_zero]

theorem closeCount_byteEvents (cs : List Char) : closeCount (byteEvents cs) = 0 := by
  simpa [closeCount, List.countP_eq_zero] using byteEvents_any_isClose cs

/-! ## What is released

`Event.isFree` picks the `free` calls out of a ledger; these say which pieces
the handshake appends release anything. -/

theorem filter_isFree_of_quiet {events : List Event} (quiet : ∀ e ∈ events, e.isFree = false) :
    events.filter Event.isFree = [] :=
  List.filter_eq_nil_iff.mpr fun e mem => by simp [quiet e mem]

@[simp] theorem filter_isFree_freedIfSet (p : Option CStr) (b : Buffer) :
    (freedIfSet p b).filter Event.isFree = freedIfSet p b := by
  cases p <;> rfl

@[simp] theorem filter_isFree_tokenFrees (table : HeaderTable) (tokens : List Token) :
    (tokenFrees table tokens).filter Event.isFree = tokenFrees table tokens :=
  List.filter_eq_self.mpr fun _ mem => by
    obtain ⟨t, -, freed⟩ := List.mem_filterMap.mp mem
    obtain ⟨_, -, rfl⟩ := Option.map_eq_some'.mp freed
    rfl

@[simp] theorem filter_isFree_establishedCallbacks (active : List Nat)
    (exts : List (Nat × Extension)) :
    (establishedCallbacks active exts).filter Event.isFree = [] :=
  filter_isFree_of_quiet fun _ mem => by
    obtain ⟨_, -, rfl⟩ := List.mem_map.mp mem
    rfl

@[simp] theorem filter_isFree_byteEvents (cs : List Char) :
    (byteEvents cs).filter Event.isFree = [] :=
  filter_isFree_of_quiet fun _ mem => by
    obtain ⟨b, -, mem⟩ := List.mem_flatMap.mp mem
    rcases List.mem_pair.mp mem with rfl | rfl <;> rfl

/-! ## The request -/

/-- Lines 98-204 let the request go out: on a plain socket, or over TLS with
`SSL_connect` completing and the server's certificate passing lines 180-193. -/
def Connects (w : World) : Prop :=
  w.wsi.useSsl = .off ∨ w.io.nextConnect = .connected ∧
    (w.io.verifyResult = .ok ∨
      w.io.verifyResult = .depthZeroSelfSignedCert ∧ w.wsi.useSsl = .allowSelfSigned)

theorem connectTls_of_connects {w : World} (connects : Connects w) :
    ∃ rest events, closeCount events = 0 ∧ events.filter Event.isFree = [] ∧
      connectTls w = .next ()
        { w with wsi := { w.wsi with ssl := w.wsi.useSsl != .off },
                 io := { w.io with connects := rest }, log := w.log ++ events } := by
  suffices connected : ∃ rest events, closeCount events = 0 ∧ connectTls w = .next ()
      { w with wsi := { w.wsi with ssl := w.wsi.useSsl != .off },
               io := { w.io with connects := rest }, log := w.log ++ events} by
    obtain ⟨rest, events, quiet, run⟩ := connected
    have kept : Appends (fun e => e.isFree = false) _ _ :=
      connectTls_appends (fun _ _ kept => kept) (fun _ _ _ => rfl) w
    rw [run, Res.state_next] at kept
    exact ⟨rest, events, quiet, filter_isFree_of_quiet (kept.oks rfl), run⟩
  by_cases plain : w.wsi.useSsl = .off
  · refine ⟨w.io.connects, [.clearPollout, .protocolCallback 0 .clearModePollFd],
      by simp [closeCount, Event.isClose], ?_⟩
    rw [connectTls_of_plain plain, plain]
    rfl
  · obtain ⟨connected, verified⟩ := connects.resolve_left plain
    obtain ⟨events, quiet, run⟩ := connectTls_of_connected plain connected verified
    refine ⟨w.io.connects.tail, events, quiet, ?_⟩
    rw [run, bne_iff_ne.mpr plain]

theorem libwebsocketsGenerateClientHandshake_frees {w : World}
    (drawn : (w.io.nextRandom.take 16).length = 16) :
    (libwebsocketsGenerateClientHandshake w).state.log.filter Event.isFree =
      w.log.filter Event.isFree ++ [.free .cPath, .free .cHost] ++
        freedIfSet w.wsi.cOrigin .cOrigin := by
  obtain ⟨events, proposal⟩ := proposeExtensions_apply 0 w.context.extensions.enum
    { w with io := { w.io with randoms := w.io.randoms.tail } }
  have appended : Appends (fun e => e.isFree = false) _ _ :=
    proposeExtensions_appends (fun _ _ kept => kept) 0 w.context.extensions.enum
      { w with io := { w.io with randoms := w.io.randoms.tail } }
  rw [proposal, Res.state_next] at appended
  have fits : (lwsB64Encode (w.io.nextRandom.take 16) ++ magicWebsocketGuid).length ≤ 127 := by
    simp [length_key drawn, magicWebsocketGuid]
  simp only [libwebsocketsGenerateClientHandshake, Exec.bind_apply, libwebsocketsGetRandom_apply,
    getWsi_apply, Exec.ite_apply, drawn, ne_eq, not_true_eq_false, if_false]
  dsimp only at proposal ⊢
  simp only [Exec.pure_apply, getContext_apply, proposal, protocolCallback_apply,
    storeServiceBuffer, Exec.modify_apply, acceptHash_of_fits fits, modifyWsi_apply, free_apply,
    freeIfSet_apply]
  simp [List.filter_append, filter_isFree_of_quiet (appended.oks rfl), Event.isFree]

/-- Lines 713-859 once the random device yields 16 bytes, as the request's
own layout: the request sent, the accept value stored, the registry kept, and
no close. -/
theorem libwebsocketsGenerateClientHandshake_of_drawn {w : World}
    (drawn : (w.io.nextRandom.take 16).length = 16) :
    ∃ len w', libwebsocketsGenerateClientHandshake w = .next (some (claimedRequest w.wsi
        (drawnKey w) (proposedNames w.context)
        (w.context.firstProtocol.appendHandshakeHeader len))) w' ∧
      w'.wsi = { w.wsi with
        initialHandshakeHashBase64 := ⟨expectedAccept w, nul_not_mem_lwsB64Encode _⟩ } ∧
      w'.context.protocols = w.context.protocols ∧
      w'.context.extensions = w.context.extensions ∧
      w'.io = { w.io with randoms := w.io.randoms.tail } ∧
      closeCount w'.log = closeCount w.log ∧
      w'.log.filter Event.isFree = w.log.filter Event.isFree ++ [.free .cPath, .free .cHost] ++
        freedIfSet w.wsi.cOrigin .cOrigin := by
  obtain ⟨events, generated⟩ := libwebsocketsGenerateClientHandshake_of_random drawn
  have quiet :=
    (libwebsocketsGenerateClientHandshake_appends_of_drawn (fun _ routineEvent _ => routineEvent)
      (fun _ _ => ⟨rfl, rfl⟩) drawn).closeCount_eq
  have frees := libwebsocketsGenerateClientHandshake_frees drawn
  rw [← claimedRequest_eq] at generated
  rw [generated, Res.state_next] at quiet frees
  exact ⟨_, _, generated, rfl, rfl, rfl, rfl, quiet, frees⟩

/-! ## Soundness of acceptance -/

/-- What a reply that `lws_client_interpret_server_handshake` accepted, taking
the connection from `w` to `w'`, must have carried, the connection's request
having been made by the generator in `w₀`. -/
structure SoundAcceptance (w₀ w w' : World) : Prop where
  /-- Lines 384-408. -/
  headers : ResponseHeadersAccepted w.wsi.hdrs
  /-- Lines 579-590 against lines 713-852: the hash of the key the request
  carried. -/
  accept : (w.wsi.hdrs .accept).map CStr.chars = some (expectedAccept w₀)
  /-- Lines 438-481: a protocol token not starting with a space is the first
  entry of the offered list, any token stands in it before a comma or its
  end, and the token names the selected registry entry exactly. -/
  protocol : ∀ p, w.wsi.hdrs .protocol = some p → p.chars ≠ [] →
    (∃ offered, w.wsi.cProtocol = some offered ∧
      (p.chars.head? ≠ some ' ' → FirstOffered p.chars offered.chars) ∧
      (p.chars ++ [','] <:+: offered.chars ∨ p.chars <:+ offered.chars)) ∧
    ∃ i protocol, w'.wsi.protocol = some i ∧ w.context.protocols[i]? = some protocol ∧
      protocol.name = p
  /-- Lines 503-574: every new instance is of a registry entry the server named. -/
  extensions : ∀ i ∈ w'.wsi.activeExtensions, i ∈ w.wsi.activeExtensions ∨
    ∃ ext, w.context.extensions[i]? = some ext ∧
      ext.name.chars ∈ serverExtensionNames w.wsi.hdrs

/-- Soundness of `lws_client_interpret_server_handshake`: every reply it
accepts on a connection holding the accept value the generator stored has the
four properties of `SoundAcceptance`. -/
theorem acceptedHandshake_sound {w₀ w w' : World}
    (drawn : (w₀.io.nextRandom.take 16).length = 16)
    (stored : w.wsi.initialHandshakeHashBase64 =
      (libwebsocketsGenerateClientHandshake w₀).state.wsi.initialHandshakeHashBase64)
    (accepted : lwsClientInterpretServerHandshake w = .next 0 w') : SoundAcceptance w₀ w w' := by
  obtain ⟨⟨⟩, w₄, checked, committed⟩ :=
    Exec.bind_eq_next_iff.mp (lwsClientInterpretServerHandshake_eq_zero.mp accepted)
  obtain ⟨⟨⟩, w₁, headers, checked⟩ := Exec.bind_eq_next_iff.mp checked
  obtain ⟨⟨⟩, w₂, selected, checked⟩ := Exec.bind_eq_next_iff.mp checked
  obtain ⟨⟨⟩, w₃, extended, acceptChecked⟩ := Exec.bind_eq_next_iff.mp checked
  obtain ⟨headersOk, rfl⟩ := checkResponseHeaders_eq_next.mp headers
  have untouched : ∀ t, t ≠ .http → t ≠ .upgrade → t ≠ .connection →
      lowerStatusHeaders w.wsi.hdrs t = w.wsi.hdrs t :=
    fun _ notHttp notUpgrade notConnection =>
      lowerStatusHeaders_other notHttp notUpgrade notConnection
  obtain ⟨i, rfl⟩ := selectProtocol_frame selected
  obtain ⟨added, io, events, rfl, named⟩ := instantiateExtensions_adds extended
  obtain ⟨acceptOk, rfl⟩ := checkAccept_eq_next.mp acceptChecked
  obtain ⟨keepsProtocol, keepsActive, -, -⟩ := establish_commits committed
  obtain ⟨len, w₀', generated, generatedWsi, -⟩ := libwebsocketsGenerateClientHandshake_of_drawn drawn
  rw [generated, Res.state_next, generatedWsi] at stored
  have acceptOk : w.wsi.hdrs .accept = some w.wsi.initialHandshakeHashBase64 := by
    simpa [untouched] using acceptOk
  refine ⟨headersOk, by rw [acceptOk, stored]; rfl, fun p slot nonempty => ?_, ?_⟩
  · have lowered : lowerStatusHeaders w.wsi.hdrs .protocol = some p := by
      rw [untouched _ (by decide) (by decide) (by decide), slot]
    obtain ⟨offered, offeredSlot, matched, j, protocol, chosen, registered, sameName⟩ :=
      selectProtocol_selects selected lowered nonempty
    exact ⟨⟨offered, offeredSlot,
        fun trimmed => (matchOffered_iff nonempty trimmed p.noNul offered.noNul).mp matched,
        matchOffered_occurs p.noNul offered.noNul matched⟩,
      j, protocol, keepsProtocol.trans chosen, registered, sameName⟩
  · intro k member
    rw [keepsActive] at member
    rcases List.mem_append.mp member with early | late
    · exact .inl early
    · exact .inr (by simpa [serverExtensionNames, untouched] using named k late)

/-- A reply to the request of `requestingClient` for `/`, naming the extension
whose callback vetoes proposing it. -/
def vetoedAnswer : World :=
  let accept : CStr := ⟨expectedAccept (requestingClient slashPath), nul_not_mem_lwsB64Encode _⟩
  let w := awaitingReply [quietProtocol ⟨"chat".toList, by decide⟩] (by simp) [vetoedDeflate] none
    (.ofList (switchingHeaders accept ++ [(.extensions, ⟨"deflate".toList, by decide⟩)]))
  { w with wsi := { w.wsi with initialHandshakeHashBase64 := accept } }

theorem vetoedAnswer_stores :
    vetoedAnswer.wsi.initialHandshakeHashBase64 = (libwebsocketsGenerateClientHandshake
      (requestingClient slashPath)).state.wsi.initialHandshakeHashBase64 := by
  obtain ⟨len, w', generated, generatedWsi, -⟩ :=
    libwebsocketsGenerateClientHandshake_of_drawn (w := requestingClient slashPath) rfl
  rw [generated, Res.state_next, generatedWsi]
  rfl

theorem vetoedAnswer_accepted :
    ∃ w', lwsClientInterpretServerHandshake vetoedAnswer = .next 0 w' := by
  obtain ⟨w', run, -⟩ := lwsClientInterpretServerHandshake_of_conforms (w := vetoedAnswer)
    (i := 0) ⟨switchingHeaders_accepted _ _, .absent rfl, by decide, rfl⟩ (by decide)
  exact ⟨w', run⟩

theorem vetoedAnswer_sound :
    ((requestingClient slashPath).io.nextRandom.take 16).length = 16 ∧
      vetoedAnswer.wsi.initialHandshakeHashBase64 = (libwebsocketsGenerateClientHandshake
        (requestingClient slashPath)).state.wsi.initialHandshakeHashBase64 ∧
      ∃ w', lwsClientInterpretServerHandshake vetoedAnswer = .next 0 w' ∧
        SoundAcceptance (requestingClient slashPath) vetoedAnswer w' :=
  have ⟨w', accepted⟩ := vetoedAnswer_accepted
  ⟨rfl, vetoedAnswer_stores, w', accepted,
    acceptedHandshake_sound rfl vetoedAnswer_stores accepted⟩

/-- Lines 91-236 on a connection that connects, whose random device yields
the key and whose socket takes the request: the request carrying `drawnKey`
goes out, the connection waits for the reply with an empty parser and
`expectedAccept` stored, nothing is closed, and the path, host and origin are
released. -/
theorem issueHandshake_of_ready {w : World} (connects : Connects w)
    (drawn : (w.io.nextRandom.take 16).length = 16)
    (taken : ∀ len, ∃ n, w.io.nextWrite len = .wrote n) :
    ∃ w', issueHandshake w = .exit (.ret 0) w' ∧
      w'.wsi = { w.wsi with
        ssl := w.wsi.useSsl != .off,
        initialHandshakeHashBase64 := ⟨expectedAccept w, nul_not_mem_lwsB64Encode _⟩,
        parsed := [], parserComplete := false, mode := .wsClientWaitingServerReply,
        pendingTimeout := .awaitingServerResponse } ∧
      w'.context.protocols = w.context.protocols ∧
      w'.context.extensions = w.context.extensions ∧
      w'.io.arrivals = w.io.arrivals ∧ w'.io.mallocs = w.io.mallocs ∧
      closeCount w'.log = closeCount w.log ∧
      w'.log.filter Event.isFree = w.log.filter Event.isFree ++ [.free .cPath, .free .cHost] ++
        freedIfSet w.wsi.cOrigin .cOrigin ∧
      ∃ len n, Event.write (claimedRequest w.wsi (drawnKey w) (proposedNames w.context)
        (w.context.firstProtocol.appendHandshakeHeader len)) (.wrote n) ∈ w'.log := by
  obtain ⟨rest, events, connectQuiet, connectKept, connected⟩ := connectTls_of_connects connects
  let w₀ : World := { w with
    wsi := { w.wsi with ssl := w.wsi.useSsl != .off },
    io := { w.io with connects := rest }, log := w.log ++ events }
  obtain ⟨len, w₁, generated, wsi, protocols, extensions, io, quiet, frees⟩ :=
    libwebsocketsGenerateClientHandshake_of_drawn (w := w₀) drawn
  obtain ⟨n, wrote⟩ := taken (claimedRequest w.wsi (drawnKey w) (proposedNames w.context)
    (w.context.firstProtocol.appendHandshakeHeader len)).length
  have sent := sendRequest_of_wrote (w := w₁) (by rw [io]; exact wrote)
  have logged : w₀.log = w.log ++ events := rfl
  refine ⟨_, (Exec.bind_of_next connected).trans
    ((Exec.bind_of_next generated).trans sent), by rw [wsi]; rfl, protocols, extensions,
    by rw [io], by rw [io], ?_, ?_, len, n, List.mem_append_right _ (List.mem_singleton_self _)⟩
  · rw [closeCount_append, quiet, logged, closeCount_append, connectQuiet]
    simp [closeCount, Event.isClose]
  · rw [List.filter_append, frees, logged, List.filter_append, connectKept]
    simp [Event.isFree]

/-! ## The reply -/


/-- Lines 240-312 on a reply that arrives whole: the call ends as the
interpreter does on the connection that has parsed it, which holds the
parser's header table and has logged only the bytes read. -/
theorem lwsClientSocketService_interprets {parser : Parser} {revents : Revents} {w : World}
    {cs : List Char} {b : Char} {rest : List Arrival}
    (waiting : w.wsi.mode = .wsClientWaitingServerReply)
    (alive : (revents.pollerr || revents.pollhup) = false) (ready : revents.pollin = true)
    (incomplete : w.wsi.parserComplete = false)
    (arrived : w.io.arrivals = (cs ++ [b]).map .byte ++ rest)
    (pending : Pending parser w.wsi.parsed cs)
    (accepted : (parser (w.wsi.parsed ++ cs ++ [b])).ok = true)
    (completes : (parser (w.wsi.parsed ++ cs ++ [b])).complete = true) :
    ∃ v, (lwsClientSocketService parser revents w).state =
        (lwsClientInterpretServerHandshake v).state ∧
      v.context = w.context ∧
      v.wsi = { w.wsi with parsed := w.wsi.parsed ++ cs ++ [b], parserComplete := true,
                           hdrs := (parser (w.wsi.parsed ++ cs ++ [b])).hdrs } ∧
      v.io.mallocs = w.io.mallocs ∧ v.log = w.log ++ byteEvents (cs ++ [b]) := by
  exact ⟨_, lwsClientSocketService_state_of_reply waiting alive ready incomplete arrived pending
    accepted completes, rfl, feedParser_foldl_of_completes completes, rfl, rfl⟩

/-- The interpreter's checks on a connection `v` that sent `w`'s request are
the answer to that request. -/
structure AnswersRequest (table : HeaderTable) (w : World) (i : Nat) : Prop where
  /-- Lines 384-408. -/
  headers : ResponseHeadersAccepted table
  /-- Lines 410-481, against the protocol list the request offered. -/
  protocol : ProtocolSelected (table .protocol) w.wsi.cProtocol w.context.protocols i
  /-- Lines 503-574, against the extensions the client registered. -/
  extensions : ∀ name ∈ replyExtensionNames table,
    namedInstances w.context.extensions name ≠ []
  /-- Lines 579-590, against the hash of the key the request carried. -/
  accept : (table .accept).map CStr.chars = some (expectedAccept w)

theorem replyConforms_iff_answers {w v : World} {i : Nat}
    (offered : v.wsi.cProtocol = w.wsi.cProtocol)
    (protocols : v.context.protocols = w.context.protocols)
    (extensions : v.context.extensions = w.context.extensions)
    (stored : v.wsi.initialHandshakeHashBase64.chars = expectedAccept w) :
    ReplyConforms v i ↔ AnswersRequest v.wsi.hdrs w i := by
  have accept : v.wsi.hdrs .accept = some v.wsi.initialHandshakeHashBase64 ↔
      (v.wsi.hdrs .accept).map CStr.chars = some (expectedAccept w) := by
    rw [← stored]
    cases v.wsi.hdrs .accept <;> simp [CStr.ext_iff]
  constructor
  · rintro ⟨headers, protocol, named, accepted⟩
    exact ⟨headers, offered ▸ protocols ▸ protocol, extensions ▸ named,
      accept.mp accepted⟩
  · rintro ⟨headers, protocol, named, accepted⟩
    exact ⟨headers, offered ▸ protocols ▸ protocol, extensions ▸ named,
      accept.mpr accepted⟩

theorem tokenFrees_lowerStatusHeaders (table : HeaderTable) (tokens : List Token) :
    tokenFrees (lowerStatusHeaders table) tokens = tokenFrees table tokens := by
  simp only [tokenFrees, lowerStatusHeaders, HeaderTable.set]
  congr 1
  funext t
  split_ifs <;> subst_vars <;> simp [Option.map_map, Function.comp_def]

theorem checkServerHandshake_frees {w w' : World} (run : checkServerHandshake w = .next () w') :
    w'.log.filter Event.isFree =
        w.log.filter Event.isFree ++ freedIfSet w.wsi.cProtocol .cProtocol ∧
      w'.wsi.hdrs = lowerStatusHeaders w.wsi.hdrs := by
  obtain ⟨⟨⟩, w₁, headers, run₁⟩ := Exec.bind_eq_next_iff.mp run
  obtain ⟨⟨⟩, w₂, selected, run₂⟩ := Exec.bind_eq_next_iff.mp run₁
  obtain ⟨⟨⟩, w₃, extended, accepted⟩ := Exec.bind_eq_next_iff.mp run₂
  obtain ⟨-, rfl⟩ := checkResponseHeaders_eq_next.mp headers
  obtain ⟨i, rfl⟩ := selectProtocol_frame selected
  have appended : Appends (fun e => e.isFree = false) _ _ :=
    (instantiateExtensions_appends (fun _ _ kept => kept)).of_next extended
  obtain ⟨added, io, events, rfl, -⟩ := instantiateExtensions_adds extended
  obtain ⟨-, rfl⟩ := checkAccept_eq_next.mp accepted
  exact ⟨by simp [List.filter_append, filter_isFree_of_quiet (appended.oks rfl)], rfl⟩

theorem establish_frees {w w' : World} (run : establish w = .next () w') :
    w'.log.filter Event.isFree = w.log.filter Event.isFree ++ tokenFrees w.wsi.hdrs Token.all := by
  obtain ⟨i, protocol, w₁, w₂, w₃, allocated, marked, buffered, announced⟩ :=
    establish_steps run
  have userQuiet : Appends (fun e => e.isFree = false) _ _ :=
    (allocateUserSpace_appends (fun _ _ kept => kept) protocol).of_next allocated
  have rxQuiet : Appends (fun e => e.isFree = false) _ _ :=
    (allocateRxBuffer_appends (fun _ _ kept => kept) protocol).of_next buffered
  obtain ⟨userSpace, io, events, rfl⟩ := allocateUserSpace_frame allocated
  rw [markEstablished_apply, Res.next.injEq] at marked
  obtain ⟨-, rfl⟩ := marked
  obtain ⟨io', events', rfl⟩ := allocateRxBuffer_frame buffered
  rw [announceConnection_apply, Res.next.injEq] at announced
  obtain ⟨-, rfl⟩ := announced
  simp [List.filter_append, filter_isFree_of_quiet (userQuiet.oks rfl),
    filter_isFree_of_quiet (rxQuiet.oks rfl), Event.isFree]

theorem lwsClientInterpretServerHandshake_frees {w w' : World}
    (run : lwsClientInterpretServerHandshake w = .next 0 w') :
    w'.log.filter Event.isFree = w.log.filter Event.isFree ++
      freedIfSet w.wsi.cProtocol .cProtocol ++ tokenFrees w.wsi.hdrs Token.all := by
  obtain ⟨⟨⟩, w₁, checked, committed⟩ :=
    Exec.bind_eq_next_iff.mp (lwsClientInterpretServerHandshake_eq_zero.mp run)
  obtain ⟨checkedFrees, hdrs⟩ := checkServerHandshake_frees checked
  rw [establish_frees committed, checkedFrees, hdrs, tokenFrees_lowerStatusHeaders]

/-! ## The whole handshake -/

/-- A live connection ready to send its handshake: it connects, the random
device yields the key, the socket takes the request, and `malloc` succeeds. -/
structure ReadyToRequest (w : World) : Prop where
  issuing : w.wsi.mode = .wsClientIssueHandshake
  connects : Connects w
  live : w.closed = false
  drawn : (w.io.nextRandom.take 16).length = 16
  taken : ∀ len, ∃ n, w.io.nextWrite len = .wrote n
  allocations : ∀ b ∈ w.io.mallocs, b = true

/-- The server's reply reaches `w` as the bytes `cs ++ [b]`: the parser takes
each byte of `cs` without completing, and takes `b` and completes. -/
structure ReplyArrives (parser : Parser) (w : World) (cs : List Char) (b : Char) : Prop where
  arrived : ∃ rest, w.io.arrivals = (cs ++ [b]).map .byte ++ rest
  pending : Pending parser [] cs
  accepted : (parser (cs ++ [b])).ok = true
  completes : (parser (cs ++ [b])).complete = true

/-- The connection `v` the interpreter is handed after `w` sent its request
and read a reply that left `table`. -/
structure RequestRead (table : HeaderTable) (w v : World) : Prop where
  conforms : ∀ i, ReplyConforms v i ↔ AnswersRequest table w i
  allocations : ∀ b ∈ v.io.mallocs, b = true
  unclosed : closeCount v.log = 0
  hdrs : v.wsi.hdrs = table
  offered : v.wsi.cProtocol = w.wsi.cProtocol
  active : v.wsi.activeExtensions = w.wsi.activeExtensions
  registry : v.context.extensions = w.context.extensions
  sent : ∃ len n, Event.write (claimedRequest w.wsi (drawnKey w) (proposedNames w.context)
    (w.context.firstProtocol.appendHandshakeHeader len)) (.wrote n) ∈ v.log
  frees : v.log.filter Event.isFree = w.log.filter Event.isFree ++
    [.free .cPath, .free .cHost] ++ freedIfSet w.wsi.cOrigin .cOrigin

/-- The two calls of a handshake: the first, with any readiness, sends the
request, and the second, on the readable reply, ends as the interpreter does
on the connection that has read it. -/
theorem serviceRun_reads {parser : Parser} {revents : Revents} {w : World}
    {cs : List Char} {b : Char} (ready : ReadyToRequest w) (replied : ReplyArrives parser w cs b)
    (alive : (revents.pollerr || revents.pollhup) = false) (readable : revents.pollin = true) :
    ∃ v, (∀ writable, serviceRun parser [writable, revents] w =
        (lwsClientInterpretServerHandshake v).state) ∧
      RequestRead (parser (cs ++ [b])).hdrs w v := by
  obtain ⟨w₁, issued, wsi₁, protocols₁, extensions₁, arrivals₁, mallocs₁, quiet₁, frees₁, sent⟩ :=
    issueHandshake_of_ready ready.connects ready.drawn ready.taken
  have live₁ : w₁.closed = false :=
    World.closed_eq_false_iff.mpr (quiet₁.trans (World.closed_eq_false_iff.mp ready.live))
  obtain ⟨rest, arrived⟩ := replied.arrived
  have parsed : w₁.wsi.parsed = [] := by rw [wsi₁]
  obtain ⟨v, interpreted, context, wsi, mallocs, log⟩ :=
    lwsClientSocketService_interprets (by rw [wsi₁]) alive readable
      (by rw [wsi₁]) (arrivals₁.trans arrived) (parsed ▸ replied.pending)
      (by simpa only [parsed, List.nil_append] using replied.accepted)
      (by simpa only [parsed, List.nil_append] using replied.completes)
  have hdrs : v.wsi.hdrs = (parser (cs ++ [b])).hdrs := by rw [wsi, parsed]; rfl
  refine ⟨v, fun writable => ?_,
    { conforms := fun i => hdrs ▸ replyConforms_iff_answers (by rw [wsi, wsi₁])
        (by rw [context, protocols₁]) (by rw [context, extensions₁]) (by rw [wsi, wsi₁])
      allocations := mallocs.trans mallocs₁ ▸ ready.allocations
      unclosed := ?_
      hdrs := hdrs
      offered := by rw [wsi, wsi₁]
      active := by rw [wsi, wsi₁]
      registry := by rw [context, extensions₁]
      sent := ?_
      frees := by
        rw [log, List.filter_append, frees₁, filter_isFree_byteEvents, List.append_nil] }⟩
  · have served : lwsClientSocketService parser writable w = .next 0 w₁ := by
      rw [lwsClientSocketService_apply, ready.issuing]
      exact withLabels_of_ret issued
    rw [serviceRun_of_next ready.live served, serviceRun_single live₁, interpreted]
  · rw [log, closeCount_append, closeCount_byteEvents, quiet₁,
      World.closed_eq_false_iff.mp ready.live]
  · obtain ⟨len, n, written⟩ := sent
    exact ⟨len, n, log ▸ List.mem_append_left _ written⟩

/-- `requestingClient` about to send its request for `/`, the blank line of
a reply on its way. -/
def issuingClient : World :=
  let w := requestingClient slashPath
  { w with
    wsi := { w.wsi with mode := .wsClientIssueHandshake, parserComplete := false }
    io := { w.io with arrivals := "\r\n\r\n".toList.map .byte } }

/-- The switching headers with the accept value `issuingClient` expects. -/
def answerTable : HeaderTable :=
  .ofList (switchingHeaders ⟨expectedAccept issuingClient, nul_not_mem_lwsB64Encode _⟩)

/-- A parser that completes at the blank line, having read `answerTable`. -/
def answeringParser : Parser := fun bytes =>
  ⟨true, "\r\n\r\n".toList.isSuffixOf bytes, answerTable⟩

theorem issuingClient_ready : ReadyToRequest issuingClient :=
  ⟨rfl, .inl rfl, rfl, rfl, fun len => ⟨len, rfl⟩, by decide⟩

theorem answeringParser_arrives :
    ReplyArrives answeringParser issuingClient "\r\n\r".toList '\n' :=
  ⟨⟨[], rfl⟩, by decide, rfl, by decide⟩

theorem answerTable_answers : AnswersRequest answerTable issuingClient 0 := by
  have unnamed : replyExtensionNames answerTable = [] := rfl
  have accepted : answerTable .accept =
      some ⟨expectedAccept issuingClient, nul_not_mem_lwsB64Encode _⟩ := rfl
  exact ⟨switchingHeaders_accepted _ [], .absent rfl,
    fun name mem => absurd (unnamed ▸ mem) (List.not_mem_nil name),
    by rw [accepted, Option.map_some']⟩

/-- What a successful handshake releases: the path, the host and the origin
if set when the request goes out, then the offered protocol list if set and
every header slot the parser filled when the connection is established; each
once, and nothing else. -/
theorem serviceRun_handshake_releases {parser : Parser} {writable revents : Revents}
    {w : World} {cs : List Char} {b : Char} {i : Nat} (ready : ReadyToRequest w)
    (replied : ReplyArrives parser w cs b)
    (alive : (revents.pollerr || revents.pollhup) = false) (readable : revents.pollin = true)
    (answers : AnswersRequest (parser (cs ++ [b])).hdrs w i) :
    (serviceRun parser [writable, revents] w).log.filter Event.isFree =
      w.log.filter Event.isFree ++ [.free .cPath, .free .cHost] ++
        freedIfSet w.wsi.cOrigin .cOrigin ++ freedIfSet w.wsi.cProtocol .cProtocol ++
        tokenFrees (parser (cs ++ [b])).hdrs Token.all := by
  obtain ⟨v, reached, read⟩ := serviceRun_reads ready replied alive readable
  obtain ⟨w', run, -⟩ :=
    lwsClientInterpretServerHandshake_of_conforms ((read.conforms i).mpr answers)
      read.allocations
  rw [reached, run, Res.state_next, lwsClientInterpretServerHandshake_frees run, read.frees,
    read.offered, read.hdrs]

theorem issuingClient_releases :
    ReadyToRequest issuingClient ∧
    ReplyArrives answeringParser issuingClient "\r\n\r".toList '\n' ∧
    (readable.pollerr || readable.pollhup) = false ∧ readable.pollin = true ∧
    AnswersRequest answerTable issuingClient 0 ∧
    (serviceRun answeringParser [readable, readable] issuingClient).log.filter Event.isFree =
      issuingClient.log.filter Event.isFree ++ [.free .cPath, .free .cHost] ++
        freedIfSet issuingClient.wsi.cOrigin .cOrigin ++
        freedIfSet issuingClient.wsi.cProtocol .cProtocol ++ tokenFrees answerTable Token.all :=
  ⟨issuingClient_ready, answeringParser_arrives, rfl, rfl, answerTable_answers,
    serviceRun_handshake_releases issuingClient_ready answeringParser_arrives rfl rfl
      answerTable_answers⟩

end LwsClient
