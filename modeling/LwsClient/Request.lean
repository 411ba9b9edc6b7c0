import LwsClient.Acceptance

/-!
# The request the client writes

`libwebsockets_generate_client_handshake` (lines 693-862) writes the Upgrade
request from `pkt`, the start of `context->service_buffer`, and stores the
`Sec-WebSocket-Accept` value it expects back.  Once its random device has
yielded 16 bytes it always succeeds; `libwebsocketsGenerateClientHandshake_of_random`
says what it then writes, and the results below read the request's layout,
its key and stored accept value, and its length against the buffer off it.
-/

namespace LwsClient

/-! ## The extension proposal -/

/-- Whether the request proposes registry entry `ext`, in the specification's
words: every registered extension answers 0 to
`CHECK_OK_TO_PROPOSE_EXTENSION` for it, and so does `protocols[0]` to
`CLIENT_CONFIRM_EXTENSION_SUPPORTED`. -/
def Context.proposes (context : Context) (ext : Extension) : Bool :=
  (context.extensions.all fun other =>
      other.callback (.checkOkToProposeExtension ext.name.chars) = 0) &&
    context.firstProtocol.callback (.clientConfirmExtensionSupported ext.name.chars) = 0

/-- The names of the proposed extensions, in registry order. -/
def proposedNames (context : Context) : List (List Char) :=
  (context.extensions.filter context.proposes).map fun ext => ext.name.chars

/-- Lines 787-796: the answer is nonzero exactly when some entry vetoes. -/
theorem pollOkToPropose_apply (name : List Char) :
    ∀ (exts : List (Nat × Extension)) (w : World),
      (∀ e ∈ exts, w.context.extensions[e.1]? = some e.2) →
      ∃ events, pollOkToPropose name exts w =
        .next (exts.any fun e => e.2.callback (.checkOkToProposeExtension name) ≠ 0)
          { w with log := w.log ++ events }
  | [], w, _ => ⟨[], by simp [pollOkToPropose]⟩
  | (i, ext) :: rest, w, registered => by
      obtain ⟨events, run⟩ := pollOkToPropose_apply name rest
        { w with log := w.log ++ [.extensionCallback i (.checkOkToProposeExtension name) none] }
        fun e member => registered e (List.mem_cons_of_mem _ member)
      refine ⟨.extensionCallback i (.checkOkToProposeExtension name) none :: events, ?_⟩
      have found := registered _ (List.mem_cons_self _ _)
      simp [pollOkToPropose, found, run]

theorem Context.protocols_get_zero (context : Context) :
    context.protocols[0]? = some context.firstProtocol := by
  cases protocols : context.protocols with
  | nil => exact absurd protocols context.protocolsNonempty
  | cons p rest => simp [Context.firstProtocol, protocols]

/-- Lines 818-823: the names written after `k` earlier ones, each but the
very first preceded by a comma. -/
def namesAfter (k : Nat) (names : List (List Char)) : List Char :=
  (if k ≠ 0 ∧ names ≠ [] then [','] else []) ++ List.intercalate [','] names

theorem namesAfter_nil (k : Nat) : namesAfter k [] = [] := by
  simp [namesAfter, List.intercalate]

theorem namesAfter_zero (names : List (List Char)) :
    namesAfter 0 names = List.intercalate [','] names := by
  simp [namesAfter]

theorem namesAfter_cons (k : Nat) (name : List Char) (names : List (List Char)) :
    namesAfter k (name :: names) =
      (if k ≠ 0 then [','] else []) ++ name ++ namesAfter (k + 1) names := by
  cases names <;> simp [namesAfter, List.intercalate, List.intersperse]

theorem any_enum (l : List Extension) (p : Extension → Bool) :
    (l.enum.any fun e => p e.2) = l.any p := by
  apply Bool.eq_iff_iff.mpr
  simp only [List.any_eq_true, Prod.exists, List.mem_enum_iff_getElem?]
  constructor
  · rintro ⟨i, x, found, holds⟩
    exact ⟨x, List.mem_iff_getElem?.mpr ⟨i, found⟩, holds⟩
  · rintro ⟨x, member, holds⟩
    obtain ⟨i, found⟩ := List.mem_iff_getElem?.mp member
    exact ⟨i, x, found, holds⟩

/-- Lines 784-828: the loop writes the names of the entries `proposes`
accepts, in registry order, and only logs callbacks. -/
theorem proposeExtensions_apply :
    ∀ (k : Nat) (exts : List (Nat × Extension)) (w : World),
      ∃ events, proposeExtensions k exts w =
        .next (namesAfter k (((exts.map Prod.snd).filter w.context.proposes).map
            fun ext => ext.name.chars))
          { w with log := w.log ++ events }
  | k, [], w => ⟨[], by simp [proposeExtensions, namesAfter_nil]⟩
  | k, (i, ext) :: rest, w => by
      obtain ⟨polled, poll⟩ := pollOkToPropose_apply ext.name.chars w.context.extensions.enum w
        fun e member => List.mem_enum_iff_getElem?.mp member
      rw [any_enum _ fun other => other.callback (.checkOkToProposeExtension ext.name.chars) ≠ 0]
        at poll
      let confirm : Event := .protocolCallback 0 (.clientConfirmExtensionSupported ext.name.chars)
      have confirmAnswer : protocolCallback 0 (.clientConfirmExtensionSupported ext.name.chars)
          { w with log := w.log ++ polled } =
          .next (w.context.firstProtocol.callback (.clientConfirmExtensionSupported ext.name.chars))
            { w with log := w.log ++ polled ++ [confirm] } := by
        simp [Context.protocols_get_zero, confirm]
      simp only [proposeExtensions, Exec.bind_apply, getContext_apply, poll, Exec.ite_apply,
        confirmAnswer]
      by_cases vetoed :
          (w.context.extensions.any fun other =>
            other.callback (.checkOkToProposeExtension ext.name.chars) ≠ 0) = true
      · obtain ⟨events, later⟩ := proposeExtensions_apply k rest { w with log := w.log ++ polled }
        have refused : w.context.proposes ext = false := by
          simp only [Context.proposes, Bool.and_eq_false_iff]
          exact .inl (by simpa using vetoed)
        refine ⟨polled ++ events, ?_⟩
        simp only [if_pos vetoed, later]
        simp [refused]
      by_cases confirmed :
          w.context.firstProtocol.callback (.clientConfirmExtensionSupported ext.name.chars) = 0
      · obtain ⟨events, later⟩ :=
          proposeExtensions_apply (k + 1) rest { w with log := w.log ++ polled ++ [confirm] }
        have proposed : w.context.proposes ext = true := by
          simpa [Context.proposes, confirmed] using vetoed
        refine ⟨polled ++ [confirm] ++ events, ?_⟩
        simp only [if_neg vetoed, confirmed, ne_eq, not_true_eq_false, if_false, later,
          Exec.pure_apply]
        simp [proposed, namesAfter_cons]
      · obtain ⟨events, later⟩ :=
          proposeExtensions_apply k rest { w with log := w.log ++ polled ++ [confirm] }
        have refused : w.context.proposes ext = false := by
          simp [Context.proposes, confirmed]
        refine ⟨polled ++ [confirm] ++ events, ?_⟩
        simp only [if_neg vetoed, if_pos confirmed, later]
        simp [refused]

/-- Lines 846-848 when the key and the GUID fit `buf`: `SHA1` hashes all of
them. -/
theorem acceptHash_of_fits {keyB64 : List Char} {w : World}
    (fits : (keyB64 ++ magicWebsocketGuid).length ≤ 127) :
    acceptHash keyB64 w = .next (sha1 (keyB64 ++ magicWebsocketGuid)) w := by
  simp only [acceptHash]
  rw [if_pos fits]
  rfl

/-- `lws_b64_encode_string` of 16 bytes is 24 characters. -/
theorem length_key {r : List UInt8} (drawn : r.length = 16) : (lwsB64Encode r).length = 24 := by
  rw [length_lwsB64Encode, drawn]

/-- Lines 713-859 once the random device yields 16 bytes: the request written
from `pkt` into the service buffer, the accept value stored, and the strings
freed. -/
theorem libwebsocketsGenerateClientHandshake_of_random {w : World}
    (drawn : (w.io.nextRandom.take 16).length = 16) :
    let key := lwsB64Encode (w.io.nextRandom.take 16)
    let beforeAppend := requestHead w.wsi key ++ List.intercalate [','] (proposedNames w.context) ++
      "\r\n".toList ++ versionHeader w.wsi.ietfSpecRevision
    let len : Int := w.context.serviceBufferSize - beforeAppend.length - 12
    let request :=
      beforeAppend ++ w.context.firstProtocol.appendHandshakeHeader len ++ "\r\n".toList
    ∃ events, libwebsocketsGenerateClientHandshake w = .next (some request)
      { w with
        context := { w.context with serviceBuffer := fun i =>
          if i < request.length then request.getD i '\x00' else w.context.serviceBuffer i },
        wsi := { w.wsi with initialHandshakeHashBase64 :=
          ⟨lwsB64Encode (sha1 (key ++ magicWebsocketGuid)), nul_not_mem_lwsB64Encode _⟩ },
        io := { w.io with randoms := w.io.randoms.tail },
        log := w.log ++ events ++ [.protocolCallback 0 (.clientAppendHandshakeHeader len),
          .free .cPath, .free .cHost] ++ freedIfSet w.wsi.cOrigin .cOrigin } := by
  intro key beforeAppend len request
  obtain ⟨events, proposal⟩ := proposeExtensions_apply 0 w.context.extensions.enum
    { w with io := { w.io with randoms := w.io.randoms.tail } }
  have fits : (key ++ magicWebsocketGuid).length ≤ 127 := by
    simp [key, length_key drawn, magicWebsocketGuid]
  refine ⟨events, ?_⟩
  simp only [libwebsocketsGenerateClientHandshake, Exec.bind_apply, libwebsocketsGetRandom_apply,
    getWsi_apply, Exec.ite_apply, drawn, ne_eq, not_true_eq_false, if_false]
  dsimp only at proposal ⊢
  simp only [Exec.pure_apply, getContext_apply, proposal, protocolCallback_apply, storeServiceBuffer,
    Exec.modify_apply, acceptHash_of_fits fits, modifyWsi_apply, free_apply, freeIfSet_apply,
    namesAfter_zero, List.enum_map_snd]
  simp [request, len, beforeAppend, key, proposedNames]

/-! ## What the request holds -/

/-- The request as the specification lays it out, item by item: the
request line and fixed headers, the key, the origin and the protocol list if
set, the proposed extensions joined by single commas, the version if nonzero,
what the append callback wrote, and the closing CRLF. -/
def claimedRequest (wsi : Conn) (key : List Char) (proposed : List (List Char))
    (appended : List Char) : List Char :=
  ("GET ".toList ++ wsi.cPath.chars ++ " HTTP/1.1\r\n".toList) ++
    "Pragma: no-cache\r\nCache-Control: no-cache\r\n".toList ++
    ("Host: ".toList ++ wsi.cHost.chars ++ "\r\n".toList) ++
    ("Upgrade: websocket\r\nConnection: Upgrade\r\nSec-WebSocket-Key: ".toList ++ key ++
      "\r\n".toList) ++
    (match wsi.cOrigin with
      | some origin =>
          (if wsi.ietfSpecRevision = 13 then "Origin: " else "Sec-WebSocket-Origin: ").toList ++
            origin.chars ++ "\r\n".toList
      | none => []) ++
    (match wsi.cProtocol with
      | some offered => "Sec-WebSocket-Protocol: ".toList ++ offered.chars ++ "\r\n".toList
      | none => []) ++
    ("Sec-WebSocket-Extensions: ".toList ++ List.intercalate [','] proposed ++ "\r\n".toList) ++
    (if wsi.ietfSpecRevision ≠ 0 then
      "Sec-WebSocket-Version: ".toList ++ (toString wsi.ietfSpecRevision).toList ++ "\r\n".toList
    else []) ++
    appended ++ "\r\n".toList

/-- The specification's layout is the code's: past the common request line
and fixed headers, the origin and protocol lines agree case by case. -/
theorem claimedRequest_eq (wsi : Conn) (key : List Char) (proposed : List (List Char))
    (appended : List Char) :
    claimedRequest wsi key proposed appended =
      requestHead wsi key ++ List.intercalate [','] proposed ++ "\r\n".toList ++
        versionHeader wsi.ietfSpecRevision ++ appended ++ "\r\n".toList := by
  simp only [claimedRequest, requestHead, versionHeader, decimal, List.append_assoc,
    List.append_cancel_left_eq]
  congr 1
  · unfold originHeader
    cases wsi.cOrigin <;> dsimp only
    split_ifs <;> simp only [List.append_assoc]
  · congr 1
    unfold protocolHeader
    cases wsi.cProtocol <;> simp only [List.append_assoc]

/-- A client about to send its request for `path` to `server.example.com`
with no extensions registered, whose random device yields 16 zero bytes. -/
def requestingClient (path : CStr) : World :=
  let w := awaitingReply [quietProtocol ⟨"chat".toList, by decide⟩] (by simp) [] none .empty
  { w with
    wsi := { w.wsi with cPath := path }
    io := { w.io with randoms := [List.replicate 16 0] } }

/-- The path `/`. -/
def slashPath : CStr := ⟨['/'], by decide⟩

/-- Lines 757-842: the bytes from `pkt` to the returned pointer are the
claimed layout, with the proposal of `proposedNames` and, before the final
CRLF, what the append callback wrote when it was given `len`. -/
theorem generatedRequest_format {w : World} (drawn : (w.io.nextRandom.take 16).length = 16) :
    ∃ request w' len, libwebsocketsGenerateClientHandshake w = .next (some request) w' ∧
      Event.protocolCallback 0 (.clientAppendHandshakeHeader len) ∈ w'.log ∧
      request = claimedRequest w.wsi (lwsB64Encode (w.io.nextRandom.take 16))
        (proposedNames w.context) (w.context.firstProtocol.appendHandshakeHeader len) := by
  obtain ⟨events, run⟩ := libwebsocketsGenerateClientHandshake_of_random drawn
  exact ⟨_, _, _, run,
    List.mem_append_left _ (List.mem_append_right _ (List.mem_cons_self _ _)),
    (claimedRequest_eq ..).symm⟩

theorem slashRequest_format :
    ((requestingClient slashPath).io.nextRandom.take 16).length = 16 ∧
      ∃ request w' len,
        libwebsocketsGenerateClientHandshake (requestingClient slashPath) = .next (some request) w' ∧
        Event.protocolCallback 0 (.clientAppendHandshakeHeader len) ∈ w'.log ∧
        request = claimedRequest (requestingClient slashPath).wsi
          (lwsB64Encode ((requestingClient slashPath).io.nextRandom.take 16))
          (proposedNames (requestingClient slashPath).context)
          ((requestingClient slashPath).context.firstProtocol.appendHandshakeHeader len) :=
  ⟨rfl, generatedRequest_format rfl⟩

/-- Lines 714-768 and 844-852: the key sent is the 24 characters of the
base64 of the 16 random bytes, and the stored accept value is the 28
characters of the base64 of the SHA-1 of all 60 bytes of the key and GUID. -/
theorem generatedKey_hashed_whole {w : World} (drawn : (w.io.nextRandom.take 16).length = 16) :
    ∃ request w', libwebsocketsGenerateClientHandshake w = .next (some request) w' ∧
      (lwsB64Encode (w.io.nextRandom.take 16)).length = 24 ∧
      ("GET ".toList ++ w.wsi.cPath.chars ++ " HTTP/1.1\r\n".toList ++
        "Pragma: no-cache\r\nCache-Control: no-cache\r\n".toList ++
        "Host: ".toList ++ w.wsi.cHost.chars ++ "\r\n".toList ++
        "Upgrade: websocket\r\nConnection: Upgrade\r\nSec-WebSocket-Key: ".toList ++
        lwsB64Encode (w.io.nextRandom.take 16) ++ "\r\n".toList) <+: request ∧
      (lwsB64Encode (w.io.nextRandom.take 16) ++ magicWebsocketGuid).length = 60 ∧
      w'.wsi.initialHandshakeHashBase64.chars =
        lwsB64Encode (sha1 (lwsB64Encode (w.io.nextRandom.take 16) ++ magicWebsocketGuid)) ∧
      w'.wsi.initialHandshakeHashBase64.chars.length = 28 := by
  obtain ⟨events, run⟩ := libwebsocketsGenerateClientHandshake_of_random drawn
  have key := length_key drawn
  refine ⟨_, _, run, key, ?_, by simp [key, magicWebsocketGuid], rfl, ?_⟩
  · simp only [requestHead, List.append_assoc, List.prefix_append_right_inj, List.prefix_append]
  · simp [length_lwsB64Encode, length_sha1]

theorem slashRequest_key_hashed :
    ((requestingClient slashPath).io.nextRandom.take 16).length = 16 ∧
      ∃ request w',
        libwebsocketsGenerateClientHandshake (requestingClient slashPath) = .next (some request) w' ∧
        (lwsB64Encode ((requestingClient slashPath).io.nextRandom.take 16)).length = 24 ∧
        ("GET ".toList ++ (requestingClient slashPath).wsi.cPath.chars ++ " HTTP/1.1\r\n".toList ++
          "Pragma: no-cache\r\nCache-Control: no-cache\r\n".toList ++
          "Host: ".toList ++ (requestingClient slashPath).wsi.cHost.chars ++ "\r\n".toList ++
          "Upgrade: websocket\r\nConnection: Upgrade\r\nSec-WebSocket-Key: ".toList ++
          lwsB64Encode ((requestingClient slashPath).io.nextRandom.take 16) ++
          "\r\n".toList) <+: request ∧
        (lwsB64Encode ((requestingClient slashPath).io.nextRandom.take 16) ++
          magicWebsocketGuid).length = 60 ∧
        w'.wsi.initialHandshakeHashBase64.chars =
          lwsB64Encode (sha1 (lwsB64Encode ((requestingClient slashPath).io.nextRandom.take 16) ++
            magicWebsocketGuid)) ∧
        w'.wsi.initialHandshakeHashBase64.chars.length = 28 :=
  ⟨rfl, generatedKey_hashed_whole rfl⟩

theorem length_path_le_requestHead (wsi : Conn) (keyB64 : List Char) :
    wsi.cPath.chars.length ≤ (requestHead wsi keyB64).length := by
  simp only [requestHead, List.length_append]
  omega

/-- Lines 757-842 on a client whose path alone fills the service buffer: the
request runs past the buffer's end, and the append callback is given a
negative length. -/
theorem longPath_overruns {w : World} (drawn : (w.io.nextRandom.take 16).length = 16)
    (long : w.context.serviceBufferSize ≤ w.wsi.cPath.chars.length) :
    ∃ request w' len, libwebsocketsGenerateClientHandshake w = .next (some request) w' ∧
      Event.protocolCallback 0 (.clientAppendHandshakeHeader len) ∈ w'.log ∧ len < 0 ∧
      w.context.serviceBufferSize < request.length := by
  obtain ⟨events, run⟩ := libwebsocketsGenerateClientHandshake_of_random drawn
  have head := length_path_le_requestHead w.wsi (lwsB64Encode (w.io.nextRandom.take 16))
  refine ⟨_, _, _, run,
    List.mem_append_left _ (List.mem_append_right _ (List.mem_cons_self _ _)), ?_, ?_⟩
  · simp only [List.length_append]
    omega
  · have crlf : "\r\n".toList.length = 2 := rfl
    simp only [List.length_append]
    omega

/-- A path of 4096 bytes, the size of the service buffer. -/
def longPath : CStr := ⟨List.replicate 4096 'a', fun nul => nomatch List.eq_of_mem_replicate nul⟩

/-- The failing input: a request for a 4096-byte path runs past the 4096-byte
service buffer. -/
theorem longPathClient_overruns :
    ((requestingClient longPath).io.nextRandom.take 16).length = 16 ∧
      (requestingClient longPath).context.serviceBufferSize ≤
        (requestingClient longPath).wsi.cPath.chars.length ∧
      ∃ request w' len,
        libwebsocketsGenerateClientHandshake (requestingClient longPath) = .next (some request) w' ∧
        Event.protocolCallback 0 (.clientAppendHandshakeHeader len) ∈ w'.log ∧ len < 0 ∧
        (requestingClient longPath).context.serviceBufferSize < request.length := by
  have long : (requestingClient longPath).context.serviceBufferSize ≤
      (requestingClient longPath).wsi.cPath.chars.length :=
    (List.length_replicate 4096 'a').ge
  exact ⟨rfl, long, longPath_overruns rfl long⟩

/-- Lines 757-842 when the request without the appended headers leaves at
least 10 bytes of the service buffer free, and the append callback writes at
most the length it is given: that length is non-negative, and the request
ends at least 10 bytes before the end of the buffer. -/
theorem shortRequest_fits {w : World} (drawn : (w.io.nextRandom.take 16).length = 16)
    (short : (claimedRequest w.wsi (lwsB64Encode (w.io.nextRandom.take 16))
      (proposedNames w.context) []).length + 10 ≤ w.context.serviceBufferSize)
    (bounded : ∀ len, (w.context.firstProtocol.appendHandshakeHeader len).length ≤ len.toNat) :
    ∃ request w' len, libwebsocketsGenerateClientHandshake w = .next (some request) w' ∧
      Event.protocolCallback 0 (.clientAppendHandshakeHeader len) ∈ w'.log ∧ 0 ≤ len ∧
      request.length + 10 ≤ w.context.serviceBufferSize := by
  obtain ⟨events, run⟩ := libwebsocketsGenerateClientHandshake_of_random drawn
  have crlf : "\r\n".toList.length = 2 := rfl
  rw [claimedRequest_eq] at short
  simp only [List.length_append, List.length_nil, Nat.add_zero] at short
  refine ⟨_, _, _, run,
    List.mem_append_left _ (List.mem_append_right _ (List.mem_cons_self _ _)), ?_, ?_⟩
  · simp only [List.length_append]
    omega
  · have appended := bounded (w.context.serviceBufferSize - (requestHead w.wsi
      (lwsB64Encode (w.io.nextRandom.take 16)) ++ List.intercalate [','] (proposedNames w.context) ++
        "\r\n".toList ++ versionHeader w.wsi.ietfSpecRevision).length - 12)
    simp only [List.length_append] at appended ⊢
    omega

set_option maxRecDepth 4000 in
theorem slashRequest_fits :
    ((requestingClient slashPath).io.nextRandom.take 16).length = 16 ∧
      (claimedRequest (requestingClient slashPath).wsi
        (lwsB64Encode ((requestingClient slashPath).io.nextRandom.take 16))
        (proposedNames (requestingClient slashPath).context) []).length + 10 ≤
          (requestingClient slashPath).context.serviceBufferSize ∧
      (∀ len, ((requestingClient slashPath).context.firstProtocol.appendHandshakeHeader len).length ≤
        len.toNat) ∧
      ∃ request w' len,
        libwebsocketsGenerateClientHandshake (requestingClient slashPath) = .next (some request) w' ∧
        Event.protocolCallback 0 (.clientAppendHandshakeHeader len) ∈ w'.log ∧ 0 ≤ len ∧
        request.length + 10 ≤ (requestingClient slashPath).context.serviceBufferSize := by
  have short : (claimedRequest (requestingClient slashPath).wsi
      (lwsB64Encode ((requestingClient slashPath).io.nextRandom.take 16))
      (proposedNames (requestingClient slashPath).context) []).length + 10 ≤
        (requestingClient slashPath).context.serviceBufferSize := by
    decide
  have bounded : ∀ len,
      ((requestingClient slashPath).context.firstProtocol.appendHandshakeHeader len).length ≤
        len.toNat :=
    fun len => Nat.zero_le len.toNat
  exact ⟨rfl, short, bounded, shortRequest_fits rfl short bounded⟩

end LwsClient
