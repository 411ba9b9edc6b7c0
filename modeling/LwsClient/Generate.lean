import LwsClient.Connection
import LwsClient.Digest

/-!
# The client handshake request

`libwebsockets_generate_client_handshake` (lines 693-862) draws 16 random
bytes, writes the Upgrade request into the service buffer, polls the
extension registry for what to propose, and stores the `Sec-WebSocket-Accept`
value the server must answer with.
-/

namespace LwsClient

/-- `magic_websocket_guid`. -/
def magicWebsocketGuid : List Char :=
  "258EAFA5-E914-47DA-95CA-C5AB0DC85B11".toList

/-- `sprintf (p, "%d", n)`. -/
def decimal (n : Int) : List Char :=
  (toString n).toList

/-- Lines 769-775. -/
def originHeader (wsi : Conn) : List Char :=
  match wsi.cOrigin with
  | none => []
  | some origin =>
      if wsi.ietfSpecRevision = 13 then "Origin: ".toList ++ origin.chars ++ "\r\n".toList
      else "Sec-WebSocket-Origin: ".toList ++ origin.chars ++ "\r\n".toList

/-- Lines 776-778. -/
def protocolHeader (wsi : Conn) : List Char :=
  match wsi.cProtocol with
  | none => []
  | some offered => "Sec-WebSocket-Protocol: ".toList ++ offered.chars ++ "\r\n".toList

/-- Lines 832-834. -/
def versionHeader (revision : Int) : List Char :=
  if revision ≠ 0 then "Sec-WebSocket-Version: ".toList ++ decimal revision ++ "\r\n".toList
  else []

/-- Lines 757-768, 782: the request up to the proposed extension names. -/
def requestHead (wsi : Conn) (keyB64 : List Char) : List Char :=
  "GET ".toList ++ wsi.cPath.chars ++ " HTTP/1.1\r\n".toList ++
    "Pragma: no-cache\r\nCache-Control: no-cache\r\n".toList ++
    "Host: ".toList ++ wsi.cHost.chars ++ "\r\n".toList ++
    "Upgrade: websocket\r\nConnection: Upgrade\r\nSec-WebSocket-Key: ".toList ++
    keyB64 ++ "\r\n".toList ++ originHeader wsi ++ protocolHeader wsi ++
    "Sec-WebSocket-Extensions: ".toList

/-- Lines 787-796: every registered extension is asked whether the candidate
may be proposed.  `n |= ...` is nonzero exactly when some answer is, so the
accumulated value is kept as that truth value. -/
def pollOkToPropose (name : List Char) : List (Nat × Extension) → Code Bool
  | [] => pure false
  | (i, _) :: rest => do
      let n ← extensionCallback i (.checkOkToProposeExtension name) none
      let vetoed ← pollOkToPropose name rest
      pure (n ≠ 0 || vetoed)

/-- Lines 784-828: the proposed extension names, comma separated, in
registry order; `extCount` is how many were written so far. -/
def proposeExtensions (extCount : Nat) : List (Nat × Extension) → Code (List Char)
  | [] => pure []
  | (_, ext) :: rest => do
      let context ← getContext
      let vetoed ← pollOkToPropose ext.name.chars context.extensions.enum
      if vetoed then proposeExtensions extCount rest else
      let n ← protocolCallback 0 (.clientConfirmExtensionSupported ext.name.chars)
      if n ≠ 0 then proposeExtensions extCount rest else
      let later ← proposeExtensions (extCount + 1) rest
      pure ((if extCount ≠ 0 then [','] else []) ++ ext.name.chars ++ later)

/-- Lines 846-848: `snprintf` of the key and the GUID into the 128-byte `buf`,
whose last byte is then cleared, and `SHA1 (buf, n)` over the length `n` that
`snprintf` reports.  Past 128 bytes that reads outside `buf`. -/
def acceptHash (keyB64 : List Char) : Code (List UInt8) :=
  let s := keyB64 ++ magicWebsocketGuid
  if s.length ≤ 127 then pure (sha1 s)
  else if s.length = 128 then pure (sha1 (s.take 127 ++ ['\x00']))
  else Exec.leave (.undefined .bufferOverread)

/-- `libwebsockets_generate_client_handshake`: the bytes from `pkt` to the
returned pointer, or `none` for NULL. -/
def libwebsocketsGenerateClientHandshake : Code (Option (List Char)) := do
  let hash ← libwebsocketsGetRandom 16
  let wsi ← getWsi
  if hash.length ≠ 16 then
    free .cPath
    free .cHost
    freeIfSet wsi.cOrigin .cOrigin
    freeIfSet wsi.cProtocol .cProtocol
    libwebsocketCloseAndFreeSession .noStatus
    return none
  let keyB64 := lwsB64Encode hash
  let context ← getContext
  let names ← proposeExtensions 0 context.extensions.enum
  let beforeAppend := requestHead wsi keyB64 ++ names ++ "\r\n".toList ++
    versionHeader wsi.ietfSpecRevision
  let len : Int := context.serviceBufferSize - beforeAppend.length - 12
  let _ ← protocolCallback 0 (.clientAppendHandshakeHeader len)
  let request := beforeAppend ++ context.firstProtocol.appendHandshakeHeader len ++ "\r\n".toList
  storeServiceBuffer request
  let digest ← acceptHash keyB64
  modifyWsi fun wsi =>
    { wsi with initialHandshakeHashBase64 :=
        ⟨lwsB64Encode digest, nul_not_mem_lwsB64Encode digest⟩ }
  free .cPath
  free .cHost
  freeIfSet wsi.cOrigin .cOrigin
  return some request

/-- Lines 714-727: when the random device yields fewer than 16 bytes the
connection's strings are freed, the session is closed, and NULL returned. -/
theorem libwebsocketsGenerateClientHandshake_of_short_random {w : World}
    (short : w.io.nextRandom.length < 16) :
    libwebsocketsGenerateClientHandshake w = .next none
      { w with io := { w.io with randoms := w.io.randoms.tail },
               log := w.log ++ [.free .cPath, .free .cHost] ++ freedIfSet w.wsi.cOrigin .cOrigin ++
                 freedIfSet w.wsi.cProtocol .cProtocol ++
                 [.close .noStatus w.wsi.mode w.wsi.state] } := by
  have notSixteen : (w.io.nextRandom.take 16).length ≠ 16 := by
    rw [List.length_take]
    omega
  simp only [libwebsocketsGenerateClientHandshake, Exec.bind_apply, libwebsocketsGetRandom_apply,
    getWsi_apply, Exec.ite_apply, if_pos notSixteen]
  simp

end LwsClient
