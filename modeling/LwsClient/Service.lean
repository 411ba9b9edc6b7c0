import LwsClient.Generate
import LwsClient.Interpret

/-!
# The connection state machine

`lws_client_socket_service` (lines 42-334) is called by the event loop with
the readiness of the connection's socket and dispatches on `wsi->mode`:
the proxy's CONNECT reply, the TLS connect and the request, then the server's
reply byte by byte until the parser completes.  `serviceRun` is the event loop
calling it once per readiness event until the session is closed.
-/

namespace LwsClient

/-- `pollfd->revents`. -/
structure Revents where
  pollin : Bool
  pollout : Bool
  pollerr : Bool
  pollhup : Bool
  deriving DecidableEq, Repr

/-- What `libwebsocket_parse` (parsers.c, not under src/) returns and leaves in
`wsi->u.hdr` after a byte: `ok` when it returned 0, `complete` when
`parser_state` is `WSI_PARSING_COMPLETE`, and the header slots. -/
structure ParseStep where
  ok : Bool
  complete : Bool
  hdrs : HeaderTable

/-- `libwebsocket_parse`, given by what it makes of the bytes fed to it since
`parser_state` was reset; a deterministic byte-fed parser is such a function. -/
def Parser := List Char → ParseStep

/-- What `libwebsocket_parse` leaves in the connection after the byte `c`. -/
def feedParser (parser : Parser) (c : Char) (wsi : Conn) : Conn :=
  { wsi with parsed := wsi.parsed ++ [c], parserComplete := (parser (wsi.parsed ++ [c])).complete,
             hdrs := (parser (wsi.parsed ++ [c])).hdrs }

/-- `libwebsocket_parse (wsi, c)`: whether it reported a problem. -/
def libwebsocketParse (parser : Parser) (c : Char) : Code Bool := do
  emit (.parse c)
  let wsi ← getWsi
  modifyWsi (feedParser parser c)
  pure !(parser (wsi.parsed ++ [c])).ok

@[simp] theorem libwebsocketParse_apply (parser : Parser) (c : Char) (w : World) :
    libwebsocketParse parser c w = .next (!(parser (w.wsi.parsed ++ [c])).ok)
      { w with wsi := feedParser parser c w.wsi, log := w.log ++ [.parse c] } := rfl

/-- The 13 bytes a proxy's CONNECT reply must start with. -/
def proxyOk : List Char := "HTTP/1.0 200 ".toList

/-- The C string at the start of a buffer whose byte 13 is NUL. -/
def serviceBufferString (buffer : Nat → Char) : List Char :=
  ((List.range 14).map buffer).takeWhile (· ≠ '\x00')

/-- The service buffer after lines 69-78 stored `data` and cleared byte 13. -/
def storedReply (buffer : Nat → Char) (data : List Char) : Nat → Char := fun j =>
  if j = 13 then '\x00' else if j < data.length then data.getD j '\x00' else buffer j

/-- The 13 bytes the `strcmp` of line 79 compares after a read of `data`:
those the read stored, then what the service buffer held before. -/
def proxyWindow (buffer : Nat → Char) (data : List Char) : List Char :=
  (List.range 13).map fun j => if j < data.length then data.getD j '\x00' else buffer j

theorem takeWhile_append_nul (xs : List Char) :
    (xs ++ ['\x00']).takeWhile (· ≠ '\x00') = xs.takeWhile (· ≠ '\x00') := by
  induction xs with
  | nil => rfl
  | cons c rest ih =>
      by_cases nul : c = '\x00'
      · simp [nul]
      · simpa [List.takeWhile_cons, nul] using ih

theorem serviceBufferString_storedReply (buffer : Nat → Char) (data : List Char) :
    serviceBufferString (storedReply buffer data) =
      (proxyWindow buffer data).takeWhile (· ≠ '\x00') := by
  have below : ∀ j ∈ List.range 13, storedReply buffer data j =
      if j < data.length then data.getD j '\x00' else buffer j := fun j member => by
    simp [storedReply, show j ≠ 13 by simp at member; omega]
  rw [serviceBufferString, show 14 = 13 + 1 from rfl, List.range_succ, List.map_append,
    List.map_congr_left below]
  exact takeWhile_append_nul _

/-- A read of 13 bytes or more fills the whole window. -/
theorem proxyWindow_of_long {buffer : Nat → Char} {data : List Char} (long : 13 ≤ data.length) :
    proxyWindow buffer data = data.take 13 := by
  refine List.ext_getElem (by simp [proxyWindow]; omega) fun j inWindow _ => ?_
  have below : j < 13 := by simpa [proxyWindow] using inWindow
  simp [proxyWindow, show j < data.length by omega, List.getD_eq_getElem]

/-- After a read of fewer than 13 bytes the window ends with what the service
buffer held before. -/
theorem proxyWindow_of_short {buffer : Nat → Char} {data : List Char}
    (short : data.length ≤ 13) :
    proxyWindow buffer data = data ++ (List.range' data.length (13 - data.length)).map buffer := by
  refine List.ext_getElem (by simp [proxyWindow]; omega) fun j inWindow _ => ?_
  have below : j < 13 := by simpa [proxyWindow] using inWindow
  by_cases stored : j < data.length
  · simp [proxyWindow, stored, List.getD_eq_getElem, List.getElem_append_left]
  · simp [proxyWindow, stored, List.getElem_append_right (Nat.le_of_not_lt stored),
      Nat.add_sub_cancel' (Nat.le_of_not_lt stored)]

theorem length_proxyWindow (buffer : Nat → Char) (data : List Char) :
    (proxyWindow buffer data).length = 13 := by
  simp [proxyWindow]

/-- Line 79 passes exactly when the 13 bytes compared are `HTTP/1.0 200 `. -/
theorem strcmp_proxyOk_eq_zero_iff {window : List Char} (length13 : window.length = 13) :
    strcmp (window.takeWhile (· ≠ '\x00')) proxyOk = 0 ↔ window = proxyOk := by
  have takenNoNul : '\x00' ∉ window.takeWhile (· ≠ '\x00') := fun member => by
    simpa using List.all_eq_true.mp List.all_takeWhile _ member
  rw [strcmp_eq_zero_iff takenNoNul (by decide)]
  constructor
  · intro taken
    exact ((taken ▸ List.takeWhile_prefix _ : proxyOk <+: window).eq_of_length
      (by rw [length13]; rfl)).symm
  · rintro rfl
    decide

/-- Lines 54-87: the proxy's reply, read once into the service buffer. -/
def waitingProxyReply (revents : Revents) : Code Unit := do
  if revents.pollerr || revents.pollhup then
    libwebsocketCloseAndFreeSession .noStatus
    ret 0
  let context ← getContext
  match ← read context.serviceBufferSize with
  | .error _ =>
      libwebsocketCloseAndFreeSession .noStatus
      ret 0
  | .bytes data =>
      storeServiceBuffer data
      setServiceBufferByte 13 '\x00'
      let context ← getContext
      if strcmp (serviceBufferString context.serviceBuffer) proxyOk ≠ 0 then
        libwebsocketCloseAndFreeSession .noStatus
        ret 0
      libwebsocketSetTimeout .noPendingTimeout

/-- Lines 58-66: a proxy that hung up closes the session. -/
theorem waitingProxyReply_of_hangup {revents : Revents} {w : World}
    (dead : (revents.pollerr || revents.pollhup) = true) :
    waitingProxyReply revents w =
      .exit (.ret 0) { w with log := w.log ++ [.close .noStatus w.wsi.mode w.wsi.state] } := by
  simp [waitingProxyReply, dead]

/-- Lines 68-75: a failed read of the proxy's reply, `EAGAIN` included, closes
the session. -/
theorem waitingProxyReply_of_error {revents : Revents} {w : World} {e : IoError}
    (alive : (revents.pollerr || revents.pollhup) = false)
    (failed : (w.io.read w.context.serviceBufferSize).1 = .error e) :
    waitingProxyReply revents w = .exit (.ret 0)
      { w with io := (w.io.read w.context.serviceBufferSize).2,
               log := w.log ++ [.read (.error e), .close .noStatus w.wsi.mode w.wsi.state] } := by
  simp [waitingProxyReply, alive, failed]

/-- Lines 68-87 on a read that returned `data`: the reply is stored in the
service buffer, and it is accepted, clearing the timeout, exactly when the
13 bytes compared there are `HTTP/1.0 200 `. -/
theorem waitingProxyReply_of_bytes {revents : Revents} {w : World} {data : List Char}
    (alive : (revents.pollerr || revents.pollhup) = false)
    (replied : (w.io.read w.context.serviceBufferSize).1 = .bytes data) :
    let w₁ : World :=
      { w with
          context := { w.context with
            serviceBuffer := storedReply w.context.serviceBuffer data },
          io := (w.io.read w.context.serviceBufferSize).2,
          log := w.log ++ [.read (.bytes data)] }
    waitingProxyReply revents w =
      if proxyWindow w.context.serviceBuffer data = proxyOk then
        .next () { w₁ with wsi := { w.wsi with pendingTimeout := .noPendingTimeout } }
      else
        .exit (.ret 0)
          { w₁ with log := w₁.log ++ [.close .noStatus w.wsi.mode w.wsi.state] } := by
  have compared := strcmp_proxyOk_eq_zero_iff (length_proxyWindow w.context.serviceBuffer data)
  rw [← serviceBufferString_storedReply] at compared
  unfold storedReply at compared ⊢
  simp [waitingProxyReply, alive, replied, storeServiceBuffer, setServiceBufferByte]
  simp only [List.getD_eq_getElem?_getD] at compared
  simp only [compared]

/-- Lines 98-202: the TLS connect, resumed on every call until it completes. -/
def connectTls : Code Unit := do
  emit .clearPollout
  let _ ← protocolCallback 0 .clearModePollFd
  let wsi ← getWsi
  if wsi.useSsl ≠ .off && !wsi.ssl then
    emit .sslNew
    modifyWsi fun wsi => { wsi with ssl := true }
  if wsi.useSsl ≠ .off then
    match ← sslConnect with
    | .error e =>
        if e = .wantRead ∨ e = .wantWrite then
          emit .callbackOnWritable
          ret 0
        ret 0
    | .failed => ret 0
    | .connected =>
        let io ← getIo
        if io.verifyResult ≠ .ok ∧
            (io.verifyResult ≠ .depthZeroSelfSignedCert ∨ wsi.useSsl ≠ .allowSelfSigned) then
          libwebsocketCloseAndFreeSession .noStatus
          ret 0
  else
    modifyWsi fun wsi => { wsi with ssl := false }

/-- Lines 98-204 on a plain socket. -/
theorem connectTls_of_plain {w : World} (plain : w.wsi.useSsl = .off) :
    connectTls w = .next ()
      { w with wsi := { w.wsi with ssl := false },
               log := w.log ++ [.clearPollout, .protocolCallback 0 .clearModePollFd] } := by
  simp [connectTls, plain]

/-- Lines 143-173: an `SSL_connect` to be retried (one that failed, with
`WANT_READ`, `WANT_WRITE` or another error) returns 0 from the call, keeping the
SSL object for the retry. -/
theorem connectTls_of_stalled {w : World} (tls : w.wsi.useSsl ≠ .off)
    (stalled : w.io.nextConnect ≠ .connected) :
    ∃ events, closeCount events = 0 ∧ connectTls w = .exit (.ret 0)
      { w with wsi := { w.wsi with ssl := true },
               io := { w.io with connects := w.io.connects.tail },
               log := w.log ++ events } := by
  have unchanged : ∀ wsi : Conn, wsi.ssl = true → { wsi with ssl := true } = wsi := by
    rintro ⟨⟩ rfl
    rfl
  simp only [connectTls, Exec.bind_apply, emit_apply, protocolCallback_apply, getWsi_apply, tls,
    ne_eq, not_false_eq_true, Bool.true_and, Exec.ite_apply, if_true]
  cases result : w.io.nextConnect with
  | connected => exact absurd result stalled
  | failed => cases ssl : w.wsi.ssl <;> simp [ssl, result, unchanged] <;> rfl
  | error e =>
      cases ssl : w.wsi.ssl <;> simp [ssl, result, unchanged] <;> split_ifs <;>
        exact ⟨_, by rfl, rfl⟩

/-- Lines 98-204 over TLS when `SSL_connect` completes and the server's
certificate passes lines 180-193: the connection holds its SSL object, and
nothing is closed. -/
theorem connectTls_of_connected {w : World} (tls : w.wsi.useSsl ≠ .off)
    (connected : w.io.nextConnect = .connected)
    (verified : w.io.verifyResult = .ok ∨
      w.io.verifyResult = .depthZeroSelfSignedCert ∧ w.wsi.useSsl = .allowSelfSigned) :
    ∃ events, closeCount events = 0 ∧ connectTls w = .next ()
      { w with wsi := { w.wsi with ssl := true },
               io := { w.io with connects := w.io.connects.tail },
               log := w.log ++ events } := by
  have unchanged : ∀ wsi : Conn, wsi.ssl = true → { wsi with ssl := true } = wsi := by
    rintro ⟨⟩ rfl
    rfl
  have passes : ¬(w.io.verifyResult ≠ .ok ∧
      (w.io.verifyResult ≠ .depthZeroSelfSignedCert ∨ w.wsi.useSsl ≠ .allowSelfSigned)) := by
    rcases verified with ok | ⟨selfSigned, allowed⟩ <;> simp [*]
  simp only [connectTls, Exec.bind_apply, emit_apply, protocolCallback_apply, getWsi_apply, tls,
    ne_eq, not_false_eq_true, Bool.true_and, Exec.ite_apply, if_true]
  cases ssl : w.wsi.ssl <;> simp [ssl, connected, unchanged, passes, closeCount, Event.isClose]

/-- Lines 212-236: the request goes out in one `send` or `SSL_write`, and
only a negative result counts as a failure. -/
def sendRequest (request : List Char) : Code Int := do
  match ← write request with
  | .error _ =>
      libwebsocketCloseAndFreeSession .noStatus
      ret 0
  | .wrote _ =>
      modifyWsi fun wsi => { wsi with parsed := [], parserComplete := false,
                                       mode := .wsClientWaitingServerReply }
      libwebsocketSetTimeout .awaitingServerResponse
      ret 0

/-- Lines 91-236. -/
def issueHandshake : Code Int := do
  connectTls
  match ← libwebsocketsGenerateClientHandshake with
  | none =>
      libwebsocketCloseAndFreeSession .noStatus
      ret 0
  | some request => sendRequest request

theorem sendRequest_of_wrote {request : List Char} {w : World} {n : Nat}
    (wrote : w.io.nextWrite request.length = .wrote n) :
    sendRequest request w = .exit (.ret 0)
      { w with wsi := { w.wsi with parsed := [], parserComplete := false,
                                   mode := .wsClientWaitingServerReply,
                                   pendingTimeout := .awaitingServerResponse },
               io := { w.io with writes := w.io.writes.tail },
               log := w.log ++ [.write request (.wrote n)] } := by
  simp [sendRequest, wrote]

theorem sendRequest_of_error {request : List Char} {w : World} {e : IoError}
    (failed : w.io.nextWrite request.length = .error e) :
    sendRequest request w = .exit (.ret 0)
      { w with io := { w.io with writes := w.io.writes.tail },
               log := w.log ++
                 [.write request (.error e), .close .noStatus w.wsi.mode w.wsi.state] } := by
  simp [sendRequest, failed]

/-- Lines 98-209 on a plain socket whose random device fails: the generator
closes the session, and so does its caller. -/
theorem issueHandshake_of_short_random {w : World} (plain : w.wsi.useSsl = .off)
    (short : w.io.nextRandom.length < 16) :
    issueHandshake w = .exit (.ret 0)
      { w with wsi := { w.wsi with ssl := false },
               io := { w.io with randoms := w.io.randoms.tail },
               log := w.log ++ [.clearPollout, .protocolCallback 0 .clearModePollFd] ++
                 [.free .cPath, .free .cHost] ++ freedIfSet w.wsi.cOrigin .cOrigin ++
                 freedIfSet w.wsi.cProtocol .cProtocol ++
                 [.close .noStatus w.wsi.mode w.wsi.state,
                  .close .noStatus w.wsi.mode w.wsi.state] } := by
  simp [issueHandshake, connectTls_of_plain plain,
    libwebsocketsGenerateClientHandshake_of_short_random
      (w := { w with wsi := { w.wsi with ssl := false }, log := _ }) short]

/-- One pass of the loop body (lines 275-294) with `c` as the local `char c`
holds it: the byte read, or `none` when `recv`/`SSL_read` returned 0, in which
case the stale `c` has been parsed and the loop ends. -/
def readStep (parser : Parser) (tls : Bool) (c : Char) : Code (Option Char) := do
  match ← read 1 with
  | .error e =>
      if tls ∧ (e = .wantRead ∨ e = .wantWrite) then ret 0
      goto .bail3
  | .bytes [] =>
      if ← libwebsocketParse parser c then goto .bail3
      pure none
  | .bytes (b :: _) =>
      if ← libwebsocketParse parser b then goto .bail3
      pure (some b)

theorem readStep_shortens {parser : Parser} {tls : Bool} {c b : Char} {w w' : World}
    (run : readStep parser tls c w = .next (some b) w') :
    w'.io.arrivals.length < w.io.arrivals.length := by
  simp only [readStep, Exec.bind_apply, read_apply] at run
  cases readResult : (w.io.read 1).1 with
  | error e => simp only [readResult] at run; split at run <;> simp at run
  | bytes data =>
      cases data with
      | nil =>
          simp only [readResult, Exec.bind_apply, libwebsocketParse_apply] at run
          split at run <;> simp at run
      | cons b' rest =>
          simp only [readResult, Exec.bind_apply, libwebsocketParse_apply] at run
          split at run <;> simp at run
          rw [← run.2]
          exact Io.read_shortens readResult

/-- Lines 273-295: read and parse byte by byte while the parser is not
complete and the last read returned a byte. -/
def readLoop (parser : Parser) (tls : Bool) (c : Char) (w : World) : Res World Exit Unit :=
  if w.wsi.parserComplete then .next () w
  else
    match _step : readStep parser tls c w with
    | .next (some b) w' => readLoop parser tls b w'
    | .next none w' => .next () w'
    | .exit e w' => .exit e w'
termination_by w.io.arrivals.length
decreasing_by exact readStep_shortens _step

section Reading

variable {parser : Parser} {tls : Bool} {c b : Char} {rest : List Arrival} {w w' : World}

/-- Lines 276-289 on a byte the parser accepts. -/
theorem readStep_of_byte (arrived : w.io.arrivals = .byte b :: rest)
    (accepted : (parser (w.wsi.parsed ++ [b])).ok = true) :
    readStep parser tls c w = .next (some b)
      { w with wsi := feedParser parser b w.wsi, io := { w.io with arrivals := rest },
               log := w.log ++ [.read (.bytes [b]), .parse b] } := by
  simp [readStep, Io.read, takeBytes, arrived, accepted]

/-- Lines 276-289 at the end of the stream: the read returned 0 and the stale
`c` is fed to the parser all the same. -/
theorem readStep_of_eof (arrived : w.io.arrivals = .eof :: rest)
    (accepted : (parser (w.wsi.parsed ++ [c])).ok = true) :
    readStep parser tls c w = .next none
      { w with wsi := feedParser parser c w.wsi, io := { w.io with arrivals := rest },
               log := w.log ++ [.read (.bytes []), .parse c] } := by
  simp [readStep, Io.read, takeBytes, arrived, accepted]

/-- Lines 277-283: over TLS, `WANT_READ` and `WANT_WRITE` return 0 from the call. -/
theorem readStep_of_soft {e : IoError} (overTls : tls = true)
    (arrived : w.io.arrivals = .error e :: rest)
    (soft : e = .wantRead ∨ e = .wantWrite) :
    readStep parser tls c w = .exit (.ret 0)
      { w with io := { w.io with arrivals := rest }, log := w.log ++ [.read (.error e)] } := by
  simp [readStep, Io.read, takeBytes, arrived, overTls, soft]

/-- Lines 286-289: on a plain socket every failed read, `EAGAIN` included,
goes to `bail3`. -/
theorem readStep_of_plain_error {e : IoError} (plain : tls = false)
    (arrived : w.io.arrivals = .error e :: rest) :
    readStep parser tls c w = .exit (.goto .bail3)
      { w with io := { w.io with arrivals := rest }, log := w.log ++ [.read (.error e)] } := by
  simp [readStep, Io.read, takeBytes, arrived, plain]

theorem readLoop_of_complete (complete : w.wsi.parserComplete = true) :
    readLoop parser tls c w = .next () w := by
  rw [readLoop]
  simp [complete]

theorem readLoop_of_byte (incomplete : w.wsi.parserComplete = false)
    (step : readStep parser tls c w = .next (some b) w') :
    readLoop parser tls c w = readLoop parser tls b w' := by
  rw [readLoop, if_neg (by simp [incomplete])]
  split <;> simp_all

theorem readLoop_of_stop (incomplete : w.wsi.parserComplete = false)
    (step : readStep parser tls c w = .next none w') : readLoop parser tls c w = .next () w' := by
  rw [readLoop, if_neg (by simp [incomplete])]
  split <;> simp_all

theorem readLoop_of_exit {e : Exit} (incomplete : w.wsi.parserComplete = false)
    (step : readStep parser tls c w = .exit e w') : readLoop parser tls c w = .exit e w' := by
  rw [readLoop, if_neg (by simp [incomplete])]
  split <;> simp_all

end Reading

/-- The parser, fed `cs` after `parsed`, accepts each byte without completing. -/
def Pending (parser : Parser) (parsed : List Char) : List Char → Prop
  | [] => True
  | b :: cs => (parser (parsed ++ [b])).ok = true ∧ (parser (parsed ++ [b])).complete = false ∧
      Pending parser (parsed ++ [b]) cs

instance Pending.decidable (parser : Parser) : ∀ parsed cs, Decidable (Pending parser parsed cs)
  | _, [] => isTrue trivial
  | parsed, b :: cs =>
      have := Pending.decidable parser (parsed ++ [b]) cs
      inferInstanceAs (Decidable (_ ∧ _ ∧ _))

theorem pending_append {parser : Parser} :
    ∀ {parsed xs ys : List Char},
      Pending parser parsed (xs ++ ys) ↔
        Pending parser parsed xs ∧ Pending parser (parsed ++ xs) ys
  | _, [], _ => by simp [Pending]
  | parsed, x :: xs, ys => by
      rw [List.cons_append, Pending, Pending, @pending_append parser (parsed ++ [x]) xs ys]
      simp [and_assoc]

/-- What reading and parsing `cs` one byte at a time adds to the ledger. -/
def byteEvents (cs : List Char) : List Event :=
  cs.flatMap fun b => [.read (.bytes [b]), .parse b]

theorem byteEvents_any_isClose (cs : List Char) : (byteEvents cs).any Event.isClose = false := by
  simp [byteEvents, Event.isClose]

/-- Lines 273-295 over bytes the parser accepts without completing: each is
read once and fed to the parser once, in arrival order, and the loop goes on
with the last of them in `c`. -/
theorem readLoop_of_pending {parser : Parser} {tls : Bool} :
    ∀ {cs : List Char} {c : Char} {w : World} {rest : List Arrival},
      w.wsi.parserComplete = false → w.io.arrivals = cs.map .byte ++ rest →
      Pending parser w.wsi.parsed cs →
      readLoop parser tls c w = readLoop parser tls (cs.getLast?.getD c)
        { w with wsi := cs.foldl (fun wsi b => feedParser parser b wsi) w.wsi,
                 io := { w.io with arrivals := rest }, log := w.log ++ byteEvents cs }
  | [], c, w, rest, _, arrived, _ => by
      simp only [List.map_nil, List.nil_append] at arrived
      subst arrived
      simp [byteEvents]
  | b :: cs, c, w, rest, incomplete, arrived, ⟨accepted, stillIncomplete, pending⟩ => by
      rw [readLoop_of_byte incomplete (readStep_of_byte arrived accepted),
        readLoop_of_pending (by exact stillIncomplete) rfl pending]
      simp [byteEvents, List.getLast?_cons]

/-- Feeding bytes changes only what the parser has seen and made of them. -/
theorem foldl_feedParser (parser : Parser) :
    ∀ (cs : List Char) (wsi : Conn), ∃ complete hdrs,
      cs.foldl (fun wsi b => feedParser parser b wsi) wsi =
        { wsi with parsed := wsi.parsed ++ cs, parserComplete := complete, hdrs := hdrs }
  | [], wsi => ⟨wsi.parserComplete, wsi.hdrs, by simp⟩
  | b :: cs, wsi => by
      obtain ⟨complete, hdrs, fed⟩ := foldl_feedParser parser cs (feedParser parser b wsi)
      exact ⟨complete, hdrs, by rw [List.foldl_cons, fed]; simp [feedParser]⟩

/-- Bytes the parser accepts without completing leave it incomplete. -/
theorem parserComplete_foldl_of_pending {parser : Parser} :
    ∀ {cs : List Char} {wsi : Conn},
      wsi.parserComplete = false → Pending parser wsi.parsed cs →
      (cs.foldl (fun wsi b => feedParser parser b wsi) wsi).parserComplete = false
  | [], _, incomplete, _ => incomplete
  | b :: cs, wsi, _, ⟨_, stillIncomplete, pending⟩ =>
      @parserComplete_foldl_of_pending parser cs (feedParser parser b wsi) stillIncomplete pending

/-- Lines 238-312. -/
def waitingServerReply (parser : Parser) (revents : Revents) : Code Int := do
  if revents.pollerr || revents.pollhup then goto .bail3
  if !revents.pollin then goto .bail3
  let wsi ← getWsi
  let io ← getIo
  readLoop parser (wsi.useSsl ≠ .off) io.uninitialized
  if !(← getWsi).parserComplete then ret 0
  lwsClientInterpretServerHandshake

/-- Lines 314-320. -/
def serviceBail3 : Code Int := do
  let wsi ← getWsi
  freeIfSet wsi.cProtocol .cProtocol
  libwebsocketCloseAndFreeSession .noStatus
  return 0

/-- Lines 52-330: the `switch (wsi->mode)`. -/
def dispatch (parser : Parser) (revents : Revents) : ConnMode → Code Int
  | .wsClientWaitingProxyReply => do
      waitingProxyReply revents
      issueHandshake
  | .wsClientIssueHandshake => issueHandshake
  | .wsClientWaitingServerReply => waitingServerReply parser revents
  | _ => return 0

section Waiting

variable {parser : Parser} {revents : Revents} {w w' : World}

/-- The read loop of lines 273-295 as line 273 starts it. -/
def replyLoop (parser : Parser) (w : World) : Res World Exit Unit :=
  readLoop parser (w.wsi.useSsl ≠ .off) w.io.uninitialized w

theorem waitingServerReply_of_exit {e : Exit} (alive : (revents.pollerr || revents.pollhup) = false)
    (readable : revents.pollin = true) (looped : replyLoop parser w = .exit e w') :
    waitingServerReply parser revents w = .exit e w' := by
  simp only [replyLoop, ne_eq, decide_not] at looped
  simp [waitingServerReply, alive, readable, looped]

/-- Lines 303-304: a reply not yet complete waits for the next call. -/
theorem waitingServerReply_of_incomplete (alive : (revents.pollerr || revents.pollhup) = false)
    (readable : revents.pollin = true) (looped : replyLoop parser w = .next () w')
    (incomplete : w'.wsi.parserComplete = false) :
    waitingServerReply parser revents w = .exit (.ret 0) w' := by
  simp only [replyLoop, ne_eq, decide_not] at looped
  simp [waitingServerReply, alive, readable, looped, incomplete]

/-- Line 312: a complete reply is interpreted. -/
theorem waitingServerReply_of_complete (alive : (revents.pollerr || revents.pollhup) = false)
    (readable : revents.pollin = true) (looped : replyLoop parser w = .next () w')
    (complete : w'.wsi.parserComplete = true) :
    waitingServerReply parser revents w = lwsClientInterpretServerHandshake w' := by
  simp only [replyLoop, ne_eq, decide_not] at looped
  simp [waitingServerReply, alive, readable, looped, complete]

end Waiting

/-- `lws_client_socket_service`; its one label is `bail3`. -/
def lwsClientSocketService (parser : Parser) (revents : Revents) : Code Int :=
  withLabels (do dispatch parser revents (← getWsi).mode) fun _ => serviceBail3

theorem lwsClientSocketService_apply (parser : Parser) (revents : Revents) (w : World) :
    lwsClientSocketService parser revents w =
      withLabels (dispatch parser revents w.wsi.mode) (fun _ => serviceBail3) w := rfl

section Proxy

variable {parser : Parser} {revents : Revents} {w : World}

/-- Lines 68-75: a failed read of the proxy's reply, `EAGAIN` included, ends
the call with the session closed. -/
theorem lwsClientSocketService_of_proxy_error {e : IoError}
    (waiting : w.wsi.mode = .wsClientWaitingProxyReply)
    (alive : (revents.pollerr || revents.pollhup) = false)
    (failed : (w.io.read w.context.serviceBufferSize).1 = .error e) :
    ∃ w', lwsClientSocketService parser revents w = .next 0 w' ∧
      closeCount w'.log = closeCount w.log + 1 := by
  refine ⟨_, by rw [lwsClientSocketService_apply, waiting]
                exact withLabels_of_ret
                  (Exec.bind_of_exit (waitingProxyReply_of_error alive failed)), ?_⟩
  simp [closeCount, Event.isClose]

/-- Lines 68-83: a read of 13 bytes or more not starting with `HTTP/1.0 200 `
ends the call with the session closed. -/
theorem lwsClientSocketService_of_proxy_refused {data : List Char}
    (waiting : w.wsi.mode = .wsClientWaitingProxyReply)
    (alive : (revents.pollerr || revents.pollhup) = false)
    (replied : (w.io.read w.context.serviceBufferSize).1 = .bytes data) (long : 13 ≤ data.length)
    (notProxy : data.take 13 ≠ proxyOk) :
    ∃ w', lwsClientSocketService parser revents w = .next 0 w' ∧
      closeCount w'.log = closeCount w.log + 1 := by
  have refused := waitingProxyReply_of_bytes alive replied
  simp only [proxyWindow_of_long long, if_neg notProxy] at refused
  refine ⟨_, by rw [lwsClientSocketService_apply, waiting]
                exact withLabels_of_ret (Exec.bind_of_exit refused), ?_⟩
  simp [closeCount, Event.isClose]

end Proxy

@[simp] theorem serviceBail3_apply (w : World) :
    serviceBail3 w = .next 0 { w with log := w.log ++ freedIfSet w.wsi.cProtocol .cProtocol ++
      [.close .noStatus w.wsi.mode w.wsi.state] } := by
  simp [serviceBail3]

/-- Whether the session has been closed. -/
def World.closed (w : World) : Bool :=
  w.log.any Event.isClose

/-- The event loop: one call per readiness event, until the session is closed
or a call reaches undefined behaviour. -/
def serviceRun (parser : Parser) : List Revents → World → World
  | [], w => w
  | revents :: later, w =>
      if w.closed then w
      else
        match lwsClientSocketService parser revents w with
        | .next _ w' => serviceRun parser later w'
        | .exit _ w' => w'

theorem serviceRun_of_next {parser : Parser} {revents : Revents} {later : List Revents}
    {w w' : World} {v : Int} (live : w.closed = false)
    (served : lwsClientSocketService parser revents w = .next v w') :
    serviceRun parser (revents :: later) w = serviceRun parser later w' := by
  simp [serviceRun, live, served]

theorem serviceRun_single {parser : Parser} {revents : Revents} {w : World}
    (live : w.closed = false) :
    serviceRun parser [revents] w = (lwsClientSocketService parser revents w).state := by
  rw [serviceRun, if_neg (by simp [live])]
  split <;> simp_all [Res.state, serviceRun]

end LwsClient
