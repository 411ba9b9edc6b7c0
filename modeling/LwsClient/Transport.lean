import LwsClient.Acceptance
import LwsClient.Service

/-!
# Reading the server's reply

How `lws_client_socket_service` takes the server's reply from the transport
(lines 238-312).  Bytes are read one at a time and fed to the parser once
each, in arrival order, until it completes; over TLS a `WANT_READ` or
`WANT_WRITE` returns from the call with everything parsed so far kept, so the
next call resumes where this one stopped.  The end of the stream breaks this:
the loop feeds the parser the stale `c` although no byte was read.

What the code does with a reply split into several reads is stated for each
place separately: the proxy reply must come in one read, the request goes out
in one write, and only the TLS read of the server's reply resumes.
-/

namespace LwsClient

/-- A parser that accepts every byte and never completes, as an HTTP parser
does on the start of a reply. -/
def patientParser : Parser := fun _ => ⟨true, false, .empty⟩

/-- Readiness with only `POLLIN`. -/
def readable : Revents := ⟨true, false, false, false⟩

/-- A client that sent its request with TLS `useSsl` and whose transport
holds `arrivals`. -/
def readingReply (useSsl : UseSsl) (arrivals : List Arrival) : World :=
  let w := awaitingReply [quietProtocol ⟨"chat".toList, by decide⟩] (by simp) [] none .empty
  { w with wsi := { w.wsi with useSsl := useSsl, parserComplete := false },
           io := { w.io with arrivals := arrivals } }

/-! ## The reply, byte by byte -/

section Reply

variable {parser : Parser} {revents : Revents} {w : World}

/-- Lines 273-295 over TLS: bytes the parser takes without completing, then
`WANT_READ` or `WANT_WRITE`, end the call with 0 and those bytes parsed. -/
theorem lwsClientSocketService_of_soft {cs : List Char} {e : IoError} {rest : List Arrival}
    (waiting : w.wsi.mode = .wsClientWaitingServerReply) (tls : w.wsi.useSsl ≠ .off)
    (alive : (revents.pollerr || revents.pollhup) = false) (ready : revents.pollin = true)
    (incomplete : w.wsi.parserComplete = false)
    (arrived : w.io.arrivals = cs.map .byte ++ .error e :: rest)
    (soft : e = .wantRead ∨ e = .wantWrite) (pending : Pending parser w.wsi.parsed cs) :
    lwsClientSocketService parser revents w = .next 0
      { w with wsi := cs.foldl (fun wsi b => feedParser parser b wsi) w.wsi,
               io := { w.io with arrivals := rest },
               log := w.log ++ byteEvents cs ++ [.read (.error e)] } := by
  have looped : replyLoop parser w = .exit (.ret 0)
      { w with wsi := cs.foldl (fun wsi b => feedParser parser b wsi) w.wsi,
               io := { w.io with arrivals := rest },
               log := w.log ++ byteEvents cs ++ [.read (.error e)] } := by
    rw [replyLoop, readLoop_of_pending incomplete arrived pending,
      readLoop_of_exit (parserComplete_foldl_of_pending incomplete pending)
        (readStep_of_soft (by simpa using tls) rfl soft)]
  rw [lwsClientSocketService_apply, waiting]
  exact withLabels_of_ret (waitingServerReply_of_exit alive ready looped)

/-- Lines 273-312: bytes the parser takes without completing, then one that
completes it; the reply is interpreted with what follows it left unread. -/
theorem waitingServerReply_of_reply {cs : List Char} {b : Char} {rest : List Arrival}
    (alive : (revents.pollerr || revents.pollhup) = false) (ready : revents.pollin = true)
    (incomplete : w.wsi.parserComplete = false)
    (arrived : w.io.arrivals = (cs ++ [b]).map .byte ++ rest)
    (pending : Pending parser w.wsi.parsed cs)
    (accepted : (parser (w.wsi.parsed ++ cs ++ [b])).ok = true)
    (completes : (parser (w.wsi.parsed ++ cs ++ [b])).complete = true) :
    waitingServerReply parser revents w = lwsClientInterpretServerHandshake
      { w with wsi := feedParser parser b (cs.foldl (fun wsi b => feedParser parser b wsi) w.wsi),
               io := { w.io with arrivals := rest }, log := w.log ++ byteEvents (cs ++ [b]) } := by
  obtain ⟨complete, hdrs, fed⟩ := foldl_feedParser parser cs w.wsi
  have looped : replyLoop parser w = .next ()
      { w with wsi := feedParser parser b (cs.foldl (fun wsi b => feedParser parser b wsi) w.wsi),
               io := { w.io with arrivals := rest }, log := w.log ++ byteEvents (cs ++ [b]) } := by
    rw [replyLoop, readLoop_of_pending incomplete (by simpa using arrived) pending,
      readLoop_of_byte (parserComplete_foldl_of_pending incomplete pending)
        (readStep_of_byte rfl (by simpa [fed] using accepted)),
      readLoop_of_complete (by rw [fed]; simpa [feedParser] using completes)]
    simp [byteEvents]
  exact waitingServerReply_of_complete alive ready looped
    (by rw [fed]; simpa [feedParser] using completes)

theorem lwsClientSocketService_state_of_reply {cs : List Char} {b : Char} {rest : List Arrival}
    (waiting : w.wsi.mode = .wsClientWaitingServerReply)
    (alive : (revents.pollerr || revents.pollhup) = false) (ready : revents.pollin = true)
    (incomplete : w.wsi.parserComplete = false)
    (arrived : w.io.arrivals = (cs ++ [b]).map .byte ++ rest)
    (pending : Pending parser w.wsi.parsed cs)
    (accepted : (parser (w.wsi.parsed ++ cs ++ [b])).ok = true)
    (completes : (parser (w.wsi.parsed ++ cs ++ [b])).complete = true) :
    (lwsClientSocketService parser revents w).state = (lwsClientInterpretServerHandshake
      { w with wsi := feedParser parser b (cs.foldl (fun wsi b => feedParser parser b wsi) w.wsi),
               io := { w.io with arrivals := rest },
               log := w.log ++ byteEvents (cs ++ [b]) }).state := by
  have replied :=
    waitingServerReply_of_reply alive ready incomplete arrived pending accepted completes
  have noGoto : ∀ l w', waitingServerReply parser revents w ≠ .exit (.goto l) w' :=
    fun l w' => by
    rw [replied]
    exact lwsClientInterpretServerHandshake_ne_goto _ l w'
  rw [lwsClientSocketService_apply, waiting]
  exact (withLabels_state noGoto).trans (congrArg Res.state replied)

end Reply

/-- A parser that completes at the blank line ending the reply's headers. -/
def blankLineParser : Parser := fun bytes => ⟨true, "\r\n\r\n".toList.isSuffixOf bytes, .empty⟩

theorem feedParser_foldl_of_completes {parser : Parser} {wsi : Conn} {cs : List Char} {b : Char}
    (completes : (parser (wsi.parsed ++ cs ++ [b])).complete = true) :
    feedParser parser b (cs.foldl (fun wsi b => feedParser parser b wsi) wsi) =
      { wsi with parsed := wsi.parsed ++ cs ++ [b], parserComplete := true,
                 hdrs := (parser (wsi.parsed ++ cs ++ [b])).hdrs } := by
  obtain ⟨complete, hdrs, fed⟩ := foldl_feedParser parser cs wsi
  rw [fed, feedParser]
  simp only [completes]

/-- The reply read exactly.  While the bytes of the server's reply arrive with
no end of stream, each byte a read returns is fed to the parser once, in
arrival order, and no read follows the byte that completes it: the reply is
interpreted on the same context and connection, holding the parser's headers,
with what came after it, such as frame bytes coalesced with it, left unread in
the transport (lines 265-312). -/
theorem reply_read_exactly {parser : Parser} {revents : Revents} {w : World} {cs : List Char}
    {b : Char} {rest : List Arrival} (waiting : w.wsi.mode = .wsClientWaitingServerReply)
    (alive : (revents.pollerr || revents.pollhup) = false) (ready : revents.pollin = true)
    (incomplete : w.wsi.parserComplete = false)
    (arrived : w.io.arrivals = (cs ++ [b]).map .byte ++ rest)
    (pending : Pending parser w.wsi.parsed cs)
    (accepted : (parser (w.wsi.parsed ++ cs ++ [b])).ok = true)
    (completes : (parser (w.wsi.parsed ++ cs ++ [b])).complete = true) :
    (lwsClientSocketService parser revents w).state = (lwsClientInterpretServerHandshake
      { w with wsi := { w.wsi with parsed := w.wsi.parsed ++ cs ++ [b], parserComplete := true,
                                   hdrs := (parser (w.wsi.parsed ++ cs ++ [b])).hdrs },
               io := { w.io with arrivals := rest },
               log := w.log ++ byteEvents (cs ++ [b]) }).state := by
  rw [lwsClientSocketService_state_of_reply waiting alive ready incomplete arrived pending
    accepted completes, feedParser_foldl_of_completes completes]

theorem switchingReply_read_exactly :
    (lwsClientSocketService blankLineParser readable
        (readingReply .off ("HTTP/1.1 101 \r\n\r\n".toList.map .byte ++ [.byte '\x81']))).state =
      (lwsClientInterpretServerHandshake
        { readingReply .off ("HTTP/1.1 101 \r\n\r\n".toList.map .byte ++ [.byte '\x81']) with
          wsi := { (readingReply .off []).wsi with
                   parsed := [] ++ "HTTP/1.1 101 \r\n\r".toList ++ ['\n'], parserComplete := true,
                   hdrs := (blankLineParser ([] ++ "HTTP/1.1 101 \r\n\r".toList ++ ['\n'])).hdrs },
          io := { (readingReply .off []).io with arrivals := [.byte '\x81'] },
          log := [] ++ byteEvents ("HTTP/1.1 101 \r\n\r".toList ++ ['\n']) }).state :=
  reply_read_exactly rfl rfl rfl rfl rfl (by decide) rfl rfl

/-! ## The end of the stream -/

/-- The parser is fed a byte the transport did not deliver.  When a byte `b`
of the reply is followed by the end of the stream, the loop of lines 273-295
reads `b`, gets 0 from `recv` or `SSL_read`, and still calls
`libwebsocket_parse (wsi, c)` with the stale `c` (line 291): the reads
returned one byte and the parser was fed two. -/
theorem endOfStream_feeds_stale_byte {parser : Parser} {revents : Revents} {w : World} {b : Char}
    {rest : List Arrival} (waiting : w.wsi.mode = .wsClientWaitingServerReply)
    (alive : (revents.pollerr || revents.pollhup) = false) (ready : revents.pollin = true)
    (incomplete : w.wsi.parserComplete = false) (arrived : w.io.arrivals = .byte b :: .eof :: rest)
    (pending : Pending parser w.wsi.parsed [b, b]) :
    lwsClientSocketService parser revents w = .next 0
      { w with wsi := feedParser parser b (feedParser parser b w.wsi),
               io := { w.io with arrivals := rest },
               log := w.log ++ [.read (.bytes [b]), .parse b, .read (.bytes []), .parse b] } := by
  obtain ⟨firstOk, firstIncomplete, secondOk, secondIncomplete, -⟩ := pending
  have looped : replyLoop parser w = .next ()
      { w with wsi := feedParser parser b (feedParser parser b w.wsi),
               io := { w.io with arrivals := rest },
               log := w.log ++ [.read (.bytes [b]), .parse b, .read (.bytes []), .parse b] } := by
    rw [replyLoop, readLoop_of_byte incomplete (readStep_of_byte arrived firstOk),
      readLoop_of_stop firstIncomplete (readStep_of_eof rfl secondOk)]
    simp
  rw [lwsClientSocketService_apply, waiting]
  exact withLabels_of_ret (waitingServerReply_of_incomplete alive ready looped secondIncomplete)

theorem endOfStream_after_H :
    lwsClientSocketService patientParser readable (readingReply .off [.byte 'H', .eof]) = .next 0
      { readingReply .off [.byte 'H', .eof] with
        wsi := feedParser patientParser 'H'
          (feedParser patientParser 'H' (readingReply .off [.byte 'H', .eof]).wsi),
        io := { (readingReply .off [.byte 'H', .eof]).io with arrivals := [] },
        log := [.read (.bytes ['H']), .parse 'H', .read (.bytes []), .parse 'H'] } :=
  endOfStream_feeds_stale_byte rfl rfl rfl rfl rfl ⟨rfl, rfl, rfl, rfl, trivial⟩

/-! ## Split transfers -/

/-- A client waiting for its proxy's reply to CONNECT over a plain socket, its
service buffer cleared and `arrivals` in the transport. -/
def proxyWaiting (arrivals : List Arrival) : World :=
  let w := readingReply .off arrivals
  { w with wsi := { w.wsi with mode := .wsClientWaitingProxyReply,
                               pendingTimeout := .awaitingProxyResponse } }

/-- The proxy's reply in one read passes the check of lines 77-83, while the
same reply split by `EAGAIN` after its first eight bytes closes the session. -/
theorem splitProxyReply_refused :
    (∃ w', waitingProxyReply readable
      (proxyWaiting ("HTTP/1.0 200 \r\n\r\n".toList.map .byte)) = .next () w') ∧
    ∃ w', lwsClientSocketService patientParser readable
        (proxyWaiting ("HTTP/1.0".toList.map .byte ++
          .error .wouldBlock :: " 200 \r\n\r\n".toList.map .byte)) = .next 0 w' ∧
      closeCount w'.log = 1 :=
  ⟨⟨_, rfl⟩, _, rfl, rfl⟩

/-- What the code does with transfers split by the network.  The proxy's
reply is checked on the one read made when the socket is readable (lines
68-83): a failed read, `EAGAIN` included, closes the session, as does a read of
13 bytes or more not starting with `HTTP/1.0 200 `.  The request goes out in
one write (lines 216-236): any count that is not negative, short or not, is
taken as the whole request, and the connection moves on to wait for the reply
with its timeout armed.  Over TLS, `WANT_READ` or `WANT_WRITE` while the reply
is read (lines 276-283) returns 0 with every byte read so far fed once to the
parser in arrival order, the connection open in `WAITING_SERVER_REPLY`, and
the transport just past the soft error. -/
theorem transferSplits_handled :
    (∀ (parser : Parser) (revents : Revents) (w : World) (e : IoError),
      w.wsi.mode = .wsClientWaitingProxyReply → (revents.pollerr || revents.pollhup) = false →
      (w.io.read w.context.serviceBufferSize).1 = .error e →
      ∃ w', lwsClientSocketService parser revents w = .next 0 w' ∧
        closeCount w'.log = closeCount w.log + 1) ∧
    (∀ (parser : Parser) (revents : Revents) (w : World) (data : List Char),
      w.wsi.mode = .wsClientWaitingProxyReply → (revents.pollerr || revents.pollhup) = false →
      (w.io.read w.context.serviceBufferSize).1 = .bytes data → 13 ≤ data.length →
      data.take 13 ≠ proxyOk →
      ∃ w', lwsClientSocketService parser revents w = .next 0 w' ∧
        closeCount w'.log = closeCount w.log + 1) ∧
    (∀ (request : List Char) (w : World) (n : Nat),
      w.io.nextWrite request.length = .wrote n →
      ∃ w', sendRequest request w = .exit (.ret 0) w' ∧
        w'.wsi.mode = .wsClientWaitingServerReply ∧
        w'.wsi.pendingTimeout = .awaitingServerResponse ∧
        w'.log = w.log ++ [.write request (.wrote n)]) ∧
    (∀ (parser : Parser) (revents : Revents) (w : World) (cs : List Char) (e : IoError)
      (rest : List Arrival),
      w.wsi.mode = .wsClientWaitingServerReply → w.wsi.useSsl ≠ .off →
      (revents.pollerr || revents.pollhup) = false → revents.pollin = true →
      w.wsi.parserComplete = false → w.io.arrivals = cs.map .byte ++ .error e :: rest →
      (e = .wantRead ∨ e = .wantWrite) → Pending parser w.wsi.parsed cs →
      lwsClientSocketService parser revents w = .next 0
        { w with wsi := cs.foldl (fun wsi b => feedParser parser b wsi) w.wsi,
                 io := { w.io with arrivals := rest },
                 log := w.log ++ byteEvents cs ++ [.read (.error e)] }) := by
  refine ⟨?_, ?_, ?_, ?_⟩
  · exact fun _ _ _ _ waiting alive failed =>
      lwsClientSocketService_of_proxy_error waiting alive failed
  · exact fun _ _ _ _ waiting alive replied long notProxy =>
      lwsClientSocketService_of_proxy_refused waiting alive replied long notProxy
  · intro request w n wrote
    exact ⟨_, sendRequest_of_wrote wrote, rfl, rfl, rfl⟩
  · exact fun _ _ _ _ _ _ waiting tls alive ready incomplete arrived soft pending =>
      lwsClientSocketService_of_soft waiting tls alive ready incomplete arrived soft pending

theorem transferSplits_on_fixtures :
    (∃ w', lwsClientSocketService patientParser readable (proxyWaiting [.error .wouldBlock]) =
      .next 0 w' ∧ closeCount w'.log = closeCount (proxyWaiting [.error .wouldBlock]).log + 1) ∧
    (∃ w', lwsClientSocketService patientParser readable
      (proxyWaiting ("HTTP/1.1 403 Forbidden".toList.map .byte)) = .next 0 w' ∧
      closeCount w'.log =
        closeCount (proxyWaiting ("HTTP/1.1 403 Forbidden".toList.map .byte)).log + 1) ∧
    (∃ w', sendRequest "GET / HTTP/1.1\r\n\r\n".toList
        { readingReply .off [] with
          io := { (readingReply .off []).io with writes := [.wrote 5] } } =
      .exit (.ret 0) w' ∧ w'.wsi.mode = .wsClientWaitingServerReply ∧
      w'.wsi.pendingTimeout = .awaitingServerResponse ∧
      w'.log = [.write "GET / HTTP/1.1\r\n\r\n".toList (.wrote 5)]) ∧
    lwsClientSocketService patientParser readable (readingReply .on [.byte 'H', .error .wantRead]) =
      .next 0 { readingReply .on [.byte 'H', .error .wantRead] with
        wsi := ['H'].foldl (fun wsi b => feedParser patientParser b wsi)
          (readingReply .on [.byte 'H', .error .wantRead]).wsi,
        io := { (readingReply .on [.byte 'H', .error .wantRead]).io with arrivals := [] },
        log := [] ++ byteEvents ['H'] ++ [.read (.error .wantRead)] } :=
  ⟨transferSplits_handled.1 _ _ _ .wouldBlock rfl rfl rfl,
    transferSplits_handled.2.1 _ _ _ _ rfl rfl rfl (by decide) (by decide),
    transferSplits_handled.2.2.1 _ _ 5 rfl,
    transferSplits_handled.2.2.2 _ _ _ ['H'] .wantRead [] rfl (by decide) rfl rfl rfl rfl (.inl rfl)
      ⟨rfl, rfl, trivial⟩⟩

/-- The split the code does not resume from.  On a plain socket a failed read
in the middle of the server's reply, `EAGAIN` included, goes to `bail3` (lines
286-289) and the session is closed, the bytes read before it fed to the
parser: the comment of lines 297-301 says the call waits for the next packet,
which only the TLS branch of lines 277-283 does. -/
theorem plainReply_error_closes {parser : Parser} {revents : Revents} {w : World}
    {cs : List Char} {e : IoError} {rest : List Arrival}
    (waiting : w.wsi.mode = .wsClientWaitingServerReply) (plain : w.wsi.useSsl = .off)
    (alive : (revents.pollerr || revents.pollhup) = false) (ready : revents.pollin = true)
    (incomplete : w.wsi.parserComplete = false)
    (arrived : w.io.arrivals = cs.map .byte ++ .error e :: rest)
    (pending : Pending parser w.wsi.parsed cs) :
    lwsClientSocketService parser revents w = .next 0
      { w with wsi := cs.foldl (fun wsi b => feedParser parser b wsi) w.wsi,
               io := { w.io with arrivals := rest },
               log := w.log ++ byteEvents cs ++ [.read (.error e)] ++
                 freedIfSet w.wsi.cProtocol .cProtocol ++
                 [.close .noStatus .wsClientWaitingServerReply w.wsi.state] } := by
  have looped : replyLoop parser w = .exit (.goto .bail3)
      { w with wsi := cs.foldl (fun wsi b => feedParser parser b wsi) w.wsi,
               io := { w.io with arrivals := rest },
               log := w.log ++ byteEvents cs ++ [.read (.error e)] } := by
    rw [replyLoop, readLoop_of_pending incomplete arrived pending,
      readLoop_of_exit (parserComplete_foldl_of_pending incomplete pending)
        (readStep_of_plain_error (by simp [plain]) rfl)]
  obtain ⟨complete, hdrs, fed⟩ := foldl_feedParser parser cs w.wsi
  rw [lwsClientSocketService_apply, waiting]
  refine (withLabels_of_goto (waitingServerReply_of_exit alive ready looped)).trans ?_
  rw [serviceBail3_apply, fed, waiting]

/-- `H`, `EAGAIN`, `TTP` on a plain socket: the session is closed after `H`. -/
theorem plainEagain_closes_midReply :
    lwsClientSocketService patientParser readable
        (readingReply .off [.byte 'H', .error .wouldBlock, .byte 'T', .byte 'T', .byte 'P']) =
      .next 0 { readingReply .off [.byte 'H', .error .wouldBlock, .byte 'T', .byte 'T', .byte 'P'] with
        wsi := ['H'].foldl (fun wsi b => feedParser patientParser b wsi)
          (readingReply .off []).wsi,
        io := { (readingReply .off []).io with arrivals := [.byte 'T', .byte 'T', .byte 'P'] },
        log := [] ++ byteEvents ['H'] ++ [.read (.error .wouldBlock)] ++
          freedIfSet (readingReply .off []).wsi.cProtocol .cProtocol ++
          [.close .noStatus .wsClientWaitingServerReply (readingReply .off []).wsi.state] } :=
  plainReply_error_closes rfl rfl rfl rfl rfl rfl ⟨rfl, rfl, trivial⟩

/-! ## A reply over several calls -/

/-- The transport holding each chunk of `chunks` followed by `WANT_READ`,
then `last` and then `rest`. -/
def softSplit (chunks : List (List Char)) (last : List Char) (rest : List Arrival) : List Arrival :=
  (chunks.map fun cs => cs.map .byte ++ [.error .wantRead]).flatten ++ last.map .byte ++ rest

/-- The event loop over a TLS reply split by `WANT_READ`: one readable event
per chunk, then one for the rest of the reply, and the reply is interpreted
on the connection fed every byte of it once, in order, with what follows it
left in the transport. -/
theorem serviceRun_of_softSplit {parser : Parser} {cs : List Char} {b : Char}
    {rest : List Arrival} :
    ∀ {chunks : List (List Char)} {w : World},
      w.wsi.mode = .wsClientWaitingServerReply → w.wsi.useSsl ≠ .off →
      w.wsi.parserComplete = false → w.closed = false →
      w.io.arrivals = softSplit chunks (cs ++ [b]) rest →
      Pending parser w.wsi.parsed (chunks.flatten ++ cs) →
      (parser (w.wsi.parsed ++ chunks.flatten ++ cs ++ [b])).ok = true →
      (parser (w.wsi.parsed ++ chunks.flatten ++ cs ++ [b])).complete = true →
      ∃ events, serviceRun parser (List.replicate (chunks.length + 1) readable) w =
        (lwsClientInterpretServerHandshake
          { w with wsi := feedParser parser b
                     ((chunks.flatten ++ cs).foldl (fun wsi b => feedParser parser b wsi) w.wsi),
                   io := { w.io with arrivals := rest }, log := w.log ++ events }).state
  | [], w, waiting, _, incomplete, live, arrived, pending, accepted, completes => by
      refine ⟨byteEvents (cs ++ [b]), ?_⟩
      show serviceRun parser [readable] w = _
      rw [serviceRun_single live]
      exact lwsClientSocketService_state_of_reply waiting rfl rfl incomplete
        (by simpa [softSplit] using arrived) (by simpa using pending) (by simpa using accepted)
        (by simpa using completes)
  | c :: chunks, w, waiting, tls, incomplete, live, arrived, pending, accepted, completes => by
      obtain ⟨complete, hdrs, fed⟩ := foldl_feedParser parser c w.wsi
      have parts := pending_append.mp
        (by simpa using pending : Pending parser w.wsi.parsed (c ++ (chunks.flatten ++ cs)))
      have served : lwsClientSocketService parser readable w = .next 0
          { w with wsi := c.foldl (fun wsi b => feedParser parser b wsi) w.wsi,
                   io := { w.io with arrivals := softSplit chunks (cs ++ [b]) rest },
                   log := w.log ++ byteEvents c ++ [.read (.error .wantRead)] } :=
        lwsClientSocketService_of_soft waiting tls rfl rfl incomplete
          (by simp [arrived, softSplit]) (.inl rfl) parts.1
      obtain ⟨events, run⟩ := serviceRun_of_softSplit
        (w := { w with wsi := c.foldl (fun wsi b => feedParser parser b wsi) w.wsi,
                       io := { w.io with arrivals := softSplit chunks (cs ++ [b]) rest },
                       log := w.log ++ byteEvents c ++ [.read (.error .wantRead)] })
        (by simp [fed, waiting]) (by simpa [fed] using tls)
        (parserComplete_foldl_of_pending incomplete parts.1)
        (by simp [World.closed, ← live, byteEvents_any_isClose, Event.isClose]) rfl
        (by simpa [fed] using parts.2) (by simpa [fed] using accepted)
        (by simpa [fed] using completes)
      refine ⟨byteEvents c ++ [.read (.error .wantRead)] ++ events, ?_⟩
      rw [List.length_cons, List.replicate_succ, serviceRun_of_next live served, run]
      simp [List.foldl_append]

/-- A TLS reply split by the network.  Whatever chunks the server's reply
arrives in, separated by `WANT_READ`, the event loop makes one call per chunk
and interprets the reply after the last one on the same connection, context
and transport as when the whole reply comes in one read: every byte fed to
the parser once, in order, and what follows the reply left unread. -/
theorem tlsSplitReply_parsed_whole {parser : Parser} {w : World} {chunks : List (List Char)}
    {cs : List Char} {b : Char} {rest : List Arrival}
    (waiting : w.wsi.mode = .wsClientWaitingServerReply) (tls : w.wsi.useSsl ≠ .off)
    (incomplete : w.wsi.parserComplete = false) (live : w.closed = false)
    (pending : Pending parser w.wsi.parsed (chunks.flatten ++ cs))
    (accepted : (parser (w.wsi.parsed ++ chunks.flatten ++ cs ++ [b])).ok = true)
    (completes : (parser (w.wsi.parsed ++ chunks.flatten ++ cs ++ [b])).complete = true) :
    ∃ w₁ w₂,
      serviceRun parser (List.replicate (chunks.length + 1) readable)
          { w with io := { w.io with arrivals := softSplit chunks (cs ++ [b]) rest } } =
        (lwsClientInterpretServerHandshake w₁).state ∧
      serviceRun parser [readable]
          { w with io := { w.io with
              arrivals := (chunks.flatten ++ cs ++ [b]).map .byte ++ rest } } =
        (lwsClientInterpretServerHandshake w₂).state ∧
      w₁.wsi = w₂.wsi ∧ w₁.io = w₂.io ∧ w₁.context = w₂.context ∧
      w₁.wsi.parsed = w.wsi.parsed ++ chunks.flatten ++ cs ++ [b] ∧ w₁.io.arrivals = rest := by
  obtain ⟨split, splitRun⟩ := @serviceRun_of_softSplit parser cs b rest chunks
    { w with io := { w.io with arrivals := softSplit chunks (cs ++ [b]) rest } }
    waiting tls incomplete live rfl pending accepted completes
  obtain ⟨whole, wholeRun⟩ := @serviceRun_of_softSplit parser (chunks.flatten ++ cs) b rest []
    { w with io := { w.io with arrivals := (chunks.flatten ++ cs ++ [b]).map .byte ++ rest } }
    waiting tls incomplete live (by simp [softSplit]) (by simpa using pending)
    (by simpa using accepted) (by simpa using completes)
  obtain ⟨complete, hdrs, fed⟩ := foldl_feedParser parser (chunks.flatten ++ cs) w.wsi
  refine ⟨_, _, splitRun, wholeRun, by simp, rfl, rfl, ?_, rfl⟩
  rw [fed]
  simp [feedParser]

/-- The status line of a switching reply, split by the network after `1`. -/
def splitStatusLine : List (List Char) := ["HTTP/1.1 1".toList, "01 \r\n".toList]

theorem splitStatusLine_parsed_whole :
    ∃ w₁ w₂,
      serviceRun blankLineParser (List.replicate (splitStatusLine.length + 1) readable)
          { readingReply .on [] with io := { (readingReply .on []).io with
              arrivals := softSplit splitStatusLine ("\r".toList ++ ['\n']) [] } } =
        (lwsClientInterpretServerHandshake w₁).state ∧
      serviceRun blankLineParser [readable]
          { readingReply .on [] with io := { (readingReply .on []).io with
              arrivals := (splitStatusLine.flatten ++ "\r".toList ++ ['\n']).map .byte ++ [] } } =
        (lwsClientInterpretServerHandshake w₂).state ∧
      w₁.wsi = w₂.wsi ∧ w₁.io = w₂.io ∧ w₁.context = w₂.context ∧
      w₁.wsi.parsed = [] ++ splitStatusLine.flatten ++ "\r".toList ++ ['\n'] ∧
      w₁.io.arrivals = [] :=
  tlsSplitReply_parsed_whole rfl (by decide) rfl rfl (by decide) rfl rfl

end LwsClient
