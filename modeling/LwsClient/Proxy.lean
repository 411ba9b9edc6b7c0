import LwsClient.Transport

/-!
# Through a proxy

In `WAITING_PROXY_REPLY` (lines 54-89) `lws_client_socket_service` reads the
proxy's reply into the context's shared service buffer, checks its first 13
bytes there, clears the connection's timeout and falls through to the TLS
connect and the request.  The mode is never moved on, so a TLS connect that
must be retried sends the next call back to the proxy branch; the timeout
cleared there is not armed again, so the connection then waits with no
deadline; and the check reads the buffer whatever the read returned, so a
short reply is judged by bytes an earlier use of the buffer left there.
-/

namespace LwsClient

/-- Lines 54-173: a proxy reply accepted on a TLS connection whose
`SSL_connect` must be retried.  The call returns 0 with the timeout cleared,
the SSL object made, and the connection open and still in
`WAITING_PROXY_REPLY`. -/
theorem lwsClientSocketService_of_proxy_stall {parser : Parser} {revents : Revents} {w : World}
    {data : List Char} (waiting : w.wsi.mode = .wsClientWaitingProxyReply)
    (alive : (revents.pollerr || revents.pollhup) = false) (tls : w.wsi.useSsl ≠ .off)
    (replied : (w.io.read w.context.serviceBufferSize).1 = .bytes data)
    (accepted : proxyWindow w.context.serviceBuffer data = proxyOk)
    (stalled : (w.io.read w.context.serviceBufferSize).2.nextConnect ≠ .connected) :
    ∃ w', lwsClientSocketService parser revents w = .next 0 w' ∧
      w'.wsi = { w.wsi with pendingTimeout := .noPendingTimeout, ssl := true } ∧
      w'.context.serviceBuffer = storedReply w.context.serviceBuffer data ∧
      closeCount w'.log = closeCount w.log := by
  have proxied := waitingProxyReply_of_bytes alive replied
  simp only [if_pos accepted] at proxied
  obtain ⟨events, quiet, connecting⟩ := connectTls_of_stalled
    (w := { w with context := { w.context with
                                  serviceBuffer := storedReply w.context.serviceBuffer data },
                   wsi := { w.wsi with pendingTimeout := .noPendingTimeout },
                   io := (w.io.read w.context.serviceBufferSize).2,
                   log := w.log ++ [.read (.bytes data)] }) tls stalled
  refine ⟨_, by rw [lwsClientSocketService_apply, waiting]
                exact withLabels_of_ret ((Exec.bind_of_next proxied).trans
                  (Exec.bind_of_exit connecting)), rfl, rfl, ?_⟩
  simp only [closeCount_append, quiet]
  rfl

/-- A TLS client waiting for its proxy's reply, with `arrivals` in the
transport and `connects` the results its `SSL_connect` calls will get. -/
def tlsProxyWaiting (arrivals : List Arrival) (connects : List SslConnectResult) : World :=
  let w := proxyWaiting arrivals
  { w with wsi := { w.wsi with useSsl := .on }, io := { w.io with connects := connects } }

/-- The proxy's accepted reply is read for again.  Lines 54-89 fall through
to the TLS connect without recording `ISSUE_HANDSHAKE`, so a connect that
must be retried (lines 147-182, "we can retry this") returns with the
connection still in `WAITING_PROXY_REPLY`.  The next call then takes what the
server sends for a proxy reply, and bytes that do not start with
`HTTP/1.0 200 `, such as the server's TLS handshake, close the session. -/
theorem proxyTls_retry_rereads_proxyReply {parser : Parser} {revents : Revents} {w : World}
    {data : List Char} (waiting : w.wsi.mode = .wsClientWaitingProxyReply)
    (alive : (revents.pollerr || revents.pollhup) = false) (tls : w.wsi.useSsl ≠ .off)
    (replied : (w.io.read w.context.serviceBufferSize).1 = .bytes data)
    (accepted : proxyWindow w.context.serviceBuffer data = proxyOk)
    (stalled : (w.io.read w.context.serviceBufferSize).2.nextConnect ≠ .connected) :
    ∃ w', lwsClientSocketService parser revents w = .next 0 w' ∧
      w'.wsi.mode = .wsClientWaitingProxyReply ∧ w'.wsi.ssl = true ∧
      closeCount w'.log = closeCount w.log ∧
      ∀ (revents' : Revents) (reply : List Char),
        (revents'.pollerr || revents'.pollhup) = false →
        (w'.io.read w'.context.serviceBufferSize).1 = .bytes reply → 13 ≤ reply.length →
        reply.take 13 ≠ proxyOk →
        ∃ w'', lwsClientSocketService parser revents' w' = .next 0 w'' ∧
          closeCount w''.log = closeCount w.log + 1 := by
  obtain ⟨w', run, conn, -, quiet⟩ :=
    lwsClientSocketService_of_proxy_stall waiting alive tls replied accepted stalled
  have stillWaiting : w'.wsi.mode = .wsClientWaitingProxyReply := by simp [conn, waiting]
  refine ⟨w', run, stillWaiting, by simp [conn], quiet,
    fun revents' reply alive' replied' long notProxy => ?_⟩
  obtain ⟨w'', run', closed⟩ :=
    @lwsClientSocketService_of_proxy_refused parser revents' w' reply stillWaiting alive' replied'
      long notProxy
  exact ⟨w'', run', by rw [closed, quiet]⟩

theorem proxiedTls_wantRead_rereads :
    ∃ w', lwsClientSocketService patientParser readable
        (tlsProxyWaiting ("HTTP/1.0 200 \r\n\r\n".toList.map .byte) [.error .wantRead]) =
        .next 0 w' ∧
      w'.wsi.mode = .wsClientWaitingProxyReply ∧ w'.wsi.ssl = true ∧
      closeCount w'.log = 0 ∧
      ∀ (revents' : Revents) (reply : List Char),
        (revents'.pollerr || revents'.pollhup) = false →
        (w'.io.read w'.context.serviceBufferSize).1 = .bytes reply → 13 ≤ reply.length →
        reply.take 13 ≠ proxyOk →
        ∃ w'', lwsClientSocketService patientParser revents' w' = .next 0 w'' ∧
          closeCount w''.log = 0 + 1 :=
  proxyTls_retry_rereads_proxyReply rfl rfl (by decide) rfl (by decide) (by decide)

/-- A connection left open with no deadline.  Line 87 clears the proxy's
timeout before the TLS connect, although the comment at lines 93-96 says the
code below runs under the handshake timeout and lines 171-175 wait for it;
a connect that must be retried returns with the connection open in
`WAITING_PROXY_REPLY` and no pending timeout. -/
theorem proxyTls_retry_unarmed {parser : Parser} {revents : Revents} {w : World}
    {data : List Char} (waiting : w.wsi.mode = .wsClientWaitingProxyReply)
    (alive : (revents.pollerr || revents.pollhup) = false) (tls : w.wsi.useSsl ≠ .off)
    (replied : (w.io.read w.context.serviceBufferSize).1 = .bytes data)
    (accepted : proxyWindow w.context.serviceBuffer data = proxyOk)
    (stalled : (w.io.read w.context.serviceBufferSize).2.nextConnect ≠ .connected) :
    ∃ w', lwsClientSocketService parser revents w = .next 0 w' ∧
      w'.wsi.mode = .wsClientWaitingProxyReply ∧ w'.wsi.pendingTimeout = .noPendingTimeout ∧
      closeCount w'.log = closeCount w.log := by
  obtain ⟨w', run, conn, -, quiet⟩ :=
    lwsClientSocketService_of_proxy_stall waiting alive tls replied accepted stalled
  exact ⟨w', run, by simp [conn, waiting], by simp [conn], quiet⟩

theorem proxiedTls_failedConnect_unarmed :
    ∃ w', lwsClientSocketService patientParser readable
        (tlsProxyWaiting ("HTTP/1.0 200 \r\n\r\n".toList.map .byte) [.failed]) = .next 0 w' ∧
      w'.wsi.mode = .wsClientWaitingProxyReply ∧ w'.wsi.pendingTimeout = .noPendingTimeout ∧
      closeCount w'.log = 0 :=
  proxyTls_retry_unarmed rfl rfl (by decide) rfl (by decide) (by decide)

/-- The proxy's reply judged by stale bytes.  Lines 77-78 compare the first 13
bytes of the shared service buffer whatever `recv` returned, so a read of
fewer than 13 bytes, none at the end of the stream included, is accepted when
the bytes an earlier use of the buffer left there complete `HTTP/1.0 200 `,
and the same read is refused when the buffer held none. -/
theorem shortProxyReply_judged_by_stale_bytes {revents : Revents} {w : World} {data : List Char}
    (alive : (revents.pollerr || revents.pollhup) = false)
    (replied : (w.io.read w.context.serviceBufferSize).1 = .bytes data) (short : data.length < 13)
    (completed : data ++ (List.range' data.length (13 - data.length)).map w.context.serviceBuffer =
      proxyOk) :
    (∃ w', waitingProxyReply revents w = .next () w' ∧
      w'.wsi.pendingTimeout = .noPendingTimeout) ∧
    ∃ w', waitingProxyReply revents
        { w with context := { w.context with serviceBuffer := fun _ => '\x00' } } =
        .exit (.ret 0) w' ∧
      closeCount w'.log = closeCount w.log + 1 := by
  have accepted := waitingProxyReply_of_bytes alive replied
  simp only [proxyWindow_of_short (Nat.le_of_lt short), completed, if_true] at accepted
  have refused := waitingProxyReply_of_bytes
    (w := { w with context := { w.context with serviceBuffer := fun _ => '\x00' } }) alive replied
  have hasNul : '\x00' ∈ proxyWindow (fun _ => '\x00') data := by
    rw [proxyWindow_of_short (Nat.le_of_lt short)]
    exact List.mem_append_right _ (List.mem_map.mpr ⟨data.length, by simp; omega, rfl⟩)
  have differs : proxyWindow (fun _ => '\x00') data ≠ proxyOk := fun same =>
    absurd (same ▸ hasNul) (by decide)
  simp only [if_neg differs] at refused
  exact ⟨⟨_, accepted, rfl⟩, _, refused, by simp [closeCount, Event.isClose]⟩

/-- The service buffer as a proxy's earlier `HTTP/1.0 200` reply left it. -/
def staleProxyBuffer : Nat → Char := fun j => proxyOk.getD j '\x00'

theorem endOfStream_accepted_by_stale_buffer :
    (∃ w', waitingProxyReply readable
        { proxyWaiting [.eof] with
          context := { (proxyWaiting [.eof]).context with serviceBuffer := staleProxyBuffer } } =
        .next () w' ∧ w'.wsi.pendingTimeout = .noPendingTimeout) ∧
    ∃ w', waitingProxyReply readable
        { proxyWaiting [.eof] with
          context := { (proxyWaiting [.eof]).context with serviceBuffer := fun _ => '\x00' } } =
        .exit (.ret 0) w' ∧ closeCount w'.log = closeCount (proxyWaiting [.eof]).log + 1 :=
  shortProxyReply_judged_by_stale_bytes (w := { proxyWaiting [.eof] with
    context := { (proxyWaiting [.eof]).context with serviceBuffer := staleProxyBuffer } })
    rfl rfl (by decide) (by decide)

end LwsClient
