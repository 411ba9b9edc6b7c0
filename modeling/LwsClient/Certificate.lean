import LwsClient.Failure
import LwsClient.Progress
import LwsClient.Transport

/-!
# No request to a server whose certificate is refused

Over TLS, every call of the request's block (lines 54-236) first runs
`SSL_connect` (lines 143-182), returning to be called again until it
completes, and then checks the server's certificate (lines 184-193): unless
it verified (`X509_V_OK`), or is a self-signed certificate at depth zero on a
connection that allows one (`use_ssl == 2`), the session is closed.  Only
after that is the request generated and sent.

So a TLS connection whose certificate is refused never sends its request.
Every call either waits for `SSL_connect` again or closes the session, and
leaves the mode, the TLS setting and the verification result as they were
(`lwsClientSocketService_refuses`); over any run of the event loop nothing is
written to the server (`serviceRun_refuses_certificate`).  The proxy's reply
does not change this: accepted, it falls through to the same connect.
-/

namespace LwsClient

open Exec

/-- Lines 187-189: the verification results the client refuses. -/
def CertificateRefused (w : World) : Prop :=
  w.io.verifyResult ≠ .ok ∧
    (w.io.verifyResult ≠ .depthZeroSelfSignedCert ∨ w.wsi.useSsl ≠ .allowSelfSigned)

instance (w : World) : Decidable (CertificateRefused w) := inferInstanceAs (Decidable (_ ∧ _))

/-- A TLS connection in the request's block whose server certificate is refused. -/
structure RefusesCertificate (w : World) : Prop where
  tls : w.wsi.useSsl ≠ .off
  requests : w.wsi.mode.Requests
  refused : CertificateRefused w

/-- The refusal carries over to a world with the same TLS setting, mode and
verification result. -/
theorem RefusesCertificate.of_frame {w w' : World} (refusing : RefusesCertificate w)
    (tls : w'.wsi.useSsl = w.wsi.useSsl) (mode : w'.wsi.mode = w.wsi.mode)
    (verified : w'.io.verifyResult = w.io.verifyResult) : RefusesCertificate w' where
  tls := tls ▸ refusing.tls
  requests := mode ▸ refusing.requests
  refused := by
    unfold CertificateRefused
    rw [tls, verified]
    exact refusing.refused

/-- A read consumes arrivals only. -/
theorem Io.read_verifyResult (len : Nat) (io : Io) :
    (io.read len).2.verifyResult = io.verifyResult := by
  unfold Io.read
  split
  · rfl
  · split <;> rfl

/-- Lines 98-193 over TLS with the certificate refused: the call returns 0,
keeping the SSL object, whether `SSL_connect` is to be retried or has
completed and the session was closed; nothing is written. -/
theorem connectTls_of_refused {w : World} (tls : w.wsi.useSsl ≠ .off)
    (refused : CertificateRefused w) :
    ∃ events, writeCount events = 0 ∧ connectTls w = .exit (.ret 0)
      { w with wsi := { w.wsi with ssl := true },
               io := { w.io with connects := w.io.connects.tail }, log := w.log ++ events } := by
  suffices left : ∃ events, connectTls w = .exit (.ret 0)
      { w with wsi := { w.wsi with ssl := true },
               io := { w.io with connects := w.io.connects.tail }, log := w.log ++ events } by
    obtain ⟨events, run⟩ := left
    have frame := (keeps_connectTls : Keeps (Follows []) connectTls).of_exit run
    exact ⟨events, by simpa using frame.writes, run⟩
  by_cases connected : w.io.nextConnect = .connected
  · have unchanged : ∀ wsi : Conn, wsi.ssl = true → { wsi with ssl := true } = wsi := by
      rintro ⟨⟩ rfl
      rfl
    obtain ⟨notOk, notSelfSigned⟩ := refused
    simp only [connectTls, Exec.bind_apply, emit_apply, protocolCallback_apply, getWsi_apply, tls,
      ne_eq, not_false_eq_true, Bool.true_and, Exec.ite_apply, if_true]
    cases ssl : w.wsi.ssl <;> simp [ssl, connected, unchanged, notOk, notSelfSigned]
  · obtain ⟨events, -, run⟩ := connectTls_of_stalled tls connected
    exact ⟨events, run⟩

/-- Lines 91-193 on a connection that refuses its server's certificate leave
by `return 0` before the request is generated: nothing is written, and the
connection still refuses the certificate. -/
theorem issueHandshake_refuses {w : World} (refusing : RefusesCertificate w) :
    ∃ w', issueHandshake w = .exit (.ret 0) w' ∧ RefusesCertificate w' ∧
      writeCount w'.log = writeCount w.log := by
  obtain ⟨events, quiet, run⟩ := connectTls_of_refused refusing.tls refusing.refused
  exact ⟨_, Exec.bind_of_exit run, refusing.of_frame rfl rfl rfl, by simp [quiet]⟩

/-- Lines 54-89 return 0 or fall through, leaving the TLS setting, the
verification result and the mode alone, and write nothing. -/
theorem waitingProxyReply_refuses (revents : Revents) {w : World}
    (refusing : RefusesCertificate w) :
    ∃ w₁, (waitingProxyReply revents w = .exit (.ret 0) w₁ ∨
        waitingProxyReply revents w = .next () w₁) ∧
      RefusesCertificate w₁ ∧ writeCount w₁.log = writeCount w.log := by
  by_cases dead : (revents.pollerr || revents.pollhup) = true
  · exact ⟨_, .inl (waitingProxyReply_of_hangup dead), refusing.of_frame rfl rfl rfl,
      by simp [writeCount, Event.isWrite]⟩
  have alive := eq_false_of_ne_true dead
  have verified := Io.read_verifyResult w.context.serviceBufferSize w.io
  cases result : (w.io.read w.context.serviceBufferSize).1 with
  | error e =>
      exact ⟨_, .inl (waitingProxyReply_of_error alive result),
        refusing.of_frame rfl rfl verified, by simp [writeCount, Event.isWrite]⟩
  | bytes data =>
      rw [waitingProxyReply_of_bytes alive result]
      split_ifs
      · exact ⟨_, .inr rfl, refusing.of_frame rfl rfl verified,
          by simp [writeCount, Event.isWrite]⟩
      · exact ⟨_, .inl rfl, refusing.of_frame rfl rfl verified,
          by simp [writeCount, Event.isWrite]⟩

/-- One call on a connection that refuses its server's certificate: nothing
is written, and the connection still refuses it, in the request's block. -/
theorem lwsClientSocketService_refuses (parser : Parser) (revents : Revents) {w : World}
    (refusing : RefusesCertificate w) :
    RefusesCertificate (lwsClientSocketService parser revents w).state ∧
      writeCount (lwsClientSocketService parser revents w).state.log = writeCount w.log := by
  rw [lwsClientSocketService_apply]
  rcases refusing.requests with proxy | issuing
  · obtain ⟨w₁, left | passed, refusing₁, writes₁⟩ := waitingProxyReply_refuses revents refusing
    · have run : dispatch parser revents w.wsi.mode w = .exit (.ret 0) w₁ := by
        rw [proxy]
        exact Exec.bind_of_exit left
      rw [withLabels_of_ret run]
      exact ⟨refusing₁, writes₁⟩
    · obtain ⟨w₂, issued, refusing₂, writes₂⟩ := issueHandshake_refuses refusing₁
      have run : dispatch parser revents w.wsi.mode w = .exit (.ret 0) w₂ := by
        rw [proxy]
        exact (Exec.bind_of_next passed).trans issued
      rw [withLabels_of_ret run]
      exact ⟨refusing₂, writes₂.trans writes₁⟩
  · obtain ⟨w₂, issued, refusing₂, writes₂⟩ := issueHandshake_refuses refusing
    have run : dispatch parser revents w.wsi.mode w = .exit (.ret 0) w₂ := by
      rw [issuing]
      exact issued
    rw [withLabels_of_ret run]
    exact ⟨refusing₂, writes₂⟩

/-- A TLS connection never sends its request to a server whose certificate
it refuses.  Over any run of the event loop from a connection waiting for its
proxy's reply or about to issue its handshake over TLS, whose verification
result is neither `X509_V_OK` nor, on a connection that allows one, a
self-signed certificate at depth zero, nothing is written to the server, and
the connection stays in the request's block with that refusal. -/
theorem serviceRun_refuses_certificate (parser : Parser) (events : List Revents) {w : World}
    (refusing : RefusesCertificate w) :
    RefusesCertificate (serviceRun parser events w) ∧
      writeCount (serviceRun parser events w).log = writeCount w.log :=
  serviceRun_keeps
    (R := fun w w' => RefusesCertificate w → RefusesCertificate w' ∧
      writeCount w'.log = writeCount w.log)
    (fun _ refusing => ⟨refusing, rfl⟩)
    (fun _ _ _ first second refusing =>
      (second (first refusing).1).imp_right fun writes => writes.trans (first refusing).2)
    (fun revents _ _ refusing => lwsClientSocketService_refuses parser revents refusing)
    events w refusing

/-- `aboutToRequest` over TLS, its first `SSL_connect` to be retried, with a
server certificate that fails verification. -/
def untrustedServer : World :=
  { aboutToRequest with
    wsi := { aboutToRequest.wsi with useSsl := .on }
    io := { aboutToRequest.io with connects := [.error .wantRead, .connected],
                                   verifyResult := .other } }

theorem untrustedServer_refused :
    RefusesCertificate untrustedServer ∧
      RefusesCertificate (serviceRun patientParser [readable, readable, readable] untrustedServer) ∧
      writeCount (serviceRun patientParser [readable, readable, readable] untrustedServer).log =
        writeCount untrustedServer.log :=
  have refusing : RefusesCertificate untrustedServer := ⟨by decide, .inr rfl, by decide⟩
  ⟨refusing, serviceRun_refuses_certificate _ _ refusing⟩

end LwsClient
