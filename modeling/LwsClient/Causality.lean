import LwsClient.Notification
import LwsClient.Transport

/-!
# The user is told only after the request has gone out

The user's protocol learns how the handshake ended from `CLIENT_ESTABLISHED`
or `CLIENT_CONNECTION_ERROR`, both delivered by
`lws_client_interpret_server_handshake`, which runs only in
`WAITING_SERVER_REPLY`.  A connection enters that mode at line 232 alone,
after `send` or `SSL_write` did not fail (lines 216-228).

`RequestStep` is what a call of the request's block (lines 54-236) does: it
tells the user nothing, and it changes the mode only by a write that did not
fail.  The reply's calls start from a connection that has written, and the
other modes do nothing.  So over any run from a connection that has not sent
its request, the user is told nothing before the first successful write
(`serviceRun_tells_after_sending`).
-/

namespace LwsClient

open Exec

/-- Whether the event is a `send` or `SSL_write` that did not fail. -/
def Event.isSent : Event → Bool
  | .write _ (.wrote _) => true
  | _ => false

/-- No verdict comes before the first successful write. -/
def ToldAfterSending (events : List Event) : Prop :=
  verdictCount (events.takeWhile fun e => !e.isSent) = 0

theorem ToldAfterSending.append_quiet {events later : List Event}
    (told : ToldAfterSending events) (quiet : verdictCount later = 0) :
    ToldAfterSending (events ++ later) := by
  unfold ToldAfterSending at told ⊢
  rw [List.takeWhile_append]
  split
  · rename_i whole
    rw [verdictCount_append, ← (List.takeWhile_prefix _).eq_of_length whole, told, Nat.zero_add]
    exact Nat.eq_zero_of_le_zero (quiet ▸ (List.takeWhile_sublist _).countP_le _)
  · exact told

theorem ToldAfterSending.append_of_sent {events later : List Event}
    (told : ToldAfterSending events) (sent : ∃ e ∈ events, e.isSent = true) :
    ToldAfterSending (events ++ later) := by
  unfold ToldAfterSending at told ⊢
  rw [List.takeWhile_append, if_neg]
  · exact told
  · obtain ⟨e, mem, isSent⟩ := sent
    intro whole
    have taken : e ∈ events.takeWhile fun e => !e.isSent :=
      (List.IsPrefix.eq_of_length (List.takeWhile_prefix _) whole).symm ▸ mem
    simpa [isSent] using List.mem_takeWhile_imp taken

/-! ## The request's block -/

/-- `w'` follows `w` by a call of the request's block: nothing told, and the
mode changed only by a write that did not fail. -/
structure RequestStep (w w' : World) : Prop where
  told : Appends (fun e => e.isVerdict = false) w w'
  moved : w'.wsi.mode = w.wsi.mode ∨
    ∃ events, w'.log = w.log ++ events ∧ ∃ e ∈ events, e.isSent = true

namespace RequestStep

variable {w w' w₁ w₂ w₃ : World}

theorem of_frame (frame : Follows [] w w') (quiet : Appends (fun e => e.isVerdict = false) w w') :
    RequestStep w w' :=
  ⟨quiet, .inl (frame.mode.resolve_right (List.not_mem_nil _))⟩

theorem trans (first : RequestStep w₁ w₂) (second : RequestStep w₂ w₃) : RequestStep w₁ w₃ where
  told := first.told.trans second.told
  moved := by
    obtain ⟨events₁, log₁, -⟩ := first.told
    obtain ⟨events₂, log₂, -⟩ := second.told
    rcases first.moved with same₁ | ⟨sent₁, log₁', e, mem, isSent⟩
    · rcases second.moved with same₂ | ⟨sent₂, log₂', e, mem, isSent⟩
      · exact .inl (same₂.trans same₁)
      · exact .inr ⟨events₁ ++ sent₂, by rw [log₂', log₁, List.append_assoc], e,
          List.mem_append_right _ mem, isSent⟩
    · exact .inr ⟨sent₁ ++ events₂, by rw [log₂, log₁', List.append_assoc], e,
        List.mem_append_left _ mem, isSent⟩

instance : IsRefl World RequestStep := ⟨fun _ => ⟨refl_of _ _, .inl rfl⟩⟩

instance : IsTrans World RequestStep := ⟨fun _ _ _ => trans⟩

end RequestStep

theorem keeps_requestStep {α : Type} {x : Code α} (frame : Keeps (Follows []) x)
    (quiet : Keeps (Appends fun e => e.isVerdict = false) x) : Keeps RequestStep x :=
  fun w => .of_frame (frame w) (quiet w)

/-- Lines 212-236: the mode moves to `WAITING_SERVER_REPLY` after a write
that did not fail, and not otherwise. -/
theorem sendRequest_requestStep (request : List Char) : Keeps RequestStep (sendRequest request) :=
  fun w => by
    cases written : w.io.nextWrite request.length with
    | wrote n =>
        rw [sendRequest_of_wrote written]
        exact ⟨⟨_, rfl, by simp [Event.isVerdict]⟩,
          .inr ⟨_, rfl, _, List.mem_singleton_self _, rfl⟩⟩
    | error e =>
        rw [sendRequest_of_error written]
        exact ⟨⟨_, rfl, by simp [Event.isVerdict]⟩, .inl rfl⟩

/-- Routine events tell nothing. -/
theorem untold_routine : ∀ e : Event, e.Routine → e.isFree = false → e.isVerdict = false :=
  fun _ routine _ => routine.not_verdict

/-- Lines 91-236. -/
theorem issueHandshake_requestStep : Keeps RequestStep issueHandshake :=
  (keeps_requestStep keeps_connectTls (connectTls_appends untold_routine fun _ _ _ => rfl)).bind
    fun _ => (keeps_requestStep keeps_libwebsocketsGenerateClientHandshake
      (libwebsocketsGenerateClientHandshake_appends untold_routine (fun _ _ _ => rfl)
        (fun _ _ => rfl) rfl)).bind fun
      | none => keeps_requestStep
          ((keeps_libwebsocketCloseAndFreeSession _).bind fun _ => keeps_ret 0)
          ((@appends_libwebsocketCloseAndFreeSession (fun e => e.isVerdict = false) _
            fun _ _ => rfl).bind fun _ => appends_ret 0)
      | some request => sendRequest_requestStep request

/-- One call from the request's block. -/
theorem lwsClientSocketService_requestStep (parser : Parser) (revents : Revents) {w : World}
    (requests : w.wsi.mode.Requests) :
    RequestStep w (lwsClientSocketService parser revents w).state := by
  rw [lwsClientSocketService_apply]
  refine keeps_withLabels (R := RequestStep) (S := RequestStep) ?_
    (fun _ => keeps_requestStep keeps_serviceBail3 (serviceBail3_appends rfl fun _ _ _ => rfl))
    (fun _ _ _ => RequestStep.trans) w
  rcases requests with proxy | issuing
  · rw [proxy]
    exact (keeps_requestStep (keeps_waitingProxyReply _)
      (waitingProxyReply_appends untold_routine (fun _ _ _ => rfl) _)).bind
        fun _ => issueHandshake_requestStep
  · rw [issuing]
    exact issueHandshake_requestStep

/-- Modes outside the handshake: a call does nothing. -/
theorem lwsClientSocketService_of_idle {parser : Parser} {revents : Revents} {w : World}
    (quiet : ¬w.wsi.mode.Requests) (unsent : w.wsi.mode ≠ .wsClientWaitingServerReply)
    (unanswered : w.wsi.mode ≠ .wsClient) :
    lwsClientSocketService parser revents w = .next 0 w := by
  rw [lwsClientSocketService_apply]
  cases mode : w.wsi.mode <;> simp_all [ConnMode.Requests] <;> rfl

/-! ## Every run -/

/-- Since `w₀` nothing was told before the first successful write, and a
connection waiting for the reply, or established, has written. -/
def TellsAfterSending (w₀ w : World) : Prop :=
  ∃ events, w.log = w₀.log ++ events ∧ ToldAfterSending events ∧
    (w.wsi.mode = .wsClientWaitingServerReply ∨ w.wsi.mode = .wsClient →
      ∃ e ∈ events, e.isSent = true)

theorem tellsAfterSending_call (parser : Parser) (revents : Revents) {w₀ w : World}
    (live : w.closed = false) (told : TellsAfterSending w₀ w) :
    TellsAfterSending w₀ (lwsClientSocketService parser revents w).state := by
  obtain ⟨events, log, toldAfter, written⟩ := told
  by_cases requests : w.wsi.mode.Requests
  · have step := lwsClientSocketService_requestStep parser revents requests
    obtain ⟨later, log', quiet⟩ := step.told
    have untold : verdictCount later = 0 := List.countP_eq_zero.mpr fun e mem => by
      simp [quiet e mem]
    refine ⟨events ++ later, by rw [log', log, List.append_assoc], toldAfter.append_quiet untold,
      fun waiting => ?_⟩
    rcases step.moved with same | ⟨sent, log'', e, mem, isSent⟩
    · rw [same] at waiting
      rcases requests with mode | mode <;> rw [mode] at waiting <;> simp at waiting
    · rw [log'] at log''
      cases List.append_cancel_left log''
      exact ⟨e, List.mem_append_right _ mem, isSent⟩
  · by_cases sent : ∃ e ∈ events, e.isSent = true
    · obtain ⟨later, log'⟩ := (lwsClientSocketService_step parser revents live).log
      obtain ⟨e, mem, isSent⟩ := sent
      exact ⟨events ++ later, by rw [← log', log, List.append_assoc],
        toldAfter.append_of_sent ⟨e, mem, isSent⟩,
        fun _ => ⟨e, List.mem_append_left _ mem, isSent⟩⟩
    · have unsent : w.wsi.mode ≠ .wsClientWaitingServerReply := fun waiting =>
        sent (written (.inl waiting))
      have unanswered : w.wsi.mode ≠ .wsClient := fun answered => sent (written (.inr answered))
      rw [lwsClientSocketService_of_idle requests unsent unanswered]
      exact ⟨events, log, toldAfter, written⟩

/-- The user is told only after the request has gone out.  Over any run of
the event loop from a connection that is neither waiting for the server's
reply nor established, the client delivers neither `CLIENT_ESTABLISHED` nor
`CLIENT_CONNECTION_ERROR` before a `send` or `SSL_write` of its request that
did not fail: only that write moves the connection to `WAITING_SERVER_REPLY`,
the one mode that interprets a reply. -/
theorem serviceRun_tells_after_sending (parser : Parser) (events : List Revents) (w : World)
    (unsent : w.wsi.mode ≠ .wsClientWaitingServerReply ∧ w.wsi.mode ≠ .wsClient) :
    ∃ appended, (serviceRun parser events w).log = w.log ++ appended ∧
      ToldAfterSending appended := by
  have start : TellsAfterSending w w := ⟨[], (List.append_nil _).symm, rfl, fun waiting =>
    waiting.elim (absurd · unsent.1) (absurd · unsent.2)⟩
  obtain ⟨appended, log, told, -⟩ := serviceRun_keeps
    (R := fun w w' => ∀ w₀, TellsAfterSending w₀ w → TellsAfterSending w₀ w')
    (fun _ _ => id) (fun _ _ _ first second w₀ => second w₀ ∘ first w₀)
    (fun revents _ live _ => tellsAfterSending_call parser revents live) events w w start
  exact ⟨appended, log, told⟩

theorem aboutToRequest_tells_after_sending :
    ∃ appended, (serviceRun patientParser [readable, readable] aboutToRequest).log =
      aboutToRequest.log ++ appended ∧ ToldAfterSending appended :=
  serviceRun_tells_after_sending _ _ _ ⟨by decide, by decide⟩

end LwsClient
