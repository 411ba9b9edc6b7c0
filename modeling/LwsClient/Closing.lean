import LwsClient.Release

/-!
# Nothing after the close but a second close

`libwebsocket_close_and_free_session` frees the connection, so nothing may
touch it afterwards.  Every place of `client.c` that closes the session
returns straight after it (lines 63-65, 71-74, 79-82, 195-197, 225-227,
318-320, 686-689), with one exception: the generator whose random device
failed closes the session and returns NULL (lines 724-726), and its caller
closes it again (lines 207-209).

`Exec.Ensures` separates a block's normal end from its early exits.  Most
blocks close only as they return (`ClosesOnReturn`): falling through, or
jumping to `bail3`, they have closed nothing; returning, they have appended
events that close nothing and then at most the closes allowed.  The blocks
that end a call, the request's block and the reply's, may also fall through
after closing (`ClosesAtEnd`), and `bail3` closes the session last.  So one
call of `lws_client_socket_service` appends events that close nothing and
then at most two closes (`lwsClientSocketService_closesLast`); the event loop
stops at a closed session, so the same holds of every run
(`serviceRun_closes_last`).
-/

namespace LwsClient

open Exec

/-- `w'` follows `w` by events that close nothing. -/
abbrev ClosesNothing : World → World → Prop := Appends fun e => e.isClose = false

/-- `w'` follows `w` by events that close nothing, then by at most `n` closes. -/
def ClosesLast (n : Nat) (w w' : World) : Prop :=
  ∃ pre post, w'.log = w.log ++ pre ++ post ∧ closeCount pre = 0 ∧ post.length ≤ n ∧
    ∀ e ∈ post, e.isClose = true

theorem closeCount_eq_zero {events : List Event} (unclosed : ∀ e ∈ events, e.isClose = false) :
    closeCount events = 0 :=
  List.countP_eq_zero.mpr fun e mem => by simp [unclosed e mem]

/-- Routine events close nothing. -/
theorem closesNothing_routine : ∀ e : Event, e.Routine → e.isFree = false → e.isClose = false :=
  fun _ routine _ => routine.1

namespace ClosesLast

variable {n m : Nat} {w w' w₁ w₂ w₃ : World}

theorem of_closesNothing (quiet : ClosesNothing w w') : ClosesLast n w w' := by
  obtain ⟨events, log, unclosed⟩ := quiet
  refine ⟨events, [], ?_, ?_, Nat.zero_le _, fun _ => nofun⟩
  · rw [log, List.append_nil]
  · exact closeCount_eq_zero unclosed

theorem refl (w : World) : ClosesLast n w w := of_closesNothing (refl_of _ w)

theorem mono (le : n ≤ m) (last : ClosesLast n w w') : ClosesLast m w w' := by
  obtain ⟨pre, post, log, unclosed, short, closes⟩ := last
  exact ⟨pre, post, log, unclosed, short.trans le, closes⟩

theorem after (first : ClosesNothing w₁ w₂) (second : ClosesLast n w₂ w₃) :
    ClosesLast n w₁ w₃ := by
  obtain ⟨events, log₁, unclosed₁⟩ := first
  obtain ⟨pre, post, log₂, unclosed₂, short, closes⟩ := second
  refine ⟨events ++ pre, post, by rw [log₂, log₁, List.append_assoc w₁.log], ?_, short, closes⟩
  rw [closeCount_append, unclosed₂, closeCount_eq_zero unclosed₁]

/-- Events that close nothing, then `post`. -/
theorem of_log (pre post : List Event) (log : w'.log = w.log ++ pre ++ post)
    (unclosed : closeCount pre = 0) (closes : ∀ e ∈ post, e.isClose = true) :
    ClosesLast post.length w w' :=
  ⟨pre, post, log, unclosed, le_rfl, closes⟩

/-- A world whose session is still open was reached by closing nothing. -/
theorem closesNothing_of_open (last : ClosesLast n w w') (live : w'.closed = false) :
    ClosesNothing w w' := by
  obtain ⟨pre, post, log, unclosed, -, closes⟩ := last
  cases post with
  | nil =>
      refine ⟨pre, by rw [log, List.append_nil], fun e mem => ?_⟩
      exact Bool.eq_false_iff.mpr fun closing => by
        simp only [closeCount, List.countP_eq_zero] at unclosed
        exact unclosed e mem closing
  | cons e rest =>
      have closed : w'.closed = true :=
        List.any_eq_true.mpr ⟨e, by simp [log], closes e (List.mem_cons_self _ _)⟩
      rw [closed] at live
      cases live

end ClosesLast

/-- How a block may leave: by `goto` having closed nothing, otherwise with
its closes, at most `n`, at the very end. -/
def ClosedOnReturn (n : Nat) : Exit → World → World → Prop
  | .goto _ => ClosesNothing
  | _ => ClosesLast n

namespace ClosedOnReturn

variable {n : Nat} {e : Exit} {w w₁ w₂ w₃ : World}

theorem of_closesNothing (quiet : ClosesNothing w₁ w₂) : ClosedOnReturn n e w₁ w₂ := by
  cases e
  exacts [ClosesLast.of_closesNothing quiet, quiet, ClosesLast.of_closesNothing quiet]

theorem refl (e : Exit) (w : World) : ClosedOnReturn n e w w := of_closesNothing (refl_of _ w)

theorem after (first : ClosesNothing w₁ w₂) (second : ClosedOnReturn n e w₂ w₃) :
    ClosedOnReturn n e w₁ w₃ := by
  cases e
  exacts [ClosesLast.after first second, first.trans second, ClosesLast.after first second]

theorem mono {m : Nat} (le : n ≤ m) (left : ClosedOnReturn n e w₁ w₂) :
    ClosedOnReturn m e w₁ w₂ := by
  cases e
  exacts [ClosesLast.mono le left, left, ClosesLast.mono le left]

end ClosedOnReturn

/-- A block that closes the session only as it returns. -/
abbrev ClosesOnReturn {α : Type} (n : Nat) (x : Code α) : Prop :=
  Ensures ClosesNothing (ClosedOnReturn n) x

/-- A block that closes the session only as it ends, however it ends. -/
abbrev ClosesAtEnd {α : Type} (n : Nat) (x : Code α) : Prop :=
  Ensures (ClosesLast n) (ClosedOnReturn n) x

section Blocks

variable {n : Nat} {α β : Type}

theorem closesOnReturn_of_keeps {x : Code α} (kept : Keeps ClosesNothing x) :
    ClosesOnReturn n x :=
  .of_keeps kept fun _ _ _ => ClosedOnReturn.of_closesNothing

theorem closesOnReturn_bind {x : Code α} {f : α → Code β} (first : ClosesOnReturn n x)
    (rest : ∀ a, ClosesOnReturn n (f a)) : ClosesOnReturn n (x >>= f) :=
  first.bind (fun _ _ _ _ => ClosedOnReturn.after) rest

theorem closesOnReturn_after {x : Code α} {f : α → Code β} (first : Keeps ClosesNothing x)
    (rest : ∀ a, ClosesOnReturn n (f a)) : ClosesOnReturn n (x >>= f) :=
  closesOnReturn_bind (closesOnReturn_of_keeps first) rest

theorem closesOnReturn_mono {m : Nat} (le : n ≤ m) {x : Code α} (ensured : ClosesOnReturn n x) :
    ClosesOnReturn m x :=
  ⟨ensured.next, fun run => (ensured.exit run).mono le⟩

theorem closesOnReturn_leave_bind (e : Exit) (f : α → Code β) :
    ClosesOnReturn n (leave e >>= f) :=
  ensures_leave_bind e f (ClosedOnReturn.refl e)

/-- Closing the session and returning straight after. -/
theorem closesOnReturn_close (status : CloseStatus) {f : Unit → Code α}
    (returns : ∀ w, ∃ v, f () w = .exit (.ret v) w) :
    ClosesOnReturn 1 (libwebsocketCloseAndFreeSession status >>= f) where
  next {w _ _} run := by
    obtain ⟨v, left⟩ := returns { w with log := w.log ++ [.close status w.wsi.mode w.wsi.state] }
    rw [Exec.bind_of_next (libwebsocketCloseAndFreeSession_apply _ _), left] at run
    cases run
  exit {w _ _} run := by
    obtain ⟨v, left⟩ := returns { w with log := w.log ++ [.close status w.wsi.mode w.wsi.state] }
    rw [Exec.bind_of_next (libwebsocketCloseAndFreeSession_apply _ _), left] at run
    cases run
    exact ClosesLast.of_log [] [.close status w.wsi.mode w.wsi.state] (by simp) rfl
      (by simp [Event.isClose])

theorem ClosesOnReturn.closesAtEnd {x : Code α} (ensured : ClosesOnReturn n x) :
    ClosesAtEnd n x :=
  ⟨fun run => .of_closesNothing (ensured.next run), ensured.exit⟩

theorem closesAtEnd_bind {x : Code α} {f : α → Code β} (first : ClosesOnReturn n x)
    (rest : ∀ a, ClosesAtEnd n (f a)) : ClosesAtEnd n (x >>= f) :=
  first.bind_of rest (fun _ _ _ => ClosesLast.after) fun _ _ _ _ => ClosedOnReturn.after

theorem closesAtEnd_after {x : Code α} {f : α → Code β} (first : Keeps ClosesNothing x)
    (rest : ∀ a, ClosesAtEnd n (f a)) : ClosesAtEnd n (x >>= f) :=
  closesAtEnd_bind (closesOnReturn_of_keeps first) rest

theorem closesAtEnd_leave_bind (e : Exit) (f : α → Code β) : ClosesAtEnd n (leave e >>= f) :=
  ensures_leave_bind e f (ClosedOnReturn.refl e)

theorem closesAtEnd_mono {m : Nat} (le : n ≤ m) {x : Code α} (ensured : ClosesAtEnd n x) :
    ClosesAtEnd m x :=
  ⟨fun run => (ensured.next run).mono le, fun run => (ensured.exit run).mono le⟩

/-- A block that always returns, with its closes at the end. -/
theorem closesAtEnd_of_returns {x : Code α}
    (returns : ∀ w, ∃ v w', x w = .exit (.ret v) w' ∧ ClosesLast n w w') : ClosesAtEnd n x where
  next {w _ _} run := by
    obtain ⟨v, w', left, -⟩ := returns w
    rw [left] at run
    cases run
  exit {w _ _} run := by
    obtain ⟨v, w', left, last⟩ := returns w
    rw [left] at run
    cases run
    exact last

/-- A block that never leaves by `goto`, with its closes at the end. -/
theorem closesAtEnd_of_keeps {x : Code α} (kept : Keeps (ClosesLast n) x)
    (noGoto : ∀ w l w', x w ≠ .exit (.goto l) w') : ClosesAtEnd n x where
  next run := kept.of_next run
  exit {w e _} run := by
    cases e with
    | goto l => exact absurd run (noGoto _ _ _)
    | ret v => exact kept.of_exit run
    | undefined u => exact kept.of_exit run

end Blocks

/-! ## The request's block -/

/-- Lines 54-87 close the session only as they return. -/
theorem waitingProxyReply_closesOnReturn (revents : Revents) :
    ClosesOnReturn 1 (waitingProxyReply revents) := by
  have close := fun status => closesOnReturn_close status (f := fun _ => (ret 0 : Code Unit))
    fun _ => ⟨0, rfl⟩
  unfold waitingProxyReply
  dsimp only
  refine .ite (closesOnReturn_close _ fun _ => ⟨0, rfl⟩)
    (closesOnReturn_after (keeps_pure _) fun _ => closesOnReturn_after appends_getContext
      fun _ => closesOnReturn_after (appends_read closesNothing_routine _) fun result => ?_)
  cases result with
  | error e => exact close _
  | bytes data =>
      exact closesOnReturn_after (appends_storeServiceBuffer _) fun _ =>
        closesOnReturn_after (appends_setServiceBufferByte _ _) fun _ =>
          closesOnReturn_after appends_getContext fun _ =>
            .ite (closesOnReturn_close _ fun _ => ⟨0, rfl⟩)
              (closesOnReturn_of_keeps ((keeps_pure _).bind fun _ =>
                appends_libwebsocketSetTimeout _))

/-- Lines 98-202 close the session only as they return, on a refused
certificate. -/
theorem connectTls_closesOnReturn : ClosesOnReturn 1 connectTls := by
  have quiet := closesNothing_routine
  unfold connectTls
  refine closesOnReturn_after (appends_emit quiet .clearPollout ⟨rfl, rfl⟩ rfl) fun _ =>
    closesOnReturn_after (appends_protocolCallback quiet _ (by rfl)) fun _ =>
      closesOnReturn_after appends_getWsi fun _ => ?_
  dsimp only
  refine .ite (closesOnReturn_after (appends_emit quiet .sslNew ⟨rfl, rfl⟩ rfl) fun _ =>
      closesOnReturn_after (appends_modifyWsi _) fun _ => ?_)
    (closesOnReturn_after (keeps_pure _) fun _ => ?_) <;>
  refine .ite (closesOnReturn_after (appends_sslConnect quiet) fun result => ?_)
    (closesOnReturn_of_keeps (appends_modifyWsi _)) <;>
  cases result with
  | error e =>
      exact .ite (closesOnReturn_after (appends_emit quiet .callbackOnWritable ⟨rfl, rfl⟩ rfl)
          fun _ => closesOnReturn_leave_bind _ _)
        (closesOnReturn_of_keeps ((keeps_pure _).bind fun _ => appends_ret _))
  | failed => exact closesOnReturn_of_keeps (appends_ret _)
  | connected =>
      exact closesOnReturn_after appends_getIo fun _ =>
        .ite (closesOnReturn_close _ fun _ => ⟨0, rfl⟩) (closesOnReturn_of_keeps (keeps_pure _))

/-- Lines 212-236 return, closing the session at the end if the write failed. -/
theorem sendRequest_returns (request : List Char) (w : World) :
    ∃ v w', sendRequest request w = .exit (.ret v) w' ∧ ClosesLast 1 w w' := by
  cases written : w.io.nextWrite request.length with
  | wrote n =>
      exact ⟨0, _, sendRequest_of_wrote written,
        (ClosesLast.of_log [.write request (.wrote n)] [] (List.append_nil _).symm rfl
          fun _ => nofun).mono (Nat.zero_le _)⟩
  | error e =>
      exact ⟨0, _, sendRequest_of_error written,
        ClosesLast.of_log [.write request (.error e)] [.close .noStatus w.wsi.mode w.wsi.state]
          (List.append_assoc w.log [_] [_]).symm rfl (by simp [Event.isClose])⟩

/-- Lines 204-236 return.  The generator closes the session only when the
random device fails, and then returns to a second close. -/
theorem generated_returns (w : World) :
    ∃ v w', (do
        match ← libwebsocketsGenerateClientHandshake with
        | none =>
            libwebsocketCloseAndFreeSession .noStatus
            ret 0
        | some request => sendRequest request : Code Int) w = .exit (.ret v) w' ∧
      ClosesLast 2 w w' := by
  by_cases drawn : (w.io.nextRandom.take 16).length = 16
  · obtain ⟨len, w₂, generated, -⟩ := libwebsocketsGenerateClientHandshake_of_drawn drawn
    have quiet : ClosesNothing w w₂ := by
      simpa only [generated, Res.state_next] using
        libwebsocketsGenerateClientHandshake_appends_of_drawn closesNothing_routine
          (fun _ _ => rfl) drawn
    obtain ⟨v, w', sent, last⟩ := sendRequest_returns _ w₂
    exact ⟨v, w', by rw [Exec.bind_of_next generated]; exact sent,
      (ClosesLast.after quiet last).mono (by decide)⟩
  · have short : w.io.nextRandom.length < 16 := by
      rw [List.length_take] at drawn
      omega
    rw [Exec.bind_of_next (libwebsocketsGenerateClientHandshake_of_short_random short)]
    let closed := Event.close .noStatus w.wsi.mode w.wsi.state
    exact ⟨0, _, rfl, ClosesLast.of_log ([.free .cPath, .free .cHost] ++
      freedIfSet w.wsi.cOrigin .cOrigin ++ freedIfSet w.wsi.cProtocol .cProtocol) [closed, closed]
      (by simp) (by rw [closeCount_append, closeCount_append, closeCount_freedIfSet,
        closeCount_freedIfSet]; rfl) (by simp [closed, Event.isClose])⟩

/-- Lines 91-236 close the session only as they end, at most twice. -/
theorem issueHandshake_closesAtEnd : ClosesAtEnd 2 issueHandshake :=
  closesAtEnd_bind (closesOnReturn_mono (by decide) connectTls_closesOnReturn) fun _ =>
    closesAtEnd_of_returns generated_returns

/-! ## The reply's block -/

/-- Lines 674-689 close the session last. -/
theorem bail2Events_closesLast (wsi : Conn) :
    ∃ pre, bail2Events wsi = pre ++ [.close .protocolErr wsi.mode wsi.state] ∧
      closeCount pre = 0 := by
  refine ⟨_, rfl, ?_⟩
  have once := closeCount_bail2Events wsi
  rw [bail2Events, closeCount_append] at once
  change _ + 1 = 1 at once
  omega

theorem interpretBail2_closesLast : Keeps (ClosesLast 1) interpretBail2 := fun w => by
  obtain ⟨pre, events, unclosed⟩ := bail2Events_closesLast w.wsi
  rw [interpretBail2_apply]
  exact ClosesLast.of_log pre [.close .protocolErr w.wsi.mode w.wsi.state] (by simp [events])
    unclosed (by simp [Event.isClose])

theorem interpretBail3_closesLast : Keeps (ClosesLast 1) interpretBail3 := fun w => by
  obtain ⟨pre, events, unclosed⟩ := bail2Events_closesLast w.wsi
  rw [interpretBail3_apply]
  exact ClosesLast.of_log (freedIfSet w.wsi.cProtocol .cProtocol ++ pre)
    [.close .protocolErr w.wsi.mode w.wsi.state] (by simp [events]) (by simp [unclosed])
    (by simp [Event.isClose])

/-- Lines 351-690 close the session only under `bail2`, as the last thing
they do. -/
theorem lwsClientInterpretServerHandshake_closesAtEnd :
    ClosesAtEnd 1 lwsClientInterpretServerHandshake := by
  refine closesAtEnd_of_keeps (fun w => ?_) lwsClientInterpretServerHandshake_ne_goto
  have body : ClosesNothing w (interpretBody w).state :=
    ((checkServerHandshake_appends closesNothing_routine rfl).bind fun _ =>
      establish_appends closesNothing_routine (fun _ => rfl) fun _ _ => rfl) w
  unfold lwsClientInterpretServerHandshake
  split <;> rename_i run <;> rw [run] at body
  · exact .of_closesNothing body
  · exact ClosesLast.after body (interpretBail3_closesLast _)
  · exact ClosesLast.after body (interpretBail2_closesLast _)
  · exact .of_closesNothing body

/-- Lines 238-312 close the session only as they end. -/
theorem waitingServerReply_closesAtEnd (parser : Parser) (revents : Revents) :
    ClosesAtEnd 1 (waitingServerReply parser revents) := by
  unfold waitingServerReply
  refine .ite (closesAtEnd_leave_bind _ _) (closesAtEnd_after (keeps_pure _) fun _ => ?_)
  refine .ite (closesAtEnd_leave_bind _ _) (closesAtEnd_after (keeps_pure _) fun _ => ?_)
  refine closesAtEnd_after appends_getWsi fun _ => closesAtEnd_after appends_getIo fun _ =>
    closesAtEnd_after (readLoop_appends closesNothing_routine _ _ _) fun _ =>
      closesAtEnd_after appends_getWsi fun _ => ?_
  exact .ite (closesAtEnd_leave_bind _ _) (closesAtEnd_after (keeps_pure _) fun _ =>
    lwsClientInterpretServerHandshake_closesAtEnd)

/-! ## Every call, and every run -/

theorem dispatch_closesAtEnd (parser : Parser) (revents : Revents) (mode : ConnMode) :
    ClosesAtEnd 2 (dispatch parser revents mode) := by
  cases mode with
  | wsClientWaitingProxyReply =>
      exact closesAtEnd_bind (closesOnReturn_mono (by decide) (waitingProxyReply_closesOnReturn _))
        fun _ => issueHandshake_closesAtEnd
  | wsClientIssueHandshake => exact issueHandshake_closesAtEnd
  | wsClientWaitingServerReply =>
      exact closesAtEnd_mono (by decide) (waitingServerReply_closesAtEnd _ _)
  | _ => exact (closesOnReturn_of_keeps (keeps_pure _)).closesAtEnd

theorem serviceBail3_closesLast : Keeps (ClosesLast 1) serviceBail3 := fun w => by
  rw [serviceBail3_apply]
  exact ClosesLast.of_log (freedIfSet w.wsi.cProtocol .cProtocol) [_] rfl (by simp)
    (by simp [Event.isClose])

/-- A function whose body closes the session only as it ends, with `bail3`
under its label. -/
theorem withLabels_closesLast {n : Nat} {body : Code Int} (ensured : ClosesAtEnd n body)
    (once : 1 ≤ n) : Keeps (ClosesLast n) (withLabels body fun _ => serviceBail3) := fun w => by
  cases run : body w with
  | next v w' =>
      rw [withLabels_of_next run]
      exact ensured.next run
  | exit e w' =>
      have left := ensured.exit run
      cases e with
      | ret v =>
          rw [withLabels_of_ret run]
          exact left
      | goto l =>
          rw [withLabels_of_goto run]
          exact ClosesLast.after left ((serviceBail3_closesLast w').mono once)
      | undefined u =>
          rw [withLabels_state fun _ _ => by rw [run]; exact nofun, run]
          exact left

/-- One call of `lws_client_socket_service`, from any world, appends events
that close nothing and then at most two closes. -/
theorem lwsClientSocketService_closesLast (parser : Parser) (revents : Revents) :
    Keeps (ClosesLast 2) (lwsClientSocketService parser revents) := fun w => by
  rw [lwsClientSocketService_apply]
  exact withLabels_closesLast (dispatch_closesAtEnd parser revents _) (by decide) w

/-- Nothing happens to a closed session but a second close.  Over any run of
the event loop, from any world, the client appends to its ledger events that
close nothing, and then at most two closes: once a call has closed the
session, nothing else is done to it but a second close, which is what the
generator's caller does when the random device failed (lines 724-726, then
207-209). -/
theorem serviceRun_closes_last (parser : Parser) (events : List Revents) (w : World) :
    ClosesLast 2 w (serviceRun parser events w) :=
  (serviceRun_keeps (R := fun w w' => ClosesLast 2 w w' ∧ (w.closed = true → w' = w))
    (fun w => ⟨.refl w, fun _ => rfl⟩)
    (fun w₁ w₂ w₃ first second => by
      by_cases closed : w₂.closed = true
      · rw [second.2 closed]
        exact first
      · refine ⟨ClosesLast.after (first.1.closesNothing_of_open (eq_false_of_ne_true closed))
          second.1, fun closed₁ => ?_⟩
        rw [first.2 closed₁] at closed
        exact absurd closed₁ closed)
    (fun revents w live =>
      ⟨lwsClientSocketService_closesLast parser revents w, fun closed => by
        rw [live] at closed
        cases closed⟩)
    events w).1

end LwsClient
