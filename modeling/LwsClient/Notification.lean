import LwsClient.Failure
import LwsClient.Progress

/-!
# The user is told how the handshake ended at most once

A client's protocol learns how its handshake ended from one of two callbacks
of `lws_client_interpret_server_handshake`: `CLIENT_ESTABLISHED` (line 646),
the last thing lines 592-668 do before `return 0`, or
`CLIENT_CONNECTION_ERROR` (line 677), delivered under `bail2` just before the
session is closed.  `Appends ok` says that a block only appended to the ledger
events `ok` allows.  `Event.Routine` is an event that is neither of the two
callbacks nor a close, and every function of `client.c` appends only routine
events except three: the socket service's closing paths, which deliver no
verdict; lines 592-668, which deliver `CLIENT_ESTABLISHED` only when they fall
through (`establish_tells`, `establish_leaves`); and the `bail2` tail, which
closes the session behind its one callback.

So one call of `lws_client_socket_service` tells the user at most once and
leaves the session closed or the connection in `WS_CLIENT` after telling
(`lwsClientSocketService_tells`).  In `WS_CLIENT` later calls do nothing, so
over any run of the event loop the user is told at most once
(`serviceRun_toldOnce`).
-/

namespace LwsClient

open Exec

/-- Whether the event tells the user's protocol how the handshake ended. -/
def Event.isVerdict : Event → Bool
  | .protocolCallback _ .clientEstablished => true
  | .protocolCallback _ .clientConnectionError => true
  | _ => false

/-- Whether the event releases a buffer. -/
def Event.isFree : Event → Bool
  | .free _ => true
  | _ => false

/-- How many times the ledger tells the user how the handshake ended. -/
def verdictCount (log : List Event) : Nat := log.countP Event.isVerdict

@[simp] theorem verdictCount_append (log₁ log₂ : List Event) :
    verdictCount (log₁ ++ log₂) = verdictCount log₁ + verdictCount log₂ :=
  List.countP_append _ _ _

/-- An event that neither ends the session nor tells the user the outcome. -/
def Event.Routine (e : Event) : Prop := e.isClose = false ∧ e.isVerdict = false

/-- `w'` follows `w` by a block that only appended to the ledger events `ok`
allows, whatever else it changed. -/
def Appends (ok : Event → Prop) (w w' : World) : Prop :=
  ∃ events, w'.log = w.log ++ events ∧ ∀ e ∈ events, ok e

namespace Appends

variable {ok : Event → Prop} {w w' w₁ w₂ w₃ : World}

theorem of_log (same : w'.log = w.log) : Appends ok w w' :=
  ⟨[], by rw [same, List.append_nil], fun _ nil => absurd nil (List.not_mem_nil _)⟩

theorem of_event {e : Event} (allowed : ok e) (appended : w'.log = w.log ++ [e]) :
    Appends ok w w' :=
  ⟨[e], appended, fun _ mem => List.eq_of_mem_singleton mem ▸ allowed⟩

theorem trans (first : Appends ok w₁ w₂) (second : Appends ok w₂ w₃) : Appends ok w₁ w₃ := by
  obtain ⟨events₁, log₁, ok₁⟩ := first
  obtain ⟨events₂, log₂, ok₂⟩ := second
  refine ⟨events₁ ++ events₂, by rw [log₂, log₁, List.append_assoc], fun e mem => ?_⟩
  exact (List.mem_append.mp mem).elim (ok₁ e) (ok₂ e)

instance : IsRefl World (Appends ok) := ⟨fun _ => of_log rfl⟩

instance : IsTrans World (Appends ok) := ⟨fun _ _ _ => trans⟩

theorem mono {ok' : Event → Prop} (weaker : ∀ e, ok e → ok' e) (appends : Appends ok w w') :
    Appends ok' w w' :=
  let ⟨events, log, oks⟩ := appends
  ⟨events, log, fun e mem => weaker e (oks e mem)⟩

theorem grows (appends : Appends ok w w') : w.log <+: w'.log :=
  let ⟨events, log, _⟩ := appends
  ⟨events, log.symm⟩

/-- Once the events a block appended are known, each is one `ok` allows. -/
theorem oks {events : List Event} (appends : Appends ok w w') (log : w'.log = w.log ++ events) :
    ∀ e ∈ events, ok e := by
  obtain ⟨appended, log', oks⟩ := appends
  rw [log', List.append_cancel_left_eq] at log
  exact log ▸ oks

/-- Events of a kind that `ok` rules out are counted as before. -/
theorem countP_eq {p : Event → Bool} (avoided : ∀ e, ok e → p e = false)
    (appends : Appends ok w w') : w'.log.countP p = w.log.countP p := by
  obtain ⟨events, log, oks⟩ := appends
  have uncounted : events.countP p = 0 :=
    List.countP_eq_zero.mpr fun e mem => by simp [avoided e (oks e mem)]
  rw [log, List.countP_append, uncounted, Nat.add_zero]

theorem verdictCount_eq (appends : Appends (fun e => e.isVerdict = false) w w') :
    verdictCount w'.log = verdictCount w.log :=
  appends.countP_eq fun _ => id

theorem closeCount_eq (appends : Appends Event.Routine w w') :
    closeCount w'.log = closeCount w.log :=
  appends.countP_eq fun _ => And.left

end Appends

theorem Event.Routine.not_verdict {e : Event} (routine : e.Routine) : e.isVerdict = false :=
  routine.2

/-! ## Primitives -/

section Primitives

variable {ok : Event → Prop}

theorem appends_of_log {α : Type} {x : Code α} (same : ∀ w, (x w).state.log = w.log) :
    Keeps (Appends ok) x :=
  fun w => .of_log (same w)

theorem appends_of_event {α : Type} {x : Code α} (e : World → Event)
    (appended : ∀ w, (x w).state.log = w.log ++ [e w]) (allowed : ∀ w, ok (e w)) :
    Keeps (Appends ok) x :=
  fun w => .of_event (allowed w) (appended w)

theorem appends_getWsi : Keeps (Appends ok) getWsi := appends_of_log fun _ => rfl

theorem appends_getContext : Keeps (Appends ok) getContext := appends_of_log fun _ => rfl

theorem appends_getIo : Keeps (Appends ok) getIo := appends_of_log fun _ => rfl

theorem appends_modifyWsi (f : Conn → Conn) : Keeps (Appends ok) (modifyWsi f) :=
  appends_of_log fun _ => rfl

theorem appends_goto {α : Type} (l : Label) : Keeps (Appends ok) (goto l : Code α) :=
  appends_of_log fun _ => rfl

theorem appends_ret {α : Type} (v : Int) : Keeps (Appends ok) (ret v : Code α) :=
  appends_of_log fun _ => rfl

theorem appends_deref {α : Type} (p : Option α) : Keeps (Appends ok) (deref p) := by
  cases p <;> exact appends_of_log fun _ => rfl

theorem acceptHash_appends (keyB64 : List Char) : Keeps (Appends ok) (acceptHash keyB64) :=
  .ite (keeps_pure _) (.ite (keeps_pure _) (keeps_leave _))

theorem appends_storeServiceBuffer (data : List Char) :
    Keeps (Appends ok) (storeServiceBuffer data) :=
  appends_of_log fun _ => rfl

theorem appends_setServiceBufferByte (i : Nat) (c : Char) :
    Keeps (Appends ok) (setServiceBufferByte i c) :=
  appends_of_log fun _ => rfl

theorem appends_libwebsocketSetTimeout (t : PendingTimeout) :
    Keeps (Appends ok) (libwebsocketSetTimeout t) :=
  appends_of_log fun _ => rfl

theorem lowerToken_appends (t : Token) : Keeps (Appends ok) (lowerToken t) :=
  appends_getWsi.bind fun _ => (appends_deref _).bind fun _ =>
    (appends_modifyWsi _).bind fun _ => keeps_pure _

theorem checkResponseHeaders_appends : Keeps (Appends ok) checkResponseHeaders := by
  unfold checkResponseHeaders
  refine (lowerToken_appends _).bind fun _ => ?_
  dsimp only
  refine .ite (keeps_leave_bind _ _) ((keeps_pure _).bind fun _ =>
    (lowerToken_appends _).bind fun _ => ?_)
  refine .ite (keeps_leave_bind _ _) ((keeps_pure _).bind fun _ =>
    (lowerToken_appends _).bind fun _ => ?_)
  exact .ite (appends_goto _) (keeps_pure _)

theorem checkAccept_appends : Keeps (Appends ok) checkAccept :=
  appends_getWsi.bind fun _ => (appends_deref _).bind fun _ => .ite (appends_goto _) (keeps_pure _)

theorem appends_libwebsocketCloseAndFreeSession (status : CloseStatus)
    (closing : ∀ mode state, ok (.close status mode state)) :
    Keeps (Appends ok) (libwebsocketCloseAndFreeSession status) :=
  appends_of_event _ (fun _ => rfl) fun _ => closing _ _

theorem appends_free {b : Buffer} (freed : ok (.free b)) : Keeps (Appends ok) (free b) :=
  appends_of_event (fun _ => .free b) (fun _ => rfl) fun _ => freed

theorem appends_freeIfSet (p : Option CStr) {b : Buffer} (freed : ok (.free b)) :
    Keeps (Appends ok) (freeIfSet p b) :=
  .ite (appends_free freed) (keeps_pure _)

theorem selectProtocol_appends (protocolFreed : ok (.free .cProtocol)) :
    Keeps (Appends ok) selectProtocol := by
  unfold selectProtocol
  refine appends_getWsi.bind fun _ => .ite ?absent ?present
  case absent => exact (appends_modifyWsi _).bind fun _ => appends_freeIfSet _ protocolFreed
  case present =>
    refine (appends_deref _).bind fun _ => (appends_deref _).bind fun _ =>
      (appends_freeIfSet _ protocolFreed).bind fun _ => ?_
    dsimp only
    refine .ite (keeps_leave_bind _ _)
      ((keeps_pure _).bind fun _ => appends_getContext.bind fun _ => ?_)
    split
    · exact (appends_modifyWsi _).bind fun _ => appends_goto _
    · exact appends_modifyWsi _

theorem freeTokenList_appends (tokensFreed : ∀ t, ok (.free (.token t))) (table : HeaderTable) :
    ∀ tokens, Keeps (Appends ok) (freeTokenList table tokens)
  | [] => keeps_pure _
  | _ :: rest => (appends_freeIfSet _ (tokensFreed _)).bind fun _ =>
      freeTokenList_appends tokensFreed table rest

theorem freeTokens_appends (tokensFreed : ∀ t, ok (.free (.token t))) :
    Keeps (Appends ok) freeTokens :=
  appends_getWsi.bind fun _ => freeTokenList_appends tokensFreed _ _

theorem serviceBail3_appends (protocolFreed : ok (.free .cProtocol))
    (closing : ∀ status mode state, ok (.close status mode state)) :
    Keeps (Appends ok) serviceBail3 :=
  appends_getWsi.bind fun _ => (appends_freeIfSet _ protocolFreed).bind fun _ =>
    (appends_libwebsocketCloseAndFreeSession _ (closing _)).bind fun _ => keeps_pure _

end Primitives

/-! ## Functions that append routine events and free nothing -/

section Quiet

variable {ok : Event → Prop} (quiet : ∀ e, e.Routine → e.isFree = false → ok e)
include quiet

theorem appends_emit (e : Event) (routineEvent : e.Routine) (kept : e.isFree = false) :
    Keeps (Appends ok) (emit e) :=
  appends_of_event (fun _ => e) (fun _ => rfl) fun _ => quiet e routineEvent kept

theorem appends_protocolCallback (i : Nat) {reason : Reason}
    (untold : (Event.protocolCallback i reason).isVerdict = false) :
    Keeps (Appends ok) (protocolCallback i reason) :=
  appends_of_event _ (fun _ => rfl) fun _ => quiet _ ⟨rfl, untold⟩ rfl

theorem appends_extensionCallback (i : Nat) (reason : ExtReason) (user : Option Nat) :
    Keeps (Appends ok) (extensionCallback i reason user) :=
  appends_of_event _ (fun _ => rfl) fun _ => quiet _ ⟨rfl, rfl⟩ rfl

theorem appends_malloc (size : Nat) : Keeps (Appends ok) (malloc size) :=
  appends_of_event _ (fun _ => rfl) fun _ => quiet _ ⟨rfl, rfl⟩ rfl

theorem appends_read (len : Nat) : Keeps (Appends ok) (read len) :=
  appends_of_event _ (fun _ => rfl) fun _ => quiet _ ⟨rfl, rfl⟩ rfl

theorem appends_write (data : List Char) : Keeps (Appends ok) (write data) :=
  appends_of_event _ (fun _ => rfl) fun _ => quiet _ ⟨rfl, rfl⟩ rfl

theorem appends_sslConnect : Keeps (Appends ok) sslConnect :=
  appends_of_event _ (fun _ => rfl) fun _ => quiet _ ⟨rfl, rfl⟩ rfl

theorem pollOkToPropose_appends (name : List Char) :
    ∀ exts, Keeps (Appends ok) (pollOkToPropose name exts)
  | [] => keeps_pure _
  | _ :: rest => (appends_extensionCallback quiet _ _ _).bind fun _ =>
      (pollOkToPropose_appends name rest).bind fun _ => keeps_pure _

theorem proposeExtensions_appends : ∀ (extCount : Nat) exts,
    Keeps (Appends ok) (proposeExtensions extCount exts)
  | _, [] => keeps_pure _
  | _, _ :: rest => by
      unfold proposeExtensions
      exact appends_getContext.bind fun _ => (pollOkToPropose_appends quiet _ _).bind fun _ =>
        .ite (proposeExtensions_appends _ rest)
          ((appends_protocolCallback quiet 0 (by rfl)).bind fun _ =>
            .ite (proposeExtensions_appends _ rest)
              ((proposeExtensions_appends _ rest).bind fun _ => keeps_pure _))

theorem instantiateNamed_appends (name : List Char) :
    ∀ (found : Bool) exts, Keeps (Appends ok) (instantiateNamed name found exts)
  | _, [] => keeps_pure _
  | _, _ :: rest => by
      unfold instantiateNamed
      refine .ite (instantiateNamed_appends name _ rest)
        ((appends_malloc quiet _).bind fun _ => ?_)
      dsimp only
      exact .ite (keeps_leave_bind _ _) ((keeps_pure _).bind fun _ => appends_getWsi.bind fun _ =>
        (appends_modifyWsi _).bind fun _ => (appends_extensionCallback quiet _ _ _).bind fun _ =>
          instantiateNamed_appends name _ rest)

theorem checkExtensionName_appends (name : List Char) :
    Keeps (Appends ok) (checkExtensionName name) :=
  appends_getContext.bind fun _ => (instantiateNamed_appends quiet _ _ _).bind fun _ =>
    .ite (appends_goto _) (keeps_pure _)

theorem extensionLoop_appends : ∀ extName rest, Keeps (Appends ok) (extensionLoop extName rest)
  | _, [] => checkExtensionName_appends quiet _
  | _, _ :: rest => by
      unfold extensionLoop
      exact .ite (extensionLoop_appends _ rest) (.ite (extensionLoop_appends _ rest)
        ((checkExtensionName_appends quiet _).bind fun _ => extensionLoop_appends _ rest))

theorem instantiateExtensions_appends : Keeps (Appends ok) instantiateExtensions :=
  appends_getWsi.bind fun _ =>
    .ite ((appends_deref _).bind fun _ => extensionLoop_appends quiet _ _) (keeps_pure _)

theorem libwebsocketEnsureUserSpace_appends (size : Nat) :
    Keeps (Appends ok) (libwebsocketEnsureUserSpace size) :=
  appends_getWsi.bind fun _ => .ite (keeps_pure _) ((keeps_pure _).bind fun _ =>
    (appends_malloc quiet _).bind fun _ =>
      .ite ((appends_modifyWsi _).bind fun _ => keeps_pure _)
        ((keeps_pure _).bind fun _ => keeps_pure _))

theorem allocateUserSpace_appends (protocol : Protocol) :
    Keeps (Appends ok) (allocateUserSpace protocol) :=
  .ite ((libwebsocketEnsureUserSpace_appends quiet _).bind fun _ =>
      .ite (appends_goto _) (keeps_pure _))
    (keeps_pure _)

theorem allocateRxBuffer_appends (protocol : Protocol) :
    Keeps (Appends ok) (allocateRxBuffer protocol) :=
  appends_getContext.bind fun _ => (appends_malloc quiet _).bind fun _ =>
    .ite (keeps_leave_bind _ _) ((keeps_pure _).bind fun _ => appends_modifyWsi _)

theorem libwebsocketParse_appends (parser : Parser) (c : Char) :
    Keeps (Appends ok) (libwebsocketParse parser c) :=
  (appends_emit quiet (.parse c) ⟨rfl, rfl⟩ rfl).bind fun _ => appends_getWsi.bind fun _ =>
    (appends_modifyWsi _).bind fun _ => keeps_pure _

theorem readStep_appends (parser : Parser) (tls : Bool) (c : Char) :
    Keeps (Appends ok) (readStep parser tls c) := by
  refine (appends_read quiet _).bind fun result => ?_
  dsimp only
  cases result with
  | error e => exact .ite (keeps_leave_bind _ _) ((keeps_pure _).bind fun _ => appends_goto _)
  | bytes data =>
      cases data <;>
      exact (libwebsocketParse_appends quiet _ _).bind fun _ =>
        .ite (keeps_leave_bind _ _) ((keeps_pure _).bind fun _ => keeps_pure _)

/-- Lines 273-295 only read and parse. -/
theorem readLoop_appends (parser : Parser) (tls : Bool) (c : Char) :
    Keeps (Appends ok) (readLoop parser tls c) := by
  intro w
  induction c, w using readLoop.induct parser tls with
  | case1 c w complete =>
      rw [readLoop_of_complete complete]
      exact refl_of _ _
  | case2 c w incomplete b w' step later =>
      rw [readLoop_of_byte (eq_false_of_ne_true incomplete) step]
      exact ((readStep_appends quiet parser tls c).of_next step).trans later
  | case3 c w incomplete w' step =>
      rw [readLoop_of_stop (eq_false_of_ne_true incomplete) step]
      exact (readStep_appends quiet parser tls c).of_next step
  | case4 c w incomplete e w' step =>
      rw [readLoop_of_exit (eq_false_of_ne_true incomplete) step]
      exact (readStep_appends quiet parser tls c).of_exit step

end Quiet

/-! ## Functions that free buffers

Each lemma names the buffers its function frees; the class of events must
take those frees besides the routine events that free nothing. -/

section Releases

variable {ok : Event → Prop} (quiet : ∀ e, e.Routine → e.isFree = false → ok e)
include quiet

/-- Lines 384-590 free the offered protocol list, and neither close the
session nor tell the user anything. -/
theorem checkServerHandshake_appends (protocolFreed : ok (.free .cProtocol)) :
    Keeps (Appends ok) checkServerHandshake :=
  checkResponseHeaders_appends.bind fun _ => (selectProtocol_appends protocolFreed).bind
    fun _ => (instantiateExtensions_appends quiet).bind fun _ => checkAccept_appends

theorem markEstablished_appends (tokensFreed : ∀ t, ok (.free (.token t))) (i : Nat) :
    Keeps (Appends ok) (markEstablished i) :=
  (appends_protocolCallback quiet i (by rfl)).bind fun _ =>
    (appends_libwebsocketSetTimeout _).bind fun _ =>
    (freeTokens_appends tokensFreed).bind fun _ => (appends_modifyWsi _).bind fun _ =>
      appends_modifyWsi _

/-- Lines 713-859 free the path, the host and the origin, and close nothing,
once the random device has yielded 16 bytes: the close of lines 714-727 is
not reached. -/
theorem libwebsocketsGenerateClientHandshake_appends_of_drawn
    (requestFreed : ∀ b ∈ [Buffer.cPath, .cHost, .cOrigin], ok (.free b)) {w : World}
    (drawn : (w.io.nextRandom.take 16).length = 16) :
    Appends ok w (libwebsocketsGenerateClientHandshake w).state := by
  rw [libwebsocketsGenerateClientHandshake, Exec.bind_of_next (libwebsocketsGetRandom_apply 16 w),
    Exec.bind_of_next (getWsi_apply _), if_neg (not_not.mpr drawn)]
  refine Appends.trans (.of_log rfl) ((?_ : Keeps (Appends ok) _) _)
  refine (keeps_pure _).bind fun _ => ?_
  dsimp only
  refine appends_getContext.bind fun _ => (proposeExtensions_appends quiet _ _).bind fun _ => ?_
  refine (appends_protocolCallback quiet _ (by rfl)).bind fun _ =>
    (appends_storeServiceBuffer _).bind fun _ => ?_
  refine (acceptHash_appends _).bind fun _ => (appends_modifyWsi _).bind fun _ => ?_
  exact (appends_free (requestFreed _ (by simp))).bind fun _ =>
    (appends_free (requestFreed _ (by simp))).bind fun _ =>
      (appends_freeIfSet _ (requestFreed _ (by simp))).bind fun _ => keeps_pure _

end Releases

/-- Lines 384-590 with the offered protocol list counted as routine. -/
theorem checkServerHandshake_routine : Keeps (Appends Event.Routine) checkServerHandshake :=
  checkServerHandshake_appends (fun _ routineEvent _ => routineEvent) ⟨rfl, rfl⟩

/-! ## Functions that may close the session -/

section QuietClosing

variable {ok : Event → Prop} (quiet : ∀ e, e.Routine → e.isFree = false → ok e)
  (closing : ∀ status mode state, ok (.close status mode state))
include quiet closing

theorem waitingProxyReply_appends (revents : Revents) :
    Keeps (Appends ok) (waitingProxyReply revents) := by
  have close := fun status => appends_libwebsocketCloseAndFreeSession status (closing status)
  unfold waitingProxyReply
  dsimp only
  refine .ite ((close _).bind fun _ => keeps_leave_bind _ _)
    ((keeps_pure _).bind fun _ => appends_getContext.bind fun _ =>
      (appends_read quiet _).bind fun result => ?_)
  cases result with
  | error e => exact (close _).bind fun _ => appends_ret _
  | bytes data =>
      exact (appends_storeServiceBuffer _).bind fun _ => (appends_setServiceBufferByte _ _).bind
        fun _ => appends_getContext.bind fun _ =>
          .ite ((close _).bind fun _ => keeps_leave_bind _ _)
            ((keeps_pure _).bind fun _ => appends_libwebsocketSetTimeout _)

theorem connectTls_appends : Keeps (Appends ok) connectTls := by
  unfold connectTls
  refine (appends_emit quiet .clearPollout ⟨rfl, rfl⟩ rfl).bind fun _ =>
    (appends_protocolCallback quiet _ (by rfl)).bind fun _ => appends_getWsi.bind fun _ => ?_
  dsimp only
  refine .ite ((appends_emit quiet .sslNew ⟨rfl, rfl⟩ rfl).bind fun _ =>
      (appends_modifyWsi _).bind fun _ => ?_) ((keeps_pure _).bind fun _ => ?_) <;>
  refine .ite ((appends_sslConnect quiet).bind fun result => ?_) (appends_modifyWsi _) <;>
  cases result with
  | error e =>
      exact .ite ((appends_emit quiet .callbackOnWritable ⟨rfl, rfl⟩ rfl).bind fun _ =>
          keeps_leave_bind _ _)
        ((keeps_pure _).bind fun _ => appends_ret _)
  | failed => exact appends_ret _
  | connected =>
      exact appends_getIo.bind fun _ =>
        .ite ((appends_libwebsocketCloseAndFreeSession _ (closing _)).bind fun _ => appends_ret _)
          (keeps_pure _)

theorem libwebsocketsGenerateClientHandshake_appends
    (requestFreed : ∀ b ∈ [Buffer.cPath, .cHost, .cOrigin], ok (.free b))
    (protocolFreed : ok (.free .cProtocol)) :
    Keeps (Appends ok) libwebsocketsGenerateClientHandshake := fun w => by
  by_cases drawn : (w.io.nextRandom.take 16).length = 16
  · exact libwebsocketsGenerateClientHandshake_appends_of_drawn quiet requestFreed drawn
  rw [libwebsocketsGenerateClientHandshake, Exec.bind_of_next (libwebsocketsGetRandom_apply 16 w),
    Exec.bind_of_next (getWsi_apply _), if_pos (show _ ≠ 16 from drawn)]
  refine Appends.trans (.of_log rfl) ((?_ : Keeps (Appends ok) _) _)
  exact (appends_free (requestFreed _ (by simp))).bind fun _ =>
    (appends_free (requestFreed _ (by simp))).bind fun _ =>
      (appends_freeIfSet _ (requestFreed _ (by simp))).bind fun _ =>
        (appends_freeIfSet _ protocolFreed).bind fun _ =>
          (appends_libwebsocketCloseAndFreeSession _ (closing _)).bind fun _ => keeps_pure _

theorem sendRequest_appends (request : List Char) : Keeps (Appends ok) (sendRequest request) := by
  refine (appends_write quiet _).bind fun result => ?_
  cases result with
  | error e =>
      exact (appends_libwebsocketCloseAndFreeSession _ (closing _)).bind fun _ => appends_ret _
  | wrote n =>
      exact (appends_modifyWsi _).bind fun _ => (appends_modifyWsi _).bind fun _ => appends_ret _

theorem issueHandshake_appends
    (requestFreed : ∀ b ∈ [Buffer.cPath, .cHost, .cOrigin], ok (.free b))
    (protocolFreed : ok (.free .cProtocol)) : Keeps (Appends ok) issueHandshake :=
  (connectTls_appends quiet closing).bind fun _ =>
    (libwebsocketsGenerateClientHandshake_appends quiet closing requestFreed protocolFreed).bind
      fun request => by
        cases request with
        | none =>
            exact (appends_libwebsocketCloseAndFreeSession _ (closing _)).bind fun _ =>
              appends_ret _
        | some request => exact sendRequest_appends quiet closing request

end QuietClosing

/-! ## The two verdicts -/

theorem Event.Routine.counts {events : List Event} (routine : ∀ e ∈ events, e.Routine) :
    verdictCount events = 0 ∧ closeCount events = 0 :=
  ⟨List.countP_eq_zero.mpr fun e mem => by simp [(routine e mem).2],
    List.countP_eq_zero.mpr fun e mem => by simp [(routine e mem).1]⟩

@[simp] theorem verdictCount_freedIfSet (p : Option CStr) (b : Buffer) :
    verdictCount (freedIfSet p b) = 0 := by
  cases p <;> rfl

/-- The token frees of lines 612-614 and 682-684 are routine. -/
theorem tokenFrees_routine (table : HeaderTable) (tokens : List Token) :
    ∀ e ∈ tokenFrees table tokens, e.Routine := fun _ mem => by
  obtain ⟨t, -, freed⟩ := List.mem_filterMap.mp mem
  obtain ⟨_, -, rfl⟩ := Option.map_eq_some'.mp freed
  exact ⟨rfl, rfl⟩

/-- The `ANY_WSI_ESTABLISHED` deliveries of lines 654-665 are routine. -/
theorem establishedCallbacks_routine (active : List Nat) (exts : List (Nat × Extension)) :
    ∀ e ∈ establishedCallbacks active exts, e.Routine := fun _ mem => by
  obtain ⟨_, -, rfl⟩ := List.mem_map.mp mem
  exact ⟨rfl, rfl⟩

@[simp] theorem verdictCount_tokenFrees (table : HeaderTable) (tokens : List Token) :
    verdictCount (tokenFrees table tokens) = 0 :=
  (Event.Routine.counts (tokenFrees_routine table tokens)).1

@[simp] theorem closeCount_tokenFrees (table : HeaderTable) (tokens : List Token) :
    closeCount (tokenFrees table tokens) = 0 :=
  (Event.Routine.counts (tokenFrees_routine table tokens)).2

@[simp] theorem verdictCount_establishedCallbacks (active : List Nat)
    (exts : List (Nat × Extension)) : verdictCount (establishedCallbacks active exts) = 0 :=
  (Event.Routine.counts (establishedCallbacks_routine active exts)).1

@[simp] theorem closeCount_establishedCallbacks (active : List Nat)
    (exts : List (Nat × Extension)) : closeCount (establishedCallbacks active exts) = 0 :=
  (Event.Routine.counts (establishedCallbacks_routine active exts)).2

/-- Lines 674-689 tell the user at most once. -/
theorem verdictCount_bail2Events (wsi : Conn) : verdictCount (bail2Events wsi) ≤ 1 := by
  cases callback : wsi.cCallback <;>
    simp only [bail2Events, callback, verdictCount_append, verdictCount_tokenFrees] <;>
    simp [verdictCount, Event.isVerdict]

/-- Lines 674-689 close the session once. -/
@[simp] theorem closeCount_bail2Events (wsi : Conn) : closeCount (bail2Events wsi) = 1 := by
  cases callback : wsi.cCallback <;>
    simp only [bail2Events, callback, closeCount_append, closeCount_tokenFrees] <;>
    simp [closeCount, Event.isClose]

/-- Lines 674-689 close the session. -/
theorem any_isClose_bail2Events (wsi : Conn) : (bail2Events wsi).any Event.isClose = true := by
  simp [bail2Events, Event.isClose]

/-- Lines 592-668, when they fall through, statement by statement. -/
theorem establish_steps {w w' : World} (run : establish w = .next () w') :
    ∃ i protocol w₁ w₂ w₃, allocateUserSpace protocol w = .next () w₁ ∧
      markEstablished i w₁ = .next () w₂ ∧ allocateRxBuffer protocol w₂ = .next () w₃ ∧
      announceConnection i w₃ = .next () w' := by
  obtain ⟨_, _, ⟨⟩, run₁⟩ := Exec.bind_eq_next_iff.mp run
  obtain ⟨_, _, ⟨⟩, run₂⟩ := Exec.bind_eq_next_iff.mp run₁
  obtain ⟨i, _, selected, run₃⟩ := Exec.bind_eq_next_iff.mp run₂
  obtain ⟨protocol, _, registered, run₄⟩ := Exec.bind_eq_next_iff.mp run₃
  obtain ⟨_, w₁, allocated, run₅⟩ := Exec.bind_eq_next_iff.mp run₄
  obtain ⟨_, w₂, marked, run₆⟩ := Exec.bind_eq_next_iff.mp run₅
  obtain ⟨_, w₃, buffered, announced⟩ := Exec.bind_eq_next_iff.mp run₆
  obtain ⟨-, rfl⟩ := deref_eq_next_iff.mp selected
  obtain ⟨-, rfl⟩ := deref_eq_next_iff.mp registered
  exact ⟨i, protocol, w₁, w₂, w₃, allocated, marked, buffered, announced⟩

/-- Lines 592-668, when they fall through, have told the user
`CLIENT_ESTABLISHED` once and closed nothing. -/
theorem establish_tells {w w' : World} (run : establish w = .next () w') :
    ∃ events, w'.log = w.log ++ events ∧ verdictCount events = 1 ∧ closeCount events = 0 := by
  obtain ⟨i, protocol, w₁, w₂, w₃, allocated, marked, buffered, announced⟩ := establish_steps run
  obtain ⟨events, log, routine⟩ :=
    (((allocateUserSpace_appends (fun _ routineEvent _ => routineEvent) protocol).of_next
      allocated).trans ((markEstablished_appends (fun _ routineEvent _ => routineEvent)
      (fun _ => ⟨rfl, rfl⟩) i).of_next marked)).trans
      ((allocateRxBuffer_appends (fun _ routineEvent _ => routineEvent) protocol).of_next buffered)
  simp only [announceConnection_apply, Res.next.injEq, true_and] at announced
  subst announced
  obtain ⟨verdicts, closes⟩ := Event.Routine.counts routine
  refine ⟨events ++ [.protocolCallback i .clientEstablished] ++ establishedCallbacks _ _,
    by rw [log, List.append_assoc, List.append_assoc, List.singleton_append], ?_, ?_⟩
  · rw [verdictCount_append, verdictCount_append, verdicts, verdictCount_establishedCallbacks]
    rfl
  · rw [closeCount_append, closeCount_append, closes, closeCount_establishedCallbacks]
    rfl

/-- Lines 592-668, when they leave early, have appended routine events only:
`CLIENT_ESTABLISHED` is their last statement. -/
theorem establish_leaves {w w' : World} {e : Exit} (run : establish w = .exit e w') :
    Appends Event.Routine w w' := by
  rcases Exec.bind_eq_exit_iff.mp run with got | ⟨_, _, ⟨⟩, run₁⟩
  · simp at got
  rcases Exec.bind_eq_exit_iff.mp run₁ with got | ⟨_, _, ⟨⟩, run₂⟩
  · simp at got
  rcases Exec.bind_eq_exit_iff.mp run₂ with unselected | ⟨i, _, selected, run₃⟩
  · exact (appends_deref _).of_exit unselected
  obtain ⟨-, rfl⟩ := deref_eq_next_iff.mp selected
  rcases Exec.bind_eq_exit_iff.mp run₃ with unregistered | ⟨protocol, _, registered, run₄⟩
  · exact (appends_deref _).of_exit unregistered
  obtain ⟨-, rfl⟩ := deref_eq_next_iff.mp registered
  have userSpace := allocateUserSpace_appends (fun _ routineEvent _ => routineEvent) protocol
  rcases Exec.bind_eq_exit_iff.mp run₄ with starved | ⟨_, w₁, allocated, run₅⟩
  · exact userSpace.of_exit starved
  rcases Exec.bind_eq_exit_iff.mp run₅ with marked | ⟨_, w₂, marked, run₆⟩
  · simp at marked
  have committed := (userSpace.of_next allocated).trans
    ((markEstablished_appends (fun _ routineEvent _ => routineEvent)
      (fun _ => ⟨rfl, rfl⟩) i).of_next marked)
  rcases Exec.bind_eq_exit_iff.mp run₆ with starved | ⟨_, _, _, announced⟩
  · exact committed.trans
      ((allocateRxBuffer_appends (fun _ routineEvent _ => routineEvent) protocol).of_exit starved)
  · simp at announced

/-- Lines 384-666 fall through having told the user once, closing nothing
and leaving the connection in `WS_CLIENT`. -/
theorem interpretBody_tells {w w' : World} (run : interpretBody w = .next () w') :
    ∃ events, w'.log = w.log ++ events ∧ verdictCount events = 1 ∧ closeCount events = 0 ∧
      w'.wsi.mode = .wsClient := by
  obtain ⟨⟨⟩, w₁, checked, committed⟩ := Exec.bind_eq_next_iff.mp run
  obtain ⟨events₁, log₁, routine⟩ := checkServerHandshake_routine.of_next checked
  obtain ⟨events₂, log₂, verdicts, closes⟩ := establish_tells committed
  obtain ⟨quiet, closed⟩ := Event.Routine.counts routine
  refine ⟨events₁ ++ events₂, by rw [log₂, log₁, List.append_assoc], ?_, ?_,
    (establish_commits committed).2.2.2⟩ <;>
  simp [verdicts, closes, quiet, closed]

/-- Lines 384-666 leave early with routine events only. -/
theorem interpretBody_leaves {w w' : World} {e : Exit} (run : interpretBody w = .exit e w') :
    Appends Event.Routine w w' := by
  rcases Exec.bind_eq_exit_iff.mp run with failed | ⟨⟨⟩, w₁, checked, left⟩
  · exact checkServerHandshake_routine.of_exit failed
  · exact (checkServerHandshake_routine.of_next checked).trans
      (establish_leaves left)

/-! ## One call, and the event loop -/

/-- What one call can do to what the user has been told: nothing, or tell it
once, after which the session is closed or the connection is in `WS_CLIENT`.
The ledger only grows. -/
structure TellsOnce (w w' : World) : Prop where
  log : w.log <+: w'.log
  told : verdictCount w'.log = verdictCount w.log ∨
    verdictCount w'.log = verdictCount w.log + 1 ∧ (w'.closed = true ∨ w'.wsi.mode = .wsClient)

namespace TellsOnce

variable {w w' w₁ w₂ w₃ : World}

theorem of_appends (appends : Appends (fun e => e.isVerdict = false) w w') : TellsOnce w w' :=
  ⟨appends.grows, .inl appends.verdictCount_eq⟩

instance : IsRefl World TellsOnce := ⟨fun _ => of_appends (refl_of _ _)⟩

/-- A block that appends at most one verdict and leaves the session closed tells once. -/
theorem of_closed {events : List Event} (appended : w'.log = w.log ++ events)
    (once : verdictCount events ≤ 1) (closed : w'.closed = true) : TellsOnce w w' where
  log := appended ▸ List.prefix_append _ _
  told := by
    rw [appended, verdictCount_append]
    rcases Nat.le_one_iff_eq_zero_or_eq_one.mp once with none | one
    · exact .inl (by rw [none, Nat.add_zero])
    · exact .inr ⟨by rw [one], .inl closed⟩

/-- Telling after a block that told nothing. -/
theorem after (first : Appends (fun e => e.isVerdict = false) w₁ w₂) (second : TellsOnce w₂ w₃) :
    TellsOnce w₁ w₃ :=
  ⟨first.grows.trans second.log, by simpa only [first.verdictCount_eq] using second.told⟩

/-- Telling, then closing the session without telling. -/
theorem closing (first : TellsOnce w₁ w₂)
    (second : Appends (fun e => e.isVerdict = false) w₂ w₃ ∧ w₃.closed = true) :
    TellsOnce w₁ w₃ := by
  refine ⟨first.log.trans second.1.grows, ?_⟩
  rw [second.1.verdictCount_eq]
  exact first.told.imp_right fun told => ⟨told.1, .inl second.2⟩

end TellsOnce

/-- A block that tells nothing, then one that tells once. -/
theorem Exec.Keeps.tells_after {α β : Type} {x : Code α} {f : α → Code β}
    (first : Keeps (Appends fun e => e.isVerdict = false) x) (rest : ∀ a, Keeps TellsOnce (f a)) :
    Keeps TellsOnce (x >>= f) :=
  first.bind_of rest (fun _ _ => .of_appends) fun _ _ _ => .after

theorem interpretBail2_tells : Keeps TellsOnce interpretBail2 := fun w => by
  rw [interpretBail2_apply]
  exact .of_closed rfl (verdictCount_bail2Events _)
    (by simp [World.closed, any_isClose_bail2Events])

theorem interpretBail3_tells : Keeps TellsOnce interpretBail3 := fun w => by
  rw [interpretBail3_apply]
  exact .of_closed (List.append_assoc _ _ _) (by simpa using verdictCount_bail2Events w.wsi)
    (by simp [World.closed, any_isClose_bail2Events])

/-- `lws_client_interpret_server_handshake` tells the user at most once: on
`return 0` with `CLIENT_ESTABLISHED` in `WS_CLIENT`, on `return 1` with at
most `CLIENT_CONNECTION_ERROR` and the session closed. -/
theorem lwsClientInterpretServerHandshake_tells :
    Keeps TellsOnce lwsClientInterpretServerHandshake := fun w => by
  unfold lwsClientInterpretServerHandshake
  cases run : interpretBody w with
  | next u w' =>
      cases u
      obtain ⟨events, log, verdicts, -, established⟩ := interpretBody_tells run
      show TellsOnce w w'
      exact ⟨log ▸ List.prefix_append _ _,
        .inr ⟨by rw [log, verdictCount_append, verdicts], .inr established⟩⟩
  | exit e w' =>
      have quiet := (interpretBody_leaves run).mono fun _ => Event.Routine.not_verdict
      rcases e with _ | (_ | _) | _
      · exact .of_appends quiet
      · exact .after quiet (interpretBail2_tells w')
      · exact .after quiet (interpretBail3_tells w')
      · exact .of_appends quiet

theorem waitingServerReply_tells (parser : Parser) (revents : Revents) :
    Keeps TellsOnce (waitingServerReply parser revents) := by
  unfold waitingServerReply
  dsimp only
  refine .ite (keeps_leave_bind _ _) ((keeps_pure _).tells_after fun _ => ?_)
  refine .ite (keeps_leave_bind _ _) ((keeps_pure _).tells_after fun _ => ?_)
  refine appends_getWsi.tells_after fun _ => appends_getIo.tells_after fun _ =>
    (readLoop_appends (fun _ routineEvent _ => routineEvent.2) _ _ _).tells_after fun _ =>
      appends_getWsi.tells_after fun _ => ?_
  exact .ite (keeps_leave_bind _ _)
    ((keeps_pure _).tells_after fun _ => lwsClientInterpretServerHandshake_tells)

theorem dispatch_tells (parser : Parser) (revents : Revents) (mode : ConnMode) :
    Keeps TellsOnce (dispatch parser revents mode) := by
  have requests := issueHandshake_appends (fun _ routineEvent _ => routineEvent.not_verdict)
    (fun _ _ _ => rfl) (fun _ _ => rfl) rfl
  cases mode with
  | wsClientWaitingProxyReply =>
      exact fun w => .of_appends
        (((waitingProxyReply_appends (fun _ routineEvent _ => routineEvent.2)
          (fun _ _ _ => rfl) _).bind fun _ => requests) w)
  | wsClientIssueHandshake => exact fun w => .of_appends (requests w)
  | wsClientWaitingServerReply => exact waitingServerReply_tells parser revents
  | _ => exact keeps_pure _

/-- One call of `lws_client_socket_service` tells the user at most once, and
after telling leaves the session closed or the connection in `WS_CLIENT`. -/
theorem lwsClientSocketService_tells (parser : Parser) (revents : Revents) :
    Keeps TellsOnce (lwsClientSocketService parser revents) :=
  keeps_withLabels (R := fun w w' => Appends (fun e => e.isVerdict = false) w w' ∧ w'.closed = true)
    (appends_getWsi.tells_after fun wsi => dispatch_tells parser revents wsi.mode)
    (fun _ w => ⟨@serviceBail3_appends (fun e => e.isVerdict = false) rfl (fun _ _ _ => rfl) w,
      by simp [World.closed, Event.isClose]⟩)
    fun _ _ _ => TellsOnce.closing

/-- In `WS_CLIENT` a call does nothing. -/
theorem lwsClientSocketService_of_wsClient {parser : Parser} {revents : Revents} {w : World}
    (established : w.wsi.mode = .wsClient) :
    lwsClientSocketService parser revents w = .next 0 w := by
  rw [lwsClientSocketService_apply, established]
  rfl

/-- The user has been told the outcome at most once, and once told, the
session is closed or the connection is in `WS_CLIENT`. -/
def ToldOnce (w : World) : Prop :=
  verdictCount w.log ≤ 1 ∧ (verdictCount w.log = 1 → w.closed = true ∨ w.wsi.mode = .wsClient)

instance (w : World) : Decidable (ToldOnce w) := inferInstanceAs (Decidable (_ ∧ _))

theorem ToldOnce.of_untold {w : World} (untold : verdictCount w.log = 0) : ToldOnce w :=
  ⟨by omega, by omega⟩

/-- A live call keeps the user told at most once. -/
theorem toldOnce_call (parser : Parser) (revents : Revents) {w : World} (live : w.closed = false)
    (told : ToldOnce w) : ToldOnce (lwsClientSocketService parser revents w).state := by
  obtain ⟨atMostOnce, afterTelling⟩ := told
  by_cases untold : verdictCount w.log = 0
  · obtain ⟨-, same | ⟨once, after⟩⟩ := lwsClientSocketService_tells parser revents w
    · exact ToldOnce.of_untold (same.trans untold)
    · exact ⟨by omega, fun _ => after⟩
  · have established := (afterTelling (by omega)).resolve_left (by simp [live])
    rw [lwsClientSocketService_of_wsClient established]
    exact ⟨atMostOnce, afterTelling⟩

/-- The user is told how the handshake ended at most once.  Over any run of
the event loop from a world where the user has been told at most once, with
the session closed or the connection in `WS_CLIENT` if told, the ledger holds
at most one `CLIENT_ESTABLISHED` or `CLIENT_CONNECTION_ERROR`, and if it holds
one the session is closed or the connection established. -/
theorem serviceRun_toldOnce (parser : Parser) (events : List Revents) (w : World)
    (told : ToldOnce w) : ToldOnce (serviceRun parser events w) :=
  serviceRun_keeps (R := fun w w' => ToldOnce w → ToldOnce w') (fun _ => id)
    (fun _ _ _ first second => second ∘ first)
    (fun revents _ live => toldOnce_call parser revents live) events w told

theorem issuing_toldOnce :
    ToldOnce aboutToRequest ∧
      ToldOnce (serviceRun (fun _ => ⟨true, true, .ofList (switchingHeaders rfcAccept)⟩)
        [⟨true, false, false, false⟩, ⟨true, false, false, false⟩] aboutToRequest) :=
  ⟨ToldOnce.of_untold rfl, serviceRun_toldOnce _ _ _ (ToldOnce.of_untold rfl)⟩

end LwsClient
