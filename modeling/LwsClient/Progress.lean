import Mathlib.Logic.Relation
import LwsClient.Service

/-!
# The mode only moves forward, and the request goes out once

`client.c` writes `wsi->mode` in two places: line 232, once the request has
gone out, and line 619, once the reply is accepted; and it writes to the
server in one place, the request at lines 216-220.  Every other statement
leaves the mode alone and only appends to the ledger, with no write.
`Follows modes` is that frame with a move to one of `modes` allowed, and every
function below but the request's keeps it (in the sense of `Exec.Keeps`),
proved statement by statement as the function is written; `Sends` is the
frame of the request's block, with one write after which the connection
waits for the reply or is closed.  So one call of `lws_client_socket_service`
moves the mode only along `ConnMode.successors` and writes only from a live
connection that has not sent its request, and a whole run of the event loop
moves the mode only forward, never writes the request twice, and only
appends to its ledger.
-/

namespace LwsClient

open Exec

/-- `w'` comes after `w` in a block that may move the mode to one of `modes`
and sends nothing: the mode is `w`'s or one of `modes`, and the ledger extends
`w`'s with no write. -/
structure Follows (modes : List ConnMode) (w w' : World) : Prop where
  mode : w'.wsi.mode = w.wsi.mode ∨ w'.wsi.mode ∈ modes
  log : w.log <+: w'.log
  writes : writeCount w'.log = writeCount w.log

theorem Follows.trans {modes : List ConnMode} {w₁ w₂ w₃ : World}
    (first : Follows modes w₁ w₂) (second : Follows modes w₂ w₃) :
    Follows modes w₁ w₃ where
  mode := second.mode.elim (fun same => same ▸ first.mode) .inr
  log := first.log.trans second.log
  writes := second.writes.trans first.writes

/-- A block that appends events with no write, leaving the mode alone. -/
theorem follows_append {modes : List ConnMode} {w w' : World} {events : List Event}
    (mode : w'.wsi.mode = w.wsi.mode) (appended : w'.log = w.log ++ events)
    (quiet : writeCount events = 0) : Follows modes w w' where
  mode := .inl mode
  log := appended ▸ List.prefix_append _ _
  writes := by rw [appended, writeCount_append, quiet, Nat.add_zero]

instance (modes : List ConnMode) : IsRefl World (Follows modes) :=
  ⟨fun _ => ⟨.inl rfl, List.prefix_refl _, rfl⟩⟩

instance (modes : List ConnMode) : IsTrans World (Follows modes) :=
  ⟨fun _ _ _ => Follows.trans⟩

section Frames

variable {modes : List ConnMode}

/-! ## Primitives -/

theorem keeps_getWsi : Keeps (Follows modes) getWsi := fun _ => refl_of _ _

theorem keeps_getContext : Keeps (Follows modes) getContext := fun _ => refl_of _ _

theorem keeps_getIo : Keeps (Follows modes) getIo := fun _ => refl_of _ _

theorem keeps_goto {α : Type} (l : Label) : Keeps (Follows modes) (goto l : Code α) :=
  fun _ => refl_of _ _

theorem keeps_ret {α : Type} (v : Int) : Keeps (Follows modes) (ret v : Code α) :=
  fun _ => refl_of _ _

theorem keeps_deref {α : Type} (p : Option α) : Keeps (Follows modes) (deref p) := by
  cases p <;> exact fun _ => refl_of _ _

/-- An update of the connection keeps the frame when it moves the mode
nowhere but to one of `modes`. -/
theorem keeps_modifyWsi {f : Conn → Conn}
    (moves : ∀ wsi, (f wsi).mode = wsi.mode ∨ (f wsi).mode ∈ modes) :
    Keeps (Follows modes) (modifyWsi f) :=
  fun w => ⟨moves w.wsi, List.prefix_refl _, rfl⟩

theorem keeps_libwebsocketSetTimeout (t : PendingTimeout) :
    Keeps (Follows modes) (libwebsocketSetTimeout t) :=
  keeps_modifyWsi fun _ => .inl rfl

theorem keeps_setServiceBufferByte (i : Nat) (c : Char) :
    Keeps (Follows modes) (setServiceBufferByte i c) :=
  fun _ => ⟨.inl rfl, List.prefix_refl _, rfl⟩

theorem keeps_storeServiceBuffer (data : List Char) :
    Keeps (Follows modes) (storeServiceBuffer data) :=
  fun _ => ⟨.inl rfl, List.prefix_refl _, rfl⟩

theorem keeps_libwebsocketsGetRandom (len : Nat) :
    Keeps (Follows modes) (libwebsocketsGetRandom len) :=
  fun _ => ⟨.inl rfl, List.prefix_refl _, rfl⟩

theorem keeps_emit {e : Event} (quiet : e.isWrite = false) : Keeps (Follows modes) (emit e) :=
  fun _ => follows_append rfl rfl (by simp [writeCount, quiet])

theorem keeps_free (b : Buffer) : Keeps (Follows modes) (free b) := keeps_emit rfl

theorem keeps_freeIfSet (p : Option CStr) (b : Buffer) : Keeps (Follows modes) (freeIfSet p b) :=
  .ite (keeps_free b) (keeps_pure _)

theorem keeps_libwebsocketCloseAndFreeSession (status : CloseStatus) :
    Keeps (Follows modes) (libwebsocketCloseAndFreeSession status) :=
  fun _ => follows_append rfl rfl rfl

theorem keeps_protocolCallback (i : Nat) (reason : Reason) :
    Keeps (Follows modes) (protocolCallback i reason) :=
  fun _ => follows_append rfl rfl rfl

theorem keeps_extensionCallback (i : Nat) (reason : ExtReason) (user : Option Nat) :
    Keeps (Follows modes) (extensionCallback i reason user) :=
  fun _ => follows_append rfl rfl rfl

theorem keeps_malloc (size : Nat) : Keeps (Follows modes) (malloc size) :=
  fun _ => follows_append rfl rfl rfl

theorem keeps_read (len : Nat) : Keeps (Follows modes) (read len) :=
  fun _ => follows_append rfl rfl rfl

theorem keeps_sslConnect : Keeps (Follows modes) sslConnect :=
  fun _ => follows_append rfl rfl rfl

/-- A function keeps `S` when its body does and its labels keep an `R` that
`S` absorbs after it. -/
theorem keeps_withLabels {R S : World → World → Prop} {body : Code Int}
    {labels : Label → Code Int} (kept : Keeps S body) (landed : ∀ l, Keeps R (labels l))
    (compose : ∀ w₁ w₂ w₃, S w₁ w₂ → R w₂ w₃ → S w₁ w₃) :
    Keeps S (withLabels body labels) :=
  fun w => by
    have first := kept w
    unfold withLabels
    split
    · rename_i run
      rw [run] at first
      exact compose _ _ _ first (landed _ _)
    · rename_i run
      rwa [run] at first
    · exact first

/-! ## The request -/

theorem keeps_pollOkToPropose (name : List Char) :
    ∀ exts, Keeps (Follows modes) (pollOkToPropose name exts)
  | [] => keeps_pure _
  | _ :: rest =>
      (keeps_extensionCallback _ _ _).bind fun _ =>
        (keeps_pollOkToPropose name rest).bind fun _ => keeps_pure _

theorem keeps_proposeExtensions : ∀ (extCount : Nat) exts,
    Keeps (Follows modes) (proposeExtensions extCount exts)
  | _, [] => keeps_pure _
  | _, _ :: rest => by
      unfold proposeExtensions
      exact keeps_getContext.bind fun _ => (keeps_pollOkToPropose _ _).bind fun _ =>
        .ite (keeps_proposeExtensions _ rest) ((keeps_protocolCallback _ _).bind fun _ =>
          .ite (keeps_proposeExtensions _ rest)
            ((keeps_proposeExtensions _ rest).bind fun _ => keeps_pure _))

theorem keeps_acceptHash (keyB64 : List Char) : Keeps (Follows modes) (acceptHash keyB64) :=
  .ite (keeps_pure _) (.ite (keeps_pure _) (keeps_leave _))

theorem keeps_libwebsocketsGenerateClientHandshake :
    Keeps (Follows modes) libwebsocketsGenerateClientHandshake := by
  unfold libwebsocketsGenerateClientHandshake
  refine (keeps_libwebsocketsGetRandom _).bind fun _ => keeps_getWsi.bind fun _ => .ite ?_ ?_
  · exact (keeps_free _).bind fun _ => (keeps_free _).bind fun _ =>
      (keeps_freeIfSet _ _).bind fun _ => (keeps_freeIfSet _ _).bind fun _ =>
        (keeps_libwebsocketCloseAndFreeSession _).bind fun _ => keeps_pure _
  · refine (keeps_pure _).bind fun _ => ?_
    dsimp only
    refine keeps_getContext.bind fun _ => (keeps_proposeExtensions _ _).bind fun _ => ?_
    refine (keeps_protocolCallback _ _).bind fun _ => (keeps_storeServiceBuffer _).bind fun _ => ?_
    refine (keeps_acceptHash _).bind fun _ =>
      (keeps_modifyWsi fun _ => .inl (by rfl)).bind fun _ => ?_
    exact (keeps_free _).bind fun _ => (keeps_free _).bind fun _ =>
      (keeps_freeIfSet _ _).bind fun _ => keeps_pure _

/-! ## The reply -/

theorem keeps_lowerToken (t : Token) : Keeps (Follows modes) (lowerToken t) :=
  keeps_getWsi.bind fun _ => (keeps_deref _).bind fun _ =>
    (keeps_modifyWsi fun _ => .inl (by rfl)).bind fun _ => keeps_pure _

theorem keeps_checkResponseHeaders : Keeps (Follows modes) checkResponseHeaders := by
  unfold checkResponseHeaders
  refine (keeps_lowerToken _).bind fun _ => ?_
  dsimp only
  refine .ite (keeps_leave_bind _ _) ((keeps_pure _).bind fun _ =>
    (keeps_lowerToken _).bind fun _ => ?_)
  refine .ite (keeps_leave_bind _ _) ((keeps_pure _).bind fun _ =>
    (keeps_lowerToken _).bind fun _ => ?_)
  exact .ite (keeps_goto _) (keeps_pure _)

theorem keeps_selectProtocol : Keeps (Follows modes) selectProtocol := by
  unfold selectProtocol
  refine keeps_getWsi.bind fun _ => .ite ?absent ?present
  case absent =>
    exact (keeps_modifyWsi fun _ => .inl (by rfl)).bind fun _ => keeps_freeIfSet _ _
  case present =>
    refine (keeps_deref _).bind fun _ => (keeps_deref _).bind fun _ =>
      (keeps_freeIfSet _ _).bind fun _ => ?_
    dsimp only
    refine .ite (keeps_leave_bind _ _)
      ((keeps_pure _).bind fun _ => keeps_getContext.bind fun _ => ?_)
    split
    · exact (keeps_modifyWsi fun _ => .inl (by rfl)).bind fun _ => keeps_goto _
    · exact keeps_modifyWsi fun _ => .inl (by rfl)

theorem keeps_instantiateNamed (name : List Char) :
    ∀ (found : Bool) exts, Keeps (Follows modes) (instantiateNamed name found exts)
  | _, [] => keeps_pure _
  | _, _ :: rest => by
      unfold instantiateNamed
      refine .ite (keeps_instantiateNamed name _ rest) ((keeps_malloc _).bind fun _ => ?_)
      dsimp only
      exact .ite (keeps_leave_bind _ _) ((keeps_pure _).bind fun _ => keeps_getWsi.bind fun _ =>
        (keeps_modifyWsi fun _ => .inl (by rfl)).bind fun _ =>
          (keeps_extensionCallback _ _ _).bind fun _ => keeps_instantiateNamed name _ rest)

theorem keeps_checkExtensionName (name : List Char) :
    Keeps (Follows modes) (checkExtensionName name) :=
  keeps_getContext.bind fun _ => (keeps_instantiateNamed _ _ _).bind fun _ =>
    .ite (keeps_goto _) (keeps_pure _)

theorem keeps_extensionLoop : ∀ extName rest, Keeps (Follows modes) (extensionLoop extName rest)
  | _, [] => keeps_checkExtensionName _
  | _, _ :: rest => by
      unfold extensionLoop
      exact .ite (keeps_extensionLoop _ rest) (.ite (keeps_extensionLoop _ rest)
        ((keeps_checkExtensionName _).bind fun _ => keeps_extensionLoop _ rest))

theorem keeps_instantiateExtensions : Keeps (Follows modes) instantiateExtensions :=
  keeps_getWsi.bind fun _ =>
    .ite ((keeps_deref _).bind fun _ => keeps_extensionLoop _ _) (keeps_pure _)

theorem keeps_checkAccept : Keeps (Follows modes) checkAccept :=
  keeps_getWsi.bind fun _ => (keeps_deref _).bind fun _ => .ite (keeps_goto _) (keeps_pure _)

theorem keeps_checkServerHandshake : Keeps (Follows modes) checkServerHandshake :=
  keeps_checkResponseHeaders.bind fun _ => keeps_selectProtocol.bind fun _ =>
    keeps_instantiateExtensions.bind fun _ => keeps_checkAccept

theorem keeps_libwebsocketEnsureUserSpace (size : Nat) :
    Keeps (Follows modes) (libwebsocketEnsureUserSpace size) :=
  keeps_getWsi.bind fun _ => .ite (keeps_pure _) ((keeps_pure _).bind fun _ =>
    (keeps_malloc _).bind fun _ =>
      .ite ((keeps_modifyWsi fun _ => .inl (by rfl)).bind fun _ => keeps_pure _)
        ((keeps_pure _).bind fun _ => keeps_pure _))

theorem keeps_allocateUserSpace (protocol : Protocol) :
    Keeps (Follows modes) (allocateUserSpace protocol) :=
  .ite ((keeps_libwebsocketEnsureUserSpace _).bind fun _ => .ite (keeps_goto _) (keeps_pure _))
    (keeps_pure _)

theorem keeps_freeTokenList (table : HeaderTable) :
    ∀ tokens, Keeps (Follows modes) (freeTokenList table tokens)
  | [] => keeps_pure _
  | _ :: rest => (keeps_freeIfSet _ _).bind fun _ => keeps_freeTokenList table rest

theorem keeps_freeTokens : Keeps (Follows modes) freeTokens :=
  keeps_getWsi.bind fun _ => keeps_freeTokenList _ _

/-- Lines 597-622 move the connection to `WS_CLIENT`. -/
theorem keeps_markEstablished (toClient : .wsClient ∈ modes) (i : Nat) :
    Keeps (Follows modes) (markEstablished i) :=
  (keeps_protocolCallback _ _).bind fun _ => (keeps_libwebsocketSetTimeout _).bind fun _ =>
    keeps_freeTokens.bind fun _ => (keeps_modifyWsi fun _ => .inr toClient).bind fun _ =>
      keeps_modifyWsi fun _ => .inl rfl

theorem keeps_allocateRxBuffer (protocol : Protocol) :
    Keeps (Follows modes) (allocateRxBuffer protocol) :=
  keeps_getContext.bind fun _ => (keeps_malloc _).bind fun _ =>
    .ite (keeps_leave_bind _ _)
      ((keeps_pure _).bind fun _ => keeps_modifyWsi fun _ => .inl (by rfl))

theorem keeps_announceEstablished :
    ∀ exts, Keeps (Follows modes) (announceEstablished exts)
  | [] => keeps_pure _
  | _ :: rest => keeps_getWsi.bind fun _ => (keeps_extensionCallback _ _ _).bind fun _ =>
      keeps_announceEstablished rest

theorem keeps_announceConnection (i : Nat) : Keeps (Follows modes) (announceConnection i) :=
  (keeps_protocolCallback _ _).bind fun _ => keeps_getContext.bind fun _ =>
    keeps_announceEstablished _

theorem keeps_establish (toClient : .wsClient ∈ modes) : Keeps (Follows modes) establish :=
  keeps_getWsi.bind fun _ => keeps_getContext.bind fun _ => (keeps_deref _).bind fun _ =>
    (keeps_deref _).bind fun _ => (keeps_allocateUserSpace _).bind fun _ =>
      (keeps_markEstablished toClient _).bind fun _ => (keeps_allocateRxBuffer _).bind fun _ =>
        keeps_announceConnection _

theorem keeps_interpretBody (toClient : .wsClient ∈ modes) :
    Keeps (Follows modes) interpretBody :=
  keeps_checkServerHandshake.bind fun _ => keeps_establish toClient

theorem keeps_interpretBail2 : Keeps (Follows modes) interpretBail2 := by
  unfold interpretBail2
  refine keeps_getWsi.bind fun _ => ?_
  dsimp only
  split
  · exact (keeps_protocolCallback _ _).bind fun _ => (keeps_pure _).bind fun _ =>
      keeps_freeTokens.bind fun _ => (keeps_libwebsocketCloseAndFreeSession _).bind fun _ =>
        keeps_pure _
  · exact (keeps_pure _).bind fun _ => keeps_freeTokens.bind fun _ =>
      (keeps_libwebsocketCloseAndFreeSession _).bind fun _ => keeps_pure _

theorem keeps_interpretBail3 : Keeps (Follows modes) interpretBail3 :=
  keeps_getWsi.bind fun _ => (keeps_freeIfSet _ _).bind fun _ => keeps_interpretBail2

theorem keeps_lwsClientInterpretServerHandshake (toClient : .wsClient ∈ modes) :
    Keeps (Follows modes) lwsClientInterpretServerHandshake := fun w => by
  have body := keeps_interpretBody toClient w
  unfold lwsClientInterpretServerHandshake
  split <;> rename_i run <;> rw [run] at body
  · exact body
  · exact body.trans (keeps_interpretBail3 _)
  · exact body.trans (keeps_interpretBail2 _)
  · exact body

/-! ## The socket service -/

theorem keeps_libwebsocketParse (parser : Parser) (c : Char) :
    Keeps (Follows modes) (libwebsocketParse parser c) :=
  (keeps_emit (by rfl)).bind fun _ => keeps_getWsi.bind fun _ =>
    (keeps_modifyWsi fun _ => .inl (by rfl)).bind fun _ => keeps_pure _

theorem keeps_waitingProxyReply (revents : Revents) :
    Keeps (Follows modes) (waitingProxyReply revents) := by
  unfold waitingProxyReply
  dsimp only
  refine .ite ((keeps_libwebsocketCloseAndFreeSession _).bind fun _ => keeps_leave_bind _ _)
    ((keeps_pure _).bind fun _ => keeps_getContext.bind fun _ =>
      (keeps_read _).bind fun result => ?_)
  cases result with
  | error e => exact (keeps_libwebsocketCloseAndFreeSession _).bind fun _ => keeps_ret _
  | bytes data =>
      exact (keeps_storeServiceBuffer _).bind fun _ =>
        (keeps_setServiceBufferByte _ _).bind fun _ => keeps_getContext.bind fun _ =>
          .ite ((keeps_libwebsocketCloseAndFreeSession _).bind fun _ => keeps_leave_bind _ _)
            ((keeps_pure _).bind fun _ => keeps_libwebsocketSetTimeout _)

theorem keeps_connectTls : Keeps (Follows modes) connectTls := by
  unfold connectTls
  refine (keeps_emit (by rfl)).bind fun _ => (keeps_protocolCallback _ _).bind fun _ =>
    keeps_getWsi.bind fun _ => ?_
  dsimp only
  refine .ite ((keeps_emit (by rfl)).bind fun _ =>
      (keeps_modifyWsi fun _ => .inl (by rfl)).bind fun _ => ?_)
    ((keeps_pure _).bind fun _ => ?_) <;>
  refine .ite (keeps_sslConnect.bind fun result => ?_) (keeps_modifyWsi fun _ => .inl (by rfl)) <;>
  cases result with
  | error e =>
      exact .ite ((keeps_emit (by rfl)).bind fun _ => keeps_leave_bind _ _)
        ((keeps_pure _).bind fun _ => keeps_ret _)
  | failed => exact keeps_ret _
  | connected =>
      exact keeps_getIo.bind fun _ =>
        .ite ((keeps_libwebsocketCloseAndFreeSession _).bind fun _ => keeps_ret _) (keeps_pure _)

theorem keeps_readStep (parser : Parser) (tls : Bool) (c : Char) :
    Keeps (Follows modes) (readStep parser tls c) := by
  refine (keeps_read _).bind fun result => ?_
  dsimp only
  cases result with
  | error e => exact .ite (keeps_leave_bind _ _) ((keeps_pure _).bind fun _ => keeps_goto _)
  | bytes data =>
      cases data <;>
      exact (keeps_libwebsocketParse _ _).bind fun _ =>
        .ite (keeps_leave_bind _ _) ((keeps_pure _).bind fun _ => keeps_pure _)

theorem keeps_readLoop (parser : Parser) (tls : Bool) (c : Char) :
    Keeps (Follows modes) (readLoop parser tls c) := by
  intro w
  induction c, w using readLoop.induct parser tls with
  | case1 c w complete =>
      rw [readLoop_of_complete complete]
      exact refl_of _ _
  | case2 c w incomplete b w' step later =>
      have first : Follows modes w (readStep parser tls c w).state := keeps_readStep parser tls c w
      rw [step] at first
      rw [readLoop_of_byte (eq_false_of_ne_true incomplete) step]
      exact first.trans later
  | case3 c w incomplete w' step =>
      have first : Follows modes w (readStep parser tls c w).state := keeps_readStep parser tls c w
      rw [step] at first
      rwa [readLoop_of_stop (eq_false_of_ne_true incomplete) step]
  | case4 c w incomplete e w' step =>
      have first : Follows modes w (readStep parser tls c w).state := keeps_readStep parser tls c w
      rw [step] at first
      rwa [readLoop_of_exit (eq_false_of_ne_true incomplete) step]

theorem keeps_waitingServerReply (toClient : .wsClient ∈ modes) (parser : Parser)
    (revents : Revents) :
    Keeps (Follows modes) (waitingServerReply parser revents) := by
  unfold waitingServerReply
  dsimp only
  refine .ite (keeps_leave_bind _ _) ((keeps_pure _).bind fun _ => ?_)
  refine .ite (keeps_leave_bind _ _) ((keeps_pure _).bind fun _ => ?_)
  refine keeps_getWsi.bind fun _ => keeps_getIo.bind fun _ => (keeps_readLoop _ _ _).bind fun _ =>
    keeps_getWsi.bind fun _ => ?_
  exact .ite (keeps_leave_bind _ _)
    ((keeps_pure _).bind fun _ => keeps_lwsClientInterpretServerHandshake toClient)

theorem keeps_serviceBail3 : Keeps (Follows modes) serviceBail3 :=
  keeps_getWsi.bind fun _ => (keeps_freeIfSet _ _).bind fun _ =>
    (keeps_libwebsocketCloseAndFreeSession _).bind fun _ => keeps_pure _

end Frames

/-! ## The request -/

/-- Whether the session has been closed stays so as the ledger grows. -/
theorem closed_of_grows {w w' : World} (grows : w.log <+: w'.log) (closed : w.closed = true) :
    w'.closed = true := by
  obtain ⟨later, appended⟩ := grows
  unfold World.closed at closed ⊢
  rw [← appended, List.any_append, closed, Bool.true_or]

/-- `w'` comes after `w` in the block that sends the request (lines 91-236):
the mode is `w`'s or `WAITING_SERVER_REPLY`, and the ledger extends `w`'s with
at most one write, after which the connection waits for the reply or has been
closed. -/
structure Sends (w w' : World) : Prop where
  mode : w'.wsi.mode = w.wsi.mode ∨ w'.wsi.mode = .wsClientWaitingServerReply
  log : w.log <+: w'.log
  writes : writeCount w'.log ≤ writeCount w.log + 1
  sent : writeCount w'.log = writeCount w.log + 1 →
    w'.wsi.mode = .wsClientWaitingServerReply ∨ w'.closed = true

namespace Sends

variable {w w₁ w₂ : World}

theorem of_follows (frame : Follows [.wsClientWaitingServerReply] w w₁) : Sends w w₁ where
  mode := frame.mode.imp_right List.mem_singleton.mp
  log := frame.log
  writes := frame.writes ▸ Nat.le_succ _
  sent := fun wrote => absurd (frame.writes ▸ wrote) (Nat.succ_ne_self _).symm

theorem after (first : Follows [.wsClientWaitingServerReply] w w₁) (second : Sends w₁ w₂) :
    Sends w w₂ where
  mode := second.mode.elim
    (fun same => same ▸ first.mode.imp_right List.mem_singleton.mp) .inr
  log := first.log.trans second.log
  writes := first.writes ▸ second.writes
  sent := first.writes ▸ second.sent

theorem before (first : Sends w w₁) (second : Follows [.wsClientWaitingServerReply] w₁ w₂) :
    Sends w w₂ where
  mode := second.mode.elim (fun same => same ▸ first.mode) fun moved =>
    .inr (List.mem_singleton.mp moved)
  log := first.log.trans second.log
  writes := second.writes ▸ first.writes
  sent := fun wrote => (first.sent (second.writes ▸ wrote)).elim
    (fun waiting => .inl (second.mode.elim (fun same => same.trans waiting)
      List.mem_singleton.mp))
    fun closed => .inr (closed_of_grows second.log closed)

end Sends

/-- Lines 212-236: one write, after which the connection waits for the reply
or, the write having failed, is closed. -/
theorem keeps_sendRequest (request : List Char) : Keeps Sends (sendRequest request) := fun w => by
  cases result : w.io.nextWrite request.length with
  | error e =>
      rw [sendRequest_of_error result]
      exact ⟨.inl rfl, List.prefix_append _ _, by simp [Res.state, writeCount, Event.isWrite],
        fun _ => .inr (by simp [Res.state, World.closed, Event.isClose])⟩
  | wrote n =>
      rw [sendRequest_of_wrote result]
      exact ⟨.inr rfl, List.prefix_append _ _, by simp [Res.state, writeCount, Event.isWrite],
        fun _ => .inl rfl⟩

theorem keeps_issueHandshake : Keeps Sends issueHandshake :=
  keeps_connectTls.bind_of (fun _ => keeps_libwebsocketsGenerateClientHandshake.bind_of
      (fun
        | none => .mono (fun _ _ => Sends.of_follows)
            ((keeps_libwebsocketCloseAndFreeSession _).bind fun _ => keeps_ret 0)
        | some request => keeps_sendRequest request)
      (fun _ _ => Sends.of_follows) fun _ _ _ => Sends.after)
    (fun _ _ => Sends.of_follows) fun _ _ _ => Sends.after

/-! ## One call -/

/-- Where one call of `lws_client_socket_service` (lines 52-330) can move a
connection that starts it in `mode`: the request sent moves
`WAITING_PROXY_REPLY` and `ISSUE_HANDSHAKE` to `WAITING_SERVER_REPLY`, the
reply accepted moves `WAITING_SERVER_REPLY` to `WS_CLIENT`. -/
def ConnMode.successors : ConnMode → List ConnMode
  | .wsClientWaitingProxyReply => [.wsClientWaitingServerReply]
  | .wsClientIssueHandshake => [.wsClientWaitingServerReply]
  | .wsClientWaitingServerReply => [.wsClient]
  | _ => []

/-- The modes in which a call runs the request's block (lines 54-236). -/
def ConnMode.Requests (mode : ConnMode) : Prop :=
  mode = .wsClientWaitingProxyReply ∨ mode = .wsClientIssueHandshake

instance (mode : ConnMode) : Decidable mode.Requests :=
  inferInstanceAs (Decidable (_ ∨ _))

/-- A live connection whose next call would run the request's block. -/
def World.MayRequest (w : World) : Prop :=
  w.closed = false ∧ w.wsi.mode.Requests

instance (w : World) : Decidable w.MayRequest :=
  inferInstanceAs (Decidable (_ ∧ _))

/-- The writes of the ledger, with the one write a connection that may still
request has to come. -/
def requestPotential (w : World) : Nat :=
  writeCount w.log + if w.MayRequest then 1 else 0

/-- What one call does to a live connection: it moves the mode along
`successors`, extends the ledger, and never raises `requestPotential`. -/
structure CallStep (w w' : World) : Prop where
  mode : w'.wsi.mode = w.wsi.mode ∨ w'.wsi.mode ∈ w.wsi.mode.successors
  log : w.log <+: w'.log
  budget : requestPotential w' ≤ requestPotential w

/-- No call moves a connection back to the request's block. -/
theorem not_requests_of_mem_successors {mode m : ConnMode} (moved : m ∈ mode.successors) :
    ¬m.Requests := by
  cases mode <;> simp_all [ConnMode.successors, ConnMode.Requests]

theorem CallStep.of_follows {w w' : World} (quiet : ¬w.wsi.mode.Requests)
    (frame : Follows w.wsi.mode.successors w w') : CallStep w w' where
  mode := frame.mode
  log := frame.log
  budget := by
    have stays : ¬w'.MayRequest := fun ⟨_, requests⟩ =>
      frame.mode.elim (fun same => quiet (same ▸ requests)) fun moved =>
        not_requests_of_mem_successors moved requests
    rw [requestPotential, requestPotential, if_neg stays, if_neg fun may => quiet may.2,
      frame.writes]

theorem CallStep.of_sends {w w' : World} (live : w.closed = false) (requests : w.wsi.mode.Requests)
    (sends : Sends w w') : CallStep w w' where
  mode := sends.mode.imp_right fun waiting => by
    rcases requests with proxy | issue <;> simp [ConnMode.successors, *]
  log := sends.log
  budget := by
    have done : w'.MayRequest → writeCount w'.log ≠ writeCount w.log + 1 :=
      fun ⟨live', requests'⟩ wrote => (sends.sent wrote).elim
        (fun waiting => by rcases requests' with h | h <;> rw [waiting] at h <;> cases h)
        fun closed => by rw [closed] at live'; cases live'
    have writes := sends.writes
    rw [requestPotential, requestPotential, if_pos (show w.MayRequest from ⟨live, requests⟩)]
    split_ifs with may
    · have := done may
      omega
    · omega

theorem keeps_dispatch_of_requests (parser : Parser) (revents : Revents) {mode : ConnMode}
    (requests : mode.Requests) : Keeps Sends (dispatch parser revents mode) := by
  rcases requests with rfl | rfl
  · exact (keeps_waitingProxyReply _).bind_of (fun _ => keeps_issueHandshake)
      (fun _ _ => Sends.of_follows) fun _ _ _ => Sends.after
  · exact keeps_issueHandshake

theorem keeps_dispatch (parser : Parser) (revents : Revents) {mode : ConnMode}
    (quiet : ¬mode.Requests) : Keeps (Follows mode.successors) (dispatch parser revents mode) := by
  cases mode with
  | wsClientWaitingProxyReply => exact absurd (.inl rfl) quiet
  | wsClientIssueHandshake => exact absurd (.inr rfl) quiet
  | wsClientWaitingServerReply => exact keeps_waitingServerReply (.head _) _ _
  | _ => exact keeps_pure _

theorem lwsClientSocketService_step (parser : Parser) (revents : Revents) {w : World}
    (live : w.closed = false) : CallStep w (lwsClientSocketService parser revents w).state := by
  rw [lwsClientSocketService_apply]
  by_cases requests : w.wsi.mode.Requests
  · exact .of_sends live requests
      (keeps_withLabels (keeps_dispatch_of_requests parser revents requests)
        (fun _ => keeps_serviceBail3) (fun _ _ _ => Sends.before) w)
  · exact .of_follows requests (keeps_withLabels (keeps_dispatch parser revents requests)
      (fun _ => keeps_serviceBail3) (fun _ _ _ => Follows.trans) w)

/-! ## Runs of the event loop -/

section Runs

variable {parser : Parser}

/-- What every call from a live world keeps, reflexive and transitive, holds
over every run of the event loop. -/
theorem serviceRun_keeps {R : World → World → Prop} (refl : ∀ w, R w w)
    (trans : ∀ w₁ w₂ w₃, R w₁ w₂ → R w₂ w₃ → R w₁ w₃)
    (call : ∀ revents w, w.closed = false →
      R w (lwsClientSocketService parser revents w).state) :
    ∀ events w, R w (serviceRun parser events w)
  | [], w => refl w
  | revents :: later, w => by
      rw [serviceRun]
      by_cases closed : w.closed = true
      · rw [if_pos closed]
        exact refl w
      · rw [if_neg closed]
        have first := call revents w (eq_false_of_ne_true closed)
        split <;> rename_i run <;> rw [run] at first
        · exact trans _ _ _ first (serviceRun_keeps refl trans call later _)
        · exact first

/-- `w'` is `w` any number of calls later: its mode is reached from `w`'s by
moves of `ConnMode.successors`, and its ledger extends `w`'s. -/
structure Advances (w w' : World) : Prop where
  mode : Relation.ReflTransGen (fun m m' => m' ∈ m.successors) w.wsi.mode w'.wsi.mode
  log : w.log <+: w'.log

theorem Advances.of_callStep {w w' : World} (call : CallStep w w') : Advances w w' :=
  ⟨call.mode.elim (fun same => same ▸ .refl) fun moved => .single moved, call.log⟩

/-- The mode only moves forward.  Over any run of the event loop, from any
world, the connection's mode moves only along the handshake:
`WAITING_PROXY_REPLY` or `ISSUE_HANDSHAKE` to `WAITING_SERVER_REPLY` (line
232), and on to `WS_CLIENT` (line 619), never back; and the ledger of what the
client did only grows. -/
theorem serviceRun_advances (parser : Parser) (events : List Revents) (w : World) :
    Advances w (serviceRun parser events w) :=
  serviceRun_keeps (fun _ => ⟨.refl, List.prefix_refl _⟩)
    (fun _ _ _ first second => ⟨first.mode.trans second.mode, first.log.trans second.log⟩)
    (fun revents _ live => .of_callStep (lwsClientSocketService_step parser revents live)) events w

/-- The request goes out at most once.  Over any run of the event loop, from
any world, the client writes to the server at most once, and not at all
unless the connection starts live in `WAITING_PROXY_REPLY` or
`ISSUE_HANDSHAKE`: a successful `send` moves it to `WAITING_SERVER_REPLY`,
where nothing is written, and a failed one closes the session. -/
theorem serviceRun_requests_once (parser : Parser) (events : List Revents) (w : World) :
    writeCount (serviceRun parser events w).log ≤
      writeCount w.log + if w.MayRequest then 1 else 0 :=
  (Nat.le_add_right _ _).trans <|
    serviceRun_keeps (R := fun w w' => requestPotential w' ≤ requestPotential w)
      (fun _ => le_rfl) (fun _ _ _ first second => second.trans first)
      (fun revents _ live => (lwsClientSocketService_step parser revents live).budget) events w

end Runs

end LwsClient
