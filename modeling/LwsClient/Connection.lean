import LwsClient.CString
import LwsClient.Exec

/-!
# The client connection and its environment

`struct libwebsocket` and `struct libwebsocket_context` are reduced to the
fields `client.c` reads or writes.  Everything the code gets from outside its
own memory (the socket, the TLS layer, `malloc`, the random device) comes
from the scripts of `Io`, one result per call, so a theorem over all scripts
is a theorem over all behaviours of the environment.  Callbacks and frees go
to a ledger of `Event`s in delivery order.
-/

namespace LwsClient

/-- The `WSI_TOKEN_*` slots of `wsi->u.hdr.hdrs` that a server reply fills. -/
inductive Token
  | http | upgrade | connection | accept | nonce | protocol | extensions
  deriving DecidableEq, Repr

/-- The slots in `WSI_TOKEN_*` order, the range of the `n < WSI_TOKEN_COUNT` loops. -/
def Token.all : List Token :=
  [.http, .upgrade, .connection, .accept, .nonce, .protocol, .extensions]

/-- `hdrs[t].token` for every slot: a C string, or `none` for NULL. -/
def HeaderTable := Token → Option CStr

/-- The table of a connection whose slots are all NULL. -/
def HeaderTable.empty : HeaderTable := fun _ => none

def HeaderTable.set (table : HeaderTable) (t : Token) (value : Option CStr) : HeaderTable :=
  fun u => if u = t then value else table u

@[simp] theorem HeaderTable.set_same (table : HeaderTable) (t : Token) (value : Option CStr) :
    table.set t value t = value := by
  simp [HeaderTable.set]

@[simp] theorem HeaderTable.set_other (table : HeaderTable) {t u : Token}
    (value : Option CStr) (different : u ≠ t) : table.set t value u = table u := by
  simp [HeaderTable.set, different]

/-- `hdrs[t].token_len`: the parser stores the length of what it collected. -/
def tokenLen : Option CStr → Nat
  | none => 0
  | some s => s.chars.length

/-- The `LWS_CONNMODE_*` values `lws_client_socket_service` dispatches on;
`other` stands for every server-side mode, which it ignores. -/
inductive ConnMode
  | wsClientWaitingProxyReply
  | wsClientIssueHandshake
  | wsClientWaitingServerReply
  | wsClientWaitingExtensionConnect
  | wsClientPendingCandidateChild
  | wsClient
  | other
  deriving DecidableEq, Repr

/-- `wsi->state`: `client.c` writes only `WSI_STATE_ESTABLISHED`. -/
inductive WsiState
  | established
  | other
  deriving DecidableEq, Repr

/-- `wsi->pending_timeout`. -/
inductive PendingTimeout
  | noPendingTimeout
  | awaitingProxyResponse
  | sentClientHandshake
  | awaitingServerResponse
  deriving DecidableEq, Repr

/-- `wsi->use_ssl`: 0, 1, or 2 when a self-signed server certificate is allowed. -/
inductive UseSsl
  | off | on | allowSelfSigned
  deriving DecidableEq, Repr

inductive CloseStatus
  | noStatus | protocolErr
  deriving DecidableEq, Repr

/-- The protocol callback reasons `client.c` delivers, with their `in`/`len`
arguments where the callback reads them. -/
inductive Reason
  | clearModePollFd
  | clientConfirmExtensionSupported (name : List Char)
  | clientAppendHandshakeHeader (len : Int)
  | clientFilterPreEstablish
  | clientEstablished
  | clientConnectionError
  deriving DecidableEq, Repr

/-- The extension callback reasons `client.c` delivers. -/
inductive ExtReason
  | checkOkToProposeExtension (name : List Char)
  | clientConstruct
  | anyWsiEstablished
  deriving DecidableEq, Repr

/-- An entry of `context->protocols`.  `callback` is what the user callback
returns for each delivery, and `appendHandshakeHeader len` the bytes it writes
at `p` for `LWS_CALLBACK_CLIENT_APPEND_HANDSHAKE_HEADER`. -/
structure Protocol where
  name : CStr
  callback : Reason → Int
  appendHandshakeHeader : Int → List Char
  perSessionDataSize : Nat
  rxBufferSize : Nat

/-- An entry of `context->extensions`. -/
structure Extension where
  name : CStr
  callback : ExtReason → Int
  perSessionDataSize : Nat

/-- The context fields `client.c` uses, with the header constants it reads.
`protocols[0]` is called unguarded, so the registry is never empty. -/
structure Context where
  protocols : List Protocol
  protocolsNonempty : protocols ≠ []
  extensions : List Extension
  serviceBuffer : Nat → Char
  serviceBufferSize : Nat
  maxSocketIoBuf : Nat
  sendBufferPrePadding : Nat
  sendBufferPostPadding : Nat

/-- `context->protocols[0]`. -/
def Context.firstProtocol (context : Context) : Protocol :=
  context.protocols.head context.protocolsNonempty

/-- The fields of `struct libwebsocket` that `client.c` reads or writes.  The
parser's state is the list of bytes fed to `libwebsocket_parse` since
`parser_state` was reset; `activeExtensions` holds registry indices, and the
state block of instance `k` is block `k`. -/
structure Conn where
  mode : ConnMode
  state : WsiState
  useSsl : UseSsl
  ssl : Bool
  cPath : CStr
  cHost : CStr
  cOrigin : Option CStr
  cProtocol : Option CStr
  ietfSpecRevision : Int
  hdrs : HeaderTable
  parsed : List Char
  parserComplete : Bool
  initialHandshakeHashBase64 : CStr
  protocol : Option Nat
  cCallback : Option Nat
  activeExtensions : List Nat
  userSpace : Bool
  rxUserBuffer : Bool
  pendingTimeout : PendingTimeout

/-- The error a failed socket or TLS call reports: `EAGAIN`, `SSL_ERROR_WANT_READ`,
`SSL_ERROR_WANT_WRITE`, or anything else. -/
inductive IoError
  | wouldBlock | wantRead | wantWrite | other
  deriving DecidableEq, Repr

/-- What the transport holds for the next read: a byte, the end of the
stream, or an error. -/
inductive Arrival
  | byte (c : Char)
  | eof
  | error (e : IoError)
  deriving DecidableEq, Repr

/-- What `recv` or `SSL_read` returned: the bytes (none at the end of the
stream), or a negative value with its error. -/
inductive RecvResult
  | bytes (data : List Char)
  | error (e : IoError)
  deriving DecidableEq, Repr

/-- What `send` or `SSL_write` returned. -/
inductive WriteResult
  | wrote (n : Nat)
  | error (e : IoError)
  deriving DecidableEq, Repr

/-- What `SSL_connect` returned: positive, zero, or negative with its error. -/
inductive SslConnectResult
  | connected
  | failed
  | error (e : IoError)
  deriving DecidableEq, Repr

/-- `SSL_get_verify_result`. -/
inductive VerifyResult
  | ok | depthZeroSelfSignedCert | other
  deriving DecidableEq, Repr

/-- The environment's answers, one script entry per call.  An exhausted
script reads as: nothing more arrives (`EAGAIN`), writes and connects
succeed, the random device yields nothing, `malloc` succeeds.
`uninitialized` is what an uninitialised `char` local holds. -/
structure Io where
  arrivals : List Arrival
  writes : List WriteResult
  connects : List SslConnectResult
  verifyResult : VerifyResult
  randoms : List (List UInt8)
  mallocs : List Bool
  uninitialized : Char

/-- The next `malloc`'s answer. -/
def Io.mallocOk (io : Io) : Bool := io.mallocs.headD true

/-- The next write's result, for a write of `n` bytes. -/
def Io.nextWrite (io : Io) (n : Nat) : WriteResult := io.writes.headD (.wrote n)

/-- The next `SSL_connect`'s result. -/
def Io.nextConnect (io : Io) : SslConnectResult := io.connects.headD .connected

/-- The bytes the random device yields next. -/
def Io.nextRandom (io : Io) : List UInt8 := io.randoms.headD []

/-- The heap buffers a client connection owns before its handshake. -/
inductive Buffer
  | cPath | cHost | cOrigin | cProtocol
  | token (t : Token)
  deriving DecidableEq, Repr

/-- The ledger: what `client.c` does that others can observe. -/
inductive Event
  | protocolCallback (index : Nat) (reason : Reason)
  | extensionCallback (index : Nat) (reason : ExtReason) (user : Option Nat)
  | free (b : Buffer)
  | malloc (size : Nat) (ok : Bool)
  | close (status : CloseStatus) (mode : ConnMode) (state : WsiState)
  | read (r : RecvResult)
  | parse (c : Char)
  | write (data : List Char) (r : WriteResult)
  | sslNew
  | sslConnect (r : SslConnectResult)
  | clearPollout
  | callbackOnWritable
  deriving DecidableEq, Repr

/-- Whether the event ends the session. -/
def Event.isClose : Event → Bool
  | .close .. => true
  | _ => false

/-- How many times the ledger records a session close. -/
def closeCount (log : List Event) : Nat := log.countP Event.isClose

/-- Whether the event is a `send` or `SSL_write` to the server. -/
def Event.isWrite : Event → Bool
  | .write .. => true
  | _ => false

/-- How many times the ledger records a write to the server. -/
def writeCount (log : List Event) : Nat := log.countP Event.isWrite

/-- How many times the ledger records a `free` of `b`. -/
def freeCount (b : Buffer) (log : List Event) : Nat := log.count (.free b)

@[simp] theorem closeCount_append (log₁ log₂ : List Event) :
    closeCount (log₁ ++ log₂) = closeCount log₁ + closeCount log₂ :=
  List.countP_append _ _ _

@[simp] theorem writeCount_append (log₁ log₂ : List Event) :
    writeCount (log₁ ++ log₂) = writeCount log₁ + writeCount log₂ :=
  List.countP_append _ _ _

@[simp] theorem freeCount_append (b : Buffer) (log₁ log₂ : List Event) :
    freeCount b (log₁ ++ log₂) = freeCount b log₁ + freeCount b log₂ :=
  List.count_append _ _ _

structure World where
  context : Context
  wsi : Conn
  io : Io
  log : List Event

/-- Labels of the `goto`s in `client.c`. -/
inductive Label
  | bail2 | bail3
  deriving DecidableEq, Repr

/-- Undefined behaviour `client.c` can reach. -/
inductive Undefined
  | nullDeref
  | bufferOverread
  deriving DecidableEq, Repr

/-- How a block of `client.c` leaves: `return`, `goto`, or undefined behaviour. -/
inductive Exit
  | ret (v : Int)
  | goto (l : Label)
  | undefined (u : Undefined)
  deriving DecidableEq, Repr

/-- Statements of `client.c`. -/
abbrev Code (α : Type) := Exec World Exit α

/-! ## Primitives -/

def getWsi : Code Conn := fun w => .next w.wsi w

def getContext : Code Context := fun w => .next w.context w

def getIo : Code Io := fun w => .next w.io w

def modifyWsi (f : Conn → Conn) : Code Unit := Exec.modify fun w => { w with wsi := f w.wsi }

def emit (e : Event) : Code Unit := Exec.modify fun w => { w with log := w.log ++ [e] }

@[simp] theorem getWsi_apply (w : World) : getWsi w = .next w.wsi w := rfl

@[simp] theorem getContext_apply (w : World) : getContext w = .next w.context w := rfl

@[simp] theorem getIo_apply (w : World) : getIo w = .next w.io w := rfl

@[simp] theorem modifyWsi_apply (f : Conn → Conn) (w : World) :
    modifyWsi f w = .next () { w with wsi := f w.wsi } := rfl

@[simp] theorem emit_apply (e : Event) (w : World) :
    emit e w = .next () { w with log := w.log ++ [e] } := rfl

/-- `goto l`. -/
def goto {α : Type} (l : Label) : Code α := Exec.leave (.goto l)

/-- `return v` from the middle of a function. -/
def ret {α : Type} (v : Int) : Code α := Exec.leave (.ret v)

/-- A C function: its body, where `return v` ends it with `v`, and the code
under its `goto` labels. -/
def withLabels (body : Code Int) (labels : Label → Code Int) : Code Int := fun w =>
  match body w with
  | .exit (.goto l) w' => labels l w'
  | .exit (.ret v) w' => .next v w'
  | r => r

section Labels

variable {body : Code Int} {labels : Label → Code Int} {w w' : World}

theorem withLabels_of_next {v : Int} (run : body w = .next v w') :
    withLabels body labels w = .next v w' := by
  simp [withLabels, run]

theorem withLabels_of_ret {v : Int} (run : body w = .exit (.ret v) w') :
    withLabels body labels w = .next v w' := by
  simp [withLabels, run]

theorem withLabels_of_goto {l : Label} (run : body w = .exit (.goto l) w') :
    withLabels body labels w = labels l w' := by
  simp [withLabels, run]

/-- A body that does not leave by `goto` ends in the state `withLabels` ends in. -/
theorem withLabels_state (noGoto : ∀ l w', body w ≠ .exit (.goto l) w') :
    (withLabels body labels w).state = (body w).state := by
  unfold withLabels
  split
  · exact absurd ‹_› (noGoto _ _)
  · simp_all [Res.state]
  · rfl

end Labels

@[simp] theorem goto_apply {α : Type} (l : Label) (w : World) :
    (goto l : Code α) w = .exit (.goto l) w := rfl

/-- What follows a `goto` is never run. -/
theorem goto_bind {α β : Type} (l : Label) (f : α → Code β) : (goto l >>= f) = goto l := rfl

@[simp] theorem ret_apply {α : Type} (v : Int) (w : World) :
    (ret v : Code α) w = .exit (.ret v) w := rfl

/-- Reading through a pointer: NULL is undefined behaviour. -/
def deref {α : Type} : Option α → Code α
  | some a => pure a
  | none => Exec.leave (.undefined .nullDeref)

@[simp] theorem deref_some_apply {α : Type} (a : α) (w : World) :
    deref (some a) w = .next a w := rfl

@[simp] theorem deref_none_apply {α : Type} (w : World) :
    (deref none : Code α) w = .exit (.undefined .nullDeref) w := rfl

theorem deref_eq_next_iff {α : Type} {p : Option α} {a : α} {w w' : World} :
    deref p w = .next a w' ↔ p = some a ∧ w' = w := by
  cases p <;> simp [deref, eq_comm]

/-- `context->service_buffer[i] = c`. -/
def setServiceBufferByte (i : Nat) (c : Char) : Code Unit :=
  Exec.modify fun w => { w with context := { w.context with
    serviceBuffer := fun j => if j = i then c else w.context.serviceBuffer j } }

/-- Bytes written into `context->service_buffer` from its start. -/
def storeServiceBuffer (data : List Char) : Code Unit :=
  Exec.modify fun w => { w with context := { w.context with
    serviceBuffer := fun i =>
      if i < data.length then data.getD i '\x00' else w.context.serviceBuffer i } }

/-- `free (p)` of an owned buffer. -/
def free (b : Buffer) : Code Unit := emit (.free b)

/-- `if (p) free (p)`. -/
def freeIfSet (p : Option CStr) (b : Buffer) : Code Unit :=
  if p.isSome then free b else pure ()

@[simp] theorem free_apply (b : Buffer) (w : World) :
    free b w = .next () { w with log := w.log ++ [.free b] } := rfl

/-- What `if (p) free (p)` adds to the ledger. -/
def freedIfSet (p : Option CStr) (b : Buffer) : List Event :=
  if p.isSome then [.free b] else []

@[simp] theorem freedIfSet_some (s : CStr) (b : Buffer) : freedIfSet (some s) b = [.free b] := rfl

@[simp] theorem freedIfSet_none (b : Buffer) : freedIfSet none b = [] := rfl

@[simp] theorem closeCount_freedIfSet (p : Option CStr) (b : Buffer) :
    closeCount (freedIfSet p b) = 0 := by
  cases p <;> rfl

@[simp] theorem freeIfSet_apply (p : Option CStr) (b : Buffer) (w : World) :
    freeIfSet p b w = .next () { w with log := w.log ++ freedIfSet p b } := by
  cases p
  · simp [freeIfSet]
  · rfl

/-- `libwebsocket_close_and_free_session` (libwebsockets.c), which reads the
connection's mode and state. -/
def libwebsocketCloseAndFreeSession (status : CloseStatus) : Code Unit := fun w =>
  .next () { w with log := w.log ++ [.close status w.wsi.mode w.wsi.state] }

/-- `libwebsocket_set_timeout`. -/
def libwebsocketSetTimeout (t : PendingTimeout) : Code Unit :=
  modifyWsi fun wsi => { wsi with pendingTimeout := t }

@[simp] theorem libwebsocketCloseAndFreeSession_apply (status : CloseStatus) (w : World) :
    libwebsocketCloseAndFreeSession status w =
      .next () { w with log := w.log ++ [.close status w.wsi.mode w.wsi.state] } := rfl

@[simp] theorem libwebsocketSetTimeout_apply (t : PendingTimeout) (w : World) :
    libwebsocketSetTimeout t w = .next () { w with wsi := { w.wsi with pendingTimeout := t } } :=
  rfl

/-- A callback of registry protocol `i`; its return value. -/
def protocolCallback (i : Nat) (reason : Reason) : Code Int := fun w =>
  .next ((w.context.protocols.get? i).elim 0 fun p => p.callback reason)
    { w with log := w.log ++ [.protocolCallback i reason] }

/-- A callback of registry extension `i` with its `user` pointer; its return value. -/
def extensionCallback (i : Nat) (reason : ExtReason) (user : Option Nat) : Code Int := fun w =>
  .next ((w.context.extensions.get? i).elim 0 fun e => e.callback reason)
    { w with log := w.log ++ [.extensionCallback i reason user] }

@[simp] theorem protocolCallback_apply (i : Nat) (reason : Reason) (w : World) :
    protocolCallback i reason w =
      .next ((w.context.protocols.get? i).elim 0 fun p => p.callback reason)
        { w with log := w.log ++ [.protocolCallback i reason] } := rfl

@[simp] theorem extensionCallback_apply (i : Nat) (reason : ExtReason) (user : Option Nat)
    (w : World) :
    extensionCallback i reason user w =
      .next ((w.context.extensions.get? i).elim 0 fun e => e.callback reason)
        { w with log := w.log ++ [.extensionCallback i reason user] } := rfl

/-- `malloc (size)`: whether it returned memory. -/
def malloc (size : Nat) : Code Bool := fun w =>
  .next w.io.mallocOk
    { w with io := { w.io with mallocs := w.io.mallocs.tail },
             log := w.log ++ [.malloc size w.io.mallocOk] }

@[simp] theorem malloc_apply (size : Nat) (w : World) :
    malloc size w = .next w.io.mallocOk
      { w with io := { w.io with mallocs := w.io.mallocs.tail },
               log := w.log ++ [.malloc size w.io.mallocOk] } := rfl

theorem mallocOk_of_allocations {io : Io} (allocations : ∀ b ∈ io.mallocs, b = true) :
    io.mallocOk = true := by
  cases mallocs : io.mallocs with
  | nil => simp [Io.mallocOk, mallocs]
  | cons b rest => simpa [Io.mallocOk, mallocs] using allocations b (by simp [mallocs])

theorem allocations_tail {io : Io} (allocations : ∀ b ∈ io.mallocs, b = true) :
    ∀ b ∈ io.mallocs.tail, b = true :=
  fun b member => allocations b (List.mem_of_mem_tail member)

/-- The bytes at the head of the arrivals, at most `len` of them, and what follows. -/
def takeBytes : Nat → List Arrival → List Char × List Arrival
  | n + 1, .byte c :: rest => let taken := takeBytes n rest; (c :: taken.1, taken.2)
  | _, arrivals => ([], arrivals)

/-- One read of at most `len` bytes from the arrivals. -/
def Io.read (len : Nat) (io : Io) : RecvResult × Io :=
  match takeBytes len io.arrivals with
  | (c :: cs, rest) => (.bytes (c :: cs), { io with arrivals := rest })
  | ([], _) =>
      match io.arrivals with
      | .eof :: rest => (.bytes [], { io with arrivals := rest })
      | .error e :: rest => (.error e, { io with arrivals := rest })
      | _ => (.error .wouldBlock, io)

theorem takeBytes_length_add (n : Nat) (arrivals : List Arrival) :
    (takeBytes n arrivals).1.length + (takeBytes n arrivals).2.length = arrivals.length := by
  induction n, arrivals using takeBytes.induct with
  | case1 n c rest ih => simp only [takeBytes, List.length_cons]; omega
  | case2 t arrivals notByte => simp [takeBytes.eq_2 _ _ notByte]

/-- A read that returns bytes consumes arrivals. -/
theorem Io.read_shortens {len : Nat} {io : Io} {b : Char} {bs : List Char}
    (result : (io.read len).1 = .bytes (b :: bs)) :
    (io.read len).2.arrivals.length < io.arrivals.length := by
  have lengths := takeBytes_length_add len io.arrivals
  unfold Io.read at result ⊢
  split
  · rename_i c cs rest taken
    rw [taken] at lengths
    simp only [List.length_cons] at lengths
    simp only
    omega
  · rename_i taken
    rw [taken] at result
    simp only at result
    split at result <;> cases result

/-- `recv` or `SSL_read` of at most `len` bytes. -/
def read (len : Nat) : Code RecvResult := fun w =>
  .next (w.io.read len).1
    { w with io := (w.io.read len).2, log := w.log ++ [.read (w.io.read len).1] }

@[simp] theorem read_apply (len : Nat) (w : World) :
    read len w = .next (w.io.read len).1
      { w with io := (w.io.read len).2, log := w.log ++ [.read (w.io.read len).1] } := rfl

/-- `send` or `SSL_write` of `data`: the bytes it took go on the wire. -/
def write (data : List Char) : Code WriteResult := fun w =>
  .next (w.io.nextWrite data.length)
    { w with io := { w.io with writes := w.io.writes.tail },
             log := w.log ++ [.write data (w.io.nextWrite data.length)] }

@[simp] theorem write_apply (data : List Char) (w : World) :
    write data w = .next (w.io.nextWrite data.length)
      { w with io := { w.io with writes := w.io.writes.tail },
               log := w.log ++ [.write data (w.io.nextWrite data.length)] } := rfl

def sslConnect : Code SslConnectResult := fun w =>
  .next w.io.nextConnect
    { w with io := { w.io with connects := w.io.connects.tail },
             log := w.log ++ [.sslConnect w.io.nextConnect] }

@[simp] theorem sslConnect_apply (w : World) :
    sslConnect w = .next w.io.nextConnect
      { w with io := { w.io with connects := w.io.connects.tail },
               log := w.log ++ [.sslConnect w.io.nextConnect] } := rfl

/-- `libwebsockets_get_random (context, buf, len)`: the bytes it read. -/
def libwebsocketsGetRandom (len : Nat) : Code (List UInt8) := fun w =>
  .next (w.io.nextRandom.take len)
    { w with io := { w.io with randoms := w.io.randoms.tail } }

@[simp] theorem libwebsocketsGetRandom_apply (len : Nat) (w : World) :
    libwebsocketsGetRandom len w = .next (w.io.nextRandom.take len)
      { w with io := { w.io with randoms := w.io.randoms.tail } } := rfl

end LwsClient
