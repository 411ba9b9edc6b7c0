import LwsClient.Session

/-!
# What the handshake releases, and that it releases it once

The parser leaves one heap buffer in each header slot it fills, and
`lws_client_interpret_server_handshake` releases them in two places: the loop
of lines 610-614, just before the connection is marked established, and the
loop of lines 680-684 under `bail2`.  A path can pass both, since the receive
buffer's `malloc` failing (line 634) jumps to `bail3` after the first loop;
but the `memset` of line 622 has cleared every slot by then, so the second
loop finds nothing.  `tokenAccount w t` counts the releases of slot `t` in
the ledger, plus one while the slot holds a buffer.  Every block of lines
384-666 keeps it, on every way out (`interpretBody_keepsTokens`), so on every
path of the handshake that returns, established or refused, each filled slot
is released exactly once and no other slot is
(`lwsClientInterpretServerHandshake_releasesTokens`).  Undefined behaviour (a
NULL token dereferenced) is the one way out this does not cover.

The request's strings, its path, host and origin, are released by the
generator alone (lines 714-723 or 856-859), which runs in the request's block,
and after it the connection waits for the reply or is closed.  No later call
releases them: the reply's calls free only the offered protocol list and the
header slots.  So over any run of the event loop each of them is released at
most once (`serviceRun_releases_request_once`), unlike the offered protocol
list, which lines 433 or 455 and then 672 can free twice.
-/

namespace LwsClient

open Exec

/-- For header slot `t`: its releases in the ledger, and one more while the
slot holds a buffer. -/
def tokenAccount (w : World) (t : Token) : Nat :=
  freeCount (.token t) w.log + if (w.wsi.hdrs t).isSome then 1 else 0

/-- `w'` accounts for the header buffers of `w`: each filled slot is still
filled or released once more, and no other slot is released. -/
def TokensKept (w w' : World) : Prop := ∀ t, tokenAccount w' t = tokenAccount w t

instance : IsRefl World TokensKept := ⟨fun _ _ => rfl⟩

instance : IsTrans World TokensKept := ⟨fun _ _ _ first second t => (second t).trans (first t)⟩

@[simp] theorem freeCount_nil (b : Buffer) : freeCount b [] = 0 := rfl

@[simp] theorem freeCount_cons (b : Buffer) (e : Event) (log : List Event) :
    freeCount b (e :: log) = freeCount b log + if e = .free b then 1 else 0 := by
  simp [freeCount, List.count_cons]

@[simp] theorem freeCount_establishedCallbacks (b : Buffer) (active : List Nat)
    (exts : List (Nat × Extension)) : freeCount b (establishedCallbacks active exts) = 0 :=
  List.count_eq_zero.mpr (by simp [establishedCallbacks])

/-- How often the `free`s of `tokens` release slot `t`: once for each time
`tokens` names it, if it is filled. -/
theorem freeCount_tokenFrees (table : HeaderTable) (t : Token) :
    ∀ tokens, freeCount (.token t) (tokenFrees table tokens) =
      if (table t).isSome then tokens.count t else 0
  | [] => by simp [tokenFrees]
  | u :: rest => by
      have later := freeCount_tokenFrees table t rest
      simp only [tokenFrees] at later ⊢
      by_cases same : u = t
      · subst same
        rcases slot : table u with _ | s <;> simp_all [List.filterMap_cons]
      · rcases slot : table u with _ | s <;>
          simp_all [List.filterMap_cons, List.count_cons, Ne.symm same]

theorem freeCount_tokenFrees_all (table : HeaderTable) (t : Token) :
    freeCount (.token t) (tokenFrees table Token.all) = if (table t).isSome then 1 else 0 := by
  rw [freeCount_tokenFrees, show Token.all.count t = 1 by cases t <;> rfl]

/-- Lines 674-689 release the filled slots, once each. -/
theorem freeCount_bail2Events (wsi : Conn) (t : Token) :
    freeCount (.token t) (bail2Events wsi) = if (wsi.hdrs t).isSome then 1 else 0 := by
  cases callback : wsi.cCallback <;> simp [bail2Events, callback, freeCount_tokenFrees_all]

/-! ## Blocks that keep the account -/

/-- A block that leaves the header table alone and releases no header slot. -/
theorem keepsTokens_of {α : Type} {x : Code α} (hdrs : ∀ w, (x w).state.wsi.hdrs = w.wsi.hdrs)
    (freed : ∀ w t, freeCount (.token t) (x w).state.log = freeCount (.token t) w.log) :
    Keeps TokensKept x :=
  fun w t => by simp only [tokenAccount, hdrs w, freed w t]

/-- A block that leaves the header table alone and logs one event that is not
the release of a header slot. -/
theorem keepsTokens_of_event {α : Type} {x : Code α} (e : World → Event)
    (hdrs : ∀ w, (x w).state.wsi.hdrs = w.wsi.hdrs)
    (appended : ∀ w, (x w).state.log = w.log ++ [e w])
    (other : ∀ w t, e w ≠ .free (.token t)) : Keeps TokensKept x :=
  keepsTokens_of hdrs fun w t => by simp [appended, other w t]

theorem keepsTokens_getWsi : Keeps TokensKept getWsi := fun _ _ => rfl

theorem keepsTokens_getContext : Keeps TokensKept getContext := fun _ _ => rfl

theorem keepsTokens_deref {α : Type} (p : Option α) : Keeps TokensKept (deref p) := by
  cases p <;> exact fun _ _ => rfl

theorem keepsTokens_modifyWsi {f : Conn → Conn} (hdrs : ∀ wsi, (f wsi).hdrs = wsi.hdrs) :
    Keeps TokensKept (modifyWsi f) :=
  keepsTokens_of (fun w => hdrs w.wsi) fun _ _ => rfl

theorem keepsTokens_malloc (size : Nat) : Keeps TokensKept (malloc size) :=
  keepsTokens_of_event _ (fun _ => rfl) (fun _ => rfl) fun _ _ => nofun

theorem keepsTokens_extensionCallback (i : Nat) (reason : ExtReason) (user : Option Nat) :
    Keeps TokensKept (extensionCallback i reason user) :=
  keepsTokens_of_event _ (fun _ => rfl) (fun _ => rfl) fun _ _ => nofun

/-- `if (wsi->c_protocol) free (wsi->c_protocol)` releases no header slot. -/
theorem keepsTokens_freeIfSet_cProtocol (p : Option CStr) :
    Keeps TokensKept (freeIfSet p .cProtocol) :=
  .ite (keepsTokens_of_event _ (fun _ => rfl) (fun _ => rfl) fun _ _ => nofun) (keeps_pure _)

/-- Lowering a status token rewrites a filled slot in place. -/
theorem lowerToken_keepsTokens (t : Token) : Keeps TokensKept (lowerToken t) := by
  intro w u
  rcases slot : w.wsi.hdrs t with _ | s
  · rw [lowerToken_of_none slot]
    rfl
  · rw [lowerToken_of_some slot]
    by_cases same : u = t
    · subst same
      simp [tokenAccount, slot]
    · simp [tokenAccount, same]

theorem checkResponseHeaders_keepsTokens : Keeps TokensKept checkResponseHeaders := by
  unfold checkResponseHeaders
  refine (lowerToken_keepsTokens _).bind fun _ => ?_
  refine .ite (keeps_leave_bind _ _) ((keeps_pure _).bind fun _ =>
    (lowerToken_keepsTokens _).bind fun _ => ?_)
  refine .ite (keeps_leave_bind _ _) ((keeps_pure _).bind fun _ =>
    (lowerToken_keepsTokens _).bind fun _ => ?_)
  exact .ite (keeps_leave _) (keeps_pure _)

theorem selectProtocol_keepsTokens : Keeps TokensKept selectProtocol := by
  unfold selectProtocol
  refine keepsTokens_getWsi.bind fun _ => .ite ?absent ?present
  case absent =>
    exact (keepsTokens_modifyWsi fun _ => by rfl).bind fun _ => keepsTokens_freeIfSet_cProtocol _
  case present =>
    refine (keepsTokens_deref _).bind fun _ => (keepsTokens_deref _).bind fun _ =>
      (keepsTokens_freeIfSet_cProtocol _).bind fun _ => ?_
    refine .ite (keeps_leave_bind _ _)
      ((keeps_pure _).bind fun _ => keepsTokens_getContext.bind fun _ => ?_)
    split
    · exact (keepsTokens_modifyWsi fun _ => by rfl).bind fun _ => keeps_leave _
    · exact keepsTokens_modifyWsi fun _ => by rfl

theorem instantiateNamed_keepsTokens (name : List Char) :
    ∀ (found : Bool) exts, Keeps TokensKept (instantiateNamed name found exts)
  | _, [] => keeps_pure _
  | _, _ :: rest => by
      unfold instantiateNamed
      refine .ite (instantiateNamed_keepsTokens name _ rest)
        ((keepsTokens_malloc _).bind fun _ => ?_)
      exact .ite (keeps_leave_bind _ _) ((keeps_pure _).bind fun _ =>
        keepsTokens_getWsi.bind fun _ => (keepsTokens_modifyWsi fun _ => by rfl).bind fun _ =>
          (keepsTokens_extensionCallback _ _ _).bind fun _ =>
            instantiateNamed_keepsTokens name _ rest)

theorem checkExtensionName_keepsTokens (name : List Char) :
    Keeps TokensKept (checkExtensionName name) :=
  keepsTokens_getContext.bind fun _ => (instantiateNamed_keepsTokens _ _ _).bind fun _ =>
    .ite (keeps_leave _) (keeps_pure _)

theorem extensionLoop_keepsTokens :
    ∀ extName rest, Keeps TokensKept (extensionLoop extName rest)
  | _, [] => checkExtensionName_keepsTokens _
  | _, _ :: rest => by
      unfold extensionLoop
      exact .ite (extensionLoop_keepsTokens _ rest) (.ite (extensionLoop_keepsTokens _ rest)
        ((checkExtensionName_keepsTokens _).bind fun _ => extensionLoop_keepsTokens _ rest))

theorem instantiateExtensions_keepsTokens : Keeps TokensKept instantiateExtensions :=
  keepsTokens_getWsi.bind fun _ =>
    .ite ((keepsTokens_deref _).bind fun _ => extensionLoop_keepsTokens _ _) (keeps_pure _)

theorem checkAccept_keepsTokens : Keeps TokensKept checkAccept :=
  keepsTokens_getWsi.bind fun _ => (keepsTokens_deref _).bind fun _ =>
    .ite (keeps_leave _) (keeps_pure _)

theorem checkServerHandshake_keepsTokens : Keeps TokensKept checkServerHandshake :=
  checkResponseHeaders_keepsTokens.bind fun _ => selectProtocol_keepsTokens.bind fun _ =>
    instantiateExtensions_keepsTokens.bind fun _ => checkAccept_keepsTokens

theorem libwebsocketEnsureUserSpace_keepsTokens (size : Nat) :
    Keeps TokensKept (libwebsocketEnsureUserSpace size) :=
  keepsTokens_getWsi.bind fun _ => .ite (keeps_pure _) ((keeps_pure _).bind fun _ =>
    (keepsTokens_malloc _).bind fun _ =>
      .ite ((keepsTokens_modifyWsi fun _ => by rfl).bind fun _ => keeps_pure _)
        ((keeps_pure _).bind fun _ => keeps_pure _))

theorem allocateUserSpace_keepsTokens (protocol : Protocol) :
    Keeps TokensKept (allocateUserSpace protocol) :=
  .ite ((libwebsocketEnsureUserSpace_keepsTokens _).bind fun _ =>
      .ite (keeps_leave _) (keeps_pure _))
    (keeps_pure _)

/-- Lines 610-622: the first loop releases exactly the slots the `memset`
then clears. -/
theorem markEstablished_keepsTokens (i : Nat) : Keeps TokensKept (markEstablished i) :=
  fun w t => by
    simp [tokenAccount, clearUnion, HeaderTable.empty, freeCount_tokenFrees_all]

theorem allocateRxBuffer_keepsTokens (protocol : Protocol) :
    Keeps TokensKept (allocateRxBuffer protocol) :=
  keepsTokens_getContext.bind fun _ => (keepsTokens_malloc _).bind fun _ =>
    .ite (keeps_leave_bind _ _) ((keeps_pure _).bind fun _ => keepsTokens_modifyWsi fun _ => by rfl)

theorem announceConnection_keepsTokens (i : Nat) : Keeps TokensKept (announceConnection i) :=
  keepsTokens_of (fun w => by rw [announceConnection_apply]; rfl) fun w t => by
    simp [announceConnection_apply]

theorem establish_keepsTokens : Keeps TokensKept establish :=
  keepsTokens_getWsi.bind fun _ => keepsTokens_getContext.bind fun _ =>
    (keepsTokens_deref _).bind fun _ => (keepsTokens_deref _).bind fun _ =>
      (allocateUserSpace_keepsTokens _).bind fun _ => (markEstablished_keepsTokens _).bind fun _ =>
        (allocateRxBuffer_keepsTokens _).bind fun _ => announceConnection_keepsTokens _

/-- Lines 384-666 keep the account on every way out. -/
theorem interpretBody_keepsTokens : Keeps TokensKept interpretBody :=
  checkServerHandshake_keepsTokens.bind fun _ => establish_keepsTokens

/-- An established connection's header view is cleared (line 622). -/
theorem establish_clears {w w' : World} (run : establish w = .next () w') :
    w'.wsi.hdrs = HeaderTable.empty := by
  obtain ⟨i, protocol, w₁, w₂, w₃, -, marked, buffered, announced⟩ := establish_steps run
  rw [markEstablished_apply, Res.next.injEq] at marked
  obtain ⟨-, rfl⟩ := marked
  obtain ⟨io, events, rfl⟩ := allocateRxBuffer_frame buffered
  rw [announceConnection_apply, Res.next.injEq] at announced
  obtain ⟨-, rfl⟩ := announced
  rfl

/-! ## The handshake -/

/-- Whatever the reply, the registry, the callbacks and the allocations, on
every path of lines 351-690 that returns, established or refused, every
header slot the parser filled is released exactly once, and no other slot is
released: by lines 610-614 or by lines 680-684, never by both. -/
theorem lwsClientInterpretServerHandshake_releasesTokens {w w' : World} {r : Int}
    (run : lwsClientInterpretServerHandshake w = .next r w') (t : Token) :
    freeCount (.token t) w'.log =
      freeCount (.token t) w.log + if (w.wsi.hdrs t).isSome then 1 else 0 := by
  have kept := interpretBody_keepsTokens w t
  rcases body : interpretBody w with ⟨⟨⟩, w₁⟩ | ⟨e, w₁⟩
  · rw [lwsClientInterpretServerHandshake_eq_zero.mpr body, Res.next.injEq] at run
    obtain ⟨-, rfl⟩ := run
    obtain ⟨⟨⟩, w₂, -, committed⟩ := Exec.bind_eq_next_iff.mp body
    rw [body, Res.state_next] at kept
    simpa [tokenAccount, establish_clears committed, HeaderTable.empty] using kept
  · rw [body, Res.state_exit] at kept
    rcases e with v | (_ | _) | u
    · simp [lwsClientInterpretServerHandshake, body] at run
    · rw [lwsClientInterpretServerHandshake_of_bail2 body, interpretBail2_apply,
        Res.next.injEq] at run
      obtain ⟨-, rfl⟩ := run
      rw [freeCount_append, freeCount_bail2Events]
      exact kept
    · rw [lwsClientInterpretServerHandshake_of_bail3 body, interpretBail3_apply,
        Res.next.injEq] at run
      obtain ⟨-, rfl⟩ := run
      have released : freeCount (.token t) (freedIfSet w₁.wsi.cProtocol .cProtocol) = 0 := by
        cases w₁.wsi.cProtocol <;> simp
      rw [freeCount_append, freeCount_append, released, Nat.add_zero, freeCount_bail2Events]
      exact kept
    · simp [lwsClientInterpretServerHandshake, body] at run

theorem rxStarvedReply_releasesTokens :
    ∃ w', lwsClientInterpretServerHandshake rxStarvedReply = .next 1 w' ∧
      ∀ t, freeCount (.token t) w'.log = freeCount (.token t) rxStarvedReply.log +
        if (rxStarvedReply.wsi.hdrs t).isSome then 1 else 0 :=
  have run : lwsClientInterpretServerHandshake rxStarvedReply =
      .next 1 (lwsClientInterpretServerHandshake rxStarvedReply).state := rfl
  ⟨_, run, lwsClientInterpretServerHandshake_releasesTokens run⟩

/-! ## What a call of the reply's block frees -/

section Reply

variable {ok : Event → Prop}

theorem announceEstablished_appends (quiet : ∀ e, e.Routine → e.isFree = false → ok e) :
    ∀ exts, Keeps (Appends ok) (announceEstablished exts)
  | [] => keeps_pure _
  | _ :: rest => appends_getWsi.bind fun _ => (appends_extensionCallback quiet _ _ _).bind
      fun _ => announceEstablished_appends quiet rest

theorem announceConnection_appends (quiet : ∀ e, e.Routine → e.isFree = false → ok e)
    (called : ∀ i reason, ok (.protocolCallback i reason)) (i : Nat) :
    Keeps (Appends ok) (announceConnection i) :=
  (appends_of_event (x := protocolCallback i .clientEstablished) _ (fun _ => rfl)
    fun _ => called _ _).bind fun _ =>
      appends_getContext.bind fun _ => announceEstablished_appends quiet _

theorem establish_appends (quiet : ∀ e, e.Routine → e.isFree = false → ok e)
    (tokensFreed : ∀ t, ok (.free (.token t)))
    (called : ∀ i reason, ok (.protocolCallback i reason)) : Keeps (Appends ok) establish :=
  appends_getWsi.bind fun _ => appends_getContext.bind fun _ => (appends_deref _).bind fun _ =>
    (appends_deref _).bind fun _ => (allocateUserSpace_appends quiet _).bind fun _ =>
      (markEstablished_appends quiet tokensFreed _).bind fun _ =>
        (allocateRxBuffer_appends quiet _).bind fun _ => announceConnection_appends quiet called _

theorem interpretBail2_appends (tokensFreed : ∀ t, ok (.free (.token t)))
    (called : ∀ i reason, ok (.protocolCallback i reason))
    (closing : ∀ status mode state, ok (.close status mode state)) :
    Keeps (Appends ok) interpretBail2 := fun w => by
  rw [interpretBail2_apply]
  refine ⟨_, rfl, fun e mem => ?_⟩
  simp only [bail2Events, List.mem_append, List.mem_singleton] at mem
  rcases mem with (told | freed) | rfl
  · cases callback : w.wsi.cCallback <;> simp only [callback, List.mem_singleton] at told
    · cases told
    · exact told ▸ called _ _
  · obtain ⟨t, -, freed⟩ := List.mem_filterMap.mp freed
    obtain ⟨_, -, rfl⟩ := Option.map_eq_some'.mp freed
    exact tokensFreed t
  · exact closing _ _ _

/-- Lines 351-690 free only the offered protocol list and the header slots. -/
theorem lwsClientInterpretServerHandshake_appends
    (quiet : ∀ e, e.Routine → e.isFree = false → ok e) (protocolFreed : ok (.free .cProtocol))
    (tokensFreed : ∀ t, ok (.free (.token t)))
    (called : ∀ i reason, ok (.protocolCallback i reason))
    (closing : ∀ status mode state, ok (.close status mode state)) :
    Keeps (Appends ok) lwsClientInterpretServerHandshake := fun w => by
  have body : Appends ok w (interpretBody w).state :=
    ((checkServerHandshake_appends quiet protocolFreed).bind fun _ =>
      establish_appends quiet tokensFreed called) w
  have bail2 := interpretBail2_appends tokensFreed called closing
  unfold lwsClientInterpretServerHandshake
  split <;> rename_i run <;> rw [run] at body
  · exact body
  · exact body.trans (((appends_getWsi.bind fun _ => (appends_freeIfSet _ protocolFreed).bind
      fun _ => bail2) : Keeps (Appends ok) interpretBail3) _)
  · exact body.trans (bail2 _)
  · exact body

/-- Lines 238-312. -/
theorem waitingServerReply_appends (quiet : ∀ e, e.Routine → e.isFree = false → ok e)
    (protocolFreed : ok (.free .cProtocol)) (tokensFreed : ∀ t, ok (.free (.token t)))
    (called : ∀ i reason, ok (.protocolCallback i reason))
    (closing : ∀ status mode state, ok (.close status mode state)) (parser : Parser)
    (revents : Revents) : Keeps (Appends ok) (waitingServerReply parser revents) := by
  unfold waitingServerReply
  refine .ite (keeps_leave_bind _ _) ((keeps_pure _).bind fun _ => ?_)
  refine .ite (keeps_leave_bind _ _) ((keeps_pure _).bind fun _ => ?_)
  refine appends_getWsi.bind fun _ => appends_getIo.bind fun _ =>
    (readLoop_appends quiet _ _ _).bind fun _ => appends_getWsi.bind fun _ => ?_
  exact .ite (keeps_leave_bind _ _) ((keeps_pure _).bind fun _ =>
    lwsClientInterpretServerHandshake_appends quiet protocolFreed tokensFreed called closing)

end Reply

/-! ## The request's strings -/

/-- `w'` has freed `b` at most once more than `w`, and if it has, the
connection waits for the reply or is closed. -/
structure ReleasesOnce (b : Buffer) (w w' : World) : Prop where
  once : freeCount b w'.log ≤ freeCount b w.log + 1
  after : freeCount b w'.log ≠ freeCount b w.log →
    w'.wsi.mode = .wsClientWaitingServerReply ∨ w'.closed = true

theorem freeCount_eq_of_appends {b : Buffer} {w w' : World}
    (appends : Appends (· ≠ .free b) w w') : freeCount b w'.log = freeCount b w.log := by
  obtain ⟨events, log, others⟩ := appends
  have untouched : freeCount b events = 0 := List.count_eq_zero.mpr fun mem => others _ mem rfl
  rw [log, freeCount_append, untouched, Nat.add_zero]

namespace ReleasesOnce

variable {b : Buffer} {w w₁ w₂ w₃ : World}

theorem of_appends (appends : Appends (· ≠ .free b) w w') : ReleasesOnce b w w' :=
  ⟨(freeCount_eq_of_appends appends).trans_le (Nat.le_succ _),
    fun freed => absurd (freeCount_eq_of_appends appends) freed⟩

theorem after_appends (first : Appends (· ≠ .free b) w₁ w₂) (second : ReleasesOnce b w₂ w₃) :
    ReleasesOnce b w₁ w₃ := by
  have same := freeCount_eq_of_appends first
  exact ⟨same ▸ second.once, fun freed => second.after (same ▸ freed)⟩

theorem closing (first : ReleasesOnce b w₁ w₂)
    (second : Appends (· ≠ .free b) w₂ w₃ ∧ w₃.closed = true) : ReleasesOnce b w₁ w₃ := by
  have same := freeCount_eq_of_appends second.1
  exact ⟨same ▸ first.once, fun _ => .inr second.2⟩

end ReleasesOnce

/-- The generator's frees, whichever way it goes, release each buffer at most once. -/
theorem freeCount_generatorFrees_le (b : Buffer) (origin protocol : Option CStr) :
    freeCount b ([.free .cPath, .free .cHost] ++ freedIfSet origin .cOrigin) +
      freeCount b (freedIfSet protocol .cProtocol) ≤ 1 := by
  cases origin <;> cases protocol <;> cases b <;> simp

theorem freeCount_filter_isFree (b : Buffer) (log : List Event) :
    freeCount b (log.filter Event.isFree) = freeCount b log :=
  List.count_filter rfl

/-- Routine events that free nothing do not free `b`. -/
theorem quiet_ne_free (b : Buffer) : ∀ e : Event, e.Routine → e.isFree = false → e ≠ .free b :=
  fun _ _ kept freed => by
    cases freed
    cases kept

/-- Lines 91-236: the request's block frees each buffer at most once, and if it
frees one, it leaves the connection waiting for the reply or closed. -/
theorem issueHandshake_releasesOnce (b : Buffer) :
    Keeps (ReleasesOnce b) issueHandshake := fun w => by
  have connected : Appends (· ≠ .free b) w (connectTls w).state :=
    connectTls_appends (quiet_ne_free b) (fun _ _ _ => nofun) w
  unfold issueHandshake
  cases run : connectTls w with
  | exit e w₁ =>
      rw [run] at connected
      rw [Exec.bind_of_exit run]
      exact .of_appends connected
  | next u w₁ =>
      rw [run] at connected
      rw [Exec.bind_of_next run]
      refine .after_appends connected ?_
      have bounded := freeCount_generatorFrees_le b w₁.wsi.cOrigin w₁.wsi.cProtocol
      by_cases drawn : (w₁.io.nextRandom.take 16).length = 16
      · obtain ⟨len, w₂, generated, -, -, -, -, -, frees⟩ :=
          libwebsocketsGenerateClientHandshake_of_drawn drawn
        have counted : freeCount b w₂.log ≤ freeCount b w₁.log + 1 := by
          rw [← freeCount_filter_isFree, frees]
          simp only [freeCount_append, freeCount_filter_isFree] at bounded ⊢
          omega
        rw [Exec.bind_of_next generated]
        dsimp only
        cases wrote : w₂.io.nextWrite
          (claimedRequest w₁.wsi (drawnKey w₁) (proposedNames w₁.context)
            (w₁.context.firstProtocol.appendHandshakeHeader len)).length with
        | wrote n =>
            rw [sendRequest_of_wrote wrote]
            exact ⟨by simpa using counted, fun _ => .inl rfl⟩
        | error e =>
            rw [sendRequest_of_error wrote]
            exact ⟨by simpa using counted, fun _ => .inr (by simp [World.closed, Event.isClose])⟩
      · have short : w₁.io.nextRandom.length < 16 := by
          rw [List.length_take] at drawn
          omega
        rw [Exec.bind_of_next (libwebsocketsGenerateClientHandshake_of_short_random short)]
        refine ⟨?_, fun _ => .inr (by simp [World.closed, Event.isClose])⟩
        have unfreed : freeCount b [.close .noStatus w₁.wsi.mode w₁.wsi.state] = 0 := by simp
        simp only [Exec.bind_apply, libwebsocketCloseAndFreeSession_apply, ret_apply,
          Res.state_exit, Res.state_next, freeCount_append, unfreed] at bounded ⊢
        omega

/-! ## Every call, and every run -/

section Request

variable {b : Buffer} (request : b ∈ [Buffer.cPath, .cHost, .cOrigin])
include request

theorem protocol_ne_request : Event.free .cProtocol ≠ .free b := by
  rintro ⟨⟩
  simp at request

theorem token_ne_request (t : Token) : Event.free (.token t) ≠ .free b := by
  rintro ⟨⟩
  simp at request

/-- Lines 52-330 outside the request's block free neither the path, the host
nor the origin. -/
theorem dispatch_keeps_request (parser : Parser) (revents : Revents) {mode : ConnMode}
    (quiet : ¬mode.Requests) : Keeps (Appends (· ≠ .free b)) (dispatch parser revents mode) := by
  cases mode with
  | wsClientWaitingProxyReply => exact absurd (.inl rfl) quiet
  | wsClientIssueHandshake => exact absurd (.inr rfl) quiet
  | wsClientWaitingServerReply =>
      exact waitingServerReply_appends (quiet_ne_free b) (protocol_ne_request request)
        (token_ne_request request) (fun _ _ => nofun) (fun _ _ _ => nofun) parser revents
  | _ => exact keeps_pure _

/-- Line 331, `bail3`: the offered protocol list is freed and the session closed. -/
theorem serviceBail3_keeps_request :
    Keeps (fun w w' => Appends (· ≠ .free b) w w' ∧ w'.closed = true) serviceBail3 := fun w =>
  ⟨@serviceBail3_appends (· ≠ .free b) (protocol_ne_request request) (fun _ _ _ => nofun) w,
    by simp [World.closed, Event.isClose]⟩

end Request

theorem dispatch_releasesOnce (b : Buffer) (parser : Parser) (revents : Revents)
    {mode : ConnMode} (requests : mode.Requests) :
    Keeps (ReleasesOnce b) (dispatch parser revents mode) := by
  rcases requests with rfl | rfl
  · exact (waitingProxyReply_appends (quiet_ne_free b) (fun _ _ _ => nofun) revents).bind_of
      (fun _ => issueHandshake_releasesOnce b) (fun _ _ => .of_appends) fun _ _ _ => .after_appends
  · exact issueHandshake_releasesOnce b

/-- The releases of `b` in the ledger, with the one release a connection that
may still request has to come. -/
def releasePotential (b : Buffer) (w : World) : Nat :=
  freeCount b w.log + if w.MayRequest then 1 else 0

/-- No call of `lws_client_socket_service` raises `releasePotential` of the
path, the host or the origin. -/
theorem lwsClientSocketService_releases {b : Buffer}
    (request : b ∈ [Buffer.cPath, .cHost, .cOrigin]) (parser : Parser) (revents : Revents)
    {w : World} (live : w.closed = false) :
    releasePotential b (lwsClientSocketService parser revents w).state ≤ releasePotential b w := by
  have step := lwsClientSocketService_step parser revents live
  rw [lwsClientSocketService_apply] at step ⊢
  unfold releasePotential
  by_cases requests : w.wsi.mode.Requests
  · have once := keeps_withLabels (dispatch_releasesOnce b parser revents requests)
      (fun _ => serviceBail3_keeps_request request) (fun _ _ _ => ReleasesOnce.closing) w
    rw [if_pos (show w.MayRequest from ⟨live, requests⟩)]
    split_ifs with may
    · have same : freeCount b _ = freeCount b w.log := by_contra fun freed => by
        obtain ⟨live', requests'⟩ := may
        rcases once.after freed with waiting | closed
        · rcases requests' with proxy | issuing <;> rw [waiting] at * <;> cases ‹_ = _›
        · rw [closed] at live'
          cases live'
      omega
    · have := once.once
      omega
  · have same := freeCount_eq_of_appends (keeps_withLabels
      (dispatch_keeps_request request parser revents requests)
      (fun _ w => (serviceBail3_keeps_request request w).1) (fun _ _ _ => Appends.trans) w)
    have stays : ¬(withLabels (dispatch parser revents w.wsi.mode) (fun _ => serviceBail3)
        w).state.MayRequest := fun ⟨_, requests'⟩ =>
      step.mode.elim (fun same => requests (same ▸ requests')) fun moved =>
        not_requests_of_mem_successors moved requests'
    rw [if_neg stays, if_neg fun may => requests may.2, same]

/-- The request's strings are released at most once.  Over any run of the
event loop, from any world, the path, the host and the origin of the request
are each freed at most once, and not at all unless the connection starts live
in `WAITING_PROXY_REPLY` or `ISSUE_HANDSHAKE`: the generator frees them in the
request's block and leaves the connection waiting for the reply or closed,
and no call after that frees them. -/
theorem serviceRun_releases_request_once (parser : Parser) (events : List Revents) (w : World)
    {b : Buffer} (request : b ∈ [Buffer.cPath, .cHost, .cOrigin]) :
    freeCount b (serviceRun parser events w).log ≤
      freeCount b w.log + if w.MayRequest then 1 else 0 :=
  (Nat.le_add_right _ _).trans <|
    serviceRun_keeps (R := fun w w' => releasePotential b w' ≤ releasePotential b w)
      (fun _ => le_rfl) (fun _ _ _ first second => second.trans first)
      (fun revents _ live => lwsClientSocketService_releases request parser revents live) events w

theorem aboutToRequest_releasesPath :
    Buffer.cPath ∈ [Buffer.cPath, .cHost, .cOrigin] ∧
      freeCount .cPath (serviceRun patientParser [readable, readable] aboutToRequest).log ≤
        freeCount .cPath aboutToRequest.log + if aboutToRequest.MayRequest then 1 else 0 :=
  ⟨by simp, serviceRun_releases_request_once _ _ _ (by simp)⟩

end LwsClient
