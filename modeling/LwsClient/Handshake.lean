import LwsClient.Causality
import LwsClient.Closing

/-!
# The handshake as its server and its user see it

An abstract model of the client's side of the opening handshake, in the terms
in which the server, the user's protocol and the event loop see a session,
and the proof that `client.c` refines it.  A session shows five things: the
request written (`sent`), its write failing (`sendFailed`),
`CLIENT_ESTABLISHED` (`established`), `CLIENT_CONNECTION_ERROR` (`refused`),
and the session closed (`closed`).  The abstract client requests, awaits the
reply, and is then connected or closed; `HandshakeStep` says what each move shows.
One move is not what the protocol asks for: the generator whose random device
failed closes the session and its caller closes it again (lines 724-726, then
207-209), so a request can end in two closes (`closeTwice`).

`World.phase` reads the abstract phase off a world and `Event.observation`
what an event shows.  Every call of `lws_client_socket_service` from a live
world is one move of the abstract handshake
(`lwsClientSocketService_refines`), so every run of the event loop is a run of
it (`serviceRun_refines`), and a connection about to request shows one of
eight sequences over any run (`serviceRun_shows`).
-/

namespace LwsClient

open Exec

/-! ## The abstract handshake -/

/-- What the server, the user's protocol and the event loop see of a session. -/
inductive Observation
  | sent
  | sendFailed
  | established
  | refused
  | closed
  deriving DecidableEq, Repr

/-- The phases of the client's side of the handshake. -/
inductive Phase
  | requesting
  | awaiting
  | connected
  | idle
  | closed
  deriving DecidableEq, Repr

/-- One move of the abstract handshake, and what it shows. -/
inductive HandshakeStep : Phase → List Observation → Phase → Prop
  | wait (p : Phase) : HandshakeStep p [] p
  | send : HandshakeStep .requesting [.sent] .awaiting
  | fail : HandshakeStep .requesting [.sendFailed, .closed] .closed
  | abort : HandshakeStep .requesting [.closed] .closed
  /-- Lines 724-726, then 207-209: the session is closed twice. -/
  | closeTwice : HandshakeStep .requesting [.closed, .closed] .closed
  | accept : HandshakeStep .awaiting [.established] .connected
  | refuse : HandshakeStep .awaiting [.refused, .closed] .closed
  | drop : HandshakeStep .awaiting [.closed] .closed

/-- The runs of the abstract handshake. -/
inductive HandshakeRun : Phase → List Observation → Phase → Prop
  | done (p : Phase) : HandshakeRun p [] p
  | step {p q r : Phase} {shown rest : List Observation} :
      HandshakeStep p shown q → HandshakeRun q rest r → HandshakeRun p (shown ++ rest) r

theorem HandshakeRun.single {p q : Phase} {shown : List Observation}
    (moved : HandshakeStep p shown q) : HandshakeRun p shown q := by
  simpa using HandshakeRun.step moved (.done q)

theorem HandshakeRun.trans {p q r : Phase} {first second : List Observation}
    (before : HandshakeRun p first q) (after : HandshakeRun q second r) :
    HandshakeRun p (first ++ second) r := by
  induction before with
  | done => exact after
  | step moved _ later =>
      rw [List.append_assoc]
      exact .step moved (later after)

/-- What the abstract handshake can show from each phase. -/
def Phase.shows : Phase → List (List Observation)
  | .requesting => [[], [.closed], [.closed, .closed], [.sendFailed, .closed], [.sent],
      [.sent, .established], [.sent, .refused, .closed], [.sent, .closed]]
  | .awaiting => [[], [.established], [.refused, .closed], [.closed]]
  | _ => [[]]

/-- A move from `p` to `q` followed by anything `q` can show is something `p` can show. -/
theorem HandshakeStep.shows_append {p q : Phase} {shown : List Observation}
    (moved : HandshakeStep p shown q) : ∀ rest ∈ q.shows, shown ++ rest ∈ p.shows := by
  cases moved
  case wait => exact fun _ => id
  all_goals decide

/-- Every run of the abstract handshake shows one of `Phase.shows`. -/
theorem HandshakeRun.mem_shows {p q : Phase} {shown : List Observation}
    (run : HandshakeRun p shown q) : shown ∈ p.shows := by
  induction run with
  | done p => cases p <;> decide
  | step moved _ later => exact moved.shows_append _ later

/-! ## What a world and an event show -/

/-- The abstract phase of a connection in each mode, while its session is open. -/
def ConnMode.phase : ConnMode → Phase
  | .wsClientWaitingProxyReply => .requesting
  | .wsClientIssueHandshake => .requesting
  | .wsClientWaitingServerReply => .awaiting
  | .wsClient => .connected
  | _ => .idle

/-- The abstract phase of a world. -/
def World.phase (w : World) : Phase :=
  if w.closed then .closed else w.wsi.mode.phase

/-- The phases in which the client closes a session. -/
def Phase.Closable (p : Phase) : Prop :=
  p = .requesting ∨ p = .awaiting

theorem World.phase_of_closed {w : World} (closed : w.closed = true) : w.phase = .closed := by
  simp [World.phase, closed]

theorem World.phase_of_live {w : World} (live : w.closed = false) :
    w.phase = w.wsi.mode.phase := by
  simp [World.phase, live]

theorem World.live_of_closable {w : World} (closable : w.phase.Closable) : w.closed = false := by
  cases closed : w.closed
  · rfl
  · rw [World.phase_of_closed closed] at closable
    rcases closable with never | never <;> cases never

/-- What an event shows. -/
def Event.observation : Event → Option Observation
  | .write _ (.wrote _) => some .sent
  | .write _ (.error _) => some .sendFailed
  | .protocolCallback _ .clientEstablished => some .established
  | .protocolCallback _ .clientConnectionError => some .refused
  | .close .. => some .closed
  | _ => none

/-- What a stretch of the ledger shows. -/
def observations (events : List Event) : List Observation :=
  events.filterMap Event.observation

@[simp] theorem observations_append (events later : List Event) :
    observations (events ++ later) = observations events ++ observations later :=
  List.filterMap_append _ _ _

/-- An event that neither closes, tells the user nor writes shows nothing. -/
theorem Event.observation_of_routine {e : Event} (routine : e.Routine)
    (unwrote : e.isWrite = false) : e.observation = none := by
  obtain ⟨unclosed, untold⟩ := routine
  cases e with
  | protocolCallback _ reason => cases reason <;> first | rfl | cases untold
  | close => cases unclosed
  | write => cases unwrote
  | _ => rfl

theorem observations_routine {events : List Event} (routine : ∀ e ∈ events, e.Routine)
    (unwritten : writeCount events = 0) : observations events = [] :=
  List.filterMap_eq_nil_iff.mpr fun e mem => e.observation_of_routine (routine e mem) <| by
    simpa using List.countP_eq_zero.mp unwritten e mem

/-- Exactly the closes show `closed`. -/
theorem Event.observation_eq_closed {e : Event} :
    e.observation = some .closed ↔ e.isClose = true := by
  cases e with
  | protocolCallback _ reason => cases reason <;> simp [Event.observation, Event.isClose]
  | write _ result => cases result <;> simp [Event.observation, Event.isClose]
  | _ => simp [Event.observation, Event.isClose]

@[simp] theorem observations_freedIfSet (p : Option CStr) (b : Buffer) :
    observations (freedIfSet p b) = [] := by
  cases p <;> rfl

@[simp] theorem observations_tokenFrees (table : HeaderTable) (tokens : List Token) :
    observations (tokenFrees table tokens) = [] :=
  List.filterMap_eq_nil_iff.mpr fun e mem => by
    obtain ⟨t, -, freed⟩ := List.mem_filterMap.mp mem
    obtain ⟨_, -, rfl⟩ := Option.map_eq_some'.mp freed
    rfl

@[simp] theorem observations_establishedCallbacks (active : List Nat)
    (exts : List (Nat × Extension)) : observations (establishedCallbacks active exts) = [] :=
  List.filterMap_eq_nil_iff.mpr fun e mem => by
    obtain ⟨_, -, rfl⟩ := List.mem_map.mp mem
    rfl

/-- Lines 674-689 show the refusal when a protocol was selected, then the close. -/
theorem observations_bail2Events (wsi : Conn) :
    observations (bail2Events wsi) = wsi.cCallback.elim [] (fun _ => [.refused]) ++ [.closed] := by
  rw [bail2Events, observations_append, observations_append, observations_tokenFrees,
    List.append_nil]
  cases wsi.cCallback <;> rfl

/-- A stretch of the ledger that shows `closed` closes the session. -/
theorem World.closed_of_shows {w w' : World} {events : List Event}
    (log : w'.log = w.log ++ events) (shown : Observation.closed ∈ observations events) :
    w'.closed = true := by
  obtain ⟨e, mem, observed⟩ := List.mem_filterMap.mp shown
  simp only [World.closed, log, List.any_append, Bool.or_eq_true, List.any_eq_true]
  exact .inr ⟨e, mem, Event.observation_eq_closed.mp observed⟩

/-- A stretch of the ledger that does not show `closed` leaves a live session live. -/
theorem World.phase_of_unshown {w w' : World} {events : List Event} (live : w.closed = false)
    (log : w'.log = w.log ++ events) (unshown : Observation.closed ∉ observations events) :
    w'.phase = w'.wsi.mode.phase := by
  refine World.phase_of_live ?_
  unfold World.closed at live ⊢
  rw [log, List.any_append, live, Bool.false_or, List.any_eq_false]
  exact fun e mem closes =>
    unshown (List.mem_filterMap.mpr ⟨e, mem, Event.observation_eq_closed.mpr closes⟩)

/-! ## Moves -/

/-- `w'` follows `w` by a block that shows nothing: it appended routine events,
wrote nothing and left the mode. -/
structure Silent (w w' : World) : Prop where
  routine : Appends Event.Routine w w'
  frame : Follows [] w w'

/-- A frame that allows no new mode leaves the mode. -/
theorem Follows.mode_eq {w w' : World} (frame : Follows [] w w') : w'.wsi.mode = w.wsi.mode :=
  frame.mode.resolve_right (List.not_mem_nil _)

namespace Silent

variable {w w' w₁ w₂ w₃ : World}

theorem refl (w : World) : Silent w w :=
  ⟨refl_of _ w, refl_of _ w⟩

theorem shows (silent : Silent w₁ w₂) :
    ∃ events, w₂.log = w₁.log ++ events ∧ observations events = [] := by
  obtain ⟨events, log, routine⟩ := silent.routine
  refine ⟨events, log, observations_routine routine ?_⟩
  have writes := silent.frame.writes
  rw [log, writeCount_append] at writes
  omega

theorem closed (silent : Silent w₁ w₂) : w₂.closed = w₁.closed := by
  obtain ⟨events, log, routine⟩ := silent.routine
  simp only [World.closed, log, List.any_append]
  rw [show events.any Event.isClose = false from List.any_eq_false.mpr fun e mem => by
    simp [(routine e mem).1], Bool.or_false]

theorem phase (silent : Silent w₁ w₂) : w₂.phase = w₁.phase := by
  simp only [World.phase, silent.closed, silent.frame.mode_eq]

/-- Appending events that neither close nor tell, with the mode left, is silent. -/
theorem of_closesNothing (frame : Follows [] w w')
    (untold : Appends (fun e => e.isVerdict = false) w w') (unclosed : ClosesNothing w w') :
    Silent w w' := by
  obtain ⟨events, log, closesNone⟩ := unclosed
  obtain ⟨events', log', quiet⟩ := untold
  rw [log] at log'
  cases List.append_cancel_left log'
  exact ⟨⟨events, log, fun e mem => ⟨closesNone e mem, quiet e mem⟩⟩, frame⟩

end Silent

/-- `w'` is one move of the abstract handshake after `w`. -/
def Moves (w w' : World) : Prop :=
  ∃ events, w'.log = w.log ++ events ∧ HandshakeStep w.phase (observations events) w'.phase

namespace Moves

variable {w w' w₁ w₂ w₃ : World}

/-- A move read off the ledger and the two phases. -/
theorem of_step {events : List Event} {p q : Phase} {shown : List Observation}
    (log : w'.log = w.log ++ events) (before : w.phase = p) (after : w'.phase = q)
    (observed : observations events = shown) (moved : HandshakeStep p shown q) : Moves w w' :=
  ⟨events, log, before ▸ after ▸ observed ▸ moved⟩

theorem of_silent (silent : Silent w w') : Moves w w' := by
  obtain ⟨events, log, shown⟩ := silent.shows
  exact .of_step log rfl silent.phase shown (.wait _)

theorem after (first : Silent w₁ w₂) (second : Moves w₂ w₃) : Moves w₁ w₃ := by
  obtain ⟨events₁, log₁, shown₁⟩ := first.shows
  obtain ⟨events₂, log₂, moved⟩ := second
  exact .of_step (by rw [log₂, log₁, List.append_assoc]) first.phase.symm rfl
    (by rw [observations_append, shown₁, List.nil_append]) moved

/-- A move that closes the session, read off the ledger. -/
theorem of_closing {events : List Event} {p : Phase} {shown : List Observation}
    (log : w'.log = w.log ++ events) (before : w.phase = p) (observed : observations events = shown)
    (closing : Observation.closed ∈ shown) (moved : HandshakeStep p shown .closed) : Moves w w' :=
  .of_step log before (World.phase_of_closed (World.closed_of_shows log (observed ▸ closing)))
    observed moved

/-- A session closed once, from a phase that may close. -/
theorem of_closes {events : List Event} (closable : w.phase.Closable)
    (log : w'.log = w.log ++ events) (shown : observations events = [.closed]) : Moves w w' := by
  rcases closable with requesting | awaiting
  · exact .of_closing log requesting shown (.head _) .abort
  · exact .of_closing log awaiting shown (.head _) .drop

/-- Routine events with no write, then at most one close, with the mode left and
nothing told, from a phase that may close. -/
theorem of_closesLast (closable : w.phase.Closable) (frame : Follows [] w w')
    (untold : Appends (fun e => e.isVerdict = false) w w') (closes : ClosesLast 1 w w') :
    Moves w w' := by
  obtain ⟨pre, post, log, unclosed, short, closing⟩ := closes
  obtain ⟨events, log', quiet⟩ := untold
  have writes := frame.writes
  rw [log] at log' writes
  rw [List.append_assoc] at log'
  cases List.append_cancel_left log'
  have routine : ∀ e ∈ pre, e.Routine := fun e mem =>
    ⟨by simp only [closeCount, List.countP_eq_zero] at unclosed; simpa using unclosed e mem,
      quiet e (List.mem_append_left _ mem)⟩
  have unwritten : writeCount pre = 0 := by
    rw [List.append_assoc, writeCount_append, writeCount_append] at writes
    omega
  rcases post with _ | ⟨e, _ | ⟨_, _⟩⟩
  · exact .of_silent ⟨⟨pre, by rw [log, List.append_nil], routine⟩, frame⟩
  · have appended : w'.log = w.log ++ (pre ++ [e]) := by rw [log, List.append_assoc]
    refine .of_closes closable appended ?_
    rw [observations_append, observations_routine routine unwritten]
    simp [observations, Event.observation_eq_closed.mpr (closing e (List.mem_singleton_self _))]
  · simp only [List.length_cons] at short
    omega

end Moves

/-- How a block that leaves by `e` has moved: at a `goto` not at all, since the
label closes the session after it; otherwise by one move. -/
def MovedOnExit : Exit → World → World → Prop
  | .goto _ => Silent
  | _ => Moves

theorem MovedOnExit.of_silent {e : Exit} {w w' : World} (silent : Silent w w') :
    MovedOnExit e w w' := by
  cases e with
  | goto => exact silent
  | _ => exact Moves.of_silent silent

section Silence

variable {α : Type} {x : Code α} (frame : Keeps (Follows []) x)
  (untold : Keeps (Appends fun e => e.isVerdict = false) x) (closes : ClosesOnReturn 1 x)
include frame untold closes

/-- A block that keeps the mode, tells nothing and closes only as it returns is
silent when it falls through. -/
theorem silent_of_next {w w' : World} {a : α} (run : x w = .next a w') : Silent w w' :=
  .of_closesNothing (frame.of_next run) (untold.of_next run) (closes.next run)

/-- Leaving, such a block has moved as `MovedOnExit` says, from a phase that may close. -/
theorem movedOnExit_of_closes {w w' : World} {e : Exit} (closable : w.phase.Closable)
    (run : x w = .exit e w') : MovedOnExit e w w' := by
  cases e with
  | goto => exact Silent.of_closesNothing (frame.of_exit run) (untold.of_exit run) (closes.exit run)
  | ret => exact .of_closesLast closable (frame.of_exit run) (untold.of_exit run) (closes.exit run)
  | undefined =>
      exact .of_closesLast closable (frame.of_exit run) (untold.of_exit run) (closes.exit run)

end Silence

/-! ## A call -/

/-- A body that starts with a block falling through goes on with the rest. -/
theorem withLabels_bind_of_next {α : Type} {x : Code α} {f : α → Code Int}
    {labels : Label → Code Int} {w w' : World} {a : α} (run : x w = .next a w') :
    withLabels (x >>= f) labels w = withLabels (f a) labels w' := by
  simp only [withLabels, Exec.bind_of_next run]

/-- `bail3` (lines 314-320) closes the session: one move from a phase that may close. -/
theorem serviceBail3_moves {w : World} (closable : w.phase.Closable) :
    Moves w (serviceBail3 w).state := by
  rw [serviceBail3_apply]
  exact .of_closes closable (List.append_assoc _ _ _)
    (by rw [observations_append, observations_freedIfSet]; rfl)

/-- A call whose body leaves from a phase that may close is one move, when the body
moved as `MovedOnExit` says: at a `goto`, `bail3` closes the session. -/
theorem moves_withLabels_of_exit {body : Code Int} {w w' : World} {e : Exit}
    (closable : w.phase.Closable) (run : body w = .exit e w') (moved : MovedOnExit e w w') :
    Moves w (withLabels body (fun _ => serviceBail3) w).state := by
  cases e with
  | goto l =>
      have silent : Silent w w' := moved
      rw [withLabels_of_goto run]
      exact .after silent (serviceBail3_moves (silent.phase ▸ closable))
  | ret v =>
      rw [withLabels_of_ret run]
      exact moved
  | undefined u =>
      rw [withLabels_state fun _ _ => by rw [run]; exact nofun, run]
      exact moved

/-- A call whose body starts with a block that keeps the mode, tells nothing and
closes only as it returns, from a phase that may close, is one move when the rest of
the body makes one from wherever the block falls through. -/
theorem moves_withLabels_bind {α : Type} {x : Code α} (frame : Keeps (Follows []) x)
    (untold : Keeps (Appends fun e => e.isVerdict = false) x) (closes : ClosesOnReturn 1 x)
    {f : α → Code Int} {w : World} (closable : w.phase.Closable)
    (rest : ∀ a w₁, Silent w w₁ → Moves w₁ (withLabels (f a) (fun _ => serviceBail3) w₁).state) :
    Moves w (withLabels (x >>= f) (fun _ => serviceBail3) w).state := by
  cases run : x w with
  | next a w₁ =>
      have silent := silent_of_next frame untold closes run
      rw [withLabels_bind_of_next run]
      exact .after silent (rest a w₁ silent)
  | exit e w₁ =>
      exact moves_withLabels_of_exit closable (Exec.bind_of_exit run)
        (movedOnExit_of_closes frame untold closes closable run)

/-! ## The request -/

/-- Lines 207-209: the caller closes the session and returns. -/
theorem withLabels_closeAndReturn (labels : Label → Code Int) (w : World) :
    withLabels (do libwebsocketCloseAndFreeSession .noStatus; ret 0) labels w =
      .next 0 { w with log := w.log ++ [.close .noStatus w.wsi.mode w.wsi.state] } :=
  rfl

/-- Lines 212-236 from a connection about to request: the request written and the
connection waiting for the reply, or the write failed and the session closed. -/
theorem sendRequest_moves (request : List Char) {w : World} (requesting : w.phase = .requesting) :
    Moves w (withLabels (sendRequest request) (fun _ => serviceBail3) w).state := by
  have live := World.live_of_closable (.inl requesting)
  cases written : w.io.nextWrite request.length with
  | wrote n =>
      rw [withLabels_of_ret (sendRequest_of_wrote written)]
      exact .of_step rfl requesting
        (World.phase_of_unshown live rfl (by simp [observations, Event.observation])) rfl .send
  | error e =>
      rw [withLabels_of_ret (sendRequest_of_error written)]
      exact .of_closing rfl requesting rfl (by simp [observations, Event.observation]) .fail

/-- Lines 91-236 from a connection about to request: one move.  When the random
device fails the generator closes the session and its caller closes it again. -/
theorem issueHandshake_moves {w : World} (requesting : w.phase = .requesting) :
    Moves w (withLabels issueHandshake (fun _ => serviceBail3) w).state := by
  refine moves_withLabels_bind keeps_connectTls (connectTls_appends untold_routine fun _ _ _ => rfl)
    connectTls_closesOnReturn (.inl requesting) fun _ w₁ silent => ?_
  have requesting₁ : w₁.phase = .requesting := silent.phase.trans requesting
  by_cases drawn : (w₁.io.nextRandom.take 16).length = 16
  · obtain ⟨_, w₂, generated, -⟩ := libwebsocketsGenerateClientHandshake_of_drawn drawn
    have appended := libwebsocketsGenerateClientHandshake_appends_of_drawn
      (fun _ routine _ => routine) (fun _ _ => ⟨rfl, rfl⟩) drawn
    have frame := (keeps_libwebsocketsGenerateClientHandshake : Keeps (Follows []) _) w₁
    rw [generated] at appended frame
    have silent₂ : Silent w₁ w₂ := ⟨appended, frame⟩
    rw [withLabels_bind_of_next generated]
    exact .after silent₂ (sendRequest_moves _ (silent₂.phase.trans requesting₁))
  · have short : w₁.io.nextRandom.length < 16 := by
      rw [List.length_take] at drawn
      omega
    rw [withLabels_bind_of_next (libwebsocketsGenerateClientHandshake_of_short_random short)]
    dsimp only
    rw [withLabels_closeAndReturn]
    let closed := Event.close .noStatus w₁.wsi.mode w₁.wsi.state
    have shown : observations ([.free .cPath, .free .cHost] ++ freedIfSet w₁.wsi.cOrigin .cOrigin ++
        freedIfSet w₁.wsi.cProtocol .cProtocol ++ [closed, closed]) = [.closed, .closed] := by
      simp only [observations_append, observations_freedIfSet]
      rfl
    exact .of_closing (by simp [closed]) requesting₁ shown (by decide) .closeTwice

/-! ## The reply -/

/-- Lines 592-668 leave the mode as it was, unless they jump to `bail3` after
marking the connection established. -/
theorem establish_mode_of_exit {w w' : World} {e : Exit} (run : establish w = .exit e w')
    (notBail3 : e ≠ .goto .bail3) : w'.wsi.mode = w.wsi.mode := by
  rcases Exec.bind_eq_exit_iff.mp run with got | ⟨_, _, ⟨⟩, run₁⟩
  · simp at got
  rcases Exec.bind_eq_exit_iff.mp run₁ with got | ⟨_, _, ⟨⟩, run₂⟩
  · simp at got
  rcases Exec.bind_eq_exit_iff.mp run₂ with unselected | ⟨i, _, selected, run₃⟩
  · exact ((keeps_deref _ : Keeps (Follows []) _).of_exit unselected).mode_eq
  obtain ⟨-, rfl⟩ := deref_eq_next_iff.mp selected
  rcases Exec.bind_eq_exit_iff.mp run₃ with unregistered | ⟨protocol, _, registered, run₄⟩
  · exact ((keeps_deref _ : Keeps (Follows []) _).of_exit unregistered).mode_eq
  obtain ⟨-, rfl⟩ := deref_eq_next_iff.mp registered
  rcases Exec.bind_eq_exit_iff.mp run₄ with starved | ⟨_, w₁, allocated, run₅⟩
  · exact ((keeps_allocateUserSpace protocol : Keeps (Follows []) _).of_exit starved).mode_eq
  rcases Exec.bind_eq_exit_iff.mp run₅ with marked | ⟨_, w₂, -, run₆⟩
  · simp at marked
  rcases Exec.bind_eq_exit_iff.mp run₆ with starved | ⟨_, _, _, announced⟩
  · simp only [allocateRxBuffer_apply] at starved
    split_ifs at starved <;> cases starved <;> exact absurd rfl notBail3
  · simp at announced

/-- Lines 384-666 leave the mode as it was, unless they jump to `bail3`. -/
theorem interpretBody_mode_of_exit {w w' : World} {e : Exit} (run : interpretBody w = .exit e w')
    (notBail3 : e ≠ .goto .bail3) : w'.wsi.mode = w.wsi.mode := by
  have checks : Keeps (Follows []) checkServerHandshake := keeps_checkServerHandshake
  rcases Exec.bind_eq_exit_iff.mp run with failed | ⟨⟨⟩, w₁, checked, left⟩
  · exact (checks.of_exit failed).mode_eq
  · exact (establish_mode_of_exit left notBail3).trans (checks.of_next checked).mode_eq

/-- Lines 384-666 leave early having shown nothing. -/
theorem interpretBody_unshown {w w' : World} {e : Exit} (run : interpretBody w = .exit e w') :
    ∃ events, w'.log = w.log ++ events ∧ observations events = [] := by
  obtain ⟨events, log, routine⟩ := interpretBody_leaves run
  have writes := ((keeps_interpretBody (.head _) : Keeps (Follows [.wsClient]) _).of_exit run).writes
  rw [log, writeCount_append] at writes
  exact ⟨events, log, observations_routine routine (by omega)⟩

/-- Lines 384-666, falling through, show `CLIENT_ESTABLISHED` alone and leave the
connection in `WS_CLIENT`. -/
theorem interpretBody_shows {w w' : World} (run : interpretBody w = .next () w') :
    ∃ events, w'.log = w.log ++ events ∧ observations events = [.established] ∧
      w'.wsi.mode = .wsClient := by
  have writes := ((keeps_interpretBody (.head _) : Keeps (Follows [.wsClient]) _).of_next run).writes
  obtain ⟨⟨⟩, w₁, checked, committed⟩ := Exec.bind_eq_next_iff.mp run
  obtain ⟨i, protocol, w₂, w₃, w₄, allocated, marked, buffered, announced⟩ :=
    establish_steps committed
  have routine := fun e (r : Event.Routine e) (_ : e.isFree = false) => r
  obtain ⟨events, log, quiet⟩ := ((checkServerHandshake_routine.of_next checked).trans
    ((allocateUserSpace_appends routine protocol).of_next allocated)).trans
    (((markEstablished_appends routine (fun _ => ⟨rfl, rfl⟩) i).of_next marked).trans
      ((allocateRxBuffer_appends routine protocol).of_next buffered))
  simp only [announceConnection_apply, Res.next.injEq, true_and] at announced
  subst announced
  refine ⟨events ++ .protocolCallback i .clientEstablished ::
      establishedCallbacks w₄.wsi.activeExtensions w₄.context.extensions.enum,
    by rw [log, List.append_assoc], ?_, (establish_commits committed).2.2.2⟩
  simp only [log, List.append_assoc, writeCount_append] at writes
  rw [observations_append, observations_routine quiet (by omega)]
  show [.established] ++ observations (establishedCallbacks _ _) = _
  rw [observations_establishedCallbacks, List.append_nil]

/-- `bail2` (lines 674-689) after events that show nothing, from a connection
waiting for the reply: the user told of the refusal when a protocol was
selected, and the session closed. -/
theorem Moves.of_bail2 {w w' : World} {events : List Event} {wsi : Conn}
    (awaiting : w.phase = .awaiting) (log : w'.log = w.log ++ events ++ bail2Events wsi)
    (unshown : observations events = []) : Moves w w' := by
  rw [List.append_assoc] at log
  have shown := observations_bail2Events wsi
  cases callback : wsi.cCallback <;> rw [callback] at shown
  · exact .of_closing log awaiting (by rw [observations_append, unshown, shown]; rfl) (by decide)
      .drop
  · exact .of_closing log awaiting (by rw [observations_append, unshown, shown]; rfl) (by decide)
      .refuse

/-- Lines 351-690 from a connection waiting for the reply: one move. -/
theorem lwsClientInterpretServerHandshake_moves {w : World} (awaiting : w.phase = .awaiting) :
    Moves w (lwsClientInterpretServerHandshake w).state := by
  cases run : interpretBody w with
  | next _ w' =>
      rw [lwsClientInterpretServerHandshake_eq_zero.mpr run]
      obtain ⟨events, log, shown, established⟩ := interpretBody_shows run
      have connected := World.phase_of_unshown (World.live_of_closable (.inr awaiting)) log
        (by simp [shown])
      rw [established] at connected
      exact .of_step log awaiting connected shown .accept
  | exit e w₁ =>
      obtain ⟨events, log, unshown⟩ := interpretBody_unshown run
      have silent : e ≠ .goto .bail3 → Silent w w₁ := fun notBail3 =>
        have frame := (keeps_interpretBody (.head _) : Keeps (Follows [.wsClient]) _).of_exit run
        ⟨interpretBody_leaves run, .inl (interpretBody_mode_of_exit run notBail3), frame.log,
          frame.writes⟩
      cases e with
      | goto l =>
          cases l with
          | bail2 =>
              rw [lwsClientInterpretServerHandshake_of_bail2 run, interpretBail2_apply]
              exact .of_bail2 awaiting
                (by simp [log] : _ = w.log ++ events ++ bail2Events w₁.wsi) unshown
          | bail3 =>
              rw [lwsClientInterpretServerHandshake_of_bail3 run, interpretBail3_apply]
              exact .of_bail2 awaiting (by simp [log] : _ = w.log ++
                  (events ++ freedIfSet w₁.wsi.cProtocol .cProtocol) ++ bail2Events w₁.wsi)
                (by simp [unshown])
      | ret v =>
          have returned : lwsClientInterpretServerHandshake w = .exit (.ret v) w₁ := by
            simp [lwsClientInterpretServerHandshake, run]
          rw [returned]
          exact .of_silent (silent nofun)
      | undefined u =>
          rw [lwsClientInterpretServerHandshake_of_undefined run]
          exact .of_silent (silent nofun)

/-- Lines 238-312 from a connection waiting for the reply: one move. -/
theorem waitingServerReply_moves (parser : Parser) (revents : Revents) {w : World}
    (awaiting : w.phase = .awaiting) :
    Moves w (withLabels (waitingServerReply parser revents) (fun _ => serviceBail3) w).state := by
  by_cases readable : (revents.pollerr || revents.pollhup) = false ∧ revents.pollin = true
  · have reads : Keeps Silent (readLoop parser (w.wsi.useSsl ≠ .off) w.io.uninitialized) :=
      fun w' => ⟨readLoop_appends (fun _ routine _ => routine) _ _ _ w', keeps_readLoop _ _ _ w'⟩
    cases looped : replyLoop parser w with
    | exit e w₁ =>
        exact moves_withLabels_of_exit (.inr awaiting)
          (waitingServerReply_of_exit readable.1 readable.2 looped)
          (.of_silent (reads.of_exit looped))
    | next _ w₁ =>
        have silent := reads.of_next looped
        cases complete : w₁.wsi.parserComplete
        · rw [withLabels_of_ret (waitingServerReply_of_incomplete readable.1 readable.2 looped
            complete)]
          exact .of_silent silent
        · have interpreted := waitingServerReply_of_complete readable.1 readable.2 looped complete
          rw [withLabels_state fun _ _ => by
              rw [interpreted]; exact lwsClientInterpretServerHandshake_ne_goto _ _ _,
            interpreted]
          exact .after silent (lwsClientInterpretServerHandshake_moves (silent.phase.trans awaiting))
  · have bail : waitingServerReply parser revents w = .exit (.goto .bail3) w := by
      cases dead : (revents.pollerr || revents.pollhup)
      · have unreadable : revents.pollin = false := by simpa [dead] using readable
        simp [waitingServerReply, dead, unreadable]
      · simp [waitingServerReply, dead]
    rw [withLabels_of_goto bail]
    exact serviceBail3_moves (.inr awaiting)

/-! ## Every call, and every run -/

/-- One call of `lws_client_socket_service` from a live world is one move of the
abstract handshake. -/
theorem lwsClientSocketService_refines (parser : Parser) (revents : Revents) {w : World}
    (live : w.closed = false) : Moves w (lwsClientSocketService parser revents w).state := by
  rw [lwsClientSocketService_apply]
  have phase := World.phase_of_live live
  cases mode : w.wsi.mode with
  | wsClientWaitingProxyReply =>
      rw [mode] at phase
      exact moves_withLabels_bind (keeps_waitingProxyReply revents)
        (waitingProxyReply_appends untold_routine (fun _ _ _ => rfl) revents)
        (waitingProxyReply_closesOnReturn revents) (.inl phase)
        fun _ _ silent => issueHandshake_moves (silent.phase.trans phase)
  | wsClientIssueHandshake =>
      rw [mode] at phase
      exact issueHandshake_moves phase
  | wsClientWaitingServerReply =>
      rw [mode] at phase
      exact waitingServerReply_moves parser revents phase
  | _ => exact .of_silent (.refl w)

/-- `w'` follows `w` by a run of the abstract handshake, read off the ledger. -/
def RunsAs (w w' : World) : Prop :=
  ∃ appended, w'.log = w.log ++ appended ∧
    HandshakeRun w.phase (observations appended) w'.phase

theorem RunsAs.trans {w₁ w₂ w₃ : World} (first : RunsAs w₁ w₂) (second : RunsAs w₂ w₃) :
    RunsAs w₁ w₃ := by
  obtain ⟨events₁, log₁, run₁⟩ := first
  obtain ⟨events₂, log₂, run₂⟩ := second
  refine ⟨events₁ ++ events₂, by rw [log₂, log₁, List.append_assoc], ?_⟩
  rw [observations_append]
  exact run₁.trans run₂

/-- The client refines the abstract handshake.  Over any run of the event loop,
from any world, what the client appends to its ledger shows what the abstract
handshake shows along one of its runs, from the phase the world starts in to
the phase the run ends in. -/
theorem serviceRun_refines (parser : Parser) (events : List Revents) (w : World) :
    ∃ appended, (serviceRun parser events w).log = w.log ++ appended ∧
      HandshakeRun w.phase (observations appended) (serviceRun parser events w).phase :=
  serviceRun_keeps (R := RunsAs) (fun _ => ⟨[], (List.append_nil _).symm, .done _⟩)
    (fun _ _ _ => RunsAs.trans)
    (fun revents _ live =>
      let ⟨shown, log, moved⟩ := lwsClientSocketService_refines parser revents live
      ⟨shown, log, .single moved⟩) events w

/-- What a connection about to request can show.  Over any run of the event
loop from a live connection in `WAITING_PROXY_REPLY` or `ISSUE_HANDSHAKE`,
what the client appends to its ledger shows one of eight sequences: nothing;
the session closed, once, or twice when the random device failed; the write of
the request failed and the session closed; the request sent, then nothing,
`CLIENT_ESTABLISHED`, `CLIENT_CONNECTION_ERROR` and a close, or a close. -/
theorem serviceRun_shows (parser : Parser) (events : List Revents) (w : World)
    (live : w.closed = false) (requests : w.wsi.mode.Requests) :
    ∃ appended, (serviceRun parser events w).log = w.log ++ appended ∧
      observations appended ∈ Phase.requesting.shows := by
  have requesting : w.phase = .requesting := by
    rw [World.phase_of_live live]
    rcases requests with mode | mode <;> rw [mode] <;> rfl
  obtain ⟨appended, log, run⟩ := serviceRun_refines parser events w
  exact ⟨appended, log, requesting ▸ run.mem_shows⟩

theorem aboutToRequest_shows :
    ∃ appended, (serviceRun patientParser [readable, readable] aboutToRequest).log =
      aboutToRequest.log ++ appended ∧ observations appended ∈ Phase.requesting.shows :=
  serviceRun_shows _ _ _ (by decide) (by decide)

end LwsClient
