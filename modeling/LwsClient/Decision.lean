import LwsClient.Negotiation
import LwsClient.Notification

/-!
# The checks of the reply decide the handshake

`ReplyConforms w i` is what lines 384-590 ask of a reply, block by block: the
status line and upgrade headers of lines 384-408, the protocol selection of
lines 410-481 taking registry entry `i` (`ProtocolSelected`), a registry entry
for every name lines 503-574 read from the extensions value
(`replyExtensionNames`), and the stored accept hash of lines 579-590.  None of
the blocks reads through NULL once the slots the code dereferences are set
(`checkServerHandshake_leaves`).

`AnswersOffer` says the same without the code's walks, as a server reads the
client's offer: the protocol token opens the offered list (`FirstOffered`),
and the names asked for are the pieces of the extensions value between
separators (`extensionElements`).  For a trimmed protocol token the two agree
(`answersOffer_iff_conforms`).

`lwsClientInterpretServerHandshake_decides` is the resulting adequacy fact:
when the reply's instances fit in `active_extensions` and every allocation
succeeds, a reply that answers the offer is established (the function returns
0 with the connection in `WS_CLIENT`, protocol `i`, the instances the reply
asks for, and no close), and every other reply is refused (the function
returns 1 having closed the session once).

The extensions value is a format, and its round trip is
`checkedNames_joined`: names joined by runs of separators are read back as
those names, in order.
-/

namespace LwsClient

open Exec

/-! ## The extension list, read back -/

/-- A name a server may put in its `Sec-WebSocket-Extensions` value for lines
503-574 to read whole: not empty, within the 127 bytes `ext_name` keeps, and
free of the separators `,`, space and tab. -/
structure ExtensionName where
  chars : List Char
  nonempty : chars ≠ []
  short : chars.length ≤ 127
  noSeparator : ∀ c ∈ chars, ¬(c = ',' ∨ c = ' ' ∨ c = '\t')

theorem checkedNames_separators {seps : List Char}
    (separators : ∀ c ∈ seps, c = ',' ∨ c = ' ' ∨ c = '\t') (rest : List Char) :
    checkedNames [] (seps ++ rest) = checkedNames [] rest := by
  induction seps with
  | nil => rfl
  | cons c seps ih =>
      have separator := separators c (List.mem_cons_self _ _)
      rw [List.cons_append, checkedNames, if_neg (by tauto), if_pos rfl,
        ih fun d member => separators d (List.mem_cons_of_mem _ member)]

theorem checkedNames_of_separators {extName seps : List Char} (nonempty : extName ≠ [])
    (sepNonempty : seps ≠ []) (separators : ∀ c ∈ seps, c = ',' ∨ c = ' ' ∨ c = '\t')
    (rest : List Char) :
    checkedNames extName (seps ++ rest) = extName :: checkedNames [] rest := by
  obtain ⟨c, seps, rfl⟩ := List.exists_cons_of_ne_nil sepNonempty
  have separator := separators c (List.mem_cons_self _ _)
  rw [List.cons_append, checkedNames, if_neg (by tauto), if_neg nonempty,
    checkedNames_separators fun d member => separators d (List.mem_cons_of_mem _ member)]

/-- A nonempty run of the separators `,`, space and tab. -/
structure SeparatorRun where
  chars : List Char
  nonempty : chars ≠ []
  separators : ∀ c ∈ chars, c = ',' ∨ c = ' ' ∨ c = '\t'

/-- The extension list round trip.  Names joined by nonempty runs of `,`,
space and tab, any run at each joint, are handed by lines 503-574 to the
registry check as exactly those names, in order. -/
theorem checkedNames_joined :
    ∀ (first : ExtensionName) (rest : List (SeparatorRun × ExtensionName)),
      checkedNames [] (first.chars ++ rest.flatMap fun joint => joint.1.chars ++ joint.2.chars) =
        first.chars :: rest.map fun joint => joint.2.chars
  | first, [] => by
      simpa [checkedNames] using
        @checkedNames_word first.chars first.noSeparator [] (by simpa using first.short) []
  | first, (sep, next) :: rest => by
      rw [List.flatMap_cons,
        @checkedNames_word first.chars first.noSeparator [] (by simpa using first.short),
        List.nil_append, List.append_assoc,
        checkedNames_of_separators first.nonempty sep.nonempty sep.separators,
        checkedNames_joined next rest]
      rfl

/-- `permessage-deflate`. -/
def permessageDeflate : ExtensionName :=
  ⟨"permessage-deflate".toList, by decide, by decide, by decide⟩

/-- `deflate-frame`. -/
def deflateFrameName : ExtensionName := ⟨"deflate-frame".toList, by decide, by decide, by decide⟩

/-- `x-webkit-deflate-frame`. -/
def webkitDeflateName : ExtensionName :=
  ⟨"x-webkit-deflate-frame".toList, by decide, by decide, by decide⟩

/-- `permessage-deflate,deflate-frame x-webkit-deflate-frame`: a comma at the
first joint and a space at the second. -/
theorem mixedSeparators_joined :
    checkedNames [] (permessageDeflate.chars ++
        [(⟨[','], by decide, by decide⟩, deflateFrameName),
          (⟨[' '], by decide, by decide⟩, webkitDeflateName)].flatMap
          fun (joint : SeparatorRun × ExtensionName) => joint.1.chars ++ joint.2.chars) =
      ["permessage-deflate".toList, "deflate-frame".toList, "x-webkit-deflate-frame".toList] :=
  checkedNames_joined _ _

/-! ## What the reply must carry -/

/-- Lines 410-481 take registry entry `i` for the reply: the first entry when
the reply has no protocol token, else the entry named by a token that the walk
of the offered list matched. -/
inductive ProtocolSelected (slot offered : Option CStr) (protocols : List Protocol) : Nat → Prop
  | absent : tokenLen slot = 0 → ProtocolSelected slot offered protocols 0
  | named {token list : CStr} {i : Nat} : slot = some token → token.chars ≠ [] →
      offered = some list → matchOffered token.chars list.chars = true →
      protocols.findIdx? (fun p => strcmp token.chars p.name.chars = 0) = some i →
      ProtocolSelected slot offered protocols i

theorem ProtocolSelected.registered {slot offered : Option CStr}
    {protocols : List Protocol} {i : Nat} (nonempty : protocols ≠ [])
    (selected : ProtocolSelected slot offered protocols i) : ∃ p, protocols[i]? = some p := by
  cases selected with
  | absent =>
      cases protocols with
      | nil => exact absurd rfl nonempty
      | cons p _ => exact ⟨p, by simp⟩
  | named _ _ _ _ found => exact (findProtocol_named found).imp fun _ => And.left

/-- The names lines 503-574 hand to the registry check for the reply. -/
def replyExtensionNames (table : HeaderTable) : List (List Char) :=
  match table .extensions with
  | some token => if token.chars = [] then [] else checkedNames [] token.chars
  | none => []

/-- The registry indices the reply's extensions value instantiates, in order. -/
def replyInstances (table : HeaderTable) (extensions : List Extension) : List Nat :=
  (replyExtensionNames table).flatMap (namedInstances extensions)

/-- A reply that lines 384-590 let through, selecting registry protocol `i`. -/
structure ReplyConforms (w : World) (i : Nat) : Prop where
  /-- Lines 384-408. -/
  headers : ResponseHeadersAccepted w.wsi.hdrs
  /-- Lines 410-481. -/
  protocol : ProtocolSelected (w.wsi.hdrs .protocol) w.wsi.cProtocol w.context.protocols i
  /-- Lines 503-574. -/
  extensions : ∀ name ∈ replyExtensionNames w.wsi.hdrs,
    namedInstances w.context.extensions name ≠ []
  /-- Lines 579-590. -/
  accept : w.wsi.hdrs .accept = some w.wsi.initialHandshakeHashBase64

/-! ## What the reply must carry, without the walks

The same conditions as a server reads them off the client's offer: a protocol
token that opens the offered list, and the pieces of the extensions value
between separators.  Under a parser that trims the protocol token they are
`ReplyConforms` (`answersOffer_iff_conforms`). -/

/-- `offered` is `token`, or begins with `token` and a comma. -/
def FirstOffered (token offered : List Char) : Prop :=
  offered = token ∨ token ++ [','] <+: offered

/-- `,`, space and tab. -/
def isExtensionSeparator (c : Char) : Bool :=
  c == ',' || c == ' ' || c == '\t'

/-- The pieces of a cut extensions value asked for: the empty ones dropped
except the last, which is asked for even when empty, and each cut to the 127
bytes a name keeps. -/
def keptPieces (pieces : List (List Char)) : List (List Char) :=
  (pieces.dropLast.filter (fun piece => !piece.isEmpty) ++ [pieces.getLastD []]).map (·.take 127)

/-- The names an extensions value asks the client to have registered. -/
def extensionElements (value : List Char) : List (List Char) :=
  keptPieces (value.splitOnP isExtensionSeparator)

/-- The names a reply's extensions header asks for; none when it is absent or
empty. -/
def extensionRequest (table : HeaderTable) : List (List Char) :=
  match table .extensions with
  | some value => if value.chars = [] then [] else extensionElements value.chars
  | none => []

/-- The registry indices of the extensions called `name`, in registry order. -/
def registryIndices (extensions : List Extension) (name : List Char) : List Nat :=
  (extensions.enum.filter fun e => e.2.name.chars = name).map Prod.fst

/-- The instances a reply's extensions header asks for, in order. -/
def askedInstances (table : HeaderTable) (extensions : List Extension) : List Nat :=
  (extensionRequest table).flatMap (registryIndices extensions)

/-- Registry protocol `i` for a reply: the first when the reply names none,
else the first of the token's name, the token opening the offered list. -/
inductive ProtocolChosen (slot offered : Option CStr) (protocols : List Protocol) : Nat → Prop
  | absent : tokenLen slot = 0 → ProtocolChosen slot offered protocols 0
  | named {token list : CStr} {i : Nat} : slot = some token → token.chars ≠ [] →
      offered = some list → FirstOffered token.chars list.chars →
      protocols.findIdx? (fun p => p.name.chars = token.chars) = some i →
      ProtocolChosen slot offered protocols i

/-- A reply `table` that answers a client which offered `offered`, has the
registries of `context` and expects the accept value `accept`, with registry
protocol `i`. -/
structure AnswersOffer (table : HeaderTable) (offered : Option CStr) (context : Context)
    (accept : List Char) (i : Nat) : Prop where
  headers : ResponseHeadersAccepted table
  protocol : ProtocolChosen (table .protocol) offered context.protocols i
  extensions : ∀ name ∈ extensionRequest table, ∃ ext ∈ context.extensions, ext.name.chars = name
  accept : (table .accept).map CStr.chars = some accept

theorem isExtensionSeparator_eq_false_iff {c : Char} :
    isExtensionSeparator c = false ↔ c ≠ ',' ∧ c ≠ ' ' ∧ c ≠ '\t' := by
  simp [isExtensionSeparator, and_assoc]

theorem keptPieces_cons {piece : List Char} {rest : List (List Char)} (more : rest ≠ []) :
    keptPieces (piece :: rest) =
      (if piece = [] then [] else [piece.take 127]) ++ keptPieces rest := by
  obtain ⟨next, rest, rfl⟩ := List.exists_cons_of_ne_nil more
  by_cases empty : piece = [] <;> simp [keptPieces, List.dropLast_cons₂, empty]

theorem keptPieces_of_take {piece piece' : List Char} (same : piece.take 127 = piece'.take 127) :
    ∀ rest, keptPieces (piece :: rest) = keptPieces (piece' :: rest)
  | [] => by simp [keptPieces, same]
  | next :: rest => by
      have empty : piece = [] ↔ piece' = [] := by
        simpa [List.take_eq_nil_iff] using congrArg (· = []) same
      rw [keptPieces_cons (List.cons_ne_nil _ _), keptPieces_cons (List.cons_ne_nil _ _), same]
      simp only [empty]

theorem modifyHead_nil_append (pieces : List (List Char)) :
    pieces.modifyHead ([] ++ ·) = pieces := by
  cases pieces <;> rfl

/-- The scan of lines 503-574 from a point inside a name keeping `extName`
asks for the kept pieces of the rest of the value, `extName` opening the first. -/
theorem checkedNames_eq_keptPieces :
    ∀ (value : List Char) {extName : List Char}, extName.length ≤ 127 →
      checkedNames extName value =
        keptPieces ((value.splitOnP isExtensionSeparator).modifyHead (extName ++ ·))
  | [], extName, short => by simp [checkedNames, keptPieces, List.take_of_length_le short]
  | c :: value, extName, short => by
      obtain ⟨piece, rest, split⟩ := List.exists_cons_of_ne_nil
        (List.splitOnP_ne_nil isExtensionSeparator value)
      rw [checkedNames, List.splitOnP_cons]
      by_cases word : c ≠ ',' ∧ c ≠ ' ' ∧ c ≠ '\t'
      · have kept : (if extName.length < 127 then extName ++ [c] else extName).length ≤ 127 := by
          split_ifs
          · simp only [List.length_append, List.length_singleton]
            omega
          · exact short
        rw [if_pos word, isExtensionSeparator_eq_false_iff.mpr word, if_neg Bool.false_ne_true,
          checkedNames_eq_keptPieces value kept, split,
          List.modifyHead_cons, List.modifyHead_cons, List.modifyHead_cons]
        apply keptPieces_of_take
        split_ifs with room
        · simp
        · rw [List.take_left' (by omega), List.take_left' (by omega)]
      · have separator : isExtensionSeparator c = true := by
          simpa using mt isExtensionSeparator_eq_false_iff.mp word
        have later := @checkedNames_eq_keptPieces value [] (Nat.zero_le _)
        rw [modifyHead_nil_append] at later
        rw [if_neg word, separator, if_pos rfl, List.modifyHead_cons, List.append_nil,
          keptPieces_cons (List.splitOnP_ne_nil _ _), later]
        by_cases empty : extName = [] <;> simp [empty, List.take_of_length_le short]

theorem checkedNames_eq_extensionElements (value : List Char) :
    checkedNames [] value = extensionElements value := by
  rw [checkedNames_eq_keptPieces value (Nat.zero_le _), extensionElements, modifyHead_nil_append]

example : extensionElements "deflate-frame,".toList = ["deflate-frame".toList, []] := by decide

theorem replyExtensionNames_eq_extensionRequest (table : HeaderTable) :
    replyExtensionNames table = extensionRequest table := by
  unfold replyExtensionNames extensionRequest
  split <;> simp only [checkedNames_eq_extensionElements]

theorem mem_of_mem_checkedNames {c : Char} :
    ∀ {value extName name : List Char}, name ∈ checkedNames extName value → c ∈ name →
      c ∈ extName ∨ c ∈ value
  | [], _, _, member, inName => by
      rw [checkedNames, List.mem_singleton] at member
      exact .inl (member ▸ inName)
  | d :: value, extName, name, member, inName => by
      rw [checkedNames] at member
      rw [List.mem_cons]
      split_ifs at member
      · have kept := mem_of_mem_checkedNames member inName
        rw [List.mem_append, List.mem_singleton] at kept
        exact kept.elim (Or.imp_right .inl) (.inr ∘ .inr)
      · exact (mem_of_mem_checkedNames member inName).imp_right .inr
      · exact .inr (.inr ((mem_of_mem_checkedNames member inName).resolve_left
          (List.not_mem_nil c)))
      · rcases List.mem_cons.mp member with rfl | member
        · exact .inl inName
        exact .inr (.inr ((mem_of_mem_checkedNames member inName).resolve_left
          (List.not_mem_nil c)))

theorem nul_not_mem_of_extensionRequest {table : HeaderTable} {name : List Char}
    (member : name ∈ extensionRequest table) : '\x00' ∉ name := fun nul => by
  unfold extensionRequest at member
  split at member
  · next value _ =>
      split_ifs at member
      · exact List.not_mem_nil _ member
      rw [← checkedNames_eq_extensionElements] at member
      exact value.noNul ((mem_of_mem_checkedNames member nul).resolve_left (List.not_mem_nil _))
  · exact List.not_mem_nil _ member

theorem namedInstances_eq_registryIndices {name : List Char} (noNul : '\x00' ∉ name)
    (extensions : List Extension) :
    namedInstances extensions name = registryIndices extensions name := by
  unfold namedInstances registryIndices
  congr 2
  funext e
  simp [strcmp_eq_zero_iff noNul e.2.name.noNul, eq_comm]

theorem registryIndices_ne_nil_iff {extensions : List Extension} {name : List Char} :
    registryIndices extensions name ≠ [] ↔ ∃ ext ∈ extensions, ext.name.chars = name := by
  simp only [registryIndices, ne_eq, List.map_eq_nil_iff, List.filter_eq_nil_iff,
    decide_eq_true_eq, not_forall, not_not, exists_prop, Prod.exists]
  constructor
  · rintro ⟨i, ext, member, named⟩
    exact ⟨ext, List.mem_iff_getElem?.mpr ⟨i, List.mem_enum_iff_getElem?.mp member⟩, named⟩
  · rintro ⟨ext, member, named⟩
    obtain ⟨i, found⟩ := List.mem_iff_getElem?.mp member
    exact ⟨i, ext, List.mem_enum_iff_getElem?.mpr found, named⟩

theorem replyInstances_eq_askedInstances (table : HeaderTable) (extensions : List Extension) :
    replyInstances table extensions = askedInstances table extensions := by
  unfold replyInstances askedInstances
  rw [replyExtensionNames_eq_extensionRequest]
  exact List.flatMap_congr fun name member =>
    namedInstances_eq_registryIndices (nul_not_mem_of_extensionRequest member) extensions

theorem extensionsRegistered_iff {table : HeaderTable} {extensions : List Extension} :
    (∀ name ∈ extensionRequest table, ∃ ext ∈ extensions, ext.name.chars = name) ↔
      ∀ name ∈ replyExtensionNames table, namedInstances extensions name ≠ [] := by
  rw [replyExtensionNames_eq_extensionRequest]
  refine forall₂_congr fun name member => ?_
  rw [namedInstances_eq_registryIndices (nul_not_mem_of_extensionRequest member),
    registryIndices_ne_nil_iff]

theorem strcmp_protocolName_eq (token : CStr) :
    (fun p : Protocol => decide (strcmp token.chars p.name.chars = 0)) =
      fun p => decide (p.name.chars = token.chars) :=
  funext fun p => by simp [strcmp_eq_zero_iff token.noNul p.name.noNul, eq_comm]

/-- For a trimmed token, the walk of lines 438-450 and the registry search of
lines 461-470 choose as `ProtocolChosen` says. -/
theorem protocolChosen_iff_selected {slot offered : Option CStr} {protocols : List Protocol}
    {i : Nat} (trimmed : ∀ p, slot = some p → p.chars.head? ≠ some ' ') :
    ProtocolChosen slot offered protocols i ↔ ProtocolSelected slot offered protocols i := by
  constructor
  · rintro (absent | @⟨token, list, _, slot, nonempty, offeredSlot, first, found⟩)
    · exact .absent absent
    · refine .named slot nonempty offeredSlot ?_ (by rwa [strcmp_protocolName_eq])
      exact (matchOffered_iff nonempty (trimmed _ slot) token.noNul list.noNul).mpr first
  · rintro (absent | @⟨token, list, _, slot, nonempty, offeredSlot, matched, found⟩)
    · exact .absent absent
    · refine .named slot nonempty offeredSlot ?_ (by rwa [← strcmp_protocolName_eq])
      exact (matchOffered_iff nonempty (trimmed _ slot) token.noNul list.noNul).mp matched

theorem acceptValue_iff {slot : Option CStr} {stored : CStr} :
    slot.map CStr.chars = some stored.chars ↔ slot = some stored := by
  cases slot <;> simp [CStr.ext_iff]

/-- Under a parser that trims the protocol token, the reply answers the offer
exactly when it conforms. -/
theorem answersOffer_iff_conforms {w : World} {i : Nat}
    (trimmed : ∀ p, w.wsi.hdrs .protocol = some p → p.chars.head? ≠ some ' ') :
    AnswersOffer w.wsi.hdrs w.wsi.cProtocol w.context w.wsi.initialHandshakeHashBase64.chars i ↔
      ReplyConforms w i := by
  constructor
  · rintro ⟨headers, protocol, named, accepted⟩
    exact ⟨headers, (protocolChosen_iff_selected trimmed).mp protocol,
      extensionsRegistered_iff.mp named, acceptValue_iff.mp accepted⟩
  · rintro ⟨headers, protocol, named, accepted⟩
    exact ⟨headers, (protocolChosen_iff_selected trimmed).mpr protocol,
      extensionsRegistered_iff.mpr named, acceptValue_iff.mpr accepted⟩

/-! ## Each check against its part -/

theorem selectProtocol_eq_next_iff {w w' : World} :
    selectProtocol w = .next () w' ↔
      ∃ i, ProtocolSelected (w.wsi.hdrs .protocol) w.wsi.cProtocol w.context.protocols i ∧
        w' = { w with wsi := { w.wsi with protocol := some i, cCallback := some i },
                      log := w.log ++ freedIfSet w.wsi.cProtocol .cProtocol } := by
  by_cases absent : tokenLen (w.wsi.hdrs .protocol) = 0
  · rw [selectProtocol_of_absent absent]
    constructor
    · exact fun run => ⟨0, .absent absent, (Res.next.inj run).2.symm⟩
    · rintro ⟨i, selected, rfl⟩
      cases selected with
      | absent => rfl
      | named slot nonempty => simp [slot, tokenLen, nonempty] at absent
  obtain ⟨token, slot⟩ : ∃ token, w.wsi.hdrs .protocol = some token := by
    cases slot : w.wsi.hdrs .protocol <;> simp_all [tokenLen]
  have nonempty : token.chars ≠ [] := by simpa [slot, tokenLen] using absent
  rw [selectProtocol_eq_next_of_present slot nonempty]
  constructor
  · rintro ⟨offered, i, offeredSlot, matched, found, rfl⟩
    exact ⟨i, .named slot nonempty offeredSlot matched found, by simp [offeredSlot]⟩
  · rintro ⟨i, selected, rfl⟩
    cases selected with
    | absent => exact absurd ‹_› absent
    | named slot' _ offeredSlot matched found =>
        cases slot.symm.trans slot'
        exact ⟨_, i, offeredSlot, matched, found, by simp [offeredSlot]⟩

theorem checkExtensionName_of_registered {name : List Char} {w : World}
    (allocations : ∀ b ∈ w.io.mallocs, b = true)
    (registered : namedInstances w.context.extensions name ≠ []) :
    ∃ io events, (∀ b ∈ io.mallocs, b = true) ∧ checkExtensionName name w = .next ()
      { w with wsi := { w.wsi with activeExtensions :=
                          w.wsi.activeExtensions ++ namedInstances w.context.extensions name },
               io := io, log := w.log ++ events } := by
  obtain ⟨io, events, allocations', run⟩ :=
    @instantiateNamed_of_allocations name w.context.extensions.enum false w allocations
  have matched :
      (w.context.extensions.enum.any fun e => strcmp name e.2.name.chars = 0) = true := by
    simpa [namedInstances, List.filter_eq_nil_iff] using registered
  exact ⟨io, events, allocations', by simp [checkExtensionName, run, matched, namedInstances]⟩

theorem forM_check_of_registered_names :
    ∀ (names : List (List Char)) {w : World}, (∀ b ∈ w.io.mallocs, b = true) →
      (∀ name ∈ names, namedInstances w.context.extensions name ≠ []) →
      ∃ io events, (∀ b ∈ io.mallocs, b = true) ∧ names.forM checkExtensionName w = .next ()
        { w with wsi := { w.wsi with activeExtensions := w.wsi.activeExtensions ++
                            names.flatMap (namedInstances w.context.extensions) },
                 io := io, log := w.log ++ events }
  | [], w, allocations, _ => by
      refine ⟨w.io, [], allocations, ?_⟩
      simp only [List.flatMap_nil, List.append_nil]
      rfl
  | name :: names, w, allocations, registered => by
      obtain ⟨io₁, events₁, allocations₁, first⟩ :=
        checkExtensionName_of_registered allocations (registered name (List.mem_cons_self _ _))
      let w₁ : World :=
        { w with wsi := { w.wsi with activeExtensions :=
                            w.wsi.activeExtensions ++ namedInstances w.context.extensions name },
                 io := io₁, log := w.log ++ events₁ }
      obtain ⟨io, events, allocations', rest⟩ := forM_check_of_registered_names names (w := w₁)
        allocations₁ fun other member => registered other (List.mem_cons_of_mem _ member)
      exact ⟨io, events₁ ++ events, allocations', by simp [List.forM_cons, first, rest]⟩

theorem instantiateExtensions_of_registered {w : World}
    (allocations : ∀ b ∈ w.io.mallocs, b = true)
    (registered : ∀ name ∈ replyExtensionNames w.wsi.hdrs,
      namedInstances w.context.extensions name ≠ []) :
    ∃ io events, (∀ b ∈ io.mallocs, b = true) ∧ instantiateExtensions w = .next ()
      { w with wsi := { w.wsi with activeExtensions := w.wsi.activeExtensions ++
                          replyInstances w.wsi.hdrs w.context.extensions },
               io := io, log := w.log ++ events } := by
  have unchanged : ∀ names : List (List Char), names = [] →
      { w with wsi := { w.wsi with activeExtensions := w.wsi.activeExtensions ++
                          names.flatMap (namedInstances w.context.extensions) },
               io := w.io, log := w.log ++ [] } = w := by
    rintro _ rfl
    simp only [List.flatMap_nil, List.append_nil]
  unfold replyInstances
  rcases slot : w.wsi.hdrs .extensions with _ | token
  · refine ⟨w.io, [], allocations, ?_⟩
    rw [instantiateExtensions_of_absent (by simp [slot, tokenLen]),
      unchanged _ (by simp [replyExtensionNames, slot])]
  by_cases empty : token.chars = []
  · refine ⟨w.io, [], allocations, ?_⟩
    rw [instantiateExtensions_of_absent (by simp [slot, tokenLen, empty]),
      unchanged _ (by simp [replyExtensionNames, slot, empty])]
  have named : replyExtensionNames w.wsi.hdrs = checkedNames [] token.chars := by
    simp [replyExtensionNames, slot, empty]
  rw [named] at registered ⊢
  obtain ⟨io, events, allocations', run⟩ :=
    forM_check_of_registered_names _ allocations registered
  refine ⟨io, events, allocations', ?_⟩
  simp [instantiateExtensions, slot, tokenLen, empty, extensionLoop_eq_forM, run]

theorem instantiateExtensions_registered {w w' : World}
    (run : instantiateExtensions w = .next () w') (allocations : ∀ b ∈ w.io.mallocs, b = true) :
    ∀ name ∈ replyExtensionNames w.wsi.hdrs, namedInstances w.context.extensions name ≠ [] := by
  intro name member unnamed
  rcases slot : w.wsi.hdrs .extensions with _ | token
  · simp [replyExtensionNames, slot] at member
  by_cases empty : token.chars = []
  · simp [replyExtensionNames, slot, empty] at member
  simp only [replyExtensionNames, slot, if_neg empty] at member
  obtain ⟨w'', refused⟩ :=
    forM_check_of_unregistered (checkedNames [] token.chars) allocations ⟨name, member, unnamed⟩
  simp [instantiateExtensions, slot, tokenLen, empty, extensionLoop_eq_forM, refused] at run

/-! ## The whole check -/

theorem checkServerHandshake_of_conforms {w : World} {i : Nat} (conforms : ReplyConforms w i)
    (allocations : ∀ b ∈ w.io.mallocs, b = true) :
    ∃ w₁, checkServerHandshake w = .next () w₁ ∧ w₁.context = w.context ∧
      w₁.wsi.protocol = some i ∧
      w₁.wsi.activeExtensions =
        w.wsi.activeExtensions ++ replyInstances w.wsi.hdrs w.context.extensions ∧
      ∀ b ∈ w₁.io.mallocs, b = true := by
  have sameNames : replyExtensionNames (lowerStatusHeaders w.wsi.hdrs) =
      replyExtensionNames w.wsi.hdrs := by
    simp (disch := decide) only [replyExtensionNames, lowerStatusHeaders_other]
  let w₁ : World := { w with wsi := { w.wsi with hdrs := lowerStatusHeaders w.wsi.hdrs } }
  have headers : checkResponseHeaders w = .next () w₁ :=
    checkResponseHeaders_eq_next.mpr ⟨conforms.headers, rfl⟩
  have selected : selectProtocol w₁ = .next ()
      { w₁ with wsi := { w₁.wsi with protocol := some i, cCallback := some i },
                log := w₁.log ++ freedIfSet w.wsi.cProtocol .cProtocol } := by
    refine selectProtocol_eq_next_iff.mpr ⟨i, ?_, rfl⟩
    simpa (disch := decide) [w₁, lowerStatusHeaders_other] using conforms.protocol
  obtain ⟨io, events, allocations', extended⟩ := instantiateExtensions_of_registered
    (w := { w₁ with wsi := { w₁.wsi with protocol := some i, cCallback := some i },
                    log := w₁.log ++ freedIfSet w.wsi.cProtocol .cProtocol })
    allocations (by simpa [w₁, sameNames] using conforms.extensions)
  exact ⟨_, (Exec.bind_of_next headers).trans <| (Exec.bind_of_next selected).trans <|
      (Exec.bind_of_next extended).trans <| checkAccept_eq_next.mpr ⟨by
        simpa (disch := decide) [w₁, lowerStatusHeaders_other] using conforms.accept,
        rfl⟩,
    rfl, rfl, by simp [w₁, sameNames, replyInstances], allocations'⟩

theorem conforms_of_checkServerHandshake {w w' : World}
    (allocations : ∀ b ∈ w.io.mallocs, b = true) (run : checkServerHandshake w = .next () w') :
    ∃ i, ReplyConforms w i := by
  obtain ⟨⟨⟩, w₁, headers, run⟩ := Exec.bind_eq_next_iff.mp run
  obtain ⟨⟨⟩, w₂, selected, run⟩ := Exec.bind_eq_next_iff.mp run
  obtain ⟨⟨⟩, w₃, extended, acceptChecked⟩ := Exec.bind_eq_next_iff.mp run
  obtain ⟨headersOk, rfl⟩ := checkResponseHeaders_eq_next.mp headers
  obtain ⟨i, protocolOk, rfl⟩ := selectProtocol_eq_next_iff.mp selected
  have registered := instantiateExtensions_registered extended allocations
  obtain ⟨added, io, events, rfl, -⟩ := instantiateExtensions_adds extended
  obtain ⟨acceptOk, -⟩ := checkAccept_eq_next.mp acceptChecked
  refine ⟨i, headersOk, ?_, ?_, ?_⟩
  · simpa (disch := decide) [lowerStatusHeaders_other] using protocolOk
  · simpa (disch := decide) [replyExtensionNames, lowerStatusHeaders_other] using registered
  · simpa (disch := decide) [lowerStatusHeaders_other] using acceptOk

/-! ## No undefined behaviour once the slots are set -/

theorem lowerToken_check_eq_exit {t : Token} {fails : CStr → Prop} [DecidablePred fails]
    {k : Code Unit} {w w' : World} {e : Exit}
    (run : (lowerToken t >>= fun s => if fails s then goto .bail3 else k) w = .exit e w') :
    w.wsi.hdrs t = none ∨ e = .goto .bail3 ∨
      ∃ s, w.wsi.hdrs t = some s ∧
        k { w with wsi := { w.wsi with hdrs := w.wsi.hdrs.set t (some (strtolower s)) } } =
          .exit e w' := by
  rcases slot : w.wsi.hdrs t with _ | s
  · exact .inl rfl
  rw [Exec.bind_of_next (lowerToken_of_some slot)] at run
  by_cases failed : fails (strtolower s)
  · rw [if_pos failed, goto_apply, Res.exit.injEq] at run
    exact .inr (.inl run.1.symm)
  · rw [if_neg failed] at run
    exact .inr (.inr ⟨s, rfl, run⟩)

theorem checkResponseHeaders_leaves {w w' : World} {e : Exit} (http : w.wsi.hdrs .http ≠ none)
    (upgrade : w.wsi.hdrs .upgrade ≠ none) (connection : w.wsi.hdrs .connection ≠ none)
    (run : checkResponseHeaders w = .exit e w') : e = .goto .bail3 := by
  simp only [checkResponseHeaders, goto_bind, Exec.pure_bind] at run
  rcases lowerToken_check_eq_exit run with missing | bail | ⟨_, -, run⟩
  · exact absurd missing http
  · exact bail
  rcases lowerToken_check_eq_exit run with missing | bail | ⟨_, -, run⟩
  · exact absurd (by simpa using missing) upgrade
  · exact bail
  rcases lowerToken_check_eq_exit run with missing | bail | ⟨_, -, run⟩
  · exact absurd (by simpa using missing) connection
  · exact bail
  · simp at run

theorem selectProtocol_leaves {w w' : World} {e : Exit}
    (offered : tokenLen (w.wsi.hdrs .protocol) ≠ 0 → w.wsi.cProtocol ≠ none)
    (run : selectProtocol w = .exit e w') : e = .goto .bail2 := by
  by_cases absent : tokenLen (w.wsi.hdrs .protocol) = 0
  · simp [selectProtocol_of_absent absent] at run
  obtain ⟨token, slot⟩ : ∃ token, w.wsi.hdrs .protocol = some token := by
    cases slot : w.wsi.hdrs .protocol <;> simp_all [tokenLen]
  obtain ⟨list, offeredSlot⟩ := Option.ne_none_iff_exists'.mp (offered absent)
  have nonempty : token.chars ≠ [] := by simpa [slot, tokenLen] using absent
  cases matched : matchOffered token.chars list.chars
  · rw [selectProtocol_of_unmatched slot nonempty offeredSlot matched, Res.exit.injEq] at run
    exact run.1.symm
  rcases found : w.context.protocols.findIdx? (fun p => strcmp token.chars p.name.chars = 0)
    with _ | i
  · simp [selectProtocol, slot, tokenLen, nonempty, offeredSlot, matched, found] at run
    exact run.1.symm
  · rw [(selectProtocol_eq_next_of_present slot nonempty).mpr
      ⟨list, i, offeredSlot, matched, found, rfl⟩] at run
    cases run

theorem forM_check_leaves : ∀ (names : List (List Char)) {w w' : World} {e : Exit},
    names.forM checkExtensionName w = .exit e w' → e = .goto .bail2
  | [], _, _, _, run => by simp at run
  | name :: names, w, w', e, run => by
      have run : (checkExtensionName name >>= fun _ => names.forM checkExtensionName) w =
          .exit e w' := run
      rcases Exec.bind_eq_exit_iff.mp run with first | ⟨_, _, _, rest⟩
      · exact checkExtensionName_frame.2 e w' first
      · exact forM_check_leaves names rest

theorem instantiateExtensions_leaves {w w' : World} {e : Exit}
    (run : instantiateExtensions w = .exit e w') : e = .goto .bail2 := by
  rcases slot : w.wsi.hdrs .extensions with _ | token
  · simp [instantiateExtensions, slot, tokenLen] at run
  by_cases empty : token.chars = []
  · simp [instantiateExtensions, slot, tokenLen, empty] at run
  · exact forM_check_leaves _ (by
      simpa [instantiateExtensions, slot, tokenLen, empty, extensionLoop_eq_forM] using run)

theorem checkAccept_leaves {w w' : World} {e : Exit} (run : checkAccept w = .exit e w')
    (slot : w.wsi.hdrs .accept ≠ none) : e = .goto .bail2 := by
  obtain ⟨accept, slot⟩ := Option.ne_none_iff_exists'.mp slot
  simp only [checkAccept, Exec.bind_apply, getWsi_apply, slot, deref_some_apply,
    Exec.ite_apply] at run
  split_ifs at run
  · rw [goto_apply, Res.exit.injEq] at run
    exact run.1.symm
  · simp at run

/-- Once the slots lines 384-590 dereference are set, they leave only by a
`goto`. -/
theorem checkServerHandshake_leaves {w w' : World} {e : Exit}
    (slots : ∀ t ∈ [Token.http, .upgrade, .connection, .accept], w.wsi.hdrs t ≠ none)
    (offered : tokenLen (w.wsi.hdrs .protocol) ≠ 0 → w.wsi.cProtocol ≠ none)
    (run : checkServerHandshake w = .exit e w') : ∃ l, e = .goto l := by
  rcases Exec.bind_eq_exit_iff.mp run with headers | ⟨⟨⟩, w₁, headers, run⟩
  · exact ⟨_, checkResponseHeaders_leaves (slots _ (by simp)) (slots _ (by simp))
      (slots _ (by simp)) headers⟩
  obtain ⟨-, rfl⟩ := checkResponseHeaders_eq_next.mp headers
  rcases Exec.bind_eq_exit_iff.mp run with selected | ⟨⟨⟩, w₂, selected, run⟩
  · exact ⟨_, selectProtocol_leaves
      (by simpa (disch := decide) [lowerStatusHeaders_other] using offered) selected⟩
  obtain ⟨i, -, rfl⟩ := selectProtocol_eq_next_iff.mp selected
  rcases Exec.bind_eq_exit_iff.mp run with extended | ⟨⟨⟩, w₃, extended, accepted⟩
  · exact ⟨_, instantiateExtensions_leaves extended⟩
  obtain ⟨added, io, events, rfl, -⟩ := instantiateExtensions_adds extended
  have acceptSet : lowerStatusHeaders w.wsi.hdrs .accept ≠ none := by
    rw [lowerStatusHeaders_other (t := .accept) (by decide) (by decide) (by decide)]
    exact slots _ (by simp)
  exact ⟨_, checkAccept_leaves accepted acceptSet⟩

/-! ## The decision -/

theorem lwsClientInterpretServerHandshake_of_conforms {w : World} {i : Nat}
    (conforms : ReplyConforms w i) (allocations : ∀ b ∈ w.io.mallocs, b = true) :
    ∃ w', lwsClientInterpretServerHandshake w = .next 0 w' ∧
      w'.wsi.mode = .wsClient ∧ w'.wsi.protocol = some i ∧
      w'.wsi.activeExtensions =
        w.wsi.activeExtensions ++ replyInstances w.wsi.hdrs w.context.extensions ∧
      closeCount w'.log = closeCount w.log := by
  obtain ⟨w₁, checked, sameContext, selected, extended, allocations'⟩ :=
    checkServerHandshake_of_conforms conforms allocations
  obtain ⟨p, registered⟩ := conforms.protocol.registered w.context.protocolsNonempty
  obtain ⟨w', committed, -, -⟩ :=
    establish_of_allocations selected (sameContext ▸ registered) allocations'
  obtain ⟨keepsProtocol, keepsActive, -, mode⟩ := establish_commits committed
  obtain ⟨later, log, -, quiet⟩ := establish_tells committed
  have routine := (checkServerHandshake_routine.of_next checked).closeCount_eq
  refine ⟨w', lwsClientInterpretServerHandshake_of_checked checked committed, mode,
    keepsProtocol.trans selected, keepsActive.trans extended, ?_⟩
  rw [log, closeCount_append, quiet, Nat.add_zero, routine]

theorem lwsClientInterpretServerHandshake_of_refused {w : World}
    (slots : ∀ t ∈ [Token.http, .upgrade, .connection, .accept], w.wsi.hdrs t ≠ none)
    (offered : tokenLen (w.wsi.hdrs .protocol) ≠ 0 → w.wsi.cProtocol ≠ none)
    (allocations : ∀ b ∈ w.io.mallocs, b = true) (refused : ∀ i, ¬ReplyConforms w i) :
    ∃ w', lwsClientInterpretServerHandshake w = .next 1 w' ∧
      closeCount w'.log = closeCount w.log + 1 := by
  cases run : checkServerHandshake w with
  | next _ w₁ =>
      obtain ⟨i, conforms⟩ := conforms_of_checkServerHandshake allocations run
      exact absurd conforms (refused i)
  | exit e w₁ =>
      obtain ⟨l, rfl⟩ := checkServerHandshake_leaves slots offered run
      have body : interpretBody w = .exit (.goto l) w₁ := Exec.bind_of_exit run
      have routine := (checkServerHandshake_routine.of_exit run).closeCount_eq
      cases l
      · rw [lwsClientInterpretServerHandshake_of_bail2 body, interpretBail2_apply]
        exact ⟨_, rfl, by simp [routine]⟩
      · rw [lwsClientInterpretServerHandshake_of_bail3 body, interpretBail3_apply]
        exact ⟨_, rfl, by simp [routine]⟩

/-- The checks of the reply decide the handshake.  On a reply whose status,
`Upgrade`, `Connection` and accept slots are set and whose protocol token, if
any, the parser trimmed, to a client that offered a protocol list wherever a
protocol token came back, with the instances the reply asks for fitting in
`active_extensions` and every allocation succeeding,
`lws_client_interpret_server_handshake` establishes a reply that answers the
offer (returning 0 in `WS_CLIENT` with protocol `i`, the instances the reply
asks for and no close) and refuses every other reply (returning 1 having
closed the session once). -/
theorem lwsClientInterpretServerHandshake_decides {w : World}
    (slots : ∀ t ∈ [Token.http, .upgrade, .connection, .accept], w.wsi.hdrs t ≠ none)
    (offered : tokenLen (w.wsi.hdrs .protocol) ≠ 0 → w.wsi.cProtocol ≠ none)
    (trimmed : ∀ p, w.wsi.hdrs .protocol = some p → p.chars.head? ≠ some ' ')
    (fits : w.wsi.activeExtensions.length +
      (askedInstances w.wsi.hdrs w.context.extensions).length ≤ lwsMaxExtensionsActive)
    (allocations : ∀ b ∈ w.io.mallocs, b = true) :
    (∀ i, AnswersOffer w.wsi.hdrs w.wsi.cProtocol w.context
        w.wsi.initialHandshakeHashBase64.chars i →
      ∃ w', lwsClientInterpretServerHandshake w = .next 0 w' ∧
        w'.wsi.mode = .wsClient ∧ w'.wsi.protocol = some i ∧
        w'.wsi.activeExtensions =
          w.wsi.activeExtensions ++ askedInstances w.wsi.hdrs w.context.extensions ∧
        w'.wsi.activeExtensions.length ≤ lwsMaxExtensionsActive ∧
        closeCount w'.log = closeCount w.log) ∧
    ((∀ i, ¬AnswersOffer w.wsi.hdrs w.wsi.cProtocol w.context
        w.wsi.initialHandshakeHashBase64.chars i) →
      ∃ w', lwsClientInterpretServerHandshake w = .next 1 w' ∧
        closeCount w'.log = closeCount w.log + 1) := by
  refine ⟨fun i answers => ?_, fun refused => lwsClientInterpretServerHandshake_of_refused slots
    offered allocations fun i => refused i ∘ (answersOffer_iff_conforms trimmed).mpr⟩
  obtain ⟨w', run, mode, selected, extended, quiet⟩ := lwsClientInterpretServerHandshake_of_conforms
    ((answersOffer_iff_conforms trimmed).mp answers) allocations
  rw [replyInstances_eq_askedInstances] at extended
  refine ⟨w', run, mode, selected, extended, ?_, quiet⟩
  rw [extended, List.length_append]
  exact fits

/-- A conformant reply naming the registered `deflate-frame`. -/
def deflateFrameReply : World := extensionsReply ⟨"deflate-frame".toList, by decide⟩

theorem deflateFrameReply_decided :
    (∀ t ∈ [Token.http, .upgrade, .connection, .accept], deflateFrameReply.wsi.hdrs t ≠ none) ∧
    (tokenLen (deflateFrameReply.wsi.hdrs .protocol) ≠ 0 →
      deflateFrameReply.wsi.cProtocol ≠ none) ∧
    (∀ p, deflateFrameReply.wsi.hdrs .protocol = some p → p.chars.head? ≠ some ' ') ∧
    deflateFrameReply.wsi.activeExtensions.length +
      (askedInstances deflateFrameReply.wsi.hdrs deflateFrameReply.context.extensions).length ≤
        lwsMaxExtensionsActive ∧
    (∀ b ∈ deflateFrameReply.io.mallocs, b = true) ∧
    (∀ i, AnswersOffer deflateFrameReply.wsi.hdrs deflateFrameReply.wsi.cProtocol
        deflateFrameReply.context deflateFrameReply.wsi.initialHandshakeHashBase64.chars i →
      ∃ w', lwsClientInterpretServerHandshake deflateFrameReply = .next 0 w' ∧
        w'.wsi.mode = .wsClient ∧ w'.wsi.protocol = some i ∧
        w'.wsi.activeExtensions = deflateFrameReply.wsi.activeExtensions ++
          askedInstances deflateFrameReply.wsi.hdrs deflateFrameReply.context.extensions ∧
        w'.wsi.activeExtensions.length ≤ lwsMaxExtensionsActive ∧
        closeCount w'.log = closeCount deflateFrameReply.log) ∧
    ((∀ i, ¬AnswersOffer deflateFrameReply.wsi.hdrs deflateFrameReply.wsi.cProtocol
        deflateFrameReply.context deflateFrameReply.wsi.initialHandshakeHashBase64.chars i) →
      ∃ w', lwsClientInterpretServerHandshake deflateFrameReply = .next 1 w' ∧
        closeCount w'.log = closeCount deflateFrameReply.log + 1) :=
  have slots : ∀ t ∈ [Token.http, .upgrade, .connection, .accept],
      deflateFrameReply.wsi.hdrs t ≠ none := by decide
  have offered : tokenLen (deflateFrameReply.wsi.hdrs .protocol) ≠ 0 →
      deflateFrameReply.wsi.cProtocol ≠ none := by decide
  have trimmed : ∀ p, deflateFrameReply.wsi.hdrs .protocol = some p → p.chars.head? ≠ some ' ' :=
    fun _ slot => nomatch slot
  have fits : deflateFrameReply.wsi.activeExtensions.length +
      (askedInstances deflateFrameReply.wsi.hdrs deflateFrameReply.context.extensions).length ≤
        lwsMaxExtensionsActive := by decide
  have allocations : ∀ b ∈ deflateFrameReply.io.mallocs, b = true := by decide
  ⟨slots, offered, trimmed, fits, allocations,
    lwsClientInterpretServerHandshake_decides slots offered trimmed fits allocations⟩

end LwsClient
