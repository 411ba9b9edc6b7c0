import LwsClient.Connection

/-!
# Interpreting the server's reply

`lws_client_interpret_server_handshake` (lines 350-690) runs once the parser
has completed.  It checks the status line, `Upgrade` and `Connection`, picks
the sub-protocol, instantiates the extensions the server named, compares the
`Sec-WebSocket-Accept` value, and either commits the connection or jumps to
`bail3`/`bail2`.  Each block of the C function is one definition here.
-/

namespace LwsClient

/-- `strtolower (wsi->u.hdr.hdrs[t].token)` (lines 384, 392, 401): the slot
is lowered in place, and `strtolower (NULL)` reads through NULL. -/
def lowerToken (t : Token) : Code CStr := do
  let wsi ← getWsi
  let s ← deref (wsi.hdrs t)
  modifyWsi fun wsi => { wsi with hdrs := wsi.hdrs.set t (some (strtolower s)) }
  pure (strtolower s)

theorem lowerToken_of_some {t : Token} {s : CStr} {w : World} (slot : w.wsi.hdrs t = some s) :
    lowerToken t w = .next (strtolower s)
      { w with wsi := { w.wsi with hdrs := w.wsi.hdrs.set t (some (strtolower s)) } } := by
  simp [lowerToken, slot]

theorem lowerToken_of_none {t : Token} {w : World} (slot : w.wsi.hdrs t = none) :
    lowerToken t w = .exit (.undefined .nullDeref) w := by
  simp [lowerToken, slot]

/-! ## Status line, `Upgrade` and `Connection` -/

/-- Line 384: the status token starts with `101`. -/
def StatusSwitching (table : HeaderTable) : Prop :=
  ∃ s, table .http = some s ∧ "101".toList <+: s.chars

/-- Line 392: `Upgrade` is `websocket` in any case. -/
def UpgradeWebsocket (table : HeaderTable) : Prop :=
  ∃ s, table .upgrade = some s ∧ EqIgnoreCase s.chars "websocket".toList

/-- Line 401: `Connection` is `upgrade` in any case. -/
def ConnectionUpgrade (table : HeaderTable) : Prop :=
  ∃ s, table .connection = some s ∧ EqIgnoreCase s.chars "upgrade".toList

/-- The replies that lines 384-408 let through. -/
@[mk_iff] structure ResponseHeadersAccepted (table : HeaderTable) : Prop where
  status : StatusSwitching table
  upgrade : UpgradeWebsocket table
  connection : ConnectionUpgrade table

theorem prefix_101_map_toLower (s : List Char) :
    "101".toList <+: s.map Char.toLower ↔ "101".toList <+: s := by
  have one : ∀ c : Char, '1' = c.toLower ↔ '1' = c :=
    fun c => ⟨fun h => (eq_of_toLower_eq h.symm (by decide)).symm, fun h => by subst h; decide⟩
  have zero : ∀ c : Char, '0' = c.toLower ↔ '0' = c :=
    fun c => ⟨fun h => (eq_of_toLower_eq h.symm (by decide)).symm, fun h => by subst h; decide⟩
  match s with
  | a :: b :: c :: rest => simp [one, zero]
  | [a, b] => simp
  | [a] => simp
  | [] => simp

theorem strncmp_lower_101_eq_zero_iff (s : CStr) :
    strncmp (strtolower s).chars "101".toList 3 = 0 ↔ "101".toList <+: s.chars := by
  rw [← prefix_101_map_toLower, ← strtolower_chars]
  exact strncmp_length_eq_zero_iff (by decide)

theorem strcmp_lower_eq_zero_iff (s : CStr) {lit : List Char} (litNoNul : '\x00' ∉ lit)
    (litLower : lit.map Char.toLower = lit) :
    strcmp (strtolower s).chars lit = 0 ↔ EqIgnoreCase s.chars lit := by
  rw [strcmp_eq_zero_iff (strtolower s).noNul litNoNul, EqIgnoreCase, litLower]
  rfl

/-- Lines 384-408: status `101`, `Upgrade: websocket`, `Connection: upgrade`. -/
def checkResponseHeaders : Code Unit := do
  let http ← lowerToken .http
  if strncmp http.chars "101".toList 3 ≠ 0 then goto .bail3
  let upgrade ← lowerToken .upgrade
  if strcmp upgrade.chars "websocket".toList ≠ 0 then goto .bail3
  let connection ← lowerToken .connection
  if strcmp connection.chars "upgrade".toList ≠ 0 then goto .bail3

/-- The three slots after lines 384-401 lowered them in place. -/
def lowerStatusHeaders (table : HeaderTable) : HeaderTable :=
  ((table.set .http ((table .http).map strtolower)).set .upgrade
    ((table .upgrade).map strtolower)).set .connection ((table .connection).map strtolower)

theorem lowerStatusHeaders_other {table : HeaderTable} {t : Token} (notHttp : t ≠ .http)
    (notUpgrade : t ≠ .upgrade) (notConnection : t ≠ .connection) :
    lowerStatusHeaders table t = table t := by
  simp [lowerStatusHeaders, notHttp, notUpgrade, notConnection]

theorem lowerStatusHeaders_of_some {table : HeaderTable} {s1 s2 s3 : CStr}
    (http : table .http = some s1) (upgrade : table .upgrade = some s2)
    (connection : table .connection = some s3) :
    lowerStatusHeaders table = ((table.set .http (some (strtolower s1))).set .upgrade
      (some (strtolower s2))).set .connection (some (strtolower s3)) := by
  simp only [lowerStatusHeaders, http, upgrade, connection, Option.map_some']

theorem lowerToken_check_eq_next {t : Token} {fails : CStr → Prop} [DecidablePred fails]
    {k : Code Unit} {w w' : World} :
    (lowerToken t >>= fun s => if fails s then goto .bail3 else k) w = .next () w' ↔
      ∃ s, w.wsi.hdrs t = some s ∧ ¬fails (strtolower s) ∧
        k { w with wsi := { w.wsi with hdrs := w.wsi.hdrs.set t (some (strtolower s)) } } =
          .next () w' := by
  rcases slot : w.wsi.hdrs t with _ | s
  · simp [lowerToken_of_none slot]
  · by_cases failed : fails (strtolower s) <;> simp [lowerToken_of_some slot, failed]

theorem checkResponseHeaders_eq_next {w w' : World} :
    checkResponseHeaders w = .next () w' ↔
      ResponseHeadersAccepted w.wsi.hdrs ∧
        w' = { w with wsi := { w.wsi with hdrs := lowerStatusHeaders w.wsi.hdrs } } := by
  have webNoNul : '\x00' ∉ "websocket".toList := by decide
  have upNoNul : '\x00' ∉ "upgrade".toList := by decide
  simp only [checkResponseHeaders, goto_bind, Exec.pure_bind, lowerToken_check_eq_next,
    Exec.pure_apply, Res.next.injEq, true_and, not_not, strncmp_lower_101_eq_zero_iff,
    strcmp_lower_eq_zero_iff _ webNoNul rfl, strcmp_lower_eq_zero_iff _ upNoNul rfl,
    HeaderTable.set_other _ _ (by decide : Token.upgrade ≠ .http),
    HeaderTable.set_other _ _ (by decide : Token.connection ≠ .upgrade),
    HeaderTable.set_other _ _ (by decide : Token.connection ≠ .http)]
  constructor
  · rintro ⟨s1, http, status, s2, upgrade, websocket, s3, connection, isUpgrade, rfl⟩
    exact ⟨⟨⟨s1, http, status⟩, ⟨s2, upgrade, websocket⟩, ⟨s3, connection, isUpgrade⟩⟩,
      by rw [lowerStatusHeaders_of_some http upgrade connection]⟩
  · rintro ⟨⟨⟨s1, http, status⟩, ⟨s2, upgrade, websocket⟩, ⟨s3, connection, isUpgrade⟩⟩, rfl⟩
    exact ⟨s1, http, status, s2, upgrade, websocket, s3, connection, isUpgrade,
      by rw [lowerStatusHeaders_of_some http upgrade connection]⟩

theorem checkResponseHeaders_reads_null {w : World}
    (missing : w.wsi.hdrs .http = none ∨
      StatusSwitching w.wsi.hdrs ∧ w.wsi.hdrs .upgrade = none ∨
      StatusSwitching w.wsi.hdrs ∧ UpgradeWebsocket w.wsi.hdrs ∧
        w.wsi.hdrs .connection = none) :
    ∃ w', checkResponseHeaders w = .exit (.undefined .nullDeref) w' := by
  have webNoNul : '\x00' ∉ "websocket".toList := by decide
  rcases missing with http | ⟨⟨s1, http, statusOk⟩, upgrade⟩ |
    ⟨⟨s1, http, statusOk⟩, ⟨s2, upgrade, upgradeOk⟩, connection⟩
  · simp [checkResponseHeaders, lowerToken_of_none http]
  · simp [checkResponseHeaders, lowerToken_of_some http, lowerToken_of_none, upgrade,
      (strncmp_lower_101_eq_zero_iff s1).mpr statusOk, -String.toList, -strtolower_chars]
  · simp [checkResponseHeaders, lowerToken_of_some http, lowerToken_of_some, lowerToken_of_none,
      upgrade, connection, (strncmp_lower_101_eq_zero_iff s1).mpr statusOk,
      (strcmp_lower_eq_zero_iff s2 webNoNul rfl).mpr upgradeOk, -String.toList, -strtolower_chars]

/-! ## The sub-protocol -/

/-- Lines 446-449: skip to the next `,`, then on to the next space. -/
def skipToNextOffer (pc : List Char) : List Char :=
  (pc.dropWhile (· ≠ ',')).dropWhile (· ≠ ' ')

theorem length_skipToNextOffer_lt (c : Char) (rest : List Char) :
    (skipToNextOffer (c :: rest)).length < (c :: rest).length := by
  unfold skipToNextOffer
  by_cases comma : c = ','
  · subst comma
    rw [List.dropWhile_cons_of_neg (by decide), List.dropWhile_cons_of_pos (by decide)]
    exact Nat.lt_succ_of_le (List.dropWhile_sublist _).length_le
  · rw [List.dropWhile_cons_of_pos (by simpa using comma)]
    exact Nat.lt_succ_of_le
      ((List.dropWhile_sublist _).length_le.trans (List.dropWhile_sublist _).length_le)

theorem skipToNextOffer_blank (pc : List Char) :
    skipToNextOffer pc = [] ∨ (skipToNextOffer pc).head? = some ' ' := by
  have stop := List.head?_dropWhile_not (fun c => decide (c ≠ ' ')) (pc.dropWhile (· ≠ ','))
  unfold skipToNextOffer
  cases first : ((pc.dropWhile (· ≠ ',')).dropWhile (· ≠ ' ')).head? with
  | none => exact .inl (List.head?_eq_none_iff.mp first)
  | some c =>
      rw [first] at stop
      simp only [ne_eq, decide_eq_false_iff_not, Decidable.not_not] at stop
      exact .inr (stop ▸ rfl)

/-- Lines 438-450: whether the loop over the offered list sets `okay`. -/
def matchOffered (token : List Char) (pc : List Char) : Bool :=
  match pc with
  | [] => false
  | c :: rest =>
      if strncmp (c :: rest) token token.length = 0 ∧
          (charAt (c :: rest) token.length = ',' ∨ charAt (c :: rest) token.length = '\x00')
      then true
      else matchOffered token (skipToNextOffer (c :: rest))
termination_by pc.length
decreasing_by exact length_skipToNextOffer_lt c rest

theorem firstEntry_iff {token pc : List Char} (tokenNoNul : '\x00' ∉ token)
    (pcNoNul : '\x00' ∉ pc) :
    (strncmp pc token token.length = 0 ∧
        (charAt pc token.length = ',' ∨ charAt pc token.length = '\x00')) ↔
      pc = token ∨ token ++ [','] <+: pc := by
  rw [strncmp_length_eq_zero_iff tokenNoNul]
  constructor
  · rintro ⟨⟨rest, rfl⟩, next⟩
    cases rest with
    | nil => exact .inl (List.append_nil token)
    | cons c rest =>
        have atToken : charAt (token ++ c :: rest) token.length = c := by
          simp [charAt, List.getElem_append_right]
        rw [atToken] at next
        rcases next with comma | nul
        · exact .inr ⟨rest, by simp [comma]⟩
        · exact absurd (List.mem_append_right token (nul ▸ List.mem_cons_self c rest)) pcNoNul
  · rintro (rfl | ⟨rest, rfl⟩)
    · exact ⟨List.prefix_refl pc, .inr (by simp [charAt])⟩
    · exact ⟨⟨[','] ++ rest, by simp⟩, .inl (by simp [charAt, List.getElem_append_right])⟩

theorem skipToNextOffer_suffix (pc : List Char) : skipToNextOffer pc <:+ pc :=
  (List.dropWhile_suffix _).trans (List.dropWhile_suffix _)

theorem matchOffered_occurs {token pc : List Char} (tokenNoNul : '\x00' ∉ token)
    (pcNoNul : '\x00' ∉ pc) (matched : matchOffered token pc = true) :
    token ++ [','] <:+: pc ∨ token <:+ pc := by
  induction pc using matchOffered.induct token with
  | case1 => simp [matchOffered] at matched
  | case2 c rest accepted =>
      rcases (firstEntry_iff tokenNoNul pcNoNul).mp accepted with whole | comma
      · exact .inr (whole ▸ List.suffix_refl _)
      · exact .inl comma.isInfix
  | case3 c rest rejected later =>
      rw [matchOffered, if_neg rejected] at matched
      have suffix := skipToNextOffer_suffix (c :: rest)
      rcases later (fun member => pcNoNul (suffix.subset member)) matched with comma | whole
      · exact .inl (comma.trans suffix.isInfix)
      · exact .inr (whole.trans suffix)

theorem matchOffered_of_blank {token : List Char} (nonempty : token ≠ [])
    (trimmed : token.head? ≠ some ' ') (tokenNoNul : '\x00' ∉ token) {pc : List Char}
    (blank : pc = [] ∨ pc.head? = some ' ') : matchOffered token pc = false := by
  induction pc using matchOffered.induct token with
  | case1 => simp [matchOffered]
  | case2 c rest matched =>
      obtain ⟨rest', same⟩ := (strncmp_length_eq_zero_iff tokenNoNul).mp matched.1
      rcases blank with empty | space
      · cases empty
      · cases token with
        | nil => exact absurd rfl nonempty
        | cons d ds =>
            simp only [List.head?_cons, ne_eq, Option.some.injEq] at space trimmed
            simp only [List.cons_append, List.cons.injEq] at same
            exact absurd (same.1.trans space) trimmed
  | case3 c rest unmatched later =>
      rw [matchOffered, if_neg unmatched]
      exact later (skipToNextOffer_blank _)

/-- For a token the parser trimmed, the loop of lines 438-450 accepts exactly
when the offered list is the token, or starts with the token and a comma: it
never reaches a later entry. -/
theorem matchOffered_iff {token pc : List Char} (nonempty : token ≠ [])
    (trimmed : token.head? ≠ some ' ') (tokenNoNul : '\x00' ∉ token) (pcNoNul : '\x00' ∉ pc) :
    matchOffered token pc = true ↔ pc = token ∨ token ++ [','] <+: pc := by
  cases pc with
  | nil =>
      simp only [matchOffered, Bool.false_eq_true, false_iff, not_or]
      exact ⟨fun same => nonempty same.symm, fun ⟨_, appended⟩ => by simp at appended⟩
  | cons c rest =>
      rw [matchOffered, ← firstEntry_iff tokenNoNul pcNoNul]
      split_ifs with first
      · simpa using first
      · simpa [first] using matchOffered_of_blank nonempty trimmed tokenNoNul
          (skipToNextOffer_blank (c :: rest))

/-- Lines 410-484: the sub-protocol.  Without a `Sec-WebSocket-Protocol`
token the first registry entry is taken (and the `goto check_extensions`
skips the rest); otherwise the token must be matched in the offered list and
named in the registry. -/
def selectProtocol : Code Unit := do
  let wsi ← getWsi
  if tokenLen (wsi.hdrs .protocol) = 0 then
    modifyWsi fun wsi => { wsi with protocol := some 0, cCallback := some 0 }
    freeIfSet wsi.cProtocol .cProtocol
  else
    let offered ← deref wsi.cProtocol
    let token ← deref (wsi.hdrs .protocol)
    let okay := matchOffered token.chars offered.chars
    freeIfSet wsi.cProtocol .cProtocol
    if !okay then goto .bail2
    let context ← getContext
    match context.protocols.findIdx? (fun p => strcmp token.chars p.name.chars = 0) with
    | none =>
        modifyWsi fun wsi => { wsi with protocol := none }
        goto .bail2
    | some i => modifyWsi fun wsi => { wsi with protocol := some i, cCallback := some i }

theorem selectProtocol_of_absent {w : World} (absent : tokenLen (w.wsi.hdrs .protocol) = 0) :
    selectProtocol w =
      .next () { w with wsi := { w.wsi with protocol := some 0, cCallback := some 0 },
                        log := w.log ++ freedIfSet w.wsi.cProtocol .cProtocol } := by
  simp [selectProtocol, absent]

theorem selectProtocol_reads_null {w : World} (present : tokenLen (w.wsi.hdrs .protocol) ≠ 0)
    (noOffer : w.wsi.cProtocol = none) : selectProtocol w = .exit (.undefined .nullDeref) w := by
  simp [selectProtocol, present, noOffer]

theorem selectProtocol_of_unmatched {w : World} {token offered : CStr}
    (slot : w.wsi.hdrs .protocol = some token) (nonempty : token.chars ≠ [])
    (offeredSlot : w.wsi.cProtocol = some offered)
    (unmatched : matchOffered token.chars offered.chars = false) :
    selectProtocol w = .exit (.goto .bail2) { w with log := w.log ++ [.free .cProtocol] } := by
  simp [selectProtocol, slot, tokenLen, nonempty, offeredSlot, unmatched]

theorem selectProtocol_eq_next_of_present {w w' : World} {token : CStr}
    (slot : w.wsi.hdrs .protocol = some token) (nonempty : token.chars ≠ []) :
    selectProtocol w = .next () w' ↔
      ∃ offered i, w.wsi.cProtocol = some offered ∧
        matchOffered token.chars offered.chars = true ∧
        w.context.protocols.findIdx? (fun p => strcmp token.chars p.name.chars = 0) = some i ∧
        w' = { w with wsi := { w.wsi with protocol := some i, cCallback := some i },
                      log := w.log ++ [.free .cProtocol] } := by
  rcases offeredSlot : w.wsi.cProtocol with _ | offered
  · simp [selectProtocol_reads_null (by simp [slot, tokenLen, nonempty]) offeredSlot]
  cases matched : matchOffered token.chars offered.chars
  · simp [selectProtocol_of_unmatched slot nonempty offeredSlot matched, matched]
  rcases found : w.context.protocols.findIdx? (fun p => strcmp token.chars p.name.chars = 0)
    with _ | i
  · simp [selectProtocol, slot, tokenLen, nonempty, offeredSlot, matched, found]
  · simp [selectProtocol, slot, tokenLen, nonempty, offeredSlot, matched, found]
    exact eq_comm

theorem selectProtocol_frame {w w' : World} (run : selectProtocol w = .next () w') :
    ∃ i, w' = { w with wsi := { w.wsi with protocol := some i, cCallback := some i },
                       log := w.log ++ freedIfSet w.wsi.cProtocol .cProtocol } := by
  by_cases absent : tokenLen (w.wsi.hdrs .protocol) = 0
  · rw [selectProtocol_of_absent absent] at run
    exact ⟨0, (Res.next.inj run).2.symm⟩
  · obtain ⟨token, slot⟩ : ∃ token, w.wsi.hdrs .protocol = some token := by
      cases slot : w.wsi.hdrs .protocol <;> simp_all [tokenLen]
    have nonempty : token.chars ≠ [] := by simpa [slot, tokenLen] using absent
    obtain ⟨offered, i, offeredSlot, -, -, rfl⟩ :=
      (selectProtocol_eq_next_of_present slot nonempty).mp run
    exact ⟨i, by simp [offeredSlot]⟩

theorem findProtocol_named {protocols : List Protocol} {token : CStr} {i : Nat}
    (found : protocols.findIdx? (fun p => strcmp token.chars p.name.chars = 0) = some i) :
    ∃ protocol, protocols[i]? = some protocol ∧ protocol.name = token := by
  obtain ⟨inRange, named, -⟩ := List.findIdx?_eq_some_iff_getElem.mp found
  refine ⟨protocols[i], List.getElem?_eq_getElem inRange, CStr.ext ?_⟩
  exact ((strcmp_eq_zero_iff token.noNul protocols[i].name.noNul).mp (by simpa using named)).symm

theorem selectProtocol_selects {w w' : World} {token : CStr}
    (run : selectProtocol w = .next () w') (slot : w.wsi.hdrs .protocol = some token)
    (nonempty : token.chars ≠ []) :
    ∃ offered, w.wsi.cProtocol = some offered ∧
      matchOffered token.chars offered.chars = true ∧
      ∃ i protocol, w'.wsi.protocol = some i ∧ w.context.protocols[i]? = some protocol ∧
        protocol.name = token := by
  obtain ⟨offered, i, offeredSlot, matched, found, rfl⟩ :=
    (selectProtocol_eq_next_of_present slot nonempty).mp run
  obtain ⟨protocol, registered, named⟩ := findProtocol_named found
  exact ⟨offered, offeredSlot, matched, i, protocol, rfl, registered, named⟩

/-! ## Extensions -/

/-- The server's `Sec-WebSocket-Extensions` value cut at `,`, space and tab,
each piece cut to the 127 bytes `ext_name` keeps (lines 503-518). -/
def extensionChunks (token : List Char) : List (List Char) :=
  (token.splitOnP fun c => c = ',' ∨ c = ' ' ∨ c = '\t').map (List.take 127)

theorem extensionChunks_of_word {word : List Char}
    (noSeparator : ∀ c ∈ word, ¬(c = ',' ∨ c = ' ' ∨ c = '\t')) :
    extensionChunks word = [word.take 127] := by
  rw [extensionChunks, List.splitOnP_eq_single _ _ fun c member => by
    simpa using noSeparator c member]
  rfl

theorem extensionChunks_of_separator {word rest : List Char} {c : Char}
    (noSeparator : ∀ c ∈ word, ¬(c = ',' ∨ c = ' ' ∨ c = '\t'))
    (separator : c = ',' ∨ c = ' ' ∨ c = '\t') :
    extensionChunks (word ++ c :: rest) = word.take 127 :: extensionChunks rest := by
  rw [extensionChunks, List.splitOnP_first _ _ (fun c member => by
    simpa using noSeparator c member) _ (by simpa using separator), List.map_cons]
  rfl

/-- `w'` is `w` with instances of registry extensions named in `names`
appended to `active_extensions`, more of the scripts used and more events
logged, and nothing else changed. -/
def AddsInstancesNamedIn (names : List (List Char)) (w w' : World) : Prop :=
  ∃ added io events,
    w' = { w with wsi := { w.wsi with activeExtensions := w.wsi.activeExtensions ++ added },
                  io := io, log := w.log ++ events } ∧
    ∀ i ∈ added, ∃ ext, w.context.extensions[i]? = some ext ∧ ext.name.chars ∈ names

namespace AddsInstancesNamedIn

variable {names : List (List Char)} {w w₁ w₂ : World}

theorem refl (names : List (List Char)) (w : World) : AddsInstancesNamedIn names w w :=
  ⟨[], w.io, [], by simp, by simp⟩

theorem trans (first : AddsInstancesNamedIn names w w₁)
    (second : AddsInstancesNamedIn names w₁ w₂) : AddsInstancesNamedIn names w w₂ := by
  obtain ⟨added₁, io₁, events₁, rfl, named₁⟩ := first
  obtain ⟨added₂, io₂, events₂, rfl, named₂⟩ := second
  refine ⟨added₁ ++ added₂, io₂, events₁ ++ events₂, by simp, fun i member => ?_⟩
  rcases List.mem_append.mp member with early | late
  · exact named₁ i early
  · exact named₂ i late

theorem mono {names' : List (List Char)} (sub : names ⊆ names')
    (adds : AddsInstancesNamedIn names w w₁) : AddsInstancesNamedIn names' w w₁ := by
  obtain ⟨added, io, events, rfl, named⟩ := adds
  exact ⟨added, io, events, rfl, fun i member =>
    (named i member).imp fun _ found => ⟨found.1, sub found.2⟩⟩

end AddsInstancesNamedIn

/-- Lines 524-565: every registry entry named `name` is instantiated with a
zeroed state block and a `CLIENT_CONSTRUCT` callback; whether one was. -/
def instantiateNamed (name : List Char) (found : Bool) : List (Nat × Extension) → Code Bool
  | [] => pure found
  | (i, ext) :: rest => do
      if strcmp name ext.name.chars ≠ 0 then instantiateNamed name found rest else
      let ok ← malloc ext.perSessionDataSize
      if !ok then goto .bail2
      let wsi ← getWsi
      modifyWsi fun wsi => { wsi with activeExtensions := wsi.activeExtensions ++ [i] }
      let _ ← extensionCallback i .clientConstruct (some wsi.activeExtensions.length)
      instantiateNamed name true rest

theorem instantiateNamed_adds {name : List Char} (nameNoNul : '\x00' ∉ name) :
    ∀ {exts : List (Nat × Extension)} {found b : Bool} {w w' : World},
      (∀ e ∈ exts, w.context.extensions[e.1]? = some e.2) →
      instantiateNamed name found exts w = .next b w' → AddsInstancesNamedIn [name] w w'
  | [], found, b, w, w', _, run => by
      simp only [instantiateNamed, Exec.pure_apply, Res.next.injEq] at run
      exact run.2 ▸ .refl _ _
  | (i, ext) :: rest, found, b, w, w', registered, run => by
      have later := fun w (registered : ∀ e ∈ rest, w.context.extensions[e.1]? = some e.2) =>
        @instantiateNamed_adds name nameNoNul rest true b w w' registered
      simp only [instantiateNamed, Exec.ite_apply] at run
      split_ifs at run with differ
      · exact instantiateNamed_adds nameNoNul
          (fun e member => registered e (List.mem_cons_of_mem _ member)) run
      · simp at run
        split_ifs at run
        refine .trans ⟨[i], _, _, rfl, ?_⟩ (later _ (fun e member => registered e
          (List.mem_cons_of_mem _ member)) run)
        simp only [List.mem_singleton, forall_eq]
        refine ⟨ext, registered _ (List.mem_cons_self _ _), ?_⟩
        exact (by simpa [strcmp_eq_zero_iff nameNoNul ext.name.noNul] using differ :
          name = ext.name.chars).symm

/-- Lines 520-573: one name of the server's list must name an extension. -/
def checkExtensionName (name : List Char) : Code Unit := do
  let context ← getContext
  let found ← instantiateNamed name false context.extensions.enum
  if !found then goto .bail2

theorem checkExtensionName_adds {name : List Char} (nameNoNul : '\x00' ∉ name) {w w' : World}
    (run : checkExtensionName name w = .next () w') : AddsInstancesNamedIn [name] w w' := by
  obtain ⟨_, _, ⟨⟩, run⟩ := Exec.bind_eq_next_iff.mp run
  obtain ⟨found, w₁, instantiated, verdict⟩ := Exec.bind_eq_next_iff.mp run
  have same : w' = w₁ := by
    cases found <;> simp at verdict
    exact verdict.symm
  exact same ▸ instantiateNamed_adds nameNoNul
    (fun e member => List.mem_enum_iff_getElem?.mp member) instantiated

/-- Lines 503-574: the loop splitting the server's list at `,`, space and tab.
`extName` is `ext_name[0..n)`; past 127 bytes further characters only
overwrite `ext_name[127]`, which the terminator then replaces. -/
def extensionLoop (extName : List Char) : List Char → Code Unit
  | [] => checkExtensionName extName
  | c :: rest =>
      if c ≠ ',' ∧ c ≠ ' ' ∧ c ≠ '\t' then
        extensionLoop (if extName.length < 127 then extName ++ [c] else extName) rest
      else if extName = [] then extensionLoop [] rest
      else do
        checkExtensionName extName
        extensionLoop [] rest

theorem appendExtNameByte (pre : List Char) (c : Char) :
    (if (pre.take 127).length < 127 then pre.take 127 ++ [c] else pre.take 127) =
      (pre ++ [c]).take 127 := by
  rw [List.take_append_eq_append_take]
  rw [List.length_take] at *
  split_ifs with room
  · obtain ⟨k, more⟩ : ∃ k, 127 - pre.length = k + 1 := ⟨126 - pre.length, by omega⟩
    simp [more]
  · simp [show 127 - pre.length = 0 by omega]

/-- The loop of lines 503-574, from any point inside a name whose bytes so far
are `pre`: every instance made is of an entry named by a chunk of the list. -/
theorem extensionLoop_adds {rest : List Char} (restNoNul : '\x00' ∉ rest) :
    ∀ {pre : List Char} {w w' : World}, (∀ c ∈ pre, ¬(c = ',' ∨ c = ' ' ∨ c = '\t')) →
      '\x00' ∉ pre → extensionLoop (pre.take 127) rest w = .next () w' →
      AddsInstancesNamedIn (extensionChunks (pre ++ rest)) w w' := by
  induction rest with
  | nil =>
      intro pre w w' word preNoNul run
      rw [List.append_nil, extensionChunks_of_word word]
      exact checkExtensionName_adds (fun member => preNoNul (List.mem_of_mem_take member)) run
  | cons c rest ih =>
      intro pre w w' word preNoNul run
      have restNoNul' : '\x00' ∉ rest := fun member => restNoNul (List.mem_cons_of_mem c member)
      have fromEmpty : ∀ {w w'}, extensionLoop [] rest w = .next () w' →
          AddsInstancesNamedIn (extensionChunks rest) w w' :=
        fun run => @ih restNoNul' [] _ _ (by simp) (by simp) run
      rw [extensionLoop] at run
      by_cases separator : c = ',' ∨ c = ' ' ∨ c = '\t'
      · have later :=
          List.subset_cons_of_subset (pre.take 127) (List.Subset.refl (extensionChunks rest))
        rw [extensionChunks_of_separator word separator, if_neg (by tauto)] at *
        split_ifs at run with empty
        · exact (fromEmpty run).mono later
        · obtain ⟨_, w₁, checked, rest⟩ := Exec.bind_eq_next_iff.mp run
          exact ((checkExtensionName_adds (fun member => preNoNul (List.mem_of_mem_take member))
            checked).mono (by simp)).trans ((fromEmpty rest).mono later)
      · rw [if_pos (by tauto), appendExtNameByte] at run
        have longerWord : ∀ x ∈ pre ++ [c], ¬(x = ',' ∨ x = ' ' ∨ x = '\t') := by
          intro x member
          rcases List.mem_append.mp member with early | last
          · exact word x early
          · exact (List.mem_singleton.mp last) ▸ separator
        have longerNoNul : '\x00' ∉ pre ++ [c] := by
          simpa using ⟨preNoNul, fun nul => restNoNul (nul ▸ List.mem_cons_self c rest)⟩
        simpa using ih restNoNul' longerWord longerNoNul run

/-- Lines 487-574. -/
def instantiateExtensions : Code Unit := do
  let wsi ← getWsi
  if tokenLen (wsi.hdrs .extensions) ≠ 0 then
    let token ← deref (wsi.hdrs .extensions)
    extensionLoop [] token.chars

/-- What `instantiateExtensions` may instantiate: the chunks of the server's
extension list. -/
def serverExtensionNames (table : HeaderTable) : List (List Char) :=
  match table .extensions with
  | some token => extensionChunks token.chars
  | none => []

theorem instantiateExtensions_adds {w w' : World} (run : instantiateExtensions w = .next () w') :
    AddsInstancesNamedIn (serverExtensionNames w.wsi.hdrs) w w' := by
  obtain ⟨_, _, ⟨⟩, run⟩ := Exec.bind_eq_next_iff.mp run
  rcases slot : w.wsi.hdrs .extensions with _ | token
  · simp [slot, tokenLen] at run
    exact run ▸ .refl _ _
  by_cases empty : token.chars = []
  · simp [slot, tokenLen, empty] at run
    exact run ▸ .refl _ _
  · have nonzero : token.chars.length ≠ 0 := by simpa using empty
    simp only [slot, tokenLen] at run
    rw [if_pos nonzero] at run
    simp only [Exec.bind_apply, deref_some_apply] at run
    simpa [serverExtensionNames, slot] using
      @extensionLoop_adds _ token.noNul [] _ _ (by simp) (by simp) run

theorem instantiateExtensions_of_absent {w : World}
    (absent : tokenLen (w.wsi.hdrs .extensions) = 0) : instantiateExtensions w = .next () w := by
  simp [instantiateExtensions, absent]

/-! ## The accept token -/

/-- Lines 579-590. -/
def checkAccept : Code Unit := do
  let wsi ← getWsi
  let accept ← deref (wsi.hdrs .accept)
  if strcmp accept.chars wsi.initialHandshakeHashBase64.chars ≠ 0 then goto .bail2

theorem checkAccept_eq_next {w w' : World} :
    checkAccept w = .next () w' ↔
      w.wsi.hdrs .accept = some w.wsi.initialHandshakeHashBase64 ∧ w' = w := by
  rcases slot : w.wsi.hdrs .accept with _ | accept
  · simp [checkAccept, slot]
  · simp only [checkAccept, Exec.bind_apply, getWsi_apply, slot, deref_some_apply, Exec.ite_apply,
      goto_apply, Exec.pure_apply, ne_eq, strcmp_eq_zero_iff accept.noNul
        w.wsi.initialHandshakeHashBase64.noNul, Option.some.injEq, CStr.ext_iff]
    split_ifs <;> simp [*, eq_comm]

theorem checkAccept_reads_null {w : World} (missing : w.wsi.hdrs .accept = none) :
    checkAccept w = .exit (.undefined .nullDeref) w := by
  simp [checkAccept, missing]

/-! ## Committing the connection -/

/-- Modelled from the spec: `libwebsocket_ensure_user_space` (libwebsockets.c),
which is not under src/: allocate the per-session user memory unless it is
there already; whether it is there afterwards. -/
def libwebsocketEnsureUserSpace (size : Nat) : Code Bool := do
  let wsi ← getWsi
  if wsi.userSpace then return true
  let ok ← malloc size
  if ok then modifyWsi fun wsi => { wsi with userSpace := true }
  return ok

theorem libwebsocketEnsureUserSpace_apply (size : Nat) (w : World) :
    libwebsocketEnsureUserSpace size w =
      if w.wsi.userSpace then .next true w
      else
        let w₁ := { w with io := { w.io with mallocs := w.io.mallocs.tail },
                           log := w.log ++ [.malloc size w.io.mallocOk] }
        if w.io.mallocOk then .next true { w₁ with wsi := { w.wsi with userSpace := true } }
        else .next false w₁ := by
  by_cases present : w.wsi.userSpace <;> cases ok : w.io.mallocOk <;>
    simp [libwebsocketEnsureUserSpace, present, ok]

/-- Free every set slot of `table` among `tokens`. -/
def freeTokenList (table : HeaderTable) : List Token → Code Unit
  | [] => pure ()
  | t :: ts => do
      freeIfSet (table t) (.token t)
      freeTokenList table ts

/-- The frees of the set slots of `table` among `tokens`. -/
def tokenFrees (table : HeaderTable) (tokens : List Token) : List Event :=
  tokens.filterMap fun t => (table t).map fun _ => .free (.token t)

@[simp] theorem freeTokenList_apply (table : HeaderTable) (tokens : List Token) (w : World) :
    freeTokenList table tokens w = .next () { w with log := w.log ++ tokenFrees table tokens } := by
  induction tokens generalizing w with
  | nil => simp [freeTokenList, tokenFrees]
  | cons t ts ih => cases slot : table t <;> simp [freeTokenList, tokenFrees, ih, slot]

/-- Lines 612-614 and 682-684. -/
def freeTokens : Code Unit := do
  let wsi ← getWsi
  freeTokenList wsi.hdrs Token.all

@[simp] theorem freeTokens_apply (w : World) :
    freeTokens w = .next () { w with log := w.log ++ tokenFrees w.wsi.hdrs Token.all } := by
  simp [freeTokens]

/-- Lines 657-660: the state block of the last active instance of
extension `i`, or NULL. -/
def activeUser (active : List Nat) (i : Nat) : Option Nat :=
  active.enum.foldl (fun v e => if e.2 = i then some e.1 else v) none

/-- Lines 654-665: `ANY_WSI_ESTABLISHED` to every registered extension. -/
def announceEstablished : List (Nat × Extension) → Code Unit
  | [] => pure ()
  | (i, _) :: rest => do
      let wsi ← getWsi
      let _ ← extensionCallback i .anyWsiEstablished (activeUser wsi.activeExtensions i)
      announceEstablished rest

/-- The `ANY_WSI_ESTABLISHED` deliveries of lines 654-665, one per registry entry. -/
def establishedCallbacks (active : List Nat) (exts : List (Nat × Extension)) : List Event :=
  exts.map fun e => .extensionCallback e.1 .anyWsiEstablished (activeUser active e.1)

@[simp] theorem announceEstablished_apply (exts : List (Nat × Extension)) (w : World) :
    announceEstablished exts w =
      .next () { w with log := w.log ++ establishedCallbacks w.wsi.activeExtensions exts } := by
  induction exts generalizing w with
  | nil => simp [announceEstablished, establishedCallbacks]
  | cons e rest ih => simp [announceEstablished, establishedCallbacks, ih]

/-- The empty C string. -/
def CStr.empty : CStr := ⟨[], List.not_mem_nil _⟩

/-- `memset (&wsi->u, 0, sizeof wsi->u)` (line 622): the header view of the
union is cleared, and with it the receive buffer pointer of the ws view. -/
def clearUnion (wsi : Conn) : Conn :=
  { wsi with hdrs := HeaderTable.empty, parsed := [], parserComplete := false,
             initialHandshakeHashBase64 := CStr.empty, rxUserBuffer := false }

/-- Lines 592-595: the per-connection user memory, when the protocol asks for some. -/
def allocateUserSpace (protocol : Protocol) : Code Unit := do
  if protocol.perSessionDataSize ≠ 0 then
    let ok ← libwebsocketEnsureUserSpace protocol.perSessionDataSize
    if !ok then goto .bail2

theorem allocateUserSpace_frame {protocol : Protocol} {w w' : World}
    (run : allocateUserSpace protocol w = .next () w') :
    ∃ userSpace io events,
      w' = { w with wsi := { w.wsi with userSpace := userSpace }, io := io,
                    log := w.log ++ events } := by
  unfold allocateUserSpace at run
  split_ifs at run
  · obtain ⟨ok, w₁, ensured, verdict⟩ := Exec.bind_eq_next_iff.mp run
    cases ok <;> simp at verdict
    subst verdict
    rw [libwebsocketEnsureUserSpace_apply] at ensured
    split_ifs at ensured <;> simp at ensured
    · subst ensured
      exact ⟨w.wsi.userSpace, w.io, [], by simp⟩
    · exact ⟨_, _, _, ensured.symm⟩
  · simp at run
    exact ⟨w.wsi.userSpace, w.io, [], by simp [← run]⟩

theorem allocateUserSpace_of_allocations (protocol : Protocol) {w : World}
    (allocations : ∀ b ∈ w.io.mallocs, b = true) :
    ∃ w₁, allocateUserSpace protocol w = .next () w₁ ∧
      ∀ b ∈ w₁.io.mallocs, b = true := by
  unfold allocateUserSpace
  split_ifs
  · by_cases present : w.wsi.userSpace
    · exact ⟨w, by simp [libwebsocketEnsureUserSpace_apply, present], allocations⟩
    · exact ⟨_, by simp [libwebsocketEnsureUserSpace_apply, present,
        mallocOk_of_allocations allocations]; exact .refl _, allocations_tail allocations⟩
  · exact ⟨w, by simp, allocations⟩

/-- Lines 597-622: the filter callback, whose return value is not looked at;
then the timeout is cleared, the header tokens freed, the connection marked
established and its header view cleared. -/
def markEstablished (i : Nat) : Code Unit := do
  let _ ← protocolCallback i .clientFilterPreEstablish
  libwebsocketSetTimeout .noPendingTimeout
  freeTokens
  modifyWsi fun wsi => { wsi with state := .established, mode := .wsClient }
  modifyWsi clearUnion

@[simp] theorem markEstablished_apply (i : Nat) (w : World) :
    markEstablished i w =
      .next () { w with wsi := clearUnion { w.wsi with pendingTimeout := .noPendingTimeout,
                                                       state := .established, mode := .wsClient },
                        log := w.log ++ .protocolCallback i .clientFilterPreEstablish ::
                          tokenFrees w.wsi.hdrs Token.all } := by
  simp [markEstablished]

/-- Lines 624-640: the receive buffer. -/
def allocateRxBuffer (protocol : Protocol) : Code Unit := do
  let context ← getContext
  let size :=
    (if protocol.rxBufferSize = 0 then context.maxSocketIoBuf else protocol.rxBufferSize) +
      context.sendBufferPrePadding + context.sendBufferPostPadding
  let ok ← malloc size
  if !ok then goto .bail3
  modifyWsi fun wsi => { wsi with rxUserBuffer := true }

theorem allocateRxBuffer_apply (protocol : Protocol) (w : World) :
    allocateRxBuffer protocol w =
      let size := (if protocol.rxBufferSize = 0 then w.context.maxSocketIoBuf
        else protocol.rxBufferSize) + w.context.sendBufferPrePadding +
          w.context.sendBufferPostPadding
      let w₁ := { w with io := { w.io with mallocs := w.io.mallocs.tail },
                         log := w.log ++ [.malloc size (w.io.mallocOk)] }
      if w.io.mallocOk then .next () { w₁ with wsi := { w.wsi with rxUserBuffer := true } }
      else .exit (.goto .bail3) w₁ := by
  cases ok : w.io.mallocOk <;> simp [allocateRxBuffer, ok]

theorem allocateRxBuffer_frame {protocol : Protocol} {w w' : World}
    (run : allocateRxBuffer protocol w = .next () w') :
    ∃ io events, w' = { w with wsi := { w.wsi with rxUserBuffer := true }, io := io,
                               log := w.log ++ events } := by
  rw [allocateRxBuffer_apply] at run
  split_ifs at run <;> simp only [Res.next.injEq, true_and] at run <;> exact ⟨_, _, run.symm⟩

/-- Lines 642-665: `CLIENT_ESTABLISHED`, then every registered extension is told. -/
def announceConnection (i : Nat) : Code Unit := do
  let _ ← protocolCallback i .clientEstablished
  let context ← getContext
  announceEstablished context.extensions.enum

@[simp] theorem announceConnection_apply (i : Nat) (w : World) :
    announceConnection i w =
      .next () { w with log := w.log ++ .protocolCallback i .clientEstablished ::
        establishedCallbacks w.wsi.activeExtensions w.context.extensions.enum } := by
  simp [announceConnection]

/-- Lines 592-668: commit the connection. -/
def establish : Code Unit := do
  let wsi ← getWsi
  let context ← getContext
  let i ← deref wsi.protocol
  let protocol ← deref (context.protocols.get? i)
  allocateUserSpace protocol
  markEstablished i
  allocateRxBuffer protocol
  announceConnection i

/-- Lines 592-668 keep the protocol and the extension instances, and leave the
connection established. -/
theorem establish_commits {w w' : World} (run : establish w = .next () w') :
    w'.wsi.protocol = w.wsi.protocol ∧ w'.wsi.activeExtensions = w.wsi.activeExtensions ∧
      w'.wsi.state = .established ∧ w'.wsi.mode = .wsClient := by
  obtain ⟨_, _, ⟨⟩, run⟩ := Exec.bind_eq_next_iff.mp run
  obtain ⟨_, _, ⟨⟩, run⟩ := Exec.bind_eq_next_iff.mp run
  obtain ⟨i, _, selected, run⟩ := Exec.bind_eq_next_iff.mp run
  obtain ⟨protocol, _, registered, run⟩ := Exec.bind_eq_next_iff.mp run
  obtain ⟨_, w₁, allocated, run⟩ := Exec.bind_eq_next_iff.mp run
  obtain ⟨_, w₂, marked, run⟩ := Exec.bind_eq_next_iff.mp run
  obtain ⟨_, w₃, buffered, announced⟩ := Exec.bind_eq_next_iff.mp run
  obtain ⟨protocolSlot, rfl⟩ := deref_eq_next_iff.mp selected
  obtain ⟨-, rfl⟩ := deref_eq_next_iff.mp registered
  obtain ⟨userSpace, io, events, rfl⟩ := allocateUserSpace_frame allocated
  simp only [markEstablished_apply, Res.next.injEq, true_and] at marked
  subst marked
  obtain ⟨io', events', rfl⟩ := allocateRxBuffer_frame buffered
  simp only [announceConnection_apply, Res.next.injEq, true_and] at announced
  subst announced
  simp [clearUnion, protocolSlot]

theorem establish_of_allocations {w : World} {i : Nat} {protocol : Protocol}
    (selected : w.wsi.protocol = some i) (registered : w.context.protocols[i]? = some protocol)
    (allocations : ∀ b ∈ w.io.mallocs, b = true) :
    ∃ w', establish w = .next () w' ∧
      .protocolCallback i .clientFilterPreEstablish ∈ w'.log ∧
      .protocolCallback i .clientEstablished ∈ w'.log := by
  obtain ⟨w₁, allocated, allocations₁⟩ :=
    allocateUserSpace_of_allocations protocol allocations
  obtain ⟨userSpace, io, events, rfl⟩ := allocateUserSpace_frame allocated
  have rxOk : io.mallocOk = true := mallocOk_of_allocations allocations₁
  cases run : establish w with
  | next _ w' =>
      simp [establish, selected, registered, allocated, allocateRxBuffer_apply, rxOk] at run
      simp [← run]
  | exit e w' =>
      simp [establish, selected, registered, allocated, allocateRxBuffer_apply, rxOk] at run

theorem establish_of_rxFailure {w : World} {i : Nat} {protocol : Protocol}
    (selected : w.wsi.protocol = some i) (registered : w.context.protocols[i]? = some protocol)
    (noUserSpace : protocol.perSessionDataSize = 0) (rxFailure : w.io.mallocOk = false) :
    ∃ size, establish w = .exit (.goto .bail3)
      { w with wsi := clearUnion { w.wsi with pendingTimeout := .noPendingTimeout,
                                              state := .established, mode := .wsClient },
               io := { w.io with mallocs := w.io.mallocs.tail },
               log := w.log ++ .protocolCallback i .clientFilterPreEstablish ::
                 tokenFrees w.wsi.hdrs Token.all ++ [.malloc size false] } :=
  ⟨_, by simp [establish, selected, registered, allocateUserSpace, noUserSpace,
    allocateRxBuffer_apply, rxFailure]; rfl⟩

/-! ## Failing, and the whole handshake -/

/-- Lines 674-689. -/
def interpretBail2 : Code Int := do
  let wsi ← getWsi
  match wsi.cCallback with
  | some i => let _ ← protocolCallback i .clientConnectionError
  | none => pure ()
  freeTokens
  libwebsocketCloseAndFreeSession .protocolErr
  return 1

/-- What lines 674-689 add to the ledger. -/
def bail2Events (wsi : Conn) : List Event :=
  (match wsi.cCallback with
    | some i => [.protocolCallback i .clientConnectionError]
    | none => []) ++
  tokenFrees wsi.hdrs Token.all ++ [.close .protocolErr wsi.mode wsi.state]

@[simp] theorem interpretBail2_apply (w : World) :
    interpretBail2 w = .next 1 { w with log := w.log ++ bail2Events w.wsi } := by
  cases callback : w.wsi.cCallback <;> simp [interpretBail2, bail2Events, callback]

/-- Lines 670-672, falling into `bail2`. -/
def interpretBail3 : Code Int := do
  let wsi ← getWsi
  freeIfSet wsi.cProtocol .cProtocol
  interpretBail2

@[simp] theorem interpretBail3_apply (w : World) :
    interpretBail3 w = .next 1
      { w with log := w.log ++ freedIfSet w.wsi.cProtocol .cProtocol ++ bail2Events w.wsi } := by
  simp [interpretBail3]

/-- Lines 384-590: the checks of the reply. -/
def checkServerHandshake : Code Unit := do
  checkResponseHeaders
  selectProtocol
  instantiateExtensions
  checkAccept

theorem checkServerHandshake_frame {w w' : World} (checked : checkServerHandshake w = .next () w') :
    ∃ i events, w'.wsi.protocol = some i ∧ w'.wsi.cCallback = some i ∧
      w'.wsi.cProtocol = w.wsi.cProtocol ∧ w'.wsi.mode = w.wsi.mode ∧
      w'.wsi.state = w.wsi.state ∧ w'.context = w.context ∧
      w'.log = w.log ++ freedIfSet w.wsi.cProtocol .cProtocol ++ events := by
  obtain ⟨⟨⟩, w₁, headers, checked⟩ := Exec.bind_eq_next_iff.mp checked
  obtain ⟨⟨⟩, w₂, selected, checked⟩ := Exec.bind_eq_next_iff.mp checked
  obtain ⟨⟨⟩, w₃, extended, acceptChecked⟩ := Exec.bind_eq_next_iff.mp checked
  obtain ⟨-, rfl⟩ := checkResponseHeaders_eq_next.mp headers
  obtain ⟨i, rfl⟩ := selectProtocol_frame selected
  obtain ⟨added, io, events, rfl, -⟩ := instantiateExtensions_adds extended
  obtain ⟨-, rfl⟩ := checkAccept_eq_next.mp acceptChecked
  exact ⟨i, events, rfl, rfl, rfl, rfl, rfl, rfl, by simp⟩

/-- Lines 384-666. -/
def interpretBody : Code Unit := do
  checkServerHandshake
  establish

/-- `lws_client_interpret_server_handshake`: the body falls through to
`return 0` (line 668), and its `goto`s land at `bail3` or `bail2`. -/
def lwsClientInterpretServerHandshake : Code Int := fun w =>
  match interpretBody w with
  | .next () w' => .next 0 w'
  | .exit (.goto .bail3) w' => interpretBail3 w'
  | .exit (.goto .bail2) w' => interpretBail2 w'
  | .exit e w' => .exit e w'

theorem lwsClientInterpretServerHandshake_ne_goto (w : World) (l : Label) (w' : World) :
    lwsClientInterpretServerHandshake w ≠ .exit (.goto l) w' := by
  unfold lwsClientInterpretServerHandshake
  split
  · simp
  · simp
  · simp
  · rintro ⟨⟩
    cases l <;> simp_all

theorem lwsClientInterpretServerHandshake_eq_zero {w w' : World} :
    lwsClientInterpretServerHandshake w = .next 0 w' ↔ interpretBody w = .next () w' := by
  unfold lwsClientInterpretServerHandshake
  split <;> simp_all

theorem lwsClientInterpretServerHandshake_of_checked {w w₁ w' : World}
    (checked : checkServerHandshake w = .next () w₁) (committed : establish w₁ = .next () w') :
    lwsClientInterpretServerHandshake w = .next 0 w' := by
  rw [lwsClientInterpretServerHandshake_eq_zero, interpretBody, Exec.bind_of_next checked,
    committed]

theorem lwsClientInterpretServerHandshake_of_bail2 {w w' : World}
    (run : interpretBody w = .exit (.goto .bail2) w') :
    lwsClientInterpretServerHandshake w = interpretBail2 w' := by
  simp [lwsClientInterpretServerHandshake, run]

theorem lwsClientInterpretServerHandshake_of_bail3 {w w' : World}
    (run : interpretBody w = .exit (.goto .bail3) w') :
    lwsClientInterpretServerHandshake w = interpretBail3 w' := by
  simp [lwsClientInterpretServerHandshake, run]

theorem lwsClientInterpretServerHandshake_of_undefined {w w' : World} {u : Undefined}
    (run : interpretBody w = .exit (.undefined u) w') :
    lwsClientInterpretServerHandshake w = .exit (.undefined u) w' := by
  simp [lwsClientInterpretServerHandshake, run]

end LwsClient
