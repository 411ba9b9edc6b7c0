import LwsClient.Acceptance

/-!
# Negotiating the sub-protocol and the extensions

`lws_client_interpret_server_handshake` accepts the server's
`Sec-WebSocket-Protocol` by a walk over the offered list (lines 438-450), and
instantiates what the server's `Sec-WebSocket-Extensions` names by cutting it
into names in the 128-byte `ext_name` and checking each against the registry
(lines 503-574).  Here both loops are stated by what they compute: which
entry of the offered list the walk can reach, which names the cutting hands
to the check, and which instances the checks make.  A second model of the
cutting keeps `n` and `ext_name` as the C code does; it stores only inside
`ext_name` and hands the check the same names as the first.
-/

namespace LwsClient

/-! ## The offered list -/

/-- The offered list read as entries: cut at `,`, every entry after a comma
without the spaces that follow it.  This is how the request's
`Sec-WebSocket-Protocol` reads to a server; the interpreter's own test is
`matchOffered`. -/
def offeredEntries (pc : List Char) : List (List Char) :=
  match pc.splitOn ',' with
  | [] => []
  | first :: later => first :: later.map (List.dropWhile (· = ' '))

/-- Lines 438-450 for a token the parser trimmed.  The walk reads
`pc[token_len]` only where `strncmp` has matched `token_len` bytes, so at
most at the terminator of `c_protocol`; and it accepts exactly when the
offered list is the token or starts with the token and a comma, so never at
a later entry. -/
theorem offerMatch_first_only {token pc : List Char} (nonempty : token ≠ [])
    (trimmed : token.head? ≠ some ' ') (tokenNoNul : '\x00' ∉ token)
    (pcNoNul : '\x00' ∉ pc) :
    (∀ s, s <:+ pc → strncmp s token token.length = 0 →
        pc.length - s.length + token.length ≤ pc.length) ∧
      (matchOffered token pc = true ↔ pc = token ∨ token ++ [','] <+: pc) := by
  refine ⟨fun s suffix matched => ?_, matchOffered_iff nonempty trimmed tokenNoNul pcNoNul⟩
  have inside := ((strncmp_length_eq_zero_iff tokenNoNul).mp matched).length_le
  have shorter := suffix.length_le
  omega

/-- The failing input: `superchat` is the second entry of `chat,superchat`. -/
theorem superchatOffer_unmatched :
    "superchat".toList ∈ offeredEntries "chat,superchat".toList ∧
      matchOffered "superchat".toList "chat,superchat".toList = false := by
  refine ⟨by decide, Bool.eq_false_iff.mpr fun matched => ?_⟩
  have accepted :=
    (offerMatch_first_only (by decide) (by decide) (by decide) (by decide)).2.mp matched
  revert accepted
  decide

/-! ## The names handed to the registry check -/

/-- The names lines 503-574 hand to the registry check, from a point inside a
name whose kept bytes are `extName`: a separator ends a name unless it is
empty, and the end of the value ends the last name even when it is empty. -/
def checkedNames (extName : List Char) : List Char → List (List Char)
  | [] => [extName]
  | c :: rest =>
      if c ≠ ',' ∧ c ≠ ' ' ∧ c ≠ '\t' then
        checkedNames (if extName.length < 127 then extName ++ [c] else extName) rest
      else if extName = [] then checkedNames [] rest
      else extName :: checkedNames [] rest

/-- The loop of lines 503-574 is the registry check of each name in turn. -/
theorem extensionLoop_eq_forM (extName rest : List Char) :
    extensionLoop extName rest = (checkedNames extName rest).forM checkExtensionName := by
  induction rest generalizing extName with
  | nil => simp [extensionLoop, checkedNames]
  | cons c rest ih =>
      rw [extensionLoop, checkedNames]
      by_cases word : c ≠ ',' ∧ c ≠ ' ' ∧ c ≠ '\t'
      · rw [if_pos word, if_pos word, ih]
      by_cases empty : extName = []
      · rw [if_neg word, if_neg word, if_pos empty, if_pos empty, ih]
      · rw [if_neg word, if_neg word, if_neg empty, if_neg empty, ih]
        rfl

/-- A value that ends in a separator ends with an empty name to check. -/
theorem checkedNames_trailing {c : Char} (separator : c = ',' ∨ c = ' ' ∨ c = '\t') :
    ∀ (extName V : List Char), ∃ names, checkedNames extName (V ++ [c]) = names ++ [[]]
  | extName, [] => by
      have ends : ¬(c ≠ ',' ∧ c ≠ ' ' ∧ c ≠ '\t') := by tauto
      by_cases empty : extName = []
      · exact ⟨[], by simp [checkedNames, ends, empty]⟩
      · exact ⟨[extName], by simp [checkedNames, ends, empty]⟩
  | extName, d :: V => by
      rw [List.cons_append, checkedNames]
      by_cases word : d ≠ ',' ∧ d ≠ ' ' ∧ d ≠ '\t'
      · rw [if_pos word]
        exact checkedNames_trailing separator _ V
      obtain ⟨names, trailing⟩ := checkedNames_trailing separator [] V
      by_cases empty : extName = []
      · rw [if_neg word, if_pos empty]
        exact ⟨names, trailing⟩
      · rw [if_neg word, if_neg empty, trailing]
        exact ⟨extName :: names, rfl⟩


/-- The bytes of a word that fits `ext_name` are all kept. -/
theorem checkedNames_word {word : List Char}
    (noSeparator : ∀ c ∈ word, ¬(c = ',' ∨ c = ' ' ∨ c = '\t')) :
    ∀ {pre : List Char}, (pre ++ word).length ≤ 127 → ∀ rest,
      checkedNames pre (word ++ rest) = checkedNames (pre ++ word) rest := by
  induction word with
  | nil => simp
  | cons c word ih =>
      intro pre short rest
      have kept : pre.length < 127 := by simp at short; omega
      rw [List.cons_append, checkedNames,
        if_pos (by simpa using noSeparator c (List.mem_cons_self _ _)), if_pos kept,
        ih (fun d member => noSeparator d (List.mem_cons_of_mem _ member)) (by simpa using short)]
      simp

theorem intercalate_comma_replicate (word : List Char) (k : Nat) :
    List.intercalate [','] (List.replicate (k + 2) word) =
      word ++ ',' :: List.intercalate [','] (List.replicate (k + 1) word) := by
  simp [List.intercalate, List.replicate_succ, List.intersperse]

/-- One name repeated with commas between hands the check that name each time. -/
theorem checkedNames_repeated {word : List Char} (nonempty : word ≠ [])
    (noSeparator : ∀ c ∈ word, ¬(c = ',' ∨ c = ' ' ∨ c = '\t')) (short : word.length ≤ 127) :
    ∀ k, checkedNames [] (List.intercalate [','] (List.replicate (k + 1) word)) =
      List.replicate (k + 1) word
  | 0 => by
      simpa [List.intercalate, checkedNames] using @checkedNames_word word noSeparator [] short []
  | k + 1 => by
      rw [intercalate_comma_replicate, @checkedNames_word word noSeparator [] short,
        List.nil_append, checkedNames, if_neg (by decide), if_neg nonempty,
        checkedNames_repeated nonempty noSeparator short k]
      rfl

/-! ## The check of one name -/

/-- Lines 524-565 change no registry and leave only by the `goto bail2` of a
failed `malloc`. -/
theorem instantiateNamed_frame {name : List Char} :
    ∀ {exts : List (Nat × Extension)} {found : Bool} {w : World},
      (instantiateNamed name found exts w).state.context = w.context ∧
        ∀ e w', instantiateNamed name found exts w = .exit e w' → e = .goto .bail2
  | [], _, _ => ⟨rfl, by simp [instantiateNamed]⟩
  | (i, ext) :: rest, found, w => by
      simp only [instantiateNamed, Exec.ite_apply]
      split_ifs with differ
      · exact instantiateNamed_frame
      · cases ok : w.io.mallocOk
        · simp [ok]
        · simp only [Exec.bind_apply, malloc_apply, ok]
          exact instantiateNamed_frame

/-- Lines 520-570 for one name change no registry and leave only by `bail2`. -/
theorem checkExtensionName_frame {name : List Char} {w : World} :
    (checkExtensionName name w).state.context = w.context ∧
      ∀ e w', checkExtensionName name w = .exit e w' → e = .goto .bail2 := by
  have named := @instantiateNamed_frame name w.context.extensions.enum false w
  simp only [checkExtensionName, Exec.bind_apply, getContext_apply]
  cases run : instantiateNamed name false w.context.extensions.enum w with
  | next found w₁ =>
      rw [run, Res.state_next] at named
      cases found <;> simp [named.1]
  | exit e w₁ =>
      rw [run] at named
      exact ⟨named.1, fun e' w' left => by cases left; exact named.2 e w₁ rfl⟩

theorem instantiateNamed_of_unmatched {name : List Char} :
    ∀ {exts : List (Nat × Extension)} {found : Bool} {w : World},
      (∀ e ∈ exts, strcmp name e.2.name.chars ≠ 0) →
        instantiateNamed name found exts w = .next found w
  | [], _, _, _ => rfl
  | (i, ext) :: rest, found, w, unmatched => by
      rw [instantiateNamed, if_pos (unmatched _ (List.mem_cons_self _ _))]
      exact instantiateNamed_of_unmatched fun e member =>
        unmatched e (List.mem_cons_of_mem _ member)

/-- A name no registry entry is named by goes to `bail2` with nothing done. -/
theorem checkExtensionName_of_unmatched {name : List Char} {w : World}
    (unmatched : ∀ ext ∈ w.context.extensions, strcmp name ext.name.chars ≠ 0) :
    checkExtensionName name w = .exit (.goto .bail2) w := by
  simp [checkExtensionName, instantiateNamed_of_unmatched fun e member =>
    unmatched e.2 (List.snd_mem_of_mem_enum member)]

/-- The registry indices lines 526-530 find for `name`, in registry order. -/
def namedInstances (extensions : List Extension) (name : List Char) : List Nat :=
  (extensions.enum.filter fun e => strcmp name e.2.name.chars = 0).map Prod.fst

/-- With `malloc` succeeding, lines 524-565 instantiate every entry whose name
is `name`, in registry order, and report whether there was one. -/
theorem instantiateNamed_of_allocations {name : List Char} :
    ∀ {exts : List (Nat × Extension)} {found : Bool} {w : World},
      (∀ b ∈ w.io.mallocs, b = true) →
      ∃ io events, (∀ b ∈ io.mallocs, b = true) ∧
        instantiateNamed name found exts w =
          .next (found || exts.any fun e => strcmp name e.2.name.chars = 0)
            { w with
              wsi := { w.wsi with activeExtensions := w.wsi.activeExtensions ++
                (exts.filter fun e => strcmp name e.2.name.chars = 0).map Prod.fst },
              io := io, log := w.log ++ events }
  | [], found, w, allocations => ⟨w.io, [], allocations, by simp [instantiateNamed]⟩
  | (i, ext) :: rest, found, w, allocations => by
      by_cases matched : strcmp name ext.name.chars = 0
      · let construct : List Event := [.malloc ext.perSessionDataSize true,
          .extensionCallback i .clientConstruct (some w.wsi.activeExtensions.length)]
        obtain ⟨io, events, allocations', run⟩ := @instantiateNamed_of_allocations name rest true
          { w with wsi := { w.wsi with activeExtensions := w.wsi.activeExtensions ++ [i] },
                   io := { w.io with mallocs := w.io.mallocs.tail },
                   log := w.log ++ construct }
          (allocations_tail allocations)
        refine ⟨io, construct ++ events, allocations', ?_⟩
        simp [instantiateNamed, matched, mallocOk_of_allocations allocations, run, construct]
      · obtain ⟨io, events, allocations', run⟩ :=
          @instantiateNamed_of_allocations name rest found w allocations
        exact ⟨io, events, allocations', by simp [instantiateNamed, matched, run]⟩

/-- With `malloc` succeeding, the check of one name instantiates every entry
of that name, and goes to `bail2` exactly when there is none. -/
theorem checkExtensionName_of_allocations {name : List Char} {w : World}
    (allocations : ∀ b ∈ w.io.mallocs, b = true) :
    ∃ w', checkExtensionName name w =
        (if namedInstances w.context.extensions name = [] then Res.exit (.goto .bail2)
          else .next ()) w' ∧
      w'.context = w.context ∧ (∀ b ∈ w'.io.mallocs, b = true) ∧
      w'.wsi.activeExtensions =
        w.wsi.activeExtensions ++ namedInstances w.context.extensions name := by
  obtain ⟨io, events, allocations', run⟩ :=
    @instantiateNamed_of_allocations name w.context.extensions.enum false w allocations
  refine ⟨{ w with
      wsi := { w.wsi with activeExtensions :=
        w.wsi.activeExtensions ++ namedInstances w.context.extensions name },
      io := io, log := w.log ++ events }, ?_, rfl, allocations', rfl⟩
  simp only [checkExtensionName, Exec.bind_apply, getContext_apply, run, Bool.false_or]
  by_cases unnamed : namedInstances w.context.extensions name = []
  · have unmatched :
        (w.context.extensions.enum.any fun e => strcmp name e.2.name.chars = 0) = false := by
      simpa [namedInstances, List.filter_eq_nil_iff] using unnamed
    rw [if_pos unnamed]
    simp [unmatched, namedInstances]
  · have matched :
        (w.context.extensions.enum.any fun e => strcmp name e.2.name.chars = 0) = true := by
      simpa [namedInstances, List.filter_eq_nil_iff] using unnamed
    rw [if_neg unnamed]
    simp [matched, namedInstances]

/-! ## The checks of a whole value -/

/-- Checks that leave only by `bail2`, ending with one that never falls
through for this registry, end at `bail2`. -/
theorem forM_check_bail2 {last : List Char} {context : Context}
    (lastFails : ∀ w, w.context = context →
      ∃ w', checkExtensionName last w = .exit (.goto .bail2) w') :
    ∀ (names : List (List Char)) {w : World}, w.context = context →
      ∃ w', (names ++ [last]).forM checkExtensionName w = .exit (.goto .bail2) w'
  | [], w, same => by
      obtain ⟨w', run⟩ := lastFails w same
      exact ⟨w', by simp [List.forM_cons, run]⟩
  | name :: names, w, same => by
      have frame := @checkExtensionName_frame name w
      cases run : checkExtensionName name w with
      | next _ w₁ =>
          rw [run, Res.state_next] at frame
          obtain ⟨w', rest⟩ := forM_check_bail2 lastFails names (frame.1.trans same)
          exact ⟨w', by simp [List.forM_cons, run, rest]⟩
      | exit e w₁ => exact ⟨w₁, by simp [List.forM_cons, run, frame.2 e w₁ run]⟩

/-- With `malloc` succeeding, checks of names that all name registry entries
fall through, having instantiated the entries of each name in turn. -/
theorem forM_check_of_registered :
    ∀ (names : List (List Char)) {w : World}, (∀ b ∈ w.io.mallocs, b = true) →
      (∀ name ∈ names, namedInstances w.context.extensions name ≠ []) →
      ∃ w', names.forM checkExtensionName w = .next () w' ∧
        w'.wsi.activeExtensions =
          w.wsi.activeExtensions ++ names.flatMap (namedInstances w.context.extensions)
  | [], w, _, _ => ⟨w, rfl, by simp⟩
  | name :: names, w, allocations, registered => by
      obtain ⟨w₁, run, same, allocations₁, active₁⟩ :=
        @checkExtensionName_of_allocations name w allocations
      rw [if_neg (registered name (List.mem_cons_self _ _))] at run
      obtain ⟨w', rest, active⟩ := forM_check_of_registered names allocations₁
        fun other member => same ▸ registered other (List.mem_cons_of_mem _ member)
      exact ⟨w', by simp [List.forM_cons, run, rest], by simp [active, active₁, same]⟩

/-- With `malloc` succeeding, checks of names one of which names no registry
entry end at `bail2`. -/
theorem forM_check_of_unregistered :
    ∀ (names : List (List Char)) {w : World}, (∀ b ∈ w.io.mallocs, b = true) →
      (∃ name ∈ names, namedInstances w.context.extensions name = []) →
      ∃ w', names.forM checkExtensionName w = .exit (.goto .bail2) w'
  | [], _, _, ⟨_, member, _⟩ => absurd member (List.not_mem_nil _)
  | name :: names, w, allocations, ⟨bad, member, unnamed⟩ => by
      obtain ⟨w₁, run, same, allocations₁, -⟩ :=
        @checkExtensionName_of_allocations name w allocations
      by_cases first : namedInstances w.context.extensions name = []
      · rw [if_pos first] at run
        exact ⟨w₁, by simp [List.forM_cons, run]⟩
      · rw [if_neg first] at run
        have later : bad ∈ names :=
          (List.mem_cons.mp member).resolve_left fun named => first (named ▸ unnamed)
        obtain ⟨w', rest⟩ :=
          forM_check_of_unregistered names allocations₁ ⟨bad, later, same ▸ unnamed⟩
        exact ⟨w', by simp [List.forM_cons, run, rest]⟩

theorem length_le_flatMap {names : List (List Char)} {f : List Char → List Nat}
    (nonempty : ∀ name ∈ names, f name ≠ []) : names.length ≤ (names.flatMap f).length := by
  induction names with
  | nil => simp
  | cons name names ih =>
      have first := List.length_pos.mpr (nonempty name (List.mem_cons_self _ _))
      have rest := ih fun other member => nonempty other (List.mem_cons_of_mem _ member)
      simp only [List.flatMap_cons, List.length_append, List.length_cons]
      omega

/-! ## Values the server controls -/

/-- A registered extension whose callbacks all return 0. -/
def deflateFrame : Extension where
  name := ⟨"deflate-frame".toList, by decide⟩
  callback := fun _ => 0
  perSessionDataSize := 0

/-- A conformant reply with the `Sec-WebSocket-Extensions` value `value`, to a
client that registered `deflate-frame` and offered no protocol. -/
def extensionsReply (value : CStr) : World :=
  awaitingReply [quietProtocol ⟨"chat".toList, by decide⟩] (by simp) [deflateFrame] none
    (.ofList (switchingHeaders rfcAccept ++ [(.extensions, value)]))

/-- `LWS_MAX_EXTENSIONS_ACTIVE`, the length of `wsi->active_extensions`: the
library's header sets it to 3, and lines 539-562 index the array with
`count_active_extensions` without comparing the two. -/
def lwsMaxExtensionsActive : Nat := 3

/-- `deflate-frame` four times over, for an array of three slots. -/
def deflateFrameFour : CStr :=
  ⟨List.intercalate [','] (List.replicate 4 "deflate-frame".toList), by decide⟩

/-- `deflate-frame` twice, comma and space between. -/
def deflateFrameTwice : CStr := ⟨"deflate-frame, deflate-frame".toList, by decide⟩

/-- With `malloc` succeeding, the loop of lines 503-574 falls through exactly
when every name it checks names a registry entry, and then it has
instantiated, name by name in the value's order, every entry of that name. -/
theorem extensionLoop_of_allocations (V : List Char) {w : World}
    (allocations : ∀ b ∈ w.io.mallocs, b = true) :
    ((∀ name ∈ checkedNames [] V, namedInstances w.context.extensions name ≠ []) →
      ∃ w', extensionLoop [] V w = .next () w' ∧
        w'.wsi.activeExtensions = w.wsi.activeExtensions ++
          (checkedNames [] V).flatMap (namedInstances w.context.extensions)) ∧
    ((∃ name ∈ checkedNames [] V, namedInstances w.context.extensions name = []) →
      ∃ w', extensionLoop [] V w = .exit (.goto .bail2) w') := by
  rw [extensionLoop_eq_forM]
  exact ⟨forM_check_of_registered _ allocations, forM_check_of_unregistered _ allocations⟩

theorem deflateFrameTwice_instantiated :
    (∀ b ∈ (extensionsReply deflateFrameTwice).io.mallocs, b = true) ∧
      ∃ w', extensionLoop [] deflateFrameTwice.chars (extensionsReply deflateFrameTwice) =
        .next () w' ∧ w'.wsi.activeExtensions = [0, 0] := by
  have allocations : ∀ b ∈ (extensionsReply deflateFrameTwice).io.mallocs, b = true := by
    simp [extensionsReply, awaitingReply]
  obtain ⟨w', run, active⟩ :=
    (extensionLoop_of_allocations deflateFrameTwice.chars allocations).1 (by decide)
  exact ⟨allocations, w', run, active.trans (by decide)⟩

/-- Lines 509-517 on a value that ends in `,`, space or tab: the empty name
after the separator is checked like any other and matches no registry
entry, so the loop ends at `bail2` whatever the names before it. -/
theorem trailingSeparator_refused {V : List Char} {c : Char}
    (separator : c = ',' ∨ c = ' ' ∨ c = '\t') {w : World}
    (named : ∀ ext ∈ w.context.extensions, ext.name.chars ≠ []) :
    ∃ w', extensionLoop [] (V ++ [c]) w = .exit (.goto .bail2) w' := by
  obtain ⟨names, trailing⟩ := checkedNames_trailing separator [] V
  rw [extensionLoop_eq_forM, trailing]
  refine forM_check_bail2 (fun w' same =>
    ⟨w', checkExtensionName_of_unmatched fun ext member => ?_⟩) names rfl
  rw [same] at member
  rw [Ne, strcmp_eq_zero_iff (List.not_mem_nil _) ext.name.noNul]
  exact (named ext member).symm

/-- `deflate-frame` with a trailing comma. -/
def deflateFrameComma : CStr := ⟨"deflate-frame,".toList, by decide⟩

/-- The failing input: `deflate-frame,` names only the registered extension,
yet the loop ends at `bail2`. -/
theorem deflateFrameComma_refused :
    deflateFrameComma.chars = "deflate-frame".toList ++ [','] ∧
      (extensionsReply deflateFrameComma).context.extensions = [deflateFrame] ∧
      (∀ ext ∈ (extensionsReply deflateFrameComma).context.extensions, ext.name.chars ≠ []) ∧
      ∃ w', extensionLoop [] ("deflate-frame".toList ++ [','])
        (extensionsReply deflateFrameComma) = .exit (.goto .bail2) w' := by
  have named : ∀ ext ∈ (extensionsReply deflateFrameComma).context.extensions,
      ext.name.chars ≠ [] := by
    simp [extensionsReply, awaitingReply, deflateFrame]
  exact ⟨rfl, rfl, named, trailingSeparator_refused (.inl rfl) named⟩

/-- Lines 526-562 on a value naming one registered extension `capacity + 1`
times: the checks instantiate it each time, so `count_active_extensions`
passes `capacity`, whatever fixed capacity `active_extensions` has. -/
theorem repeatedExtension_overruns (capacity : Nat) {w : World} {token : CStr}
    {ext : Extension} (slot : w.wsi.hdrs .extensions = some token)
    (repeated :
      token.chars = List.intercalate [','] (List.replicate (capacity + 1) ext.name.chars))
    (registered : ext ∈ w.context.extensions)
    (noSeparator : ∀ c ∈ ext.name.chars, ¬(c = ',' ∨ c = ' ' ∨ c = '\t'))
    (nonempty : ext.name.chars ≠ []) (short : ext.name.chars.length ≤ 127)
    (allocations : ∀ b ∈ w.io.mallocs, b = true) :
    ∃ w', instantiateExtensions w = .next () w' ∧ capacity < w'.wsi.activeExtensions.length := by
  have checked := checkedNames_repeated nonempty noSeparator short capacity
  rw [← repeated] at checked
  have present : tokenLen (some token) ≠ 0 := by
    intro empty
    simp only [tokenLen, List.length_eq_zero] at empty
    simp [empty, checkedNames, List.replicate_succ, nonempty.symm] at checked
  have named : namedInstances w.context.extensions ext.name.chars ≠ [] := by
    obtain ⟨i, found⟩ := List.mem_iff_getElem?.mp registered
    simpa [namedInstances, List.filter_eq_nil_iff] using
      ⟨i, ext, List.mem_enum_iff_getElem?.mpr found, strcmp_self _⟩
  have allNamed : ∀ name ∈ List.replicate (capacity + 1) ext.name.chars,
      namedInstances w.context.extensions name ≠ [] :=
    fun name member => (List.eq_of_mem_replicate member) ▸ named
  obtain ⟨w', run, active⟩ := forM_check_of_registered _ allocations allNamed
  refine ⟨w', ?_, ?_⟩
  · simp [instantiateExtensions, present, slot, extensionLoop_eq_forM, checked, run]
  · have instances := length_le_flatMap allNamed
    rw [active, List.length_append]
    simp only [List.length_replicate] at instances
    omega

theorem deflateFrameFour_overruns :
    (extensionsReply deflateFrameFour).wsi.hdrs .extensions = some deflateFrameFour ∧
      deflateFrame ∈ (extensionsReply deflateFrameFour).context.extensions ∧
      ∃ w', instantiateExtensions (extensionsReply deflateFrameFour) = .next () w' ∧
        3 < w'.wsi.activeExtensions.length :=
  ⟨rfl, List.mem_singleton_self _,
    @repeatedExtension_overruns 3 (extensionsReply deflateFrameFour) deflateFrameFour deflateFrame
      rfl rfl (List.mem_singleton_self _) (by decide) (by decide) (by decide)
      (by simp [extensionsReply, awaitingReply])⟩

/-! ## `n` and `ext_name` as the C code keeps them -/

/-- What a pass of lines 503-574 does that involves `ext_name`: a store of a
byte at an index, or the registry check of the string `ext_name` holds. -/
inductive NameScanEvent
  | store (index : Nat) (c : Char)
  | check (name : List Char)
  deriving DecidableEq, Repr

/-- Whether the event is a store into `ext_name`. -/
def NameScanEvent.isStore : NameScanEvent → Bool
  | .store .. => true
  | .check _ => false

/-- The name a check event hands to the registry. -/
def NameScanEvent.checked : NameScanEvent → Option (List Char)
  | .store .. => none
  | .check name => some name

/-- `ext_name[i] = c`, with `ext_name` indexed by every natural number so
that a store past its 128 bytes can be stated. -/
def storeByte (extName : Nat → Char) (i : Nat) (c : Char) : Nat → Char :=
  fun j => if j = i then c else extName j

/-- The string `strcmp` reads from `ext_name`: its bytes before the first NUL
among its 128. -/
def extNameString (extName : Nat → Char) : List Char :=
  ((List.range 128).map extName).takeWhile (· ≠ '\x00')

/-- Lines 503-574 with `n` and `ext_name` as the C code keeps them, from the
`k`-th registry check on.  `passes k` is whether the `k`-th check found an
entry: lines 526-532 keep that answer in `n`, line 567 leaves by `bail2`
when it is 0, and line 571 sets `n` back to 0 for the next name. -/
def scanExtNames (passes : Nat → Bool) (k n : Nat) (extName : Nat → Char) :
    List Char → List NameScanEvent
  | [] => [.store n '\x00', .check (extNameString (storeByte extName n '\x00'))]
  | c :: rest =>
      if c ≠ ',' ∧ c ≠ ' ' ∧ c ≠ '\t' then
        .store n c ::
          scanExtNames passes k (if n < 127 then n + 1 else n) (storeByte extName n c) rest
      else if n = 0 then
        .store n '\x00' :: scanExtNames passes k n (storeByte extName n '\x00') rest
      else
        .store n '\x00' :: .check (extNameString (storeByte extName n '\x00')) ::
          if passes k then scanExtNames passes (k + 1) 0 (storeByte extName n '\x00') rest
          else []

/-- Every store of the loop is at an index up to 127: a pass stores at `n` and
leaves `n` at most 127, since it grows only below 127 and is else reset. -/
theorem scanExtNames_stores_le (passes : Nat → Bool) (k n : Nat) (extName : Nat → Char)
    (V : List Char) :
    n ≤ 127 → ∀ i c, NameScanEvent.store i c ∈ scanExtNames passes k n extName V → i ≤ 127 := by
  induction k, n, extName, V using scanExtNames.induct passes with
  | case1 k n extName =>
      intro bounded i c member
      simp [scanExtNames] at member
      omega
  | case2 k n extName c rest word ih =>
      intro bounded i d member
      rw [scanExtNames, if_pos word, List.mem_cons] at member
      rcases member with same | later
      · cases same
        exact bounded
      · exact ih (by split_ifs <;> omega) i d later
  | case3 k extName c rest separator ih =>
      intro _ i d member
      rw [scanExtNames, if_neg separator, if_pos rfl, List.mem_cons] at member
      rcases member with same | later
      · cases same
        exact Nat.zero_le _
      · exact ih (Nat.zero_le _) i d later
  | case4 k n extName c rest separator named ih =>
      intro bounded i d member
      rw [scanExtNames, if_neg separator, if_neg named] at member
      simp only [List.mem_cons, reduceCtorEq, false_or] at member
      rcases member with same | later
      · cases same
        exact bounded
      · split_ifs at later
        · exact ih (Nat.zero_le _) i d later
        · cases later

/-- Every pass stores once, and each consumes a byte of the value or ends the
loop at its terminator. -/
theorem scanExtNames_passes (passes : Nat → Bool) (k n : Nat) (extName : Nat → Char)
    (V : List Char) :
    (scanExtNames passes k n extName V).countP NameScanEvent.isStore ≤ V.length + 1 := by
  induction k, n, extName, V using scanExtNames.induct passes with
  | case1 => simp [scanExtNames, NameScanEvent.isStore]
  | case2 k n extName c rest word ih =>
      rw [scanExtNames, if_pos word]
      simp only [List.countP_cons, NameScanEvent.isStore, List.length_cons, if_true] at ih ⊢
      omega
  | case3 k extName c rest separator ih =>
      rw [scanExtNames, if_neg separator, if_pos rfl]
      simp only [List.countP_cons, NameScanEvent.isStore, List.length_cons, if_true] at ih ⊢
      omega
  | case4 k n extName c rest separator named ih =>
      rw [scanExtNames, if_neg separator, if_neg named]
      split_ifs
      · simp only [List.countP_cons, NameScanEvent.isStore, List.length_cons, if_true,
          Bool.false_eq_true, if_false] at ih ⊢
        omega
      · simp [NameScanEvent.isStore]

/-- `ext_name[0..n)` holds the kept bytes `kept` of the name being cut, and
`n` is at most 127. -/
structure ExtNameHolds (n : Nat) (extName : Nat → Char) (kept : List Char) : Prop where
  length : kept.length = n
  bounded : n ≤ 127
  bytes : ∀ j (inside : j < kept.length), extName j = kept[j]
  noNul : '\x00' ∉ kept

theorem ExtNameHolds.empty (extName : Nat → Char) : ExtNameHolds 0 extName [] :=
  ⟨rfl, Nat.zero_le _, fun _ inside => absurd inside (Nat.not_lt_zero _), List.not_mem_nil _⟩

/-- Lines 505-507: a byte of a name is stored at `n`, and `n` grows while
below 127, which is the byte kept unless 127 are already. -/
theorem ExtNameHolds.store {n : Nat} {extName : Nat → Char} {kept : List Char} {c : Char}
    (holds : ExtNameHolds n extName kept) (notNul : c ≠ '\x00') :
    ExtNameHolds (if n < 127 then n + 1 else n) (storeByte extName n c)
      (if kept.length < 127 then kept ++ [c] else kept) := by
  have other : ∀ j < n, storeByte extName n c j = extName j :=
    fun j before => if_neg (Nat.ne_of_lt before)
  by_cases room : n < 127
  · rw [if_pos room, if_pos (holds.length ▸ room)]
    refine ⟨by simp [holds.length], room, fun j inside => ?_, ?_⟩
    · rcases Nat.lt_or_ge j n with before | last
      · rw [other j before, holds.bytes j (holds.length ▸ before), List.getElem_append_left]
      · have atEnd : j = n := by simp [holds.length] at inside; omega
        subst atEnd
        simp [storeByte, ← holds.length]
    · simpa [Ne.symm notNul] using holds.noNul
  · rw [if_neg room, if_neg (holds.length ▸ room)]
    exact ⟨holds.length, holds.bounded, fun j inside =>
      (other j (holds.length ▸ inside)).trans (holds.bytes j inside), holds.noNul⟩

/-- Line 509: the terminator stored at `n` ends the string at the kept bytes. -/
theorem ExtNameHolds.string {n : Nat} {extName : Nat → Char} {kept : List Char}
    (holds : ExtNameHolds n extName kept) :
    extNameString (storeByte extName n '\x00') = kept := by
  have bounded := holds.bounded
  have cut : List.range 128 = List.range' 0 n ++ n :: List.range' (n + 1) (127 - n) := by
    rw [List.range_eq_range', show 128 = (127 - n + 1) + n by omega, ← List.range'_append,
      List.range'_succ]
    simp
  have front : (List.range' 0 n).map (storeByte extName n '\x00') = kept := by
    refine List.ext_getElem (by simp [holds.length]) fun j inRange inKept => ?_
    simp only [List.getElem_map, List.getElem_range', Nat.zero_add, Nat.one_mul]
    rw [storeByte, if_neg (by simp at inRange; omega), holds.bytes j inKept]
  have keptNoNul : ∀ c ∈ kept, decide (c ≠ '\x00') = true :=
    fun c member => decide_eq_true fun (nul : c = '\x00') => holds.noNul (nul ▸ member)
  rw [extNameString, cut, List.map_append, front, List.map_cons,
    List.takeWhile_append_of_pos keptNoNul]
  simp [storeByte]

/-- The names a run checks when it stops at the first check, counted from
`k`, that `passes` rejects. -/
def checkedUntil (passes : Nat → Bool) (k : Nat) : List (List Char) → List (List Char)
  | [] => []
  | name :: later => name :: if passes k then checkedUntil passes (k + 1) later else []

/-- From a point where `ext_name` holds the kept bytes, the array-level loop
checks the names `checkedNames` lists, up to the first rejected one. -/
theorem scanExtNames_refines (passes : Nat → Bool) (k n : Nat) (extName : Nat → Char)
    (V : List Char) :
    '\x00' ∉ V → ∀ {kept}, ExtNameHolds n extName kept →
      (scanExtNames passes k n extName V).filterMap NameScanEvent.checked =
        checkedUntil passes k (checkedNames kept V) := by
  induction k, n, extName, V using scanExtNames.induct passes with
  | case1 k n extName =>
      intro _ kept holds
      simp [scanExtNames, NameScanEvent.checked, checkedNames, checkedUntil, holds.string]
  | case2 k n extName c rest word ih =>
      intro noNul kept holds
      have notNul : c ≠ '\x00' := fun nul => noNul (nul ▸ List.mem_cons_self _ _)
      rw [scanExtNames, if_pos word, checkedNames, if_pos word, List.filterMap_cons]
      exact ih (fun member => noNul (List.mem_cons_of_mem _ member)) (holds.store notNul)
  | case3 k extName c rest separator ih =>
      intro noNul kept holds
      have empty : kept = [] := List.length_eq_zero.mp holds.length
      subst empty
      rw [scanExtNames, if_neg separator, if_pos rfl, checkedNames, if_neg separator,
        if_pos rfl, List.filterMap_cons]
      exact ih (fun member => noNul (List.mem_cons_of_mem _ member)) (.empty _)
  | case4 k n extName c rest separator named ih =>
      intro noNul kept holds
      have nonempty : kept ≠ [] := fun empty => named (holds.length ▸ empty ▸ rfl)
      rw [scanExtNames, if_neg separator, if_neg named, checkedNames, if_neg separator,
        if_neg nonempty]
      simp only [List.filterMap_cons, NameScanEvent.checked, holds.string, checkedUntil]
      split_ifs
      · rw [ih (fun member => noNul (List.mem_cons_of_mem _ member)) (.empty _)]
      · rfl

/-- Lines 503-574 store into `ext_name` only at indices up to 127, whatever
the server's value, whatever the stack held and however the registry checks
come out, although `n` also carries the check's answer; and the loop makes at
most one pass per byte of the value and one for its terminator, so it ends. -/
theorem extNameStores_bounded (passes : Nat → Bool) (extName : Nat → Char) (V : List Char) :
    (∀ i c, NameScanEvent.store i c ∈ scanExtNames passes 0 0 extName V → i ≤ 127) ∧
      (scanExtNames passes 0 0 extName V).countP NameScanEvent.isStore ≤ V.length + 1 :=
  ⟨scanExtNames_stores_le passes 0 0 extName V (Nat.zero_le _),
    scanExtNames_passes passes 0 0 extName V⟩

/-- The two models of lines 503-574 agree: on a value without NUL the C
code's `n` and `ext_name` hand the registry check the names `checkedNames`
lists, in order, up to the first one the check rejects.  `extensionLoop`
checks exactly these names in turn (`extensionLoop_eq_forM`). -/
theorem extNameScan_refines (passes : Nat → Bool) (extName : Nat → Char) {V : List Char}
    (noNul : '\x00' ∉ V) :
    (scanExtNames passes 0 0 extName V).filterMap NameScanEvent.checked =
      checkedUntil passes 0 (checkedNames [] V) :=
  scanExtNames_refines passes 0 0 extName V noNul (.empty extName)

theorem extNameScan_refines_on_list :
    '\x00' ∉ "deflate-frame,,x".toList ∧
      (scanExtNames (fun _ => true) 0 0 (fun _ => 'A') "deflate-frame,,x".toList).filterMap
          NameScanEvent.checked =
        checkedUntil (fun _ => true) 0 (checkedNames [] "deflate-frame,,x".toList) :=
  ⟨by decide, extNameScan_refines _ _ (by decide)⟩

end LwsClient
