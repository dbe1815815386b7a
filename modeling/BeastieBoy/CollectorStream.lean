import BeastieBoy.TableMemory

/-!
# What a dump leaves in a table

Whatever callbacks a dump brings and whatever allocations fail, a collector
appends the entries of the first replies, of all of them when it succeeds.
-/

namespace BeastieBoy

open CLib Interact Interact.Prog

/-- The copy is the text of the field, NUL or not: the entry's array is longer
than the field. -/
theorem boyCopyApiString_eq (src : ApiString) : boyCopyApiString 65 src = textOf src.bytes := by
  have text : textOf src.bytes <+: src.bytes := List.takeWhile_prefix _
  have short : (textOf src.bytes).length < 65 := by
    have := text.length_le
    rw [src.length_eq] at this
    omega
  have whole : (if (textOf src.bytes).length ≥ 65 then 65 - 1 else (textOf src.bytes).length) =
      (textOf src.bytes).length := if_neg (Nat.not_le.2 short)
  rw [List.prefix_iff_eq_take.1 text, ← whole]
  rfl

theorem textOf_of_no_nul {bytes : List Char} (h : '\x00' ∉ bytes) : textOf bytes = bytes := by
  apply List.takeWhile_eq_self_iff.2
  intro c hc
  simpa using fun nul : c = '\x00' => h (nul ▸ hc)

section Grows
variable {Details Entry : Type} {itemSize : Nat} {entry : Details → Entry}

/-- Room for all that is counted, and the entries of `replies` behind what was
there before. -/
structure Grown (entry : Details → Entry) (table : BoyTable Entry) (replies : List Details)
    (table' : BoyTable Entry) : Prop where
  room : table'.entries.length ≤ table'.capacity
  entries : table'.entries = table.entries ++ replies.map entry

theorem Grown.refl {table : BoyTable Entry} (room : table.entries.length ≤ table.capacity) :
    Grown entry table [] table :=
  ⟨room, by simp⟩

theorem Grown.trans {table table' table'' : BoyTable Entry} {replies replies' : List Details}
    (h : Grown entry table replies table') (h' : Grown entry table' replies' table'') :
    Grown entry table (replies ++ replies') table'' :=
  ⟨h'.room, by rw [h'.entries, h.entries, List.map_append, List.append_assoc]⟩

/-- The details replies of a stream of callbacks. -/
abbrev repliesOf (cbs : List (DumpCallback Details)) : List Details := cbs.filterMap (·.detail)

theorem dumpCb_grows {table : BoyTable Entry} (room : table.entries.length ≤ table.capacity)
    (cb : DumpCallback Details) :
    Quiet (fun r => r.1 = .ok ∧ Grown entry table cb.detail.toList r.2 ∨ r.1 ≠ .ok ∧ r.2 = table)
      (boyDumpCb itemSize entry table cb) := by
  unfold boyDumpCb
  split
  · rename_i bad
    exact .inr ⟨bad, rfl⟩
  · split
    · rename_i more reply
      apply (quiet_reserve_room _ _ _).bind
      intro reserved enough
      split
      · exact .inr ⟨by simp, rfl⟩
      · rename_i zero
        obtain ⟨more_room, _⟩ := enough (not_not.1 zero)
        refine .inl ⟨rfl, ?_, ?_⟩
        · simpa using more_room
        · simp [DumpCallback.detail, more, reply]
    · rename_i closing
      have nothing : cb.detail = none := by
        obtain ⟨rv, isLast, reply⟩ := cb
        cases isLast with
        | true => rfl
        | false =>
          cases reply with
          | none => rfl
          | some d => exact absurd rfl (closing d rfl)
      rw [nothing]
      exact .inl ⟨rfl, .refl room⟩

/-- What the callbacks of a stream have done when they end, and where they ended. -/
theorem runDumpCallbacks_grows {table : BoyTable Entry}
    (room : table.entries.length ≤ table.capacity) (cbs : List (DumpCallback Details)) :
    Quiet (fun r => r.1 = .ok ∧ Grown entry table (repliesOf cbs) r.2 ∨
        r.1 ≠ .ok ∧ ∃ done, done <+: repliesOf cbs ∧ Grown entry table done r.2)
      (runDumpCallbacks (boyDumpCb itemSize entry) cbs table) := by
  induction cbs generalizing table with
  | nil => exact .inl ⟨rfl, .refl room⟩
  | cons cb cbs ih =>
    have replies : repliesOf (cb :: cbs) = cb.detail.toList ++ repliesOf cbs := by
      cases detail : cb.detail with
      | none => simp [detail]
      | some d => simp [detail]
    rw [replies]
    apply (dumpCb_grows room cb).bind
    rintro result (⟨ok, grown⟩ | ⟨bad, same⟩)
    · rw [if_neg (not_not.2 ok)]
      apply (ih grown.room).mono (fun _ h => h)
      rintro r (⟨ok', grown'⟩ | ⟨bad, done, first, grown'⟩)
      · exact .inl ⟨ok', grown.trans grown'⟩
      · exact .inr ⟨bad, cb.detail.toList ++ done, (List.prefix_append_right_inj _).2 first,
          grown.trans grown'⟩
    · rw [if_pos bad]
      refine .inr ⟨bad, [], List.nil_prefix, ?_⟩
      rw [same]
      exact .refl room

theorem runDumpCallbacks_prefix {table : BoyTable Entry}
    (room : table.entries.length ≤ table.capacity)
    {cbs : List (DumpCallback Details)} {tr : List BoyEvent} {err : VapiError}
    {table' : BoyTable Entry}
    (run : Follows (runDumpCallbacks (boyDumpCb itemSize entry) cbs table) tr (err, table')) :
    ∃ done, done <+: repliesOf cbs ∧ Grown entry table done table' := by
  obtain ⟨_, ⟨_, grown⟩ | ⟨_, done⟩⟩ := run.of_only (runDumpCallbacks_grows room cbs)
  · exact ⟨_, List.prefix_rfl, grown⟩
  · exact done

/-- The run of the first callbacks is a part of the run of all of them. -/
theorem runDumpCallbacks_begun
    {cb : BoyTable Entry → DumpCallback Details → Boy (VapiError × BoyTable Entry)}
    {before after : List (DumpCallback Details)} {table : BoyTable Entry} {tr : List BoyEvent}
    {result : VapiError × BoyTable Entry}
    (run : Follows (runDumpCallbacks cb (before ++ after) table) tr result) :
    ∃ t now, t <+: tr ∧ Follows (runDumpCallbacks cb before table) t now := by
  induction before generalizing table tr with
  | nil => exact ⟨[], _, List.nil_prefix, .done _⟩
  | cons next before ih =>
    obtain ⟨t₁, now, t₂, rfl, first, rest⟩ := follows_bind_iff.1 run
    split at rest
    · rename_i bad
      refine ⟨t₁, now, List.prefix_append _ _, ?_⟩
      have ended : Follows (runDumpCallbacks cb (next :: before) table) (t₁ ++ []) now := by
        refine follows_bind_iff.2 ⟨t₁, now, [], rfl, first, ?_⟩
        rw [if_pos bad]
        exact .done now
      rwa [List.append_nil] at ended
    · rename_i good
      obtain ⟨t, later, begun, follows⟩ := ih rest
      refine ⟨t₁ ++ t, later, (List.prefix_append_right_inj _).2 begun, ?_⟩
      refine follows_bind_iff.2 ⟨t₁, now, t, rfl, first, ?_⟩
      rwa [if_neg good]

/-- How a collector treats its table: it asks for no dump, and leaves it as it
is; or it asks for one, and appends the entries of its replies, of all of them
when it returns 0. The last part says where the table is behind the first
callbacks of the dump, as many as one likes. -/
def CollectsInto (sent : VapiDump Details → BoyEvent) (entry : Details → Entry)
    (cb : BoyTable Entry → DumpCallback Details → Boy (VapiError × BoyTable Entry))
    (collect : BoyTable Entry → Boy (Int × BoyTable Entry)) : Prop :=
  ∀ table tr rc table', table.entries.length ≤ table.capacity →
    Follows (collect table) tr (rc, table') →
    visible tr = [] ∧ rc = 1 ∧ table' = table ∨
    ∃ alloc dump tail, tr = alloc :: sent dump :: tail ∧
      (rc = 0 ∧ Grown entry table dump.details table' ∨
        rc = 1 ∧ ∃ done, done <+: dump.details ∧ Grown entry table done table') ∧
      ∀ before, before <+: dump.callbacks → ∃ t err now, t <+: tail ∧
        Follows (runDumpCallbacks cb before table) t (err, now) ∧
        ∃ done, done <+: repliesOf before ∧ Grown entry table done now

theorem quiet_collecting {message : String} {table : BoyTable Entry}
    (room : table.entries.length ≤ table.capacity) (dump : VapiDump Details) :
    Quiet (fun r : Int × BoyTable Entry => r.1 = 0 ∧ Grown entry table dump.details r.2 ∨
        r.1 = 1 ∧ ∃ done, done <+: dump.details ∧ Grown entry table done r.2) (do
      let result ← runDumpCallbacks (boyDumpCb itemSize entry) dump.callbacks table
      let err := if result.1 ≠ .ok then result.1 else dump.err
      if err ≠ .ok then
        boyLog .error ("vapi_" ++ message ++ " failed: %s") [.str (boyVapiErrorStr err)]
        pure (1, result.2)
      else
        pure (0, result.2)) := by
  apply (runDumpCallbacks_grows room dump.callbacks).bind
  rintro result (⟨ok, grown⟩ | ⟨bad, done⟩)
  · by_cases complete : dump.err = .ok
    · simp only [ok, complete, ne_eq, not_true_eq_false, ↓reduceIte]
      exact .inl ⟨rfl, grown⟩
    · simp only [ok, complete, ne_eq, not_true_eq_false, not_false_eq_true, ↓reduceIte]
      exact (quiet_error _ _).bind fun _ _ => .inr ⟨rfl, _, List.prefix_rfl, grown⟩
  · simp only [bad, ne_eq, not_false_eq_true, ↓reduceIte]
    exact (quiet_error _ _).bind fun _ _ => .inr ⟨rfl, done⟩

theorem collectsInto_boyCollect {message : String} {send : Boy (VapiDump Details)}
    (sent : VapiDump Details → BoyEvent)
    (hsend : ∀ tr dump, Follows send tr dump → tr = [sent dump]) :
    CollectsInto sent entry (boyDumpCb itemSize entry)
      (boyCollect message send (boyDumpCb itemSize entry)) := by
  intro table tr rc table' room h
  obtain ⟨allocated, t, rfl, rest⟩ := follows_call_bind h
  split at rest
  · obtain ⟨t₁, dump, t₂, rfl, asked, collecting⟩ := follows_bind_iff.1 rest
    obtain ⟨t₃, result, t₄, rfl, run, _⟩ := follows_bind_iff.1 collecting
    obtain rfl := hsend _ _ asked
    refine .inr ⟨_, dump, t₃ ++ t₄, rfl, ?_, ?_⟩
    · have collected := collecting.of_only (quiet_collecting room dump)
      exact collected.2
    · rintro before ⟨after, all⟩
      rw [← all] at run
      obtain ⟨t, ⟨err, now⟩, begun, follows⟩ := runDumpCallbacks_begun run
      exact ⟨t, err, now, begun.trans (List.prefix_append _ _), follows,
        runDumpCallbacks_prefix room follows⟩
  · have unsent : Quiet (fun r : Int × BoyTable Entry => r.1 = 1 ∧ r.2 = table) (do
        boyLog .error ("vapi_alloc_" ++ message ++ " failed") []
        pure (1, table)) := (quiet_error _ _).bind fun _ _ => ⟨rfl, rfl⟩
    have ended := visible_of_quiet rest unsent
    exact .inl ended

end Grows

/-! ## What an entry holds of its reply -/

structure InterfaceTold (reply : SwInterfaceDetails) (entry : BoyInterfaceEntry) : Prop where
  swIfIndex : entry.swIfIndex = reply.swIfIndex
  type : entry.type = reply.type
  flags : entry.flags = reply.flags
  linkSpeed : entry.linkSpeed = reply.linkSpeed
  interfaceName : entry.interfaceName = textOf reply.interfaceName.bytes
  interfaceDevType : entry.interfaceDevType = textOf reply.interfaceDevType.bytes
  cardFamily : entry.cardFamily = textOf reply.interfaceDevType.bytes
  ethernetAddress :
    entry.ethernetAddress = List.intercalate [':'] (reply.l2Address.toList.map formatHex2)

structure SpanTold (reply : SwInterfaceSpanDetails) (entry : BoySpanEntry) : Prop where
  swIfIndexFrom : entry.swIfIndexFrom = reply.swIfIndexFrom
  swIfIndexTo : entry.swIfIndexTo = reply.swIfIndexTo
  state : entry.state = reply.state
  isL2 : entry.isL2 = reply.isL2

/-- The flags are words, the first and the last of which tell the two bits. -/
structure MemifTold (reply : MemifDetails) (entry : BoyMemifEntry) : Prop where
  interfaceName : entry.interfaceName = textOf reply.ifName.bytes
  socketId : entry.socketId = reply.socketId
  words : entry.flags ∈ ["admin-up,link-up", "admin-up", "link-up", "none"].map String.toList
  adminUp : "admin-up".toList <+: entry.flags ↔ reply.flags &&& ifStatusApiFlagAdminUp ≠ 0
  linkUp : "link-up".toList <:+ entry.flags ↔ reply.flags &&& ifStatusApiFlagLinkUp ≠ 0

theorem interfaceTold (reply : SwInterfaceDetails) : InterfaceTold reply (interfaceEntry reply) :=
  ⟨rfl, rfl, rfl, rfl, boyCopyApiString_eq _, boyCopyApiString_eq _, boyCopyApiString_eq _, rfl⟩

theorem memifTold (reply : MemifDetails) : MemifTold reply (memifEntry reply) := by
  have told (word : CString) (isWord : (memifEntry reply).flags = word)
      (known : word ∈ ["admin-up,link-up", "admin-up", "link-up", "none"].map String.toList)
      (admin : "admin-up".toList <+: word ↔ reply.flags &&& ifStatusApiFlagAdminUp ≠ 0)
      (link : "link-up".toList <:+ word ↔ reply.flags &&& ifStatusApiFlagLinkUp ≠ 0) :
      MemifTold reply (memifEntry reply) :=
    ⟨boyCopyApiString_eq reply.ifName, rfl, isWord ▸ known, isWord ▸ admin, isWord ▸ link⟩
  have flags : (memifEntry reply).flags = boyMemifFlagsToString reply.flags 32 := rfl
  unfold boyMemifFlagsToString at flags
  by_cases admin : reply.flags &&& ifStatusApiFlagAdminUp = 0
  · by_cases link : reply.flags &&& ifStatusApiFlagLinkUp = 0
    · simp only [admin, link, ne_eq, not_true_eq_false, and_self, if_false] at flags
      exact told _ flags (by decide) (iff_of_false (by decide) (not_not.2 admin))
        (iff_of_false (by decide) (not_not.2 link))
    · simp only [admin, link, ne_eq, not_true_eq_false, not_false_eq_true, false_and, if_false,
        if_true] at flags
      exact told _ flags (by decide) (iff_of_false (by decide) (not_not.2 admin))
        (iff_of_true (by decide) link)
  · by_cases link : reply.flags &&& ifStatusApiFlagLinkUp = 0
    · simp only [admin, link, ne_eq, not_true_eq_false, not_false_eq_true, and_false, if_false,
        if_true] at flags
      exact told _ flags (by decide) (iff_of_true (by decide) admin)
        (iff_of_false (by decide) (not_not.2 link))
    · simp only [admin, link, ne_eq, not_false_eq_true, and_self, if_true] at flags
      exact told _ flags (by decide) (iff_of_true (by decide) admin)
        (iff_of_true (by decide) link)

/-- **The collectors.** Each appends the entries of the first replies of its
dump, of all of them when it returns 0, and the table has room for them all the
while. An entry holds its reply, a name as the text of its field, which may fill
the field. -/
theorem collectors_append :
    CollectsInto (⟨.swInterfaceDump, ·⟩) interfaceEntry boySwInterfaceDumpCb boyCollectInterfaces ∧
    (∀ isL2, CollectsInto (⟨.swInterfaceSpanDump isL2, ·⟩) spanEntry boySpanDumpCb
      (boyCollectSpan isL2)) ∧
    CollectsInto (⟨.memifDump, ·⟩) memifEntry boyMemifDumpCb boyCollectMemif ∧
    (∀ reply, InterfaceTold reply (interfaceEntry reply)) ∧
    (∀ reply, SpanTold reply (spanEntry reply)) ∧
    (∀ reply, MemifTold reply (memifEntry reply)) ∧
    ∀ field : ApiString, '\x00' ∉ field.bytes → textOf field.bytes = field.bytes := by
  refine ⟨?_, fun isL2 => ?_, ?_, interfaceTold, fun _ => ⟨rfl, rfl, rfl, rfl⟩, memifTold,
    fun field => textOf_of_no_nul⟩
  · exact collectsInto_boyCollect _ fun _ _ asked => follows_boyCall asked
  · exact collectsInto_boyCollect _ fun _ _ asked => follows_boyCall asked
  · exact collectsInto_boyCollect _ fun _ _ asked => follows_boyCall asked

/-- The table behind a first dump: full, with one entry. -/
def mirrorTable : BoySpanTable := ⟨[⟨1, 2, .rx, false⟩], 1⟩

/-- Two replies, of which the table will have room for one. -/
def mirrorDump : VapiDump SwInterfaceSpanDetails :=
  .listing [⟨1, 2, .tx, true⟩, ⟨3, 2, .rxTx, true⟩]

theorem mirror_dump_cut_short : ∃ tr,
    Follows (boyCollectSpan true mirrorTable) tr (1, ⟨[⟨1, 2, .rx, false⟩, ⟨1, 2, .tx, true⟩], 2⟩) ∧
      ∃ alloc dump tail, tr = alloc :: ⟨.swInterfaceSpanDump true, dump⟩ :: tail ∧
        ∃ done, done <+: dump.details ∧
          Grown spanEntry mirrorTable done ⟨[⟨1, 2, .rx, false⟩, ⟨1, 2, .tx, true⟩], 2⟩ := by
  obtain ⟨tr, run⟩ : ∃ tr, Follows (boyCollectSpan true mirrorTable) tr
      (1, ⟨[⟨1, 2, .rx, false⟩, ⟨1, 2, .tx, true⟩], 2⟩) := by
    apply answered (true : Bool)
    apply answered mirrorDump
    apply answered (true : Bool)
    apply answered (false : Bool)
    apply answered ()
    exact ⟨_, .done _⟩
  refine ⟨tr, run, ?_⟩
  rcases collectors_append.2.1 true _ _ _ _ (by decide) run with
    ⟨_, _, same⟩ | ⟨alloc, dump, tail, trace, left, _⟩
  · cases same
  · rcases left with ⟨succeeded, _⟩ | ⟨_, done⟩
    · cases succeeded
    · exact ⟨alloc, dump, tail, trace, done⟩

end BeastieBoy
