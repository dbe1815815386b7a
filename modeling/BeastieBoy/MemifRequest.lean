import BeastieBoy.AnsweringVpp
import BeastieBoy.CliReads
import BeastieBoy.SpanTrace

/-!
# What `--create-memif` asks for

The integers on the command line pass through `strtoul`, the 32 bits of the
options and the fields of the message. They arrive unchanged exactly when none
is negative and the buffer size has no more than the 16 bits of its field.
-/

namespace BeastieBoy

open CLib Interact Interact.Prog

structure MemifValues where
  id : ℤ
  socketId : ℤ
  ringSize : ℤ
  bufferSize : ℤ

/-- The integer the last argument denotes, or the default. -/
def StandsFor (last : Option CString) (default z : ℤ) : Prop :=
  match last with
  | none => z = default
  | some optarg => Denotes optarg z

/-- What the command line asks for. -/
structure Asked (given : List BoyOpt) (values : MemifValues) : Prop where
  id : StandsFor (lastArgument .id given) 0 values.id
  socketId : StandsFor (lastArgument .socketId given) 0 values.socketId
  ringSize : StandsFor (lastArgument .ringSize given) 1024 values.ringSize
  bufferSize : StandsFor (lastArgument .bufferSize given) 2048 values.bufferSize

/-- The message carries the values. -/
structure Carries (payload : MemifCreate) (values : MemifValues) : Prop where
  id : (payload.id.toNat : ℤ) = values.id
  socketId : (payload.socketId.toNat : ℤ) = values.socketId
  ringSize : (payload.ringSize.toNat : ℤ) = values.ringSize
  bufferSize : (payload.bufferSize.toNat : ℤ) = values.bufferSize

def createdFormat : String :=
  "created memif and set admin-up: id=%u socket-id=%u ring-size=%u buffer-size=%u sw_if_index=%u"

/-- The success message reports the values. -/
def ReportsValues (args : List BoyLogArg) (values : MemifValues) : Prop :=
  ∃ id socketId ringSize bufferSize swIfIndex : UInt32,
    args = [.u32 id, .u32 socketId, .u32 ringSize, .u32 bufferSize, .u32 swIfIndex] ∧
    (id.toNat : ℤ) = values.id ∧ (socketId.toNat : ℤ) = values.socketId ∧
    (ringSize.toNat : ℤ) = values.ringSize ∧ (bufferSize.toNat : ℤ) = values.bufferSize

/-- In every run, every request carries the values and every success message
reports them. -/
def CreatesExactly (program : Boy Int) (values : MemifValues) : Prop :=
  ∀ (tr : List BoyEvent) (rc : Int), Follows program tr rc →
    (∀ payload answer, ⟨.memifCreate payload, answer⟩ ∈ tr → Carries payload values) ∧
    ∀ args u, ⟨.boyLog .info createdFormat args, u⟩ ∈ tr → ReportsValues args values

/-- None is negative, and the buffer size has 16 bits. -/
def MemifValues.Fit (values : MemifValues) : Prop :=
  0 ≤ values.id ∧ 0 ≤ values.socketId ∧ 0 ≤ values.ringSize ∧ 0 ≤ values.bufferSize ∧
    values.bufferSize < 2 ^ 16

/-! ## One operand -/

theorem StandsFor.unique {last : Option CString} {default y z : ℤ} (hy : StandsFor last default y)
    (hz : StandsFor last default z) : y = z := by
  cases last with
  | none => exact hy.trans hz.symm
  | some optarg => exact Denotes.unique hy hz

/-- Of the accepted numerals only the negative ones are stored as another number. -/
theorem u32Argument_exact {s : CString} {r : UInt32} (h : u32Argument s = some r) :
    ∃ z, Denotes s z ∧ ((r.toNat : ℤ) = z ↔ 0 ≤ z) := by
  rw [u32Argument, Option.map_eq_some_iff] at h
  obtain ⟨_, parsed, rfl⟩ := h
  obtain ⟨n, rfl, accepted, rfl⟩ := parseUnsigned_eq_some_iff.1 parsed
  have small : n.toULong < 2 ^ 32 := by
    simp only [Bool.not_eq_true', decide_eq_false_iff_not, not_lt] at accepted
    omega
  have stored : (UInt32.ofNat (n.toULong % 2 ^ 32)).toNat = n.toULong := by
    rw [UInt32.toNat_ofNat', Nat.mod_mod, Nat.mod_eq_of_lt small]
  refine ⟨n.value, ⟨n, rfl, rfl⟩, ?_⟩
  rw [stored]
  constructor
  · omega
  · intro lo
    apply toULong_of_nonneg lo
    by_contra large
    rw [toULong_of_large (by omega)] at small
    omega

/-- The field, and the integer asked for. -/
theorem exists_standsFor {last : Option CString} {default value : UInt32}
    (h : Taken u32Argument default last value) :
    ∃ z, StandsFor last default.toNat z ∧ ((value.toNat : ℤ) = z ↔ 0 ≤ z) := by
  cases last with
  | none =>
    have same : value = default := h
    refine ⟨default.toNat, rfl, ?_⟩
    rw [same]
    simp
  | some optarg => exact u32Argument_exact h

/-! ## Every run -/

section
variable {options : BoyMemifCreateOptions}

/-- `created memif and set admin-up`. -/
def createdReport (options : BoyMemifCreateOptions) (swIfIndex : UInt32) : BoyEvent :=
  ⟨.boyLog .info createdFormat [.u32 options.id, .u32 options.socketId, .u32 options.ringSize,
    .u32 options.bufferSize, .u32 swIfIndex], ()⟩

/-- A result is the one in the reply. -/
theorem quiet_runMemifCreateCb (answer : VapiReturn MemifCreateReply) :
    Quiet (fun result => result.1 = .ok → ∀ retval swIfIndex, result.2 = some (retval, swIfIndex) →
      answer = .replied .ok (some ⟨retval, swIfIndex⟩)) (runReturnCb boyMemifCreateCb answer) := by
  cases answer with
  | silent err =>
    intro _ retval swIfIndex h
    cases h
  | replied rv reply =>
    have unfolded : runReturnCb boyMemifCreateCb (.replied rv reply) = boyMemifCreateCb rv reply :=
      rfl
    rw [unfolded]
    unfold boyMemifCreateCb
    split
    · intro _ retval swIfIndex h
      cases h
    · rename_i good
      rw [not_not] at good
      cases reply with
      | none => exact quiet_stuck
      | some reply =>
        intro _ retval swIfIndex h
        obtain ⟨rfl, rfl⟩ := Prod.mk.inj (Option.some.inj h)
        rw [good]

theorem follows_memifCreated {swIfIndex : UInt32} {tr : List BoyEvent} {o : Option Unit}
    (h : Follows (memifCreated options swIfIndex).run tr o) :
    visible tr = [] ∨ ∃ answer,
      visible tr = [⟨.swInterfaceSetFlags swIfIndex ifStatusApiFlagAdminUp, answer⟩] ∨
      visible tr = [⟨.swInterfaceSetFlags swIfIndex ifStatusApiFlagAdminUp, answer⟩,
        createdReport options swIfIndex] := by
  obtain ⟨t₁, rc, t₂, rfl, up, rest⟩ := follows_lifted h
  rw [visible_append]
  rcases follows_boySetInterfaceAdminUp up with ⟨nothing, rfl⟩ | ⟨answer, sent, verdict⟩
  · rw [nothing, (visible_of_quiet rest (quiet_logThenCleanup _ _)).1]
    exact .inl rfl
  · refine .inr ⟨answer, ?_⟩
    rw [sent]
    rcases verdict with ⟨_, rfl⟩ | ⟨_, rfl⟩
    · obtain ⟨_, _, log⟩ := follows_lift_iff.1 rest
      rw [follows_boyLog log]
      exact .inr rfl
    · rw [(visible_of_quiet rest (quiet_logThenCleanup _ _)).1]
      exact .inl rfl

/-- What stands behind the request in a run: the new interface is set up, and
reported. -/
def CreatedEvents (options : BoyMemifCreateOptions) (answer : VapiReturn MemifCreateReply)
    (rest : List BoyEvent) :
    Prop :=
  rest = [] ∨ ∃ swIfIndex up, answer = .replied .ok (some ⟨0, swIfIndex⟩) ∧
    (rest = [⟨.swInterfaceSetFlags swIfIndex ifStatusApiFlagAdminUp, up⟩] ∨
      rest = [⟨.swInterfaceSetFlags swIfIndex ifStatusApiFlagAdminUp, up⟩,
        createdReport options swIfIndex])

theorem follows_memifCreateSent {tr : List BoyEvent} {o : Option Unit}
    (h : Follows (memifCreateSent options).run tr o) :
    ∃ answer rest, visible tr = ⟨.memifCreate (memifCreatePayload options), answer⟩ :: rest ∧
      CreatedEvents options answer rest := by
  obtain ⟨t₁, answer, t₂, rfl, sent, rest⟩ := follows_lifted h
  rw [follows_boyCall sent, visible_append]
  refine ⟨answer, visible t₂, rfl, ?_⟩
  obtain ⟨t₃, result, t₄, rfl, received, rest⟩ := follows_lifted rest
  obtain ⟨unseen, told⟩ := visible_of_quiet received (quiet_runMemifCreateCb answer)
  rw [visible_append, unseen, List.nil_append]
  split at rest
  · exact .inl (visible_of_quiet rest (quiet_logThenCleanup _ _)).1
  · rename_i good
    rw [not_not] at good
    split at rest
    · exact .inl (visible_of_quiet rest (quiet_logThenCleanup _ _)).1
    · rename_i retval swIfIndex got
      split at rest
      · exact .inl (visible_of_quiet rest (quiet_logThenCleanup _ _)).1
      · rename_i zero
        rw [not_not] at zero
        have reply := told good retval swIfIndex got
        rw [zero] at reply
        rcases follows_memifCreated rest with nothing | ⟨up, set⟩
        · exact .inl nothing
        · exact .inr ⟨swIfIndex, up, reply, set⟩

/-- A run of `boy_create_memif` sends one request at most, and reports the new
interface at most once. -/
theorem follows_boyCreateMemif {tr : List BoyEvent} {rc : Int}
    (h : Follows (boyCreateMemif options) tr rc) :
    visible tr = [] ∨ ∃ answer rest,
      visible tr = ⟨.memifCreate (memifCreatePayload options), answer⟩ :: rest ∧
      CreatedEvents options answer rest := by
  rcases follows_withVapi h with ⟨nothing, _, _⟩ | ⟨t, finished, seen, _, body, _⟩
  · exact .inl nothing
  rw [seen]
  obtain ⟨t₁, allocated, t₂, rfl, alloc, rest⟩ := follows_lifted body
  rw [follows_boyCall alloc, visible_append]
  split at rest
  · exact .inr (follows_memifCreateSent rest)
  · exact .inl (visible_of_quiet rest (quiet_logThenCleanup _ _)).1

/-- What is seen of a run. -/
theorem mem_boyCreateMemif {tr : List BoyEvent} {rc : Int}
    (h : Follows (boyCreateMemif options) tr rc) {e : BoyEvent}
    (there : e ∈ tr) (seen : e.call.visible = true) :
    (∃ answer, e = ⟨.memifCreate (memifCreatePayload options), answer⟩) ∨
      (∃ swIfIndex answer, e = ⟨.swInterfaceSetFlags swIfIndex ifStatusApiFlagAdminUp, answer⟩) ∨
      ∃ swIfIndex, e = createdReport options swIfIndex := by
  have member : e ∈ visible tr := List.mem_filter.mpr ⟨there, seen⟩
  rcases follows_boyCreateMemif h with nothing | ⟨answer, rest, events, created⟩
  · rw [nothing] at member
    cases member
  · rw [events, List.mem_cons] at member
    rcases member with rfl | later
    · exact .inl ⟨answer, rfl⟩
    · rcases created with rfl | ⟨swIfIndex, up, _, rfl | rfl⟩
      · cases later
      · exact .inr (.inl ⟨swIfIndex, up, List.mem_singleton.1 later⟩)
      · rw [List.mem_cons, List.mem_singleton] at later
        rcases later with rfl | rfl
        · exact .inr (.inl ⟨swIfIndex, up, rfl⟩)
        · exact .inr (.inr ⟨swIfIndex, rfl⟩)

theorem memifCreate_eq {tr : List BoyEvent} {rc : Int} (h : Follows (boyCreateMemif options) tr rc)
    {payload : MemifCreate} {answer : VapiReturn MemifCreateReply}
    (sent : ⟨.memifCreate payload, answer⟩ ∈ tr) :
    payload = memifCreatePayload options := by
  rcases mem_boyCreateMemif h sent rfl with ⟨_, same⟩ | ⟨_, _, no⟩ | ⟨_, no⟩
  · cases same
    rfl
  · cases no
  · cases no

theorem createdReport_eq {tr : List BoyEvent} {rc : Int}
    (h : Follows (boyCreateMemif options) tr rc)
    {args : List BoyLogArg} {u : Unit} (told : ⟨.boyLog .info createdFormat args, u⟩ ∈ tr) :
    ∃ swIfIndex, args =
      [.u32 options.id, .u32 options.socketId, .u32 options.ringSize, .u32 options.bufferSize,
        .u32 swIfIndex] := by
  rcases mem_boyCreateMemif h told rfl with ⟨_, no⟩ | ⟨_, _, no⟩ | ⟨swIfIndex, same⟩
  · cases no
  · cases no
  · cases same
    exact ⟨swIfIndex, rfl⟩

/-- In some run VPP gets the request. -/
theorem exists_memifCreate (options : BoyMemifCreateOptions) :
    ∃ tr rc answer, Follows (boyCreateMemif options) tr rc ∧
      ⟨.memifCreate (memifCreatePayload options), answer⟩ ∈ tr := by
  have run : ((⟨[], ∅, []⟩ : AnsweringVpp).run (boyCreateMemif options)).isSome := rfl
  exact ⟨_, _, .silent .enotsup, (AnsweringVpp.exec_run run).follows,
    List.mem_of_getElem? (i := 4) rfl⟩

/-! ## The values -/

/-- The options hold each value, unless it is negative. -/
structure HoldsValues (options : BoyMemifCreateOptions) (values : MemifValues) : Prop where
  id : (options.id.toNat : ℤ) = values.id ↔ 0 ≤ values.id
  socketId : (options.socketId.toNat : ℤ) = values.socketId ↔ 0 ≤ values.socketId
  ringSize : (options.ringSize.toNat : ℤ) = values.ringSize ↔ 0 ≤ values.ringSize
  bufferSize : (options.bufferSize.toNat : ℤ) = values.bufferSize ↔ 0 ≤ values.bufferSize

theorem exists_asked {s : BoyCliScan} {given : List BoyOpt} (reads : s.Reads given) :
    ∃ values, Asked given values ∧ HoldsValues s.options.memifCreate values := by
  obtain ⟨id, idStands, idHolds⟩ := exists_standsFor reads.id
  obtain ⟨socketId, socketIdStands, socketIdHolds⟩ := exists_standsFor reads.socketId
  obtain ⟨ringSize, ringSizeStands, ringSizeHolds⟩ := exists_standsFor reads.ringSize
  obtain ⟨bufferSize, bufferSizeStands, bufferSizeHolds⟩ := exists_standsFor reads.bufferSize
  exact ⟨⟨id, socketId, ringSize, bufferSize⟩,
    ⟨idStands, socketIdStands, ringSizeStands, bufferSizeStands⟩,
    ⟨idHolds, socketIdHolds, ringSizeHolds, bufferSizeHolds⟩⟩

theorem carries_iff {options : BoyMemifCreateOptions} {values : MemifValues}
    (holds : HoldsValues options values) :
    Carries (memifCreatePayload options) values ↔ values.Fit := by
  have cut : ((memifCreatePayload options).bufferSize.toNat : ℤ) =
      options.bufferSize.toNat % 2 ^ 16 := by
    simp [memifCreatePayload]
  constructor
  · rintro ⟨h₁, h₂, h₃, h₄⟩
    refine ⟨holds.id.1 h₁, holds.socketId.1 h₂, holds.ringSize.1 h₃, ?_, ?_⟩
    · omega
    · omega
  · rintro ⟨h₁, h₂, h₃, h₄, h₅⟩
    refine ⟨holds.id.2 h₁, holds.socketId.2 h₂, holds.ringSize.2 h₃, ?_⟩
    have := holds.bufferSize.2 h₄
    omega

theorem not_createsExactly {options : BoyMemifCreateOptions} {values : MemifValues}
    (wrong : ¬ Carries (memifCreatePayload options) values) :
    ¬ CreatesExactly (boyCreateMemif options) values := by
  intro exactly
  obtain ⟨tr, rc, answer, run, sent⟩ := exists_memifCreate options
  exact wrong ((exactly tr rc run).1 _ answer sent)

theorem createsExactly_iff {options : BoyMemifCreateOptions} {values : MemifValues}
    (holds : HoldsValues options values) :
    CreatesExactly (boyCreateMemif options) values ↔ values.Fit := by
  have carried := carries_iff holds
  constructor
  · intro exactly
    by_contra unfit
    exact not_createsExactly (fun carries => unfit (carried.1 carries)) exactly
  · intro fit tr rc run
    refine ⟨fun payload answer sent => ?_, fun args u told => ?_⟩
    · rw [memifCreate_eq run sent]
      exact carried.2 fit
    · obtain ⟨swIfIndex, rfl⟩ := createdReport_eq run told
      obtain ⟨h₁, h₂, h₃, h₄, _⟩ := fit
      exact ⟨_, _, _, _, swIfIndex, rfl, holds.id.2 h₁, holds.socketId.2 h₂, holds.ringSize.2 h₃,
        holds.bufferSize.2 h₄⟩

theorem Asked.unique {given : List BoyOpt} {values values' : MemifValues} (h : Asked given values)
    (h' : Asked given values') : values' = values := by
  obtain ⟨id, socketId, ringSize, bufferSize⟩ := values
  obtain ⟨id', socketId', ringSize', bufferSize'⟩ := values'
  rw [MemifValues.mk.injEq]
  exact ⟨h'.id.unique h.id, h'.socketId.unique h.socketId, h'.ringSize.unique h.ringSize,
    h'.bufferSize.unique h.bufferSize⟩

/-- **When a memif is created as asked for.** The integers the command line
denotes arrive in every request and every report exactly when none is negative
and the buffer size has 16 bits. -/
theorem memif_created_exactly_iff {posixlyCorrect : Bool} {argv : List CString}
    {options : BoyCliOptions} (ok : boyParseCliOptions posixlyCorrect argv = .ok options)
    (mode : options.mode = .createMemif) :
    ∃ values, (∀ values', Asked (boyOptions posixlyCorrect argv) values' ↔ values' = values) ∧
      (CreatesExactly (boyRun options) values ↔ values.Fit) := by
  obtain ⟨s, reads, checked⟩ := reads_of_accepted ok
  have same := BoyCliScan.eq_of_check checked
  obtain ⟨values, asked, holds⟩ := exists_asked reads
  have program : boyRun options = boyCreateMemif s.options.memifCreate := by
    rw [boyRun, mode, same]
  refine ⟨_, fun values' => ⟨asked.unique, ?_⟩, ?_⟩
  · rintro rfl
    exact asked
  · rw [program]
    exact createsExactly_iff holds

end

def ringLine : List CString := ["boy".toList, "-c".toList, "--ring-size".toList, "0512".toList]

theorem ring_created_exactly : ∃ options, boyParseCliOptions false ringLine = .ok options ∧
    Asked (boyOptions false ringLine) ⟨0, 0, 512, 2048⟩ ∧
    CreatesExactly (boyRun options) ⟨0, 0, 512, 2048⟩ := by
  have asked : Asked (boyOptions false ringLine) ⟨0, 0, 512, 2048⟩ :=
    ⟨rfl, rfl, ⟨.printed 0 1 512, rfl, rfl⟩, rfl⟩
  have accepted : boyParseCliOptions false ringLine =
      .ok { boyDefaultOptions with mode := .createMemif, memifCreate := ⟨0, 0, 512, 2048⟩ } := rfl
  obtain ⟨values, only, exactly⟩ := memif_created_exactly_iff accepted rfl
  obtain rfl := (only _).1 asked
  exact ⟨_, accepted, asked, exactly.2 (by simp [MemifValues.Fit])⟩

def largeBufferLine : List CString :=
  ["boy".toList, "-c".toList, "--buffer-size".toList, "65537".toList]

def negativeRingLine : List CString :=
  ["boy".toList, "-c".toList, "--ring-size".toList, "-18446744073709551615".toList]

/-- The line is accepted, and what it asks for is not what is created. -/
def Miscreated (argv : List CString) (values : MemifValues) : Prop :=
  ∃ options, boyParseCliOptions false argv = .ok options ∧ options.mode = .createMemif ∧
    Asked (boyOptions false argv) values ∧ ¬ CreatesExactly (boyRun options) values

/-- A buffer size cut to one, and a ring size read as one. -/
theorem memif_miscreated : Miscreated largeBufferLine ⟨0, 0, 1024, 65537⟩ ∧
    Miscreated negativeRingLine ⟨0, 0, -18446744073709551615, 2048⟩ := by
  constructor
  · refine ⟨{ boyDefaultOptions with mode := .createMemif, memifCreate := ⟨0, 0, 1024, 65537⟩ },
      rfl, rfl, ⟨rfl, rfl, rfl, ⟨.printed 0 0 65537, rfl, rfl⟩⟩, ?_⟩
    apply not_createsExactly
    intro carries
    exact absurd carries.bufferSize (by decide)
  · have digits : ∀ c ∈ "18446744073709551615".toList, isdigit c = true := List.all_eq_true.1 rfl
    refine ⟨{ boyDefaultOptions with mode := .createMemif, memifCreate := ⟨0, 0, 1, 2048⟩ },
      rfl, rfl,
      ⟨rfl, rfl, ⟨⟨[], .minus, "18446744073709551615".toList, by simp, digits, by decide⟩, rfl,
        rfl⟩, rfl⟩, ?_⟩
    apply not_createsExactly
    intro carries
    exact absurd carries.ringSize (by decide)

end BeastieBoy
