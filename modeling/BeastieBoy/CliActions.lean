import BeastieBoy.CliReads

/-!
# The action that runs

The tests for operands ask whether their action was seen; what runs is the last
action seen. The two agree when the action of the operands is the last.
-/

namespace BeastieBoy

open CLib

/-- `--iface-idx`, `--memif` and `--device`. -/
def isSpanOperand (o : BoyOpt) : Bool :=
  isOperand .ifaceIdx o || isOperand .memif o || isOperand .device o

/-- The options that select what `boy` does. -/
def isAction (o : BoyOpt) : Bool := (actionMode o).isSome

def lastAction (given : List BoyOpt) : Option BoyOpt := (given.filter isAction).getLast?

/-- Every operand is an operand of the mode. -/
def OperandsUsed (given : List BoyOpt) (mode : BoyMode) : Prop :=
  (given.any isSpanOperand → mode = .setSpan) ∧ (given.any isMemifOperand → mode = .createMemif)

/-- Behind the action of the operands there is no other. -/
def ActionsLast (given : List BoyOpt) : Prop :=
  (given.any isSpanOperand → lastAction given = some (.flag .setSpan)) ∧
    (given.any isMemifOperand → lastAction given = some (.flag .createMemif))

instance (given : List BoyOpt) (mode : BoyMode) : Decidable (OperandsUsed given mode) :=
  inferInstanceAs (Decidable (_ ∧ _))

instance (given : List BoyOpt) : Decidable (ActionsLast given) :=
  inferInstanceAs (Decidable (_ ∧ _))

theorem lastOf_actionMode (given : List BoyOpt) :
    lastOf actionMode given = (lastAction given).bind actionMode := by
  induction given using List.reverseRecOn with
  | nil => rfl
  | append_singleton given o ih =>
    rw [lastOf_append, ih, lastAction, lastAction, List.filter_append]
    cases action : actionMode o with
    | none => simp [isAction, action]
    | some mode => simp [isAction, action]

/-- The mode of an action with operands is selected by this action alone. -/
theorem mode_eq_iff {given : List BoyOpt} {options : BoyCliOptions}
    (ok : boyReadOptions given = .ok options)
    {flag : BoyFlag} {mode : BoyMode} (own : ∀ o, actionMode o = some mode ↔ o = .flag flag)
    (other : mode ≠ .showVersion) : options.mode = mode ↔ lastAction given = some (.flag flag) := by
  obtain ⟨s, reads, checked⟩ := reads_of_accepted ok
  rw [BoyCliScan.eq_of_check checked, reads.mode, lastOf_actionMode]
  cases lastAction given with
  | none => simp [other.symm]
  | some o =>
    rw [Option.bind_some, Option.some.injEq, ← own o]
    cases actionMode o with
    | none => simp [other.symm]
    | some mode' => simp

theorem actionMode_eq_setSpan (o : BoyOpt) : actionMode o = some .setSpan ↔ o = .flag .setSpan := by
  rcases o with flag | ⟨operand, _⟩ | _
  · cases flag <;> simp [actionMode]
  · cases operand <;> simp [actionMode]
  · simp [actionMode]

theorem actionMode_eq_createMemif (o : BoyOpt) :
    actionMode o = some .createMemif ↔ o = .flag .createMemif := by
  rcases o with flag | ⟨operand, _⟩ | _
  · cases flag <;> simp [actionMode]
  · cases operand <;> simp [actionMode]
  · simp [actionMode]

/-- **When every accepted operand is used.** Exactly when its action is the last
action of the command line. -/
theorem operands_used_iff {posixlyCorrect : Bool} {argv : List CString} {options : BoyCliOptions}
    (ok : boyParseCliOptions posixlyCorrect argv = .ok options) :
    OperandsUsed (boyOptions posixlyCorrect argv) options.mode ↔
      ActionsLast (boyOptions posixlyCorrect argv) := by
  rw [OperandsUsed, ActionsLast, mode_eq_iff ok actionMode_eq_setSpan (by decide),
    mode_eq_iff ok actionMode_eq_createMemif (by decide)]

def createLine : List CString := ["boy".toList, "--create".toList, "--id=1".toList]

theorem create_operand_used :
    OperandsUsed (boyOptions false createLine) .createMemif ∧
    (boyOptions false createLine).any isMemifOperand := by
  have accepted : boyParseCliOptions false createLine =
      .ok { boyDefaultOptions with mode := .createMemif, memifCreate := ⟨1, 0, 1024, 2048⟩ } := rfl
  exact ⟨(operands_used_iff accepted).2 (by decide), by decide⟩

/-- All that `--set-span` needs, and an action behind it. -/
def shownInsteadLine : List CString :=
  ["boy".toList, "-S".toList, "--iface-idx".toList, "1".toList, "--memif".toList, "memif0/0".toList,
    "--device".toList, "rx".toList, "-s".toList]

/-- It is accepted, and shows the SPAN table instead. -/
theorem operands_ignored : ∃ options, boyParseCliOptions false shownInsteadLine = .ok options ∧
    ¬ OperandsUsed (boyOptions false shownInsteadLine) options.mode ∧
    boyRun options = boyShowSpan := by
  refine ⟨{ boyDefaultOptions with
    mode := .showSpan, setSpanIfIndex := 1,
    setSpanMemifName := some "memif0/0".toList, setSpanDeviceMode := .rx },
    rfl, by decide, rfl⟩

end BeastieBoy
