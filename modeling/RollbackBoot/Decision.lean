/-
  RollbackBoot.Decision

  The boot decision machine of the design, and main's refinement of it.

  The design validates the primary slot; if the slot is valid it samples the
  button once and either boots the application or rolls back; if not, it
  waits for the button and rolls back.  A rollback transfers the factory
  image and validates the slot again: a valid slot is booted, and a failed
  transfer or a second rejection is fatal.  `Decision.next` is that machine,
  driven by what it learns: the validation answers, the button sample, the
  latched button request, the transfer's result, and platform faults.

  `MainPc.decision` maps each program counter of main to the design state it
  implements, and `observe` is what one event of main tells the design.  In a
  debug build every event of main, from any state, moves the design state
  exactly as the design machine moves on the observation
  (`decision_step`), and so does every run (`main_refines_decision`).  Under
  `NDEBUG` the refinement breaks at every fatal transition: there main goes
  on where the design halts.
-/

import RollbackBoot.Main

namespace RollbackBoot

-- ============================================================================
-- The design
-- ============================================================================

/-- The states of the design's boot decision machine. -/
inductive Decision
  /-- Ask the validation library about the primary slot. -/
  | checkPrimary
  /-- The slot is valid: sample the button once. -/
  | sampleButton
  /-- No valid image: wait for the button. -/
  | awaitButton
  /-- Transfer the factory image into the primary slot. -/
  | rollback
  /-- Validate the copied image. -/
  | revalidate
  /-- Hand over to the application. -/
  | directBoot
  /-- Halt: there is no safe way on. -/
  | fatal
  deriving DecidableEq, Repr

/-- What the design's machine learns. -/
inductive DecisionInput
  /-- A platform initialisation failed. -/
  | fault
  /-- The validation library's answer. -/
  | valid (ok : Bool)
  /-- The button sample. -/
  | button (pressed : Bool)
  /-- The button event latched during the wait. -/
  | request
  /-- The transfer engine's result. -/
  | transferred (ok : Bool)
  deriving DecidableEq, Repr

/-- The design's transitions; any other input leaves the state alone. -/
def Decision.next : Decision → DecisionInput → Decision
  | .checkPrimary, .fault => .fatal
  | .checkPrimary, .valid true => .sampleButton
  | .checkPrimary, .valid false => .awaitButton
  | .sampleButton, .button true => .rollback
  | .sampleButton, .button false => .directBoot
  | .awaitButton, .request => .rollback
  | .rollback, .transferred true => .revalidate
  | .rollback, .transferred false => .fatal
  | .revalidate, .valid true => .directBoot
  | .revalidate, .valid false => .fatal
  | d, _ => d

/-- The design after an observation, if there is one. -/
def Decision.after (d : Decision) : Option DecisionInput → Decision
  | none => d
  | some i => d.next i

/-- The design after a sequence of inputs. -/
def Decision.run (d : Decision) (is : List DecisionInput) : Decision := is.foldl Decision.next d

@[simp] theorem Decision.run_nil (d : Decision) : d.run [] = d := rfl

theorem Decision.run_after (d : Decision) (o : Option DecisionInput) (is : List DecisionInput) :
    d.run (o.toList ++ is) = (d.after o).run is := by
  cases o <;> rfl

-- ============================================================================
-- Abstraction and observation
-- ============================================================================

/-- The design state main's program counter implements; main returning has
    none. -/
def MainPc.decision : MainPc → Option Decision
  | .init | .qspiInit | .bootGo => some .checkPrimary
  | .readButton => some .sampleButton
  | .enableIrq | .inform | .wfi | .asleep | .testLatch => some .awaitButton
  | .leaveLoop | .transfer _ => some .rollback
  | .rollbackBootGo _ => some .revalidate
  | .booted _ => some .directBoot
  | .halted => some .fatal
  | .returned => none

section Observe

variable (mode : AssertMode) (b : Board)

/-- What an event of main tells the design: a failed initialisation, the
    answer of either `boot_go`, the button sample, the latch found set, or
    the transfer's return (a halt inside it is a failed transfer). -/
def observe (s : MainState) : Event → Option DecisionInput
  | .run code _ =>
    match s.pc with
    | .init | .qspiInit => if code = CY_RSLT_SUCCESS then none else some .fault
    | .bootGo | .rollbackBootGo _ => some (.valid (decide (code = 0)))
    | .readButton => some (.button (decide (code = USER_BTN_PRESSED)))
    | .testLatch => if s.isUserButtonPressed then some .request else none
    | .transfer _ =>
      let x := xferStep mode b s.xfer code
      match x.pc with
      | .done => some (.transferred (decide (x.result = CY_RSLT_SUCCESS)))
      | .halted => some (.transferred false)
      | _ => none
    | _ => none
  | .buttonIrq => none
  | .wake => none

/-- What a run of main tells the design, in order. -/
def observeRun : MainState → List Event → List DecisionInput
  | _, [] => []
  | s, e :: es => (observe mode b s e).toList ++ observeRun (step mode b s e) es

end Observe

-- ============================================================================
-- The refinement
-- ============================================================================

section Refinement

variable {b : Board} {s : MainState}

@[simp] theorem decision_after_none (o : Option Decision) : o.map (·.after none) = o := by
  cases o <;> rfl

/-- The transfer's last step: the design learns the transfer's result. -/
theorem decision_transferStep {c : Caller} {code : UInt32} (r : BootRsp) (hpc : s.pc = .transfer c) :
    (transferStep .halt b c s code).pc.decision =
      some (Decision.rollback.after (observe .halt b s (.run code r))) := by
  simp only [transferStep, observe, hpc]
  split
  · next hd =>
    by_cases hr : (xferStep .halt b s.xfer code).result = CY_RSLT_SUCCESS <;>
      simp [hr, hd, cyAssert, halt, MainPc.decision, Decision.after, Decision.next]
  · next hh => simp [hh, halt, MainPc.decision, Decision.after, Decision.next]
  · next hd hh => simp [hd, hh, hpc, MainPc.decision, Decision.after]

/-- One event of a debug-build main moves the design state as the design
    machine moves on what the event observed. -/
theorem decision_step (e : Event) :
    (step .halt b s e).pc.decision = s.pc.decision.map (·.after (observe .halt b s e)) := by
  cases e with
  | buttonIrq => simp only [step_buttonIrq, observe, decision_after_none]; split <;> rfl
  | wake =>
    simp only [step_wake, wakeUp, observe, decision_after_none]
    split
    · next hpc => simp [hpc, MainPc.decision]
    · rfl
  | run code r =>
    cases hpc : s.pc
    case transfer c =>
      rw [step_run, show mainStep .halt b s code r = transferStep .halt b c s code by
        simp [mainStep, hpc], decision_transferStep r hpc]
      rfl
    all_goals simp only [step_run, mainStep, observe, hpc]
    all_goals try split
    all_goals
      simp_all [MainPc.decision, Decision.after, Decision.next, cyAssert, halt, doBoot,
        rollback, CY_RSLT_SUCCESS, USER_BTN_PRESSED]

/-- In a debug build main refines the design's boot decision machine: over
    any events, from any state, the design state main ends in is the one the
    design machine reaches on the inputs main observed along the way. -/
theorem main_refines_decision (s : MainState) (es : List Event) :
    (run .halt b s es).pc.decision = s.pc.decision.map (·.run (observeRun .halt b s es)) := by
  induction es generalizing s with
  | nil => simp only [run_nil, observeRun, Decision.run_nil, Option.map_id']
  | cons e es ih =>
    rw [run_cons, ih, decision_step, observeRun, Option.map_map]
    congr 1
    funext d
    exact (Decision.run_after d _ _).symm

end Refinement

end RollbackBoot
