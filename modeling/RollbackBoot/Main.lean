/-
  RollbackBoot.Main

  `main` of `bootloader_cm0p/main.c`, with `rollback_to_factory_image`,
  `do_boot` and the button interrupt `user_button_callback`, as one machine
  over the events that can happen on the core:

  * `run code rsp` — main runs from one external call to the next.  The call
    at the program counter returns `code` (a status, or the level
    `Cy_GPIO_Read` reads) and, for `boot_go`, fills the response with `rsp`.
    Inside `transfer_factory_image` the event is one step of the transfer
    machine of `RollbackBoot.Transfer`;
  * `buttonIrq` — the button interrupt is taken, which runs
    `user_button_callback` once the interrupt is enabled in the NVIC;
  * `wake` — `__WFI` returns, on any interrupt or a spurious event.

  `boot_go`, the flash primitives, the button and the interrupts are oracles:
  a run may feed them anything, in any order.  `Reachable` closes the initial
  state under every event.

  A `struct boot_rsp` variable carries a ghost stamp: how many primary-slot
  erases and writes had been issued when a `boot_go` returning 0 filled it.
  `boot_go` sets the stamp together with the fields, and `do_boot` reports the
  stamp of the variable it is handed.  Besides main's locals and the globals
  the code reads, the state keeps ghost fields for the history the properties
  speak of: the status of the first `boot_go`, the button level read at
  startup, and counts of callbacks, transfers, `do_boot` entries and `__WFI`s
  executed with the latch set.
-/

import RollbackBoot.TransferLog

namespace RollbackBoot

-- ============================================================================
-- Boot responses and the handoff
-- ============================================================================

/-- The fields of a `struct boot_rsp` that `do_boot` reads. -/
structure BootRsp where
  /-- `br_image_off`. -/
  brImageOff : UInt32
  /-- `br_hdr->ih_hdr_size`. -/
  ihHdrSize : UInt16
  deriving DecidableEq, Repr

/-- `app_addr = rsp->br_image_off + rsp->br_hdr->ih_hdr_size`, in `uint32_t`. -/
def BootRsp.appAddr (r : BootRsp) : UInt32 := r.brImageOff + r.ihHdrSize.toUInt32

/-- A `struct boot_rsp` variable: the response in it and (ghost) its stamp,
    `some n` if a `boot_go` returning 0 filled it after `n` erases and writes
    of the primary slot. -/
structure RspVar where
  val : BootRsp
  stamp : Option Nat
  deriving DecidableEq, Repr

/-- `boot_go(&rsp)` returns `code` and fills the variable with `r`, after `n`
    erases and writes of the primary slot. -/
def RspVar.fill (code : UInt32) (r : BootRsp) (n : Nat) : RspVar :=
  ⟨r, if code = 0 then some n else none⟩

/-- What `do_boot` hands over: the name it logs, the address `Cy_SysEnableCM4`
    starts the CM4 at, and (ghost) the stamp of the response it was given. -/
structure Handoff where
  msg : String
  appAddr : UInt32
  stamp : Option Nat
  deriving DecidableEq, Repr

/-- main's argument to `do_boot`. -/
def msgApplication : String := "Application"

/-- `rollback_to_factory_image`'s argument to `do_boot`. -/
def msgFactoryApp : String := "Factory app"

-- ============================================================================
-- State
-- ============================================================================

/-- The caller `rollback_to_factory_image` returns to. -/
inductive Caller
  /-- The button test after a successful `boot_go`; `do_boot(&rsp, "Application")` follows. -/
  | startup
  /-- The wait loop; `return 0` follows. -/
  | buttonWait
  deriving DecidableEq, Repr

/-- Where main is: the external call it makes next, or where it stopped. -/
inductive MainPc
  /-- `init_cycfg_all`, `cy_retarget_io_pdl_init` and its `CY_ASSERT`. -/
  | init
  /-- `qspi_init_sfdp`. -/
  | qspiInit
  /-- main's `boot_go(&rsp)`. -/
  | bootGo
  /-- `Cy_GPIO_Read(USER_BTN_PORT, USER_BTN_PIN)`. -/
  | readButton
  /-- `Cy_SysInt_Init` and `NVIC_EnableIRQ` of the button interrupt. -/
  | enableIrq
  /-- The three log calls before the wait loop. -/
  | inform
  /-- `__WFI()`. -/
  | wfi
  /-- Asleep in `__WFI()`. -/
  | asleep
  /-- `if (is_user_button_pressed == true)`. -/
  | testLatch
  /-- `NVIC_DisableIRQ`, `break`, `is_user_button_pressed = false` and the
      call of `rollback_to_factory_image`. -/
  | leaveLoop
  /-- In `transfer_factory_image`, at the primitive `xfer.pc` names. -/
  | transfer (c : Caller)
  /-- `boot_go(&rsp)` in `rollback_to_factory_image`. -/
  | rollbackBootGo (c : Caller)
  /-- In `do_boot`'s final sleep loop, after starting the CM4. -/
  | booted (h : Handoff)
  /-- Stopped by a `CY_ASSERT`. -/
  | halted
  /-- main returned. -/
  | returned
  deriving DecidableEq, Repr

/-- main's locals, the latch, the interrupt's enable bit, the locals of
    `transfer_factory_image`, and ghost history. -/
structure MainState where
  pc : MainPc
  /-- main's `rsp`. -/
  rsp : RspVar
  /-- `is_user_button_pressed`. -/
  isUserButtonPressed : Bool
  /-- The button interrupt is enabled in the NVIC. -/
  irqEnabled : Bool
  /-- The locals and flash log of `transfer_factory_image`. -/
  xfer : XferState
  /-- Ghost: the status main's `boot_go` returned. -/
  bootGoStatus : Option UInt32
  /-- Ghost: the level `Cy_GPIO_Read` returned. -/
  buttonLevel : Option UInt32
  /-- Ghost: runs of `user_button_callback`. -/
  callbacks : Nat
  /-- Ghost: calls of `transfer_factory_image`. -/
  transfers : Nat
  /-- Ghost: entries into `do_boot`. -/
  boots : Nat
  /-- Ghost: `__WFI`s executed while `is_user_button_pressed` was true. -/
  latchedWfis : Nat
  deriving DecidableEq, Repr

/-- The state at reset.  main's `rsp` is uninitialised until `boot_go` fills
    it; any value does. -/
def MainState.init (plat : Platform) : MainState where
  pc := .init
  rsp := ⟨⟨0, 0⟩, none⟩
  isUserButtonPressed := false
  irqEnabled := false
  xfer := XferState.init plat
  bootGoStatus := none
  buttonLevel := none
  callbacks := 0
  transfers := 0
  boots := 0
  latchedWfis := 0

/-- Ghost: the erases and writes of the primary slot issued so far. -/
def MainState.slotWrites (s : MainState) : Nat := s.xfer.ops.countP (·.1.modifiesSlot)

-- ============================================================================
-- Steps
-- ============================================================================

section Step

variable (mode : AssertMode) (b : Board)

/-- A `CY_ASSERT` that stops the core. -/
def halt (s : MainState) : MainState := { s with pc := .halted }

/-- `do_boot(rsp, msg)`: `CY_ASSERT(msg != NULL)` holds for both callers'
    literals; the CM4 is started at `app_addr` and the core sleeps for ever. -/
def doBoot (msg : String) (rsp : RspVar) (s : MainState) : MainState :=
  { s with pc := .booted ⟨msg, rsp.val.appAddr, rsp.stamp⟩, boots := s.boots + 1 }

/-- `rollback_to_factory_image()` called from `c`: it calls
    `transfer_factory_image`, whose locals start afresh. -/
def rollback (c : Caller) (s : MainState) : MainState :=
  { s with pc := .transfer c, xfer := XferState.init b.plat, transfers := s.transfers + 1 }

/-- `rollback_to_factory_image` returns to its caller (only when its
    `CY_ASSERT(0)` is empty). -/
def rollbackReturn (c : Caller) (s : MainState) : MainState :=
  match c with
  | .startup => doBoot msgApplication s.rsp s
  | .buttonWait => { s with pc := .returned }

/-- One step of `transfer_factory_image`, and at its return
    `if (transfer_factory_image() != CY_RSLT_SUCCESS) CY_ASSERT(0)`. -/
def transferStep (c : Caller) (s : MainState) (code : UInt32) : MainState :=
  let x := xferStep mode b s.xfer code
  let s := { s with xfer := x }
  match x.pc with
  | .done =>
    cyAssert mode (x.result == CY_RSLT_SUCCESS) (halt s) { s with pc := .rollbackBootGo c }
  | .halted => halt s
  | _ => s

/-- main runs from the call at `s.pc`, which returns `code` (and, for
    `boot_go`, fills the response with `r`), to its next external call. -/
def mainStep (s : MainState) (code : UInt32) (r : BootRsp) : MainState :=
  match s.pc with
  | .init => cyAssert mode (code == CY_RSLT_SUCCESS) (halt s) { s with pc := .qspiInit }
  | .qspiInit =>
    if code = CY_RSLT_SUCCESS then { s with pc := .bootGo }
    else cyAssert mode false (halt s) { s with pc := .bootGo }
  | .bootGo =>
    let s := { s with rsp := RspVar.fill code r s.slotWrites, bootGoStatus := some code }
    if code = 0 then { s with pc := .readButton } else { s with pc := .enableIrq }
  | .readButton =>
    let s := { s with buttonLevel := some code }
    if code = USER_BTN_PRESSED then rollback b .startup s
    else doBoot msgApplication s.rsp s
  | .enableIrq => { s with irqEnabled := true, pc := .inform }
  | .inform => { s with pc := .wfi }
  | .wfi =>
    { s with
      pc := .asleep
      latchedWfis := if s.isUserButtonPressed then s.latchedWfis + 1 else s.latchedWfis }
  | .asleep => s
  | .testLatch =>
    if s.isUserButtonPressed then { s with pc := .leaveLoop } else { s with pc := .wfi }
  | .leaveLoop =>
    rollback b .buttonWait { s with irqEnabled := false, isUserButtonPressed := false }
  | .transfer c => transferStep mode b c s code
  | .rollbackBootGo c =>
    let rsp := RspVar.fill code r s.slotWrites
    if code = 0 then doBoot msgFactoryApp rsp s
    else cyAssert mode false (halt s) (rollbackReturn c s)
  | .booted _ => s
  | .halted => s
  | .returned => s

/-- `user_button_callback`: set the latch (the GPIO interrupt flag it clears
    is not modelled). -/
def userButtonCallback (s : MainState) : MainState :=
  { s with isUserButtonPressed := true, callbacks := s.callbacks + 1 }

/-- `__WFI` returns. -/
def wakeUp (s : MainState) : MainState :=
  if s.pc = .asleep then { s with pc := .testLatch } else s

end Step

/-- What can happen next on the core. -/
inductive Event
  /-- main runs to its next external call, which returns `code` (and `r`). -/
  | run (code : UInt32) (r : BootRsp)
  /-- The button interrupt fires. -/
  | buttonIrq
  /-- `__WFI` returns. -/
  | wake
  deriving DecidableEq, Repr

section Run

variable (mode : AssertMode) (b : Board)

/-- One event.  The button interrupt runs its callback only while it is
    enabled in the NVIC. -/
def step (s : MainState) : Event → MainState
  | .run code r => mainStep mode b s code r
  | .buttonIrq => if s.irqEnabled then userButtonCallback s else s
  | .wake => wakeUp s

/-- The states one power cycle can reach. -/
inductive Reachable : MainState → Prop
  | init : Reachable (MainState.init b.plat)
  | step {s : MainState} (e : Event) : Reachable s → Reachable (step mode b s e)

/-- The events of `es`, in order. -/
def run (s : MainState) : List Event → MainState
  | [] => s
  | e :: es => run (step mode b s e) es

end Run

section Equations

variable {mode : AssertMode} {b : Board} {s : MainState}

@[simp] theorem run_nil : run mode b s [] = s := rfl

@[simp] theorem run_cons (e : Event) (es : List Event) :
    run mode b s (e :: es) = run mode b (step mode b s e) es := rfl

theorem reachable_run (h : Reachable mode b s) (es : List Event) :
    Reachable mode b (run mode b s es) := by
  induction es generalizing s with
  | nil => exact h
  | cons e es ih => exact ih (h.step e)

@[simp] theorem step_run (code : UInt32) (r : BootRsp) :
    step mode b s (.run code r) = mainStep mode b s code r := rfl

@[simp] theorem step_wake : step mode b s .wake = wakeUp s := rfl

@[simp] theorem step_buttonIrq :
    step mode b s .buttonIrq = if s.irqEnabled then userButtonCallback s else s := rfl

@[simp] theorem halt_pc : (halt s).pc = .halted := rfl

@[simp] theorem rollback_pc (c : Caller) : (rollback b c s).pc = .transfer c := rfl

@[simp] theorem RspVar.fill_zero (r : BootRsp) (n : Nat) : RspVar.fill 0 r n = ⟨r, some n⟩ := rfl

@[simp] theorem doBoot_pc (msg : String) (rsp : RspVar) :
    (doBoot msg rsp s).pc = .booted ⟨msg, rsp.val.appAddr, rsp.stamp⟩ := rfl

@[simp] theorem rollbackReturn_startup :
    rollbackReturn .startup s = doBoot msgApplication s.rsp s := rfl

@[simp] theorem rollbackReturn_buttonWait :
    rollbackReturn .buttonWait s = { s with pc := .returned } := rfl

end Equations

-- ============================================================================
-- What a step can do
-- ============================================================================

section Cases

variable {mode : AssertMode} {b : Board} {s : MainState} {code : UInt32}

/-- The two initialisation calls halt or go on to the next call, and change
    nothing else. -/
theorem mainStep_init (hpc : s.pc = .init ∨ s.pc = .qspiInit) (r : BootRsp) :
    mainStep mode b s code r = halt s ∨
      mainStep mode b s code r = { s with pc := if s.pc = .init then .qspiInit else .bootGo } := by
  rcases hpc with hpc | hpc <;> simp only [mainStep, hpc, if_true, reduceCtorEq, if_false]
  · exact cyAssert_elim (fun t => t = halt s ∨ t = _) (.inl rfl) (.inr rfl)
  · split
    · exact .inr rfl
    · exact cyAssert_elim (fun t => t = halt s ∨ t = _) (.inl rfl) (.inr rfl)

/-- A step of the transfer changes only `xfer` and the program counter, which
    stays in the transfer while it has not returned, moves to the rollback's
    `boot_go` when it returned (with success, in a debug build), or halts. -/
theorem transferStep_eq {c : Caller} (hpc : s.pc = .transfer c) :
    ∃ p, ((p = .transfer c ∧ ¬ (xferStep mode b s.xfer code).Exited) ∨
        (p = .rollbackBootGo c ∧ (xferStep mode b s.xfer code).pc = .done ∧
          ((xferStep mode b s.xfer code).result = CY_RSLT_SUCCESS ∨ mode = .ndebug)) ∨
        p = .halted) ∧
      transferStep mode b c s code = { s with xfer := xferStep mode b s.xfer code, pc := p } := by
  unfold transferStep
  dsimp only
  split
  · next hdone =>
    unfold cyAssert
    split
    · next hc => exact ⟨.rollbackBootGo c, .inr (.inl ⟨rfl, hdone, by simpa using hc⟩), rfl⟩
    · exact ⟨.halted, by simp, rfl⟩
  · exact ⟨.halted, by simp, rfl⟩
  · next hd hh => exact ⟨s.pc, .inl ⟨hpc, not_or.2 ⟨hd, hh⟩⟩, rfl⟩

/-- The rollback's `boot_go` hands over the response it has just filled,
    halts, or returns to the caller. -/
theorem mainStep_rollbackBootGo {c : Caller} (hpc : s.pc = .rollbackBootGo c) (r : BootRsp) :
    mainStep mode b s code r = doBoot msgFactoryApp ⟨r, some s.slotWrites⟩ s ∨
      mainStep mode b s code r = halt s ∨ mainStep mode b s code r = rollbackReturn c s := by
  simp only [mainStep, hpc]
  split
  · next hc => exact .inl (by rw [hc, RspVar.fill_zero])
  · exact .inr (cyAssert_elim (fun t => t = halt s ∨ t = rollbackReturn c s) (.inl rfl) (.inr rfl))

end Cases

end RollbackBoot
