/-
  RollbackBoot.Button

  The two ways the user starts a rollback, and the latch
  `is_user_button_pressed` that the button interrupt sets.

  `RequestInv` says, at each program counter, what has happened so far: before
  the rollback no transfer has run; at the startup test main's `boot_go`
  returned 0; in the wait loop it failed, and a set latch means the callback
  ran; from the rollback on the interrupt is off.  Hence
  `transfer_only_on_request`: over every interleaving of interrupts and every
  oracle outcome, `transfer_factory_image` is called at most once, only after
  the user asked for it, and main never comes back to the decision or the
  wait.

  The wait loop enables the interrupt before its prompt and tests the latch
  only after `__WFI` returns.  A press taken in between, or between a test that
  read false and the next `__WFI`, is recorded and then slept on: main executes
  `__WFI` with the latch set, and none of its own steps leaves `__WFI` until
  some other interrupt wakes the core (`wfi_with_latch_set`).  `LatchInv`
  counts the `__WFI`s executed with the latch set: there is at most one, and
  the latch then stays set until the test after `__WFI` returns, which leaves
  the loop (`latched_wfi_at_most_once`).
-/

import RollbackBoot.Main

namespace RollbackBoot

-- ============================================================================
-- Rollback requests
-- ============================================================================

/-- main's own code before `rollback_to_factory_image`: start-up, the first
    `boot_go` and the button test, and the wait for the button. -/
def MainPc.beforeRollback : MainPc → Bool
  | .init | .qspiInit | .bootGo | .readButton | .enableIrq | .inform | .wfi | .asleep
  | .testLatch | .leaveLoop => true
  | .transfer _ | .rollbackBootGo _ | .booted _ | .halted | .returned => false

/-- main's `boot_go` returned non-zero. -/
def MainState.BootGoFailed (s : MainState) : Prop := ∃ c, s.bootGoStatus = some c ∧ c ≠ 0

/-- The user asked for a rollback: main's `boot_go` returned 0 and the button
    read `USER_BTN_PRESSED`, or `boot_go` failed and the callback ran. -/
def MainState.RollbackRequested (s : MainState) : Prop :=
  (s.bootGoStatus = some 0 ∧ s.buttonLevel = some USER_BTN_PRESSED) ∨
    (s.BootGoFailed ∧ 0 < s.callbacks)

/-- What has happened by the time main is at each program counter. -/
def RequestInv (s : MainState) : Prop :=
  match s.pc with
  | .init | .qspiInit | .bootGo =>
    s.transfers = 0 ∧ s.irqEnabled = false ∧ s.isUserButtonPressed = false
  | .readButton => s.transfers = 0 ∧ s.irqEnabled = false ∧ s.bootGoStatus = some 0
  | .enableIrq =>
    s.transfers = 0 ∧ s.irqEnabled = false ∧ s.isUserButtonPressed = false ∧ s.BootGoFailed
  | .inform | .wfi | .asleep | .testLatch =>
    s.transfers = 0 ∧ s.BootGoFailed ∧ (s.isUserButtonPressed = true → 0 < s.callbacks)
  | .leaveLoop => s.transfers = 0 ∧ s.BootGoFailed ∧ 0 < s.callbacks
  | .transfer _ | .rollbackBootGo _ =>
    s.transfers = 1 ∧ s.irqEnabled = false ∧ s.RollbackRequested
  | .booted _ | .halted | .returned =>
    s.transfers ≤ 1 ∧ s.irqEnabled = false ∧ (0 < s.transfers → s.RollbackRequested)

section Request

variable {mode : AssertMode} {b : Board} {s : MainState} {code : UInt32} {r : BootRsp}

theorem requestInv_init : RequestInv (MainState.init b.plat) := by
  simp [RequestInv, MainState.init]

/-- Once the transfer has begun, main stops with the request it had. -/
theorem requestInv_stop {t : MainState}
    (hpc : t.pc = .halted ∨ t.pc = .returned ∨ ∃ h, t.pc = .booted h)
    (ht : t.transfers = 1 ∧ t.irqEnabled = false ∧ t.RollbackRequested) : RequestInv t := by
  unfold RequestInv
  rcases hpc with hpc | hpc | ⟨_, hpc⟩ <;> simp only [hpc] <;> exact ⟨ht.1.le, ht.2.1, fun _ => ht.2.2⟩

/-- The rollback's `boot_go` keeps the request. -/
theorem requestInv_rollbackBootGo {c : Caller} (hpc : s.pc = .rollbackBootGo c)
    (h : s.transfers = 1 ∧ s.irqEnabled = false ∧ s.RollbackRequested) :
    RequestInv (mainStep mode b s code r) := by
  rcases @mainStep_rollbackBootGo mode b s code c hpc r with heq | heq | heq <;> rw [heq]
  · exact requestInv_stop (.inr (.inr ⟨_, rfl⟩)) h
  · exact requestInv_stop (.inl rfl) h
  · cases c
    · exact requestInv_stop (.inr (.inr ⟨_, rfl⟩)) h
    · exact requestInv_stop (.inr (.inl rfl)) h

theorem requestInv_mainStep (h : RequestInv s) : RequestInv (mainStep mode b s code r) := by
  have hs := h
  unfold RequestInv at h
  cases hpc : s.pc <;> simp only [hpc] at h
  case init | qspiInit =>
    rcases @mainStep_init mode b s code (by simp [hpc]) r with heq | heq <;> rw [heq] <;>
      simp [RequestInv, halt, h, hpc]
  case bootGo =>
    simp only [mainStep, hpc]; split <;> simp [RequestInv, MainState.BootGoFailed, h, *]
  case readButton =>
    simp only [mainStep, hpc]
    split <;> simp [RequestInv, rollback, doBoot, MainState.RollbackRequested, h, *]
  case enableIrq | inform | wfi | testLatch | leaveLoop =>
    simp only [mainStep, hpc]
    try split
    all_goals simp_all [RequestInv, rollback, MainState.RollbackRequested, MainState.BootGoFailed]
  case transfer c =>
    simp only [mainStep, hpc]
    obtain ⟨p, hp, heq⟩ := @transferStep_eq mode b s code c hpc
    rw [heq]
    rcases hp with ⟨rfl, -⟩ | ⟨rfl, -⟩ | rfl
    · exact h
    · exact h
    · exact requestInv_stop (.inl rfl) h
  case rollbackBootGo c => exact requestInv_rollbackBootGo hpc h
  all_goals simpa [mainStep, hpc] using hs

/-- The callback runs only in the wait, where it leaves a set latch behind. -/
theorem requestInv_callback (h : RequestInv s) (hirq : s.irqEnabled = true) :
    RequestInv (userButtonCallback s) := by
  unfold RequestInv at h ⊢
  cases hpc : s.pc <;> simp only [hpc] at h <;>
    simp_all [userButtonCallback, MainState.BootGoFailed]

theorem requestInv_step (h : RequestInv s) (e : Event) : RequestInv (step mode b s e) := by
  cases e with
  | run code r => exact requestInv_mainStep h
  | buttonIrq =>
    simp only [step_buttonIrq]
    split
    · next hirq => exact requestInv_callback h hirq
    · exact h
  | wake =>
    simp only [step_wake, wakeUp]
    split
    · next hpc => unfold RequestInv at h ⊢; simp only [hpc] at h; exact h
    · exact h

theorem requestInv_reachable (h : Reachable mode b s) : RequestInv s := by
  induction h with
  | init => exact requestInv_init
  | step e _ ih => exact requestInv_step ih e

/-- In every run and every interleaving of button interrupts,
    `transfer_factory_image` is called at most once, and only after the user
    asked for it: main's `boot_go` returned 0 and the button read pressed, or
    `boot_go` failed and the callback ran.  From then on the interrupt is off,
    so no later callback counts, and main is never again in the decision or
    the wait. -/
theorem transfer_only_on_request (h : Reachable mode b s) :
    s.transfers ≤ 1 ∧
      (0 < s.transfers →
        s.RollbackRequested ∧ s.irqEnabled = false ∧ s.pc.beforeRollback = false) := by
  have hi := requestInv_reachable h
  unfold RequestInv at hi
  cases hpc : s.pc <;> simp only [hpc] at hi
  all_goals first
    | exact ⟨hi.1 ▸ Nat.zero_le 1, fun h0 => absurd hi.1 (Nat.pos_iff_ne_zero.1 h0)⟩
    | exact ⟨hi.1.le, fun _ => ⟨hi.2.2, hi.2.1, by simp [hpc, MainPc.beforeRollback]⟩⟩
    | exact ⟨hi.1, fun h0 => ⟨hi.2.2 h0, hi.2.1, by simp [hpc, MainPc.beforeRollback]⟩⟩

/-- `boot_go` fails, the button is pressed while main sleeps, and the latch
    test sends main into the rollback. -/
def pressInWait : List Event :=
  [.run 0 ⟨0, 0⟩, .run 0 ⟨0, 0⟩, .run 1 ⟨0, 0⟩, .run 0 ⟨0, 0⟩, .run 0 ⟨0, 0⟩, .run 0 ⟨0, 0⟩,
    .buttonIrq, .wake, .run 0 ⟨0, 0⟩, .run 0 ⟨0, 0⟩]

theorem transfer_requested_in_wait :
    let s := run .halt twoRowFactory (MainState.init twoRowFactory.plat) pressInWait
    Reachable .halt twoRowFactory s ∧ s.transfers = 1 ∧ s.transfers ≤ 1 ∧
      (0 < s.transfers →
        s.RollbackRequested ∧ s.irqEnabled = false ∧ s.pc.beforeRollback = false) :=
  ⟨reachable_run .init _, by decide, transfer_only_on_request (reachable_run .init _)⟩

end Request

-- ============================================================================
-- The latch and `__WFI`
-- ============================================================================

/-- The `__WFI`s executed with the latch set: none before the first, at most
    one, and after it the latch stays set while main sleeps and tests it. -/
def LatchInv (s : MainState) : Prop :=
  match s.pc with
  | .init | .qspiInit | .bootGo | .readButton | .enableIrq | .inform | .wfi =>
    s.latchedWfis = 0
  | .asleep | .testLatch =>
    s.latchedWfis ≤ 1 ∧ (0 < s.latchedWfis → s.isUserButtonPressed = true)
  | .leaveLoop | .transfer _ | .rollbackBootGo _ | .booted _ | .halted | .returned =>
    s.latchedWfis ≤ 1

section Latch

variable {mode : AssertMode} {b : Board} {s : MainState} {code : UInt32} {r : BootRsp}

theorem latchInv_of_zero {t : MainState} (h : t.latchedWfis = 0) : LatchInv t := by
  unfold LatchInv; split <;> simp [h]

/-- From the end of the wait on, only the count matters. -/
theorem latchInv_of_le {t : MainState} (h : t.latchedWfis ≤ 1)
    (hpc : t.pc = .leaveLoop ∨ t.pc.beforeRollback = false) : LatchInv t := by
  unfold LatchInv
  cases hp : t.pc <;> simp_all [MainPc.beforeRollback]

theorem latchInv_le (h : LatchInv s) : s.latchedWfis ≤ 1 := by
  unfold LatchInv at h; split at h <;> omega

theorem latchInv_mainStep (h : LatchInv s) : LatchInv (mainStep mode b s code r) := by
  have hs := h
  have hle : s.latchedWfis ≤ 1 := latchInv_le hs
  have post : ∀ t : MainState, t.latchedWfis = s.latchedWfis → t.pc.beforeRollback = false →
      LatchInv t := fun t ht hp => latchInv_of_le (ht ▸ hle) (.inr hp)
  unfold LatchInv at h
  cases hpc : s.pc <;> simp only [hpc] at h
  case init | qspiInit =>
    rcases @mainStep_init mode b s code (by simp [hpc]) r with heq | heq <;> rw [heq] <;>
      exact latchInv_of_zero h
  case bootGo | readButton =>
    simp only [mainStep, hpc]; split <;> exact latchInv_of_zero h
  case enableIrq | inform => simp only [mainStep, hpc]; exact latchInv_of_zero h
  case wfi =>
    simp only [mainStep, hpc, LatchInv]
    cases s.isUserButtonPressed <;> simp [h]
  case testLatch =>
    simp only [mainStep, hpc]; split
    · exact latchInv_of_le hle (.inl rfl)
    · next hl => exact latchInv_of_zero (by by_contra hz; simp_all)
  case leaveLoop => simp only [mainStep, hpc]; exact post _ rfl rfl
  case transfer c =>
    simp only [mainStep, hpc]
    obtain ⟨p, hp, heq⟩ := @transferStep_eq mode b s code c hpc
    rw [heq]
    rcases hp with ⟨rfl, -⟩ | ⟨rfl, -⟩ | rfl <;> exact post _ rfl rfl
  case rollbackBootGo c =>
    rcases @mainStep_rollbackBootGo mode b s code c hpc r with heq | heq | heq <;> rw [heq]
    · exact post _ rfl rfl
    · exact post _ rfl rfl
    · cases c <;> exact post _ rfl rfl
  all_goals simpa [mainStep, hpc] using hs

theorem latchInv_step (h : LatchInv s) (e : Event) : LatchInv (step mode b s e) := by
  cases e with
  | run code r => exact latchInv_mainStep h
  | buttonIrq =>
    simp only [step_buttonIrq]
    split
    · unfold LatchInv at h ⊢
      cases hpc : s.pc <;> simp_all [userButtonCallback]
    · exact h
  | wake =>
    simp only [step_wake, wakeUp]
    split
    · next hpc => unfold LatchInv at h ⊢; simp only [hpc] at h; exact h
    · exact h

theorem latchInv_reachable (h : Reachable mode b s) : LatchInv s := by
  induction h with
  | init => exact latchInv_of_zero rfl
  | step e _ ih => exact latchInv_step ih e

/-- Only leaving the wait loop clears the latch: no other step of main, and
    no interrupt, does. -/
theorem step_keeps_latch (hl : s.isUserButtonPressed = true) (hpc : s.pc ≠ .leaveLoop)
    (e : Event) : (step mode b s e).isUserButtonPressed = true := by
  cases e with
  | run code r =>
    simp only [step_run]
    cases hp : s.pc
    case leaveLoop => exact absurd hp hpc
    case transfer c =>
      obtain ⟨p, -, heq⟩ := @transferStep_eq mode b s code c hp
      simp only [mainStep, hp, heq]; exact hl
    case rollbackBootGo c =>
      rcases @mainStep_rollbackBootGo mode b s code c hp r with heq | heq | heq <;> rw [heq]
      · exact hl
      · exact hl
      · cases c <;> exact hl
    all_goals
      simp only [mainStep, hp]
      first
        | exact hl
        | exact cyAssert_elim (fun t : MainState => t.isUserButtonPressed = true) hl hl
        | split <;> first
            | exact hl
            | exact cyAssert_elim (fun t : MainState => t.isUserButtonPressed = true) hl hl
  | buttonIrq => simp only [step_buttonIrq]; split <;> first | rfl | exact hl
  | wake => simp only [step_wake, wakeUp]; split <;> exact hl

/-- Only a wake-up moves main out of `__WFI`: its own steps leave a sleeping
    core as it is. -/
theorem run_asleep (hpc : s.pc = .asleep) (es : List Event)
    (hes : ∀ e ∈ es, ∃ code r, e = .run code r) : run mode b s es = s := by
  induction es with
  | nil => rfl
  | cons e es ih =>
    obtain ⟨code, r, rfl⟩ := hes e (List.mem_cons_self _ _)
    rw [run_cons, step_run, show mainStep mode b s code r = s by simp [mainStep, hpc]]
    exact ih fun e he => hes e (List.mem_cons_of_mem _ he)

/-- main may execute `__WFI` with the latch set, but at most once in a run:
    never again once it has, and from that `__WFI` until the test after it
    returns the latch stays set, since only leaving the wait loop clears it.
    So the test after the core wakes, on any interrupt or event, reads the
    button event and leaves the loop. -/
theorem latched_wfi_at_most_once (h : Reachable mode b s) :
    s.latchedWfis ≤ 1 ∧ (s.pc = .wfi → s.latchedWfis = 0) ∧
      (s.pc = .asleep ∨ s.pc = .testLatch → 0 < s.latchedWfis → s.isUserButtonPressed = true) ∧
      (∀ e, s.isUserButtonPressed = true → s.pc ≠ .leaveLoop →
        (step mode b s e).isUserButtonPressed = true) := by
  have hi := latchInv_reachable h
  refine ⟨latchInv_le hi, fun hpc => ?_, fun hpc => ?_, fun e hl hpc => step_keeps_latch hl hpc e⟩
  · unfold LatchInv at hi; simp only [hpc] at hi; exact hi
  · unfold LatchInv at hi
    rcases hpc with hpc | hpc <;> simp only [hpc] at hi <;> exact hi.2

/-- Start-up succeeds, `boot_go` fails, the button interrupt is enabled, and
    the button fires during the log calls that follow. -/
def pressBeforeWfi : List Event :=
  [.run 0 ⟨0, 0⟩, .run 0 ⟨0, 0⟩, .run 1 ⟨0, 0⟩, .run 0 ⟨0, 0⟩, .buttonIrq, .run 0 ⟨0, 0⟩]

theorem latched_wfi_asleep :
    let s := run .halt twoRowFactory (MainState.init twoRowFactory.plat)
      (pressBeforeWfi ++ [.run 0 ⟨0, 0⟩])
    Reachable .halt twoRowFactory s ∧ s.pc = .asleep ∧ s.latchedWfis = 1 ∧
      s.latchedWfis ≤ 1 ∧ (s.pc = .wfi → s.latchedWfis = 0) ∧
      (s.pc = .asleep ∨ s.pc = .testLatch → 0 < s.latchedWfis → s.isUserButtonPressed = true) ∧
      (∀ e, s.isUserButtonPressed = true → s.pc ≠ .leaveLoop →
        (step .halt twoRowFactory s e).isUserButtonPressed = true) :=
  ⟨reachable_run .init _, rfl, rfl, latched_wfi_at_most_once (reachable_run .init _)⟩

/-- In both builds, a press taken while main logs its prompt, after
    `NVIC_EnableIRQ`, sets the latch before the first `__WFI`.  main then
    executes `__WFI` with the latch set and sleeps on the recorded press: none
    of its own steps leaves `__WFI`, so the press stays unconsumed until some
    other interrupt wakes the core. -/
theorem wfi_with_latch_set (mode : AssertMode) :
    let s := run mode twoRowFactory (MainState.init twoRowFactory.plat)
      (pressBeforeWfi ++ [.run 0 ⟨0, 0⟩])
    s.pc = .asleep ∧ s.isUserButtonPressed = true ∧ s.latchedWfis = 1 ∧
      ∀ es : List Event, (∀ e ∈ es, ∃ code r, e = .run code r) → run mode twoRowFactory s es = s :=
  by cases mode <;> exact ⟨rfl, rfl, rfl, run_asleep rfl⟩

end Latch

-- ============================================================================
-- The interrupt's window
-- ============================================================================

/-- main waits for the button: from `NVIC_EnableIRQ` to `NVIC_DisableIRQ`. -/
def MainPc.inWait : MainPc → Bool
  | .inform | .wfi | .asleep | .testLatch | .leaveLoop => true
  | _ => false

/-- The button interrupt at each program counter: off and never taken before
    the wait; on in the wait, entered only after main's `boot_go` failed; off
    again after it, with the latch cleared. -/
def IrqInv (s : MainState) : Prop :=
  match s.pc with
  | .init | .qspiInit | .bootGo | .readButton =>
    s.irqEnabled = false ∧ s.isUserButtonPressed = false ∧ s.callbacks = 0
  | .enableIrq =>
    s.irqEnabled = false ∧ s.isUserButtonPressed = false ∧ s.callbacks = 0 ∧ s.BootGoFailed
  | .inform | .wfi | .asleep | .testLatch | .leaveLoop => s.irqEnabled = true ∧ s.BootGoFailed
  | .transfer _ | .rollbackBootGo _ | .booted _ | .halted | .returned =>
    s.irqEnabled = false ∧ s.isUserButtonPressed = false ∧ (0 < s.callbacks → s.BootGoFailed)

section Irq

variable {mode : AssertMode} {b : Board} {s : MainState} {code : UInt32} {r : BootRsp}

/-- From the rollback on, the interrupt is off and the latch clear. -/
theorem irqInv_stop {t : MainState} (hpc : t.pc.beforeRollback = false)
    (ht : t.irqEnabled = false ∧ t.isUserButtonPressed = false ∧
      (0 < t.callbacks → t.BootGoFailed)) : IrqInv t := by
  unfold IrqInv
  cases h : t.pc <;> simp only [h, MainPc.beforeRollback, Bool.true_eq_false] at hpc ⊢ <;> exact ht

theorem irqInv_mainStep (h : IrqInv s) : IrqInv (mainStep mode b s code r) := by
  unfold IrqInv at h
  cases hpc : s.pc <;> simp only [hpc] at h
  case init | qspiInit =>
    rcases @mainStep_init mode b s code (by simp [hpc]) r with heq | heq <;> rw [heq]
    · exact irqInv_stop rfl ⟨h.1, h.2.1, by simp [halt, h.2.2]⟩
    · unfold IrqInv; split <;> simp_all
  case transfer c =>
    obtain ⟨p, hp, heq⟩ := @transferStep_eq mode b s code c hpc
    simp only [mainStep, hpc, heq]
    rcases hp with ⟨rfl, -⟩ | ⟨rfl, -⟩ | rfl <;> exact irqInv_stop rfl h
  case rollbackBootGo c =>
    rcases @mainStep_rollbackBootGo mode b s code c hpc r with heq | heq | heq <;> rw [heq] <;>
      cases c <;> exact irqInv_stop rfl h
  case readButton =>
    simp only [mainStep, hpc]
    split
    · exact irqInv_stop rfl ⟨h.1, h.2.1, by simp [rollback, h.2.2]⟩
    · exact irqInv_stop rfl ⟨h.1, h.2.1, by simp [doBoot, h.2.2]⟩
  case leaveLoop =>
    simp only [mainStep, hpc]
    exact irqInv_stop rfl ⟨rfl, rfl, fun _ => h.2⟩
  all_goals simp only [mainStep, hpc]
  all_goals try split
  all_goals simp_all [IrqInv, MainState.BootGoFailed]

theorem irqInv_step (h : IrqInv s) (e : Event) : IrqInv (step mode b s e) := by
  cases e with
  | run code r => exact irqInv_mainStep h
  | buttonIrq =>
    simp only [step_buttonIrq]
    split
    · next hirq =>
      unfold IrqInv at h ⊢
      simp only [userButtonCallback]
      split <;> simp_all [MainState.BootGoFailed]
    · exact h
  | wake =>
    simp only [step_wake, wakeUp]
    split
    · next hpc => unfold IrqInv at h ⊢; simp_all [MainState.BootGoFailed]
    · exact h

theorem irqInv_reachable (h : Reachable mode b s) : IrqInv s := by
  induction h with
  | init => simp [IrqInv, MainState.init]
  | step e _ ih => exact irqInv_step ih e

/-- In both builds and every interleaving: the button interrupt is enabled
    exactly while main waits for the button, from `NVIC_EnableIRQ` to
    `NVIC_DisableIRQ`; the latch is set only during that wait, so a press
    before it or after it leaves no request behind; and `user_button_callback`
    has run only in a power cycle whose first `boot_go` failed. -/
theorem button_irq_window (h : Reachable mode b s) :
    (s.irqEnabled = true ↔ s.pc.inWait = true) ∧
      (s.isUserButtonPressed = true → s.pc.inWait = true) ∧
      (0 < s.callbacks → s.BootGoFailed) := by
  have hi := irqInv_reachable h
  unfold IrqInv at hi
  cases hpc : s.pc <;> simp only [hpc] at hi <;> simp_all [MainPc.inWait]

theorem button_irq_window_pressInWait :
    let s := run .halt twoRowFactory (MainState.init twoRowFactory.plat) (pressInWait.take 9)
    Reachable .halt twoRowFactory s ∧ s.pc = .leaveLoop ∧
      (s.irqEnabled = true ↔ s.pc.inWait = true) ∧
      (s.isUserButtonPressed = true → s.pc.inWait = true) ∧
      (0 < s.callbacks → s.BootGoFailed) :=
  ⟨reachable_run .init _, by decide, button_irq_window (reachable_run .init _)⟩

end Irq

end RollbackBoot
