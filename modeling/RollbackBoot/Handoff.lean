/-
  RollbackBoot.Handoff

  How a power cycle of main ends, and with which boot response.

  In a debug build (`CY_ASSERT` halts) `HandoffInv` holds at every reachable
  state: main never returns, `do_boot` is entered at most once, and the
  response it is handed was filled by a `boot_go` that returned 0 after the
  last erase or write of the primary slot (`main_debug_handoff`).  A rank
  that every step of main lowers outside the wait shows that main, whatever
  the oracles return and whatever interrupts arrive, reaches the handoff, a
  halt or the wait for the button within a bounded number of its own steps
  (`main_debug_settles`).

  Under `NDEBUG` both halves of that fail.  When the rollback's `boot_go`
  rejects the copied image, `rollback_to_factory_image` returns: after a
  rollback requested at startup main calls `do_boot(&rsp, "Application")`
  with the response it validated before the slot was erased and rewritten;
  after a rollback requested from the wait, main returns
  (`main_ndebug_stale_handoff`).
-/

import RollbackBoot.Button
import RollbackBoot.Slot

namespace RollbackBoot

-- ============================================================================
-- The debug build: the handoff invariant
-- ============================================================================

/-- The transfer is a debug-build transfer that returned `CY_RSLT_SUCCESS`. -/
def MainState.TransferDone (b : Board) (s : MainState) : Prop :=
  XferInv b s.xfer ∧ s.xfer.pc = .done ∧ s.xfer.result = CY_RSLT_SUCCESS

/-- What a debug build knows at each program counter: no `do_boot` before the
    handoff, the startup response is fresh at the button test, the transfer
    is a debug-build transfer that has not returned, the rollback's `boot_go`
    follows a successful transfer, and the handoff's response is fresh (for
    the factory app, after a successful transfer).  main never returns. -/
def HandoffInv (b : Board) (s : MainState) : Prop :=
  match s.pc with
  | .init | .qspiInit | .bootGo | .enableIrq | .inform | .wfi | .asleep | .testLatch
  | .leaveLoop | .halted => s.boots = 0
  | .readButton => s.boots = 0 ∧ s.rsp.stamp = some s.slotWrites
  | .transfer _ => s.boots = 0 ∧ XferInv b s.xfer ∧ ¬ s.xfer.Exited
  | .rollbackBootGo _ => s.boots = 0 ∧ s.TransferDone b
  | .booted h =>
    s.boots = 1 ∧ h.stamp = some s.slotWrites ∧ (h.msg = msgFactoryApp → s.TransferDone b)
  | .returned => False

section Debug

variable {b : Board} {s : MainState} {code : UInt32} {r : BootRsp}

/-- Every clause but the handoff's and the return's says no `do_boot` yet. -/
theorem handoffInv_of_boots {t : MainState} (h : t.boots = 0)
    (hpc : t.pc ≠ .readButton ∧ (∀ c, t.pc ≠ .transfer c ∧ t.pc ≠ .rollbackBootGo c) ∧
      (∀ hd, t.pc ≠ .booted hd) ∧ t.pc ≠ .returned) : HandoffInv b t := by
  unfold HandoffInv
  obtain ⟨h1, h2, h3, h4⟩ := hpc
  split <;> simp_all

/-- `rollback_to_factory_image` enters a debug-build transfer. -/
theorem handoffInv_rollback {c : Caller} (h : s.boots = 0) : HandoffInv b (rollback b c s) := by
  simp only [HandoffInv, rollback_pc]
  exact ⟨h, xferInv_init b, by simp [XferState.Exited, XferState.init, rollback]⟩

/-- `do_boot` with a fresh response, entered for the first time, and for the
    factory app only after a successful transfer. -/
theorem handoffInv_doBoot {msg : String} {rsp : RspVar} (h : s.boots = 0)
    (hst : rsp.stamp = some s.slotWrites) (hmsg : msg = msgFactoryApp → s.TransferDone b) :
    HandoffInv b (doBoot msg rsp s) := by
  simp only [HandoffInv, doBoot_pc]
  exact ⟨by simp [doBoot, h], hst, hmsg⟩

theorem handoffInv_mainStep (h : HandoffInv b s) : HandoffInv b (mainStep .halt b s code r) := by
  have hs := h
  unfold HandoffInv at h
  cases hpc : s.pc <;> simp only [hpc] at h
  case init | qspiInit =>
    rcases @mainStep_init .halt b s code (by simp [hpc]) r with heq | heq <;> rw [heq] <;>
      exact handoffInv_of_boots h (by simp [halt, hpc])
  case bootGo =>
    simp only [mainStep, hpc]
    split
    · next hc => simp only [HandoffInv]; exact ⟨h, by simp [hc, RspVar.fill, MainState.slotWrites]⟩
    · exact handoffInv_of_boots h (by simp)
  case enableIrq | inform | wfi =>
    simp only [mainStep, hpc]; exact handoffInv_of_boots h (by simp)
  case testLatch =>
    simp only [mainStep, hpc]; split <;> exact handoffInv_of_boots h (by simp)
  case readButton =>
    simp only [mainStep, hpc]
    split
    · exact handoffInv_rollback h.1
    · exact handoffInv_doBoot h.1 h.2 fun hm => absurd hm (by decide)
  case leaveLoop => simp only [mainStep, hpc]; exact handoffInv_rollback h
  case transfer c =>
    obtain ⟨hb, hx, hnx⟩ := h
    simp only [mainStep, hpc]
    obtain ⟨p, hp, heq⟩ := @transferStep_eq .halt b s code c hpc
    rw [heq]
    rcases hp with ⟨rfl, hnx'⟩ | ⟨rfl, hdone, hok | hnd⟩ | rfl
    · exact ⟨hb, xferStep_inv hx, hnx'⟩
    · exact ⟨hb, xferStep_inv hx, hdone, hok⟩
    · exact absurd hnd (by decide)
    · exact hb
  case rollbackBootGo c =>
    simp only [mainStep, hpc, cyAssert_halt_false]
    split
    · next hc => exact handoffInv_doBoot h.1 (by simp [hc, RspVar.fill]) fun _ => h.2
    · exact h.1
  all_goals simpa [mainStep, hpc] using hs

theorem handoffInv_step (h : HandoffInv b s) (e : Event) : HandoffInv b (step .halt b s e) := by
  cases e with
  | run code r => exact handoffInv_mainStep h
  | buttonIrq => simp only [step_buttonIrq]; split <;> exact h
  | wake =>
    simp only [step_wake, wakeUp]
    split
    · next hpc => unfold HandoffInv at h ⊢; simp only [hpc] at h; exact h
    · exact h

theorem handoffInv_reachable (h : Reachable .halt b s) : HandoffInv b s := by
  induction h with
  | init => exact handoffInv_of_boots rfl (by simp [MainState.init])
  | step e _ ih => exact handoffInv_step ih e

/-- In a debug build, over every run, every oracle outcome and every
    interleaving of interrupts: main never returns, `do_boot` is entered at
    most once, and when it has been entered, the response it was handed was
    filled by a `boot_go` that returned 0 after the last erase or write of the
    primary slot. -/
theorem main_debug_handoff (h : Reachable .halt b s) :
    s.pc ≠ .returned ∧ s.boots ≤ 1 ∧ ∀ hd, s.pc = .booted hd → hd.stamp = some s.slotWrites := by
  have hi := handoffInv_reachable h
  unfold HandoffInv at hi
  refine ⟨fun hpc => by simp only [hpc] at hi, ?_,
    fun hd hpc => by simp only [hpc] at hi; exact hi.2.1⟩
  cases hpc : s.pc <;> simp only [hpc] at hi <;> omega

/-- A rollback requested at startup whose copy the rollback's `boot_go`
    accepts. -/
def rollbackAccepted : List Event :=
  [.run 0 ⟨0, 0⟩, .run 0 ⟨0, 0⟩, .run 0 ⟨0, 0⟩, .run USER_BTN_PRESSED ⟨0, 0⟩] ++
    List.replicate 7 (.run CY_RSLT_SUCCESS ⟨0, 0⟩) ++ [.run 0 ⟨0x10018000, 0x400⟩]

/-- The accepted rollback ends in the factory app's handoff, with the response
    the rollback's `boot_go` filled after the erase and the two row writes. -/
theorem rollbackAccepted_pc :
    (run .halt twoRowFactory (MainState.init twoRowFactory.plat) rollbackAccepted).pc =
      .booted ⟨msgFactoryApp, BootRsp.appAddr ⟨0x10018000, 0x400⟩, some 3⟩ := by
  set_option maxRecDepth 20000 in decide

theorem factory_handoff_fresh :
    let s := run .halt twoRowFactory (MainState.init twoRowFactory.plat) rollbackAccepted
    Reachable .halt twoRowFactory s ∧
      s.pc = .booted ⟨msgFactoryApp, BootRsp.appAddr ⟨0x10018000, 0x400⟩, some 3⟩ ∧
      s.pc ≠ .returned ∧ s.boots ≤ 1 ∧ ∀ hd, s.pc = .booted hd → hd.stamp = some s.slotWrites :=
  ⟨reachable_run .init _, rollbackAccepted_pc, main_debug_handoff (reachable_run .init _)⟩

/-- In a debug build, when main hands the CM4 the factory app, the operations
    of this power cycle have left the factory image in the primary slot: each
    byte is the external-flash byte at the same offset from
    `CY_SMIF_BASE_MEM_OFFSET`, whatever the slot held at power-on. -/
theorem main_debug_factory_image (h : Reachable .halt b s)
    (hfit : b.plat.smifBase.toNat + b.primary.faSize.toNat ≤ 2 ^ 32)
    {hd : Handoff} (hpc : s.pc = .booted hd) (hmsg : hd.msg = msgFactoryApp)
    (erased : UInt8) (m : Nat → UInt8) (i : Nat) (hi : i < b.primary.faSize.toNat) :
    slotAfter erased m (s.xfer.ops.map Prod.fst) i = b.factoryImage i := by
  have hinv := handoffInv_reachable h
  unfold HandoffInv at hinv
  simp only [hpc] at hinv
  obtain ⟨hx, hdone, hok⟩ := hinv.2.2 hmsg
  exact xferInv_success_slot hx hdone hok hfit hi

theorem factory_image_after_rollback :
    let s := run .halt twoRowFactory (MainState.init twoRowFactory.plat) rollbackAccepted
    let hd : Handoff := ⟨msgFactoryApp, BootRsp.appAddr ⟨0x10018000, 0x400⟩, some 3⟩
    Reachable .halt twoRowFactory s ∧
      twoRowFactory.plat.smifBase.toNat + twoRowFactory.primary.faSize.toNat ≤ 2 ^ 32 ∧
      s.pc = .booted hd ∧ hd.msg = msgFactoryApp ∧ 512 < twoRowFactory.primary.faSize.toNat ∧
      slotAfter 0 (fun _ => 0xA5) (s.xfer.ops.map Prod.fst) 512 =
        twoRowFactory.factoryImage 512 :=
  ⟨reachable_run .init _, by decide, rollbackAccepted_pc, rfl, by decide,
    main_debug_factory_image (reachable_run .init _) (by decide) rollbackAccepted_pc rfl 0
      (fun _ => 0xA5) 512 (by decide)⟩

end Debug

-- ============================================================================
-- The debug build: every run settles
-- ============================================================================

/-- main has stopped, handed over, or waits for the button. -/
def MainPc.settled : MainPc → Bool
  | .wfi | .asleep | .testLatch | .booted _ | .halted => true
  | .init | .qspiInit | .bootGo | .readButton | .enableIrq | .inform | .leaveLoop
  | .transfer _ | .rollbackBootGo _ | .returned => false

/-- The event is a step of main. -/
def Event.isRun : Event → Bool
  | .run .. => true
  | .buttonIrq | .wake => false

/-- A bound on the steps of main before it settles: the transfer contributes
    the primitives it may still call. -/
def MainState.rank (b : Board) (s : MainState) : Nat :=
  match s.pc with
  | .init => b.transferOps.length + 6
  | .qspiInit => b.transferOps.length + 5
  | .bootGo => b.transferOps.length + 4
  | .readButton | .leaveLoop => b.transferOps.length + 3
  | .transfer _ => b.transferOps.length + 2 - s.xfer.calls
  | .enableIrq => 2
  | .inform | .rollbackBootGo _ => 1
  | .wfi | .asleep | .testLatch | .booted _ | .halted | .returned => 0

section Settle

variable {b : Board} {s : MainState} {code : UInt32} {r : BootRsp}

/-- A debug-build transfer step lowers the rank. -/
theorem rank_transferStep_lt {c : Caller} (hpc : s.pc = .transfer c)
    (hx : XferInv b s.xfer) (hnx : ¬ s.xfer.Exited) :
    (transferStep .halt b c s code).rank b < s.rank b := by
  have hle := xferInv_calls_le hx hnx
  obtain ⟨p, hp, heq⟩ := @transferStep_eq .halt b s code c hpc
  rcases hp with ⟨rfl, hnx'⟩ | ⟨rfl, -⟩ | rfl <;> simp only [heq, MainState.rank, hpc]
  · have hx' : XferInv b (xferStep .halt b s.xfer code) := xferStep_inv hx
    have hle' := xferInv_calls_le hx' hnx'
    rw [xferStep_calls hnx] at hle' ⊢
    omega
  all_goals omega

/-- Outside the wait and the ends, every step of main lowers the rank. -/
theorem rank_mainStep_lt (h : HandoffInv b s) (hs : s.pc.settled = false) :
    (mainStep .halt b s code r).rank b < s.rank b := by
  unfold HandoffInv at h
  cases hpc : s.pc <;> simp only [hpc, MainPc.settled, Bool.true_eq_false] at h hs
  case transfer c =>
    simp only [mainStep, hpc]; exact rank_transferStep_lt hpc h.2.1 h.2.2
  case rollbackBootGo c =>
    simp only [mainStep, hpc, cyAssert_halt_false]
    split <;> simp [MainState.rank, hpc, doBoot, halt]
  case init | qspiInit =>
    rcases @mainStep_init .halt b s code (by simp [hpc]) r with heq | heq <;>
      simp [heq, MainState.rank, hpc, halt]
  all_goals simp only [mainStep, hpc]
  all_goals try split
  all_goals simp [MainState.rank, hpc, doBoot, rollback, XferState.calls, XferState.init]

/-- Interrupts and wake-ups leave the rank of an unsettled main alone. -/
theorem rank_step_of_not_run {e : Event} (he : e.isRun = false) (hs : s.pc.settled = false) :
    (step .halt b s e).rank b = s.rank b := by
  cases e with
  | run => simp [Event.isRun] at he
  | buttonIrq => simp only [step_buttonIrq]; split <;> rfl
  | wake =>
    have : s.pc ≠ .asleep := fun hpc => by simp [hpc, MainPc.settled] at hs
    simp [wakeUp, this]

/-- In a debug build main settles: from any reachable state, once main has
    taken as many steps as the rank, whatever the oracles return and however
    interrupts and wake-ups interleave, some prefix of the run ends in the
    handoff, a halt, or the wait for the button. -/
theorem main_debug_settles (h : Reachable .halt b s) (es : List Event)
    (hes : s.rank b ≤ es.countP Event.isRun) :
    ∃ k, (run .halt b s (es.take k)).pc.settled = true := by
  induction es generalizing s with
  | nil =>
    refine ⟨0, ?_⟩
    by_contra hs
    have : (mainStep .halt b s 0 ⟨0, 0⟩).rank b < s.rank b :=
      rank_mainStep_lt (handoffInv_reachable h) (by simpa using hs)
    simp at hes; omega
  | cons e es ih =>
    by_cases hs : s.pc.settled = true
    · exact ⟨0, by simpa using hs⟩
    · have hs' : s.pc.settled = false := by simpa using hs
      have hrank : (step .halt b s e).rank b ≤ es.countP Event.isRun := by
        cases he : e.isRun
        · rw [rank_step_of_not_run he hs']; simpa [he] using hes
        · cases e with
          | run code r =>
            have : (mainStep .halt b s code r).rank b < s.rank b :=
              rank_mainStep_lt (handoffInv_reachable h) hs'
            simp [Event.isRun] at hes; simp only [step_run]; omega
          | buttonIrq | wake => simp [Event.isRun] at he
      obtain ⟨k, hk⟩ := ih (h.step e) hrank
      exact ⟨k + 1, by simpa using hk⟩

theorem main_debug_settles_from_reset :
    (MainState.init twoRowFactory.plat).rank twoRowFactory ≤
        (List.replicate 12 (Event.run 0 ⟨0, 0⟩)).countP Event.isRun ∧
      ∃ k, (run .halt twoRowFactory (MainState.init twoRowFactory.plat)
        ((List.replicate 12 (Event.run 0 ⟨0, 0⟩)).take k)).pc.settled = true :=
  ⟨by decide, main_debug_settles .init _ (by decide)⟩

end Settle

-- ============================================================================
-- The NDEBUG build: a stale handoff and a return
-- ============================================================================

/-- A response `boot_go` can return for a valid image in a primary slot at
    `0x10018000` with a 1 KiB header. -/
def validRsp : BootRsp := ⟨0x10018000, 0x400⟩

/-- main's `boot_go` accepts the primary slot and the button is held; the
    transfer's seven primitives succeed; the rollback's `boot_go` rejects the
    copied image. -/
def rollbackRejected : List Event :=
  [.run 0 ⟨0, 0⟩, .run 0 ⟨0, 0⟩, .run 0 validRsp, .run USER_BTN_PRESSED ⟨0, 0⟩] ++
    List.replicate 7 (.run CY_RSLT_SUCCESS ⟨0, 0⟩) ++ [.run 1 ⟨0, 0⟩]

/-- main's `boot_go` fails and the user presses the button; then
    `flash_area_open` fails, and so does the rollback's `boot_go`. -/
def waitThenOpenFails : List Event :=
  [.run 0 ⟨0, 0⟩, .run 0 ⟨0, 0⟩, .run 1 ⟨0, 0⟩, .run 0 ⟨0, 0⟩, .run 0 ⟨0, 0⟩, .buttonIrq,
    .run 0 ⟨0, 0⟩, .wake, .run 0 ⟨0, 0⟩, .run 0 ⟨0, 0⟩, .run 1 ⟨0, 0⟩, .run 1 ⟨0, 0⟩]

/-- On a two-row slot: in a debug build the rejected rollback halts; under
    `NDEBUG` main hands the CM4 the response validated before the erase and
    the two writes, and after a rollback from the wait main returns. -/
theorem main_ndebug_stale_handoff :
    (run .halt twoRowFactory (MainState.init psoc6) rollbackRejected).pc = .halted ∧
      (run .ndebug twoRowFactory (MainState.init psoc6) rollbackRejected).pc =
        .booted ⟨msgApplication, validRsp.appAddr, some 0⟩ ∧
      (run .ndebug twoRowFactory (MainState.init psoc6) rollbackRejected).slotWrites = 3 ∧
      (run .ndebug twoRowFactory (MainState.init psoc6) waitThenOpenFails).pc = .returned := by
  set_option maxRecDepth 20000 in decide

end RollbackBoot
