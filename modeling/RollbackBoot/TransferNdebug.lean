/-
  RollbackBoot.TransferNdebug

  `transfer_factory_image` when `NDEBUG` empties `CY_ASSERT`.

  Every `CY_ASSERT(0)` of the function sits in a branch that has already set
  `result` to the failing status, except two: the magic mismatch and the
  row-size check before the copy loop.  So when the factory region holds
  `IMAGE_MAGIC` and the slot is a whole number of rows, an `NDEBUG` run is the
  debug run with its halt replaced by a `return` of the failing status
  (`xferRun_ndebug`): it returns the status the debug build halts on, and it
  keeps every guarantee of the debug build (`transferFactoryImage_ndebug`).
  Without the magic it does not: the mismatch falls through to the copy loop
  with `result` still `CY_RSLT_SUCCESS`, and the slot is written without the
  erase (`transfer_ndebug_bad_magic`).
-/

import RollbackBoot.TransferLog

namespace RollbackBoot

-- ============================================================================
-- A halt that returns
-- ============================================================================

/-- Where a debug build halts, an `NDEBUG` build falls through to the
    `return` of `result`. -/
def XferState.unhalt (s : XferState) : XferState :=
  if s.pc = .halted then { s with pc := .done } else s

section Unhalt

variable {s : XferState}

@[simp] theorem unhalt_ops : s.unhalt.ops = s.ops := by
  unfold XferState.unhalt; split <;> rfl

@[simp] theorem unhalt_result : s.unhalt.result = s.result := by
  unfold XferState.unhalt; split <;> rfl

theorem unhalt_of_ne (h : s.pc ≠ .halted) : s.unhalt = s := if_neg h

theorem unhalt_pc_ne_halted : s.unhalt.pc ≠ .halted := by
  unfold XferState.unhalt; split <;> simp_all

theorem unhalt_pc_of_exited (h : s.Exited) : s.unhalt.pc = .done := by
  unfold XferState.unhalt; split
  · rfl
  · exact h.resolve_right ‹_›

end Unhalt

-- ============================================================================
-- The NDEBUG run simulates the debug run
-- ============================================================================

section Simulation

variable {b : Board} {s : XferState} {code : UInt32}

theorem loopTest_pc_ne_halted (t : XferState) : (loopTest t).pc ≠ .halted := by
  unfold loopTest; split <;> simp

/-- With `IMAGE_MAGIC` in the factory region and a slot of whole rows, one
    `NDEBUG` step is the debug step, with a halt turned into a return. -/
theorem xferStep_ndebug (hm : b.MagicValid) (hS : b.primary.faSize % b.plat.rowSize = 0)
    (hs : s.pc ≠ .halted) : xferStep .ndebug b s code = (xferStep .halt b s code).unhalt := by
  have hm' : leWord (b.extRead b.plat.smifBase 4) = b.plat.imageMagic := hm
  have hS' : (b.primary.faSize % b.plat.rowSize == 0) = true := by simpa using hS
  cases hpc : s.pc
  case halted => exact absurd hpc hs
  case done => simp [xferStep, hpc, XferState.unhalt]
  case readRow | writeRow =>
    by_cases hc : code = CY_RSLT_SUCCESS <;>
      simp only [xferStep, hpc, hc, ne_eq, not_true_eq_false, not_false_eq_true, if_true,
        if_false] <;>
      first
        | exact (unhalt_of_ne (loopTest_pc_ne_halted _)).symm
        | exact (unhalt_of_ne (by simp)).symm
  case erase =>
    by_cases hc : code = CY_RSLT_SUCCESS
    · simp only [xferStep, hpc, eraseCheck, copySetup, hc, hS', cyAssert_true, ne_eq,
        not_true_eq_false, if_false]
      exact (unhalt_of_ne (loopTest_pc_ne_halted _)).symm
    · simp [xferStep, hpc, hc, eraseCheck, XferState.unhalt]
  all_goals
    by_cases hc : code = CY_RSLT_SUCCESS <;>
      simp [xferStep, hpc, hc, hm', magicCheck, eraseCheck, XferState.unhalt]

/-- Under the same conditions a whole `NDEBUG` run is the debug run, with its
    halt turned into a return. -/
theorem xferRun_ndebug (hm : b.MagicValid) (hS : b.primary.faSize % b.plat.rowSize = 0)
    (hs : s.pc ≠ .halted) (cs : List UInt32) :
    xferRun .ndebug b s cs = (xferRun .halt b s cs).unhalt := by
  induction cs generalizing s with
  | nil => exact (unhalt_of_ne hs).symm
  | cons c cs ih =>
    rw [xferRun_cons, xferRun_cons, xferStep_ndebug hm hS hs]
    by_cases hh : (xferStep .halt b s c).pc = .halted
    · rw [xferRun_of_exit (.inr hh), xferRun_of_exit (.inl (unhalt_pc_of_exited (.inr hh)))]
    · rw [unhalt_of_ne hh]
      exact ih hh

/-- A debug run that halted on a board with the magic and whole rows halted
    on a failing primitive, so its log is not a complete successful transfer. -/
theorem xferInv_halted_fails (h : XferInv b s) (hpc : s.pc = .halted) (hm : b.MagicValid)
    (hS : b.primary.faSize % b.plat.rowSize = 0) :
    s.result ≠ CY_RSLT_SUCCESS ∧
      ¬ (s.ops.map Prod.fst = b.transferOps ∧ ∀ e ∈ s.ops, e.2 = CY_RSLT_SUCCESS) := by
  unfold XferInv at h
  rw [hpc] at h
  rcases h with ⟨ho, hr⟩ | ⟨ho, hr⟩ | ⟨-, ho, hr⟩
  · exact ⟨hr, fun ⟨hc, _⟩ => by simp [ho, Board.transferOps, Board.headOps] at hc⟩
  · have hr : s.result ≠ CY_RSLT_SUCCESS := hr.resolve_right (· hm)
    exact ⟨hr, fun ⟨_, hall⟩ => hr (hall (.read b.plat.smifBase 4, s.result) (by simp [ho]))⟩
  · have hr : s.result ≠ CY_RSLT_SUCCESS := hr.resolve_right (· hS)
    exact ⟨hr, fun ⟨_, hall⟩ => hr (hall (.erase 0 b.primary.faSize, s.result) (by simp [ho]))⟩

end Simulation

-- ============================================================================
-- transfer_factory_image, NDEBUG
-- ============================================================================

/-- `transfer_factory_image` under `NDEBUG`, when the factory region holds
    `IMAGE_MAGIC` and the slot is a whole number of rows, for any status codes
    of the primitives: it issues the same operations as the debug build and
    returns the same status; where the debug build does not halt it runs
    exactly as the debug build, and where the debug build halts it returns
    that failing status instead.  The operations are a prefix of
    `transferOps` that stops at the first failing primitive, an erase or a
    write follows a successful magic read, the result is `CY_RSLT_SUCCESS`
    exactly when the whole sequence ran without a failure, and the function
    returns after `2 * rows + 3` primitives. -/
theorem transferFactoryImage_ndebug (b : Board) (hm : b.MagicValid)
    (hS : b.primary.faSize % b.plat.rowSize = 0) (cs : List UInt32) :
    let d := xferRun .halt b (XferState.init b.plat) cs
    let s := xferRun .ndebug b (XferState.init b.plat) cs
    s.ops = d.ops ∧ s.result = d.result ∧ (d.pc ≠ .halted → s = d) ∧
      (d.pc = .halted → s.pc = .done ∧ s.result ≠ CY_RSLT_SUCCESS) ∧ s.pc ≠ .halted ∧
      s.ops.map Prod.fst <+: b.transferOps ∧
      (∀ e ∈ s.ops.dropLast, e.2 = CY_RSLT_SUCCESS) ∧
      ((∃ e ∈ s.ops, e.1.modifiesSlot) →
        s.ops.head? = some (.read b.plat.smifBase 4, CY_RSLT_SUCCESS)) ∧
      (s.pc = .done → (s.result = CY_RSLT_SUCCESS ↔
        s.ops.map Prod.fst = b.transferOps ∧ ∀ e ∈ s.ops, e.2 = CY_RSLT_SUCCESS)) ∧
      (2 * b.rows + 3 ≤ cs.length → s.pc = .done) := by
  have hrun := xferRun_ndebug hm hS (by simp [XferState.init] : (XferState.init b.plat).pc ≠ .halted) cs
  have hi := xferRun_inv (xferInv_init b) cs
  simp only [hrun, unhalt_ops, unhalt_result]
  refine ⟨trivial, trivial, unhalt_of_ne,
    fun hh => ⟨unhalt_pc_of_exited (.inr hh), (xferInv_halted_fails hi hh hm hS).1⟩,
    unhalt_pc_ne_halted, xferInv_log_isPrefixOf hi, xferInv_dropLast_ok hi,
    fun he => (xferInv_modifies hi he).2, fun hd => ?_,
    fun hlen => unhalt_pc_of_exited (xferRun_init_exits b hlen)⟩
  by_cases hh : (xferRun .halt b (XferState.init b.plat) cs).pc = .halted
  · obtain ⟨hr, hnot⟩ := xferInv_halted_fails hi hh hm hS
    exact iff_of_false hr hnot
  · rw [unhalt_of_ne hh] at hd
    exact xferInv_done_success_iff hi hd

/-- The erase fails with status 5: the debug build halts, and under `NDEBUG`
    the function returns 5. -/
theorem twoRowFactory_ndebug :
    let d := xferRun .halt twoRowFactory (XferState.init twoRowFactory.plat) [0, 0, 5]
    let s := xferRun .ndebug twoRowFactory (XferState.init twoRowFactory.plat) [0, 0, 5]
    twoRowFactory.MagicValid ∧ twoRowFactory.primary.faSize % twoRowFactory.plat.rowSize = 0 ∧
      d.pc = .halted ∧ s.result = 5 ∧
      s.ops = d.ops ∧ s.result = d.result ∧ (d.pc ≠ .halted → s = d) ∧
      (d.pc = .halted → s.pc = .done ∧ s.result ≠ CY_RSLT_SUCCESS) ∧ s.pc ≠ .halted ∧
      s.ops.map Prod.fst <+: twoRowFactory.transferOps ∧
      (∀ e ∈ s.ops.dropLast, e.2 = CY_RSLT_SUCCESS) ∧
      ((∃ e ∈ s.ops, e.1.modifiesSlot) →
        s.ops.head? = some (.read twoRowFactory.plat.smifBase 4, CY_RSLT_SUCCESS)) ∧
      (s.pc = .done → (s.result = CY_RSLT_SUCCESS ↔
        s.ops.map Prod.fst = twoRowFactory.transferOps ∧ ∀ e ∈ s.ops, e.2 = CY_RSLT_SUCCESS)) ∧
      (2 * twoRowFactory.rows + 3 ≤ [0, 0, 5].length → s.pc = .done) :=
  have hm : twoRowFactory.MagicValid := by decide
  have hS : twoRowFactory.primary.faSize % twoRowFactory.plat.rowSize = 0 := by decide
  ⟨hm, hS, by decide, by decide, transferFactoryImage_ndebug twoRowFactory hm hS _⟩

-- ============================================================================
-- Without the magic
-- ============================================================================

/-- An erased factory region (all `0xFF`) in front of a one-row primary slot,
    on a PSoC 6. -/
def blankFactory : Board where
  plat := psoc6
  primary := ⟨.imagePrimary 0, .internal, 0x10018000, 512⟩
  ext := fun _ => 0xFF

/-- The `NDEBUG` run of `transfer_factory_image` on `blankFactory` when every
    primitive succeeds. -/
def blankFactoryRun : XferState :=
  xferRun .ndebug blankFactory (XferState.init blankFactory.plat) [0, 0, 0, 0]

/-- Under `NDEBUG`, a factory region without `IMAGE_MAGIC` is copied anyway:
    the magic read is followed by the row read and the row write with no erase,
    and the function returns `CY_RSLT_SUCCESS`. -/
theorem transfer_ndebug_bad_magic :
    ¬ blankFactory.MagicValid ∧ blankFactoryRun.pc = .done ∧
      blankFactoryRun.result = CY_RSLT_SUCCESS ∧
      blankFactoryRun.ops.map Prod.fst =
        [.read 0x18000000 4, .read 0x18000000 512, .write 0 (List.replicate 512 0xFF)] ∧
      ¬ blankFactoryRun.ops.map Prod.fst <+: blankFactory.transferOps := by
  set_option maxRecDepth 20000 in decide

end RollbackBoot
