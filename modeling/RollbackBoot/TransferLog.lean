/-
  RollbackBoot.TransferLog

  The flash operations of `transfer_factory_image` in a debug build, where
  `CY_ASSERT` halts, for any primary slot (one that is not a whole number of
  rows halts at the `CY_ASSERT` before the copy loop).

  `XferInv` says, for each program point, which prefix of `transferOps` the
  log holds: the operations so far all succeeded, except that at an exit the
  last one may have failed.  It holds at entry and every step keeps it
  (`xferStep_inv`), so it holds after any sequence of status codes
  (`xferRun_inv`).  From it:
  * the log is a prefix of `transferOps` and stops at the first failing
    primitive (`xferInv_log_isPrefixOf`, `xferInv_dropLast_ok`);
  * an erase or a write is issued only after the magic read succeeded and
    returned `IMAGE_MAGIC` (`xferInv_modifies`);
  * at `return`, the result is `CY_RSLT_SUCCESS` exactly when the whole of
    `transferOps` ran without a failure (`xferInv_done_success_iff`);
  * the function returns or halts after at most `2 * rows + 3` primitives
    (`xferRun_exits`);
  * with `IMAGE_MAGIC` in place, whole rows and every primitive succeeding,
    it issues all of `transferOps` and returns `CY_RSLT_SUCCESS`
    (`xferRun_debug_allOk`, from `loop_run`, which both builds share).
-/

import RollbackBoot.Transfer

namespace RollbackBoot

-- ============================================================================
-- Logs of successful operations
-- ============================================================================

/-- The log of operations that all returned `CY_RSLT_SUCCESS`. -/
def okLog (ops : List FlashOp) : List (FlashOp × UInt32) := ops.map (·, CY_RSLT_SUCCESS)

@[simp] theorem okLog_nil : okLog [] = [] := rfl

@[simp] theorem okLog_append (p q : List FlashOp) : okLog (p ++ q) = okLog p ++ okLog q :=
  List.map_append _ _ _

@[simp] theorem okLog_cons (op : FlashOp) (p : List FlashOp) :
    okLog (op :: p) = (op, CY_RSLT_SUCCESS) :: okLog p := rfl

@[simp] theorem okLog_map_fst (p : List FlashOp) : (okLog p).map Prod.fst = p := by
  simp [okLog, Function.comp_def]

theorem okLog_codes {p : List FlashOp} {e : FlashOp × UInt32} (he : e ∈ okLog p) :
    e.2 = CY_RSLT_SUCCESS := by
  obtain ⟨op, -, rfl⟩ := List.mem_map.1 he
  rfl

namespace Board

variable (b : Board)

theorem copyOps_zero : b.copyOps 0 = [] := rfl

theorem copyOps_succ (k : Nat) : b.copyOps (k + 1) = b.copyOps k ++ b.rowOps k := by
  simp [copyOps, List.range_succ]

theorem copyOps_isPrefixOf {j k : Nat} (h : j ≤ k) : b.copyOps j <+: b.copyOps k := by
  induction k, h using Nat.le_induction with
  | base => exact List.prefix_refl _
  | succ k _ ih => exact ih.trans (by rw [copyOps_succ]; exact List.prefix_append _ _)

/-- The operations up to and including the read of row `k` form a prefix of a
    complete transfer. -/
theorem readRow_isPrefixOf {k : Nat} (hk : k < b.rows) :
    b.headOps ++ b.copyOps k ++ [.read (b.rowSrc k) b.plat.rowSize.toNat] <+: b.transferOps := by
  have h := b.copyOps_isPrefixOf (Nat.succ_le_of_lt hk)
  rw [copyOps_succ, rowOps] at h
  rw [transferOps, List.append_assoc]
  exact List.prefix_append_right_inj _ |>.2 ((List.prefix_append _ [_]).trans (by simpa using h))

theorem copy_isPrefixOf {k : Nat} (hk : k ≤ b.rows) : b.headOps ++ b.copyOps k <+: b.transferOps :=
  (List.prefix_append_right_inj _).2 (b.copyOps_isPrefixOf hk)

end Board

-- ============================================================================
-- The invariant
-- ============================================================================

/-- The locals at the top of iteration `k` of the copy loop, which is entered
    only after `CY_ASSERT` found the slot a whole number of rows. -/
structure AtRow (b : Board) (s : XferState) (k : Nat) : Prop where
  whole : b.primary.faSize % b.plat.rowSize = 0
  lt_rows : k < b.rows
  index : s.index.toNat = k * b.plat.rowSize.toNat
  bytes : s.bytesToCopy = b.primary.faSize
  src : s.factImgOff = b.rowSrc k
  dst : s.primSlotOff = b.rowDst k

/-- What a debug-build transfer has done when it reaches each program point. -/
def XferInv (b : Board) (s : XferState) : Prop :=
  match s.pc with
  | .openSlot => s.index = 0 ∧ s.ops = []
  | .readMagic => s.index = 0 ∧ s.ops = []
  | .erase => s.index = 0 ∧ b.MagicValid ∧ s.ops = okLog [.read b.plat.smifBase 4]
  | .readRow => b.MagicValid ∧ ∃ k, AtRow b s k ∧ s.ops = okLog (b.headOps ++ b.copyOps k)
  | .writeRow =>
    b.MagicValid ∧ ∃ k, AtRow b s k ∧
      s.ramBuf = b.extRead (b.rowSrc k) b.plat.rowSize.toNat ∧
      s.ops = okLog (b.headOps ++ b.copyOps k ++ [.read (b.rowSrc k) b.plat.rowSize.toNat])
  | .done =>
    b.MagicValid ∧
      ((s.result = CY_RSLT_SUCCESS ∧ b.primary.faSize % b.plat.rowSize = 0 ∧
          s.ops = okLog b.transferOps) ∨
        (s.result ≠ CY_RSLT_SUCCESS ∧ ∃ k < b.rows,
          s.ops = okLog (b.headOps ++ b.copyOps k) ++
              [(.read (b.rowSrc k) b.plat.rowSize.toNat, s.result)] ∨
          s.ops = okLog (b.headOps ++ b.copyOps k ++ [.read (b.rowSrc k) b.plat.rowSize.toNat]) ++
              [(.write (b.rowDst k) (b.extRead (b.rowSrc k) b.plat.rowSize.toNat), s.result)]))
  | .halted =>
    (s.ops = [] ∧ s.result ≠ CY_RSLT_SUCCESS) ∨
      (s.ops = [(.read b.plat.smifBase 4, s.result)] ∧
        (s.result ≠ CY_RSLT_SUCCESS ∨ ¬ b.MagicValid)) ∨
      (b.MagicValid ∧
        s.ops = okLog [.read b.plat.smifBase 4] ++ [(.erase 0 b.primary.faSize, s.result)] ∧
        (s.result ≠ CY_RSLT_SUCCESS ∨ b.primary.faSize % b.plat.rowSize ≠ 0))

theorem xferInv_init (b : Board) : XferInv b (XferState.init b.plat) :=
  ⟨rfl, rfl⟩

-- ============================================================================
-- Row arithmetic
-- ============================================================================

namespace Board

variable {b : Board}

theorem rowSrc_zero : b.rowSrc 0 = b.plat.smifBase := by
  rw [rowSrc, u32_eq_iff, u32_toNat_ofNat, Nat.zero_mul, Nat.add_zero]
  exact Nat.mod_eq_of_lt (u32_toNat_lt _)

theorem rowDst_zero : b.rowDst 0 = 0 := by
  rw [rowDst, u32_eq_iff, u32_toNat_ofNat, Nat.zero_mul]
  rfl

theorem rowSrc_succ (k : Nat) : b.rowSrc k + b.plat.rowSize = b.rowSrc (k + 1) := by
  simp only [rowSrc, u32_eq_iff, u32_toNat_add, u32_toNat_ofNat]
  rw [Nat.mod_add_mod, Nat.add_mul, Nat.one_mul, Nat.add_assoc]

theorem rowDst_succ (k : Nat) : b.rowDst k + b.plat.rowSize = b.rowDst (k + 1) := by
  simp only [rowDst, u32_eq_iff, u32_toNat_add, u32_toNat_ofNat]
  rw [Nat.mod_add_mod, Nat.add_mul, Nat.one_mul]

/-- A slot that is a whole number of rows is `rows` rows long. -/
theorem rows_mul (hS : b.primary.faSize % b.plat.rowSize = 0) :
    b.rows * b.plat.rowSize.toNat = b.primary.faSize.toNat := by
  have h : b.primary.faSize.toNat % b.plat.rowSize.toNat = 0 := by
    simpa [u32_eq_iff] using hS
  exact Nat.div_mul_cancel (Nat.dvd_of_mod_eq_zero h)

theorem rowSize_pos {k : Nat} (hk : k < b.rows) : 0 < b.plat.rowSize.toNat :=
  Nat.pos_of_ne_zero fun h => by simp [rows, h] at hk

/-- The loop counter after row `k` does not wrap. -/
theorem index_succ (hS : b.primary.faSize % b.plat.rowSize = 0) {k : Nat} (hk : k < b.rows)
    {i : UInt32} (hi : i.toNat = k * b.plat.rowSize.toNat) :
    (i + b.plat.rowSize).toNat = (k + 1) * b.plat.rowSize.toNat := by
  have hle : (k + 1) * b.plat.rowSize.toNat ≤ b.primary.faSize.toNat :=
    rows_mul hS ▸ Nat.mul_le_mul_right _ hk
  have := u32_toNat_lt b.primary.faSize
  rw [Nat.add_mul, Nat.one_mul] at hle ⊢
  rw [u32_toNat_add_of_lt (by omega), hi]

end Board

-- ============================================================================
-- One step keeps the invariant
-- ============================================================================

section Preservation

variable {b : Board} {s : XferState} {code : UInt32}

/-- The loop test, reached with rows `0 .. j-1` copied: the read of row `j`,
    or the `return` once every row is copied. -/
theorem xferInv_loopTest (hS : b.primary.faSize % b.plat.rowSize = 0) (hm : b.MagicValid)
    {t : XferState} {j : Nat} (hj : j ≤ b.rows)
    (hidx : t.index.toNat = j * b.plat.rowSize.toNat) (hbytes : t.bytesToCopy = b.primary.faSize)
    (hsrc : t.factImgOff = b.rowSrc j) (hdst : t.primSlotOff = b.rowDst j)
    (hres : t.result = CY_RSLT_SUCCESS) (hops : t.ops = okLog (b.headOps ++ b.copyOps j)) :
    XferInv b (loopTest t) := by
  by_cases hlt : j < b.rows
  · have htest : t.index < t.bytesToCopy := by
      rw [u32_lt_iff, hidx, hbytes, ← Board.rows_mul hS]
      exact Nat.mul_lt_mul_of_pos_right hlt (Board.rowSize_pos hlt)
    simp only [loopTest, htest, if_true, XferInv]
    exact ⟨hm, j, ⟨hS, hlt, hidx, hbytes, hsrc, hdst⟩, hops⟩
  · have hjr : j = b.rows := by omega
    have htest : ¬ t.index < t.bytesToCopy := by
      rw [u32_lt_iff, hidx, hbytes, ← Board.rows_mul hS, hjr]
      exact Nat.lt_irrefl _
    simp only [loopTest, htest, if_false, XferInv]
    exact ⟨hm, .inl ⟨hres, hS, by rw [hops, hjr]; rfl⟩⟩

/-- One step of a debug-build transfer keeps the invariant. -/
theorem xferStep_inv (h : XferInv b s) :
    XferInv b (xferStep .halt b s code) := by
  unfold XferInv at h
  cases hpc : s.pc <;> simp only [hpc] at h
  case openSlot =>
    by_cases hc : code = CY_RSLT_SUCCESS
    · simpa [xferStep, hpc, hc, XferInv] using h
    · simp [xferStep, hpc, hc, XferInv, magicCheck, h.2]
  case readMagic =>
    by_cases hc : code = CY_RSLT_SUCCESS
    · by_cases hmv : b.MagicValid
      · simp_all [xferStep, magicCheck, XferInv, Board.MagicValid, okLog]
      · simp_all [xferStep, magicCheck, XferInv, Board.MagicValid]
    · simp [xferStep, hpc, hc, XferInv, magicCheck, h.2]
  case erase =>
    obtain ⟨hi, hm, ho⟩ := h
    by_cases hc : code = CY_RSLT_SUCCESS
    · by_cases hS : b.primary.faSize % b.plat.rowSize = 0
      · have hS' : (b.primary.faSize % b.plat.rowSize == 0) = true := by simpa using hS
        simp only [xferStep, hpc, eraseCheck, hc, ne_eq, not_true_eq_false, if_false, copySetup,
          hS', cyAssert_true]
        refine xferInv_loopTest hS hm (Nat.zero_le _) (by simp [hi]) rfl Board.rowSrc_zero.symm
          Board.rowDst_zero.symm rfl ?_
        simp [ho, Board.headOps, Board.copyOps_zero]
      · have hS' : (b.primary.faSize % b.plat.rowSize == 0) = false := by simpa using hS
        simp [xferStep, hpc, hc, eraseCheck, copySetup, hS', XferInv, hm, ho, hS]
    · simp [xferStep, hpc, hc, eraseCheck, XferInv, hm, ho]
  case readRow =>
    obtain ⟨hm, k, hk, ho⟩ := h
    by_cases hc : code = CY_RSLT_SUCCESS
    · simp only [xferStep, hpc, hc, ne_eq, not_true_eq_false, if_false, XferInv]
      exact ⟨hm, k, ⟨hk.whole, hk.lt_rows, hk.index, hk.bytes, hk.src, hk.dst⟩, by rw [hk.src],
        by rw [ho, hk.src]; simp⟩
    · simp only [xferStep, hpc, hc, ne_eq, not_false_eq_true, if_true, XferInv]
      exact ⟨hm, .inr ⟨trivial, k, hk.lt_rows, .inl (by rw [ho, hk.src])⟩⟩
  case writeRow =>
    obtain ⟨hm, k, hk, hbuf, ho⟩ := h
    by_cases hc : code = CY_RSLT_SUCCESS
    · simp only [xferStep, hpc, hc, ne_eq, not_true_eq_false, if_false]
      refine xferInv_loopTest hk.whole hm hk.lt_rows
        (Board.index_succ hk.whole hk.lt_rows hk.index) hk.bytes
        (by rw [hk.src, Board.rowSrc_succ]) (by rw [hk.dst, Board.rowDst_succ]) rfl ?_
      simp [ho, hk.dst, hbuf, Board.copyOps_succ, Board.rowOps]
    · simp only [xferStep, hpc, hc, ne_eq, not_false_eq_true, if_true, XferInv]
      exact ⟨hm, .inr ⟨trivial, k, hk.lt_rows, .inr (by rw [ho, hk.dst, hbuf])⟩⟩
  case done => simpa [xferStep, hpc, XferInv] using h
  case halted => simpa [xferStep, hpc, XferInv] using h

/-- A debug-build transfer keeps the invariant over any sequence of codes. -/
theorem xferRun_inv (h : XferInv b s) (cs : List UInt32) : XferInv b (xferRun .halt b s cs) := by
  induction cs generalizing s with
  | nil => exact h
  | cons c cs ih => exact ih (xferStep_inv h)

end Preservation

-- ============================================================================
-- What the invariant says about the log
-- ============================================================================

section Consequences

variable {b : Board} {s : XferState}

/-- The log is a successful run of a prefix `p` of `transferOps`, possibly
    followed by the next operation of `transferOps` with some status code. -/
theorem xferInv_shape (h : XferInv b s) :
    ∃ p, p <+: b.transferOps ∧
      (s.ops = okLog p ∨ ∃ op c, p ++ [op] <+: b.transferOps ∧ s.ops = okLog p ++ [(op, c)]) := by
  have hhead : [FlashOp.read b.plat.smifBase 4] <+: b.transferOps := ⟨_, rfl⟩
  unfold XferInv at h
  split at h
  · exact ⟨[], List.nil_prefix, .inl h.2⟩
  · exact ⟨[], List.nil_prefix, .inl h.2⟩
  · exact ⟨_, hhead, .inl h.2.2⟩
  · obtain ⟨-, k, hk, ho⟩ := h
    exact ⟨_, b.copy_isPrefixOf hk.lt_rows.le, .inl ho⟩
  · obtain ⟨-, k, hk, -, ho⟩ := h
    exact ⟨_, b.readRow_isPrefixOf hk.lt_rows, .inl ho⟩
  · obtain ⟨-, ⟨-, -, ho⟩ | ⟨-, k, hk, ho | ho⟩⟩ := h
    · exact ⟨_, List.prefix_refl _, .inl ho⟩
    · exact ⟨_, b.copy_isPrefixOf hk.le, .inr ⟨_, _, b.readRow_isPrefixOf hk, ho⟩⟩
    · refine ⟨_, b.readRow_isPrefixOf hk, .inr ⟨_, _, ?_, ho⟩⟩
      have := b.copy_isPrefixOf (Nat.succ_le_of_lt hk)
      simpa [Board.copyOps_succ, Board.rowOps] using this
  · rcases h with ⟨ho, -⟩ | ⟨ho, -⟩ | ⟨-, ho, -⟩
    · exact ⟨[], List.nil_prefix, .inl ho⟩
    · exact ⟨[], List.nil_prefix, .inr ⟨_, _, hhead, ho⟩⟩
    · exact ⟨_, hhead, .inr ⟨_, _, ⟨_, rfl⟩, ho⟩⟩

/-- The operations issued are a prefix of a complete transfer. -/
theorem xferInv_log_isPrefixOf (h : XferInv b s) : s.ops.map Prod.fst <+: b.transferOps := by
  obtain ⟨p, hp, ho | ⟨op, c, hpo, ho⟩⟩ := xferInv_shape h
  · simpa [ho] using hp
  · simpa [ho] using hpo

/-- Only the last operation of the log can have failed: the function issues
    nothing after a failing primitive. -/
theorem xferInv_dropLast_ok (h : XferInv b s) :
    ∀ e ∈ s.ops.dropLast, e.2 = CY_RSLT_SUCCESS := by
  obtain ⟨p, -, ho | ⟨op, c, -, ho⟩⟩ := xferInv_shape h
  · exact fun e he => okLog_codes (List.dropLast_subset _ (ho ▸ he))
  · rw [ho, List.dropLast_concat]
    exact fun e he => okLog_codes he

/-- An erase or a write is in the log only after the magic read succeeded and
    found `IMAGE_MAGIC`. -/
theorem xferInv_modifies (h : XferInv b s) (hmod : ∃ e ∈ s.ops, e.1.modifiesSlot) :
    b.MagicValid ∧ s.ops.head? = some (.read b.plat.smifBase 4, CY_RSLT_SUCCESS) := by
  obtain ⟨e, he, hme⟩ := hmod
  unfold XferInv at h
  split at h
  · simp [h.2] at he
  · simp [h.2] at he
  · simp [h.2.2, okLog] at he; simp [he, FlashOp.modifiesSlot] at hme
  · obtain ⟨hm, k, -, ho⟩ := h
    exact ⟨hm, by simp [ho, Board.headOps]⟩
  · obtain ⟨hm, k, -, -, ho⟩ := h
    exact ⟨hm, by simp [ho, Board.headOps]⟩
  · obtain ⟨hm, ⟨-, -, ho⟩ | ⟨-, k, -, ho | ho⟩⟩ := h <;>
      exact ⟨hm, by simp [ho, Board.transferOps, Board.headOps]⟩
  · rcases h with ⟨ho, -⟩ | ⟨ho, -⟩ | ⟨hm, ho, -⟩
    · simp [ho] at he
    · simp [ho] at he; simp [he, FlashOp.modifiesSlot] at hme
    · exact ⟨hm, by simp [ho]⟩

/-- At `return`, the result is `CY_RSLT_SUCCESS` exactly when the log is the
    complete transfer with every operation successful. -/
theorem xferInv_done_success_iff (h : XferInv b s) (hpc : s.pc = .done) :
    s.result = CY_RSLT_SUCCESS ↔
      s.ops.map Prod.fst = b.transferOps ∧ ∀ e ∈ s.ops, e.2 = CY_RSLT_SUCCESS := by
  unfold XferInv at h
  rw [hpc] at h
  obtain ⟨-, ⟨hr, -, ho⟩ | ⟨hr, k, -, ho | ho⟩⟩ := h
  · exact ⟨fun _ => ⟨by simp [ho], fun e he => okLog_codes (ho ▸ he)⟩, fun _ => hr⟩
  all_goals
    exact ⟨fun h => absurd h hr, fun ⟨_, hall⟩ =>
      absurd (hall _ (ho ▸ List.mem_append_right _ (List.mem_singleton_self _))) hr⟩

/-- A successful return follows the complete transfer of a slot that is a
    whole number of rows. -/
theorem xferInv_done_success (h : XferInv b s) (hpc : s.pc = .done)
    (hr : s.result = CY_RSLT_SUCCESS) :
    b.primary.faSize % b.plat.rowSize = 0 ∧ s.ops = okLog b.transferOps := by
  unfold XferInv at h
  rw [hpc] at h
  obtain ⟨-, ⟨-, hS, ho⟩ | ⟨hr', -⟩⟩ := h
  · exact ⟨hS, ho⟩
  · exact absurd hr hr'

end Consequences

-- ============================================================================
-- Termination
-- ============================================================================

section Termination

variable {mode : AssertMode} {b : Board} {s : XferState} {code : UInt32}

/-- The function has returned or halted. -/
def XferState.Exited (s : XferState) : Prop := s.pc = .done ∨ s.pc = .halted

/-- Primitives called so far: one per logged operation, plus the open. -/
def XferState.calls (s : XferState) : Nat := s.ops.length + if s.pc = .openSlot then 0 else 1

@[simp] theorem loopTest_ops : (loopTest s).ops = s.ops := by
  unfold loopTest; split <;> rfl

theorem loopTest_pc : (loopTest s).pc ≠ .openSlot := by
  unfold loopTest; split <;> simp

@[simp] theorem copySetup_ops : (copySetup mode b s).ops = s.ops :=
  cyAssert_elim (fun t : XferState => t.ops = s.ops) rfl loopTest_ops

theorem copySetup_pc : (copySetup mode b s).pc ≠ .openSlot :=
  cyAssert_elim (fun t : XferState => t.pc ≠ .openSlot) (by simp) loopTest_pc

@[simp] theorem eraseCheck_ops : (eraseCheck mode b s).ops = s.ops := by
  unfold eraseCheck; split
  · exact cyAssert_elim (fun t : XferState => t.ops = s.ops) rfl rfl
  · exact copySetup_ops

theorem eraseCheck_pc : (eraseCheck mode b s).pc ≠ .openSlot := by
  unfold eraseCheck; split
  · exact cyAssert_elim (fun t : XferState => t.pc ≠ .openSlot) (by simp) (by simp)
  · exact copySetup_pc

@[simp] theorem magicCheck_ops : (magicCheck mode b s).ops = s.ops := by
  unfold magicCheck; split_ifs
  · exact cyAssert_elim (fun t : XferState => t.ops = s.ops) rfl eraseCheck_ops
  · exact cyAssert_elim (fun t : XferState => t.ops = s.ops) rfl eraseCheck_ops
  · rfl

theorem magicCheck_pc : (magicCheck mode b s).pc ≠ .openSlot := by
  unfold magicCheck; split_ifs
  · exact cyAssert_elim (fun t : XferState => t.pc ≠ .openSlot) (by simp) eraseCheck_pc
  · exact cyAssert_elim (fun t : XferState => t.pc ≠ .openSlot) (by simp) eraseCheck_pc
  · simp

/-- No step returns to the open. -/
theorem xferStep_pc_ne_openSlot : (xferStep mode b s code).pc ≠ .openSlot := by
  by_cases hc : code = CY_RSLT_SUCCESS <;> cases hpc : s.pc <;>
    simp only [xferStep, hpc, hc, ne_eq, not_true_eq_false, not_false_eq_true, if_true, if_false]
  all_goals first
    | exact magicCheck_pc
    | exact eraseCheck_pc
    | exact loopTest_pc
    | exact cyAssert_elim (fun t : XferState => t.pc ≠ .openSlot) (by simp) magicCheck_pc
    | simp [hpc]

/-- Every step before an exit logs one operation, except the open. -/
theorem xferStep_ops_length (hex : ¬ s.Exited) :
    (xferStep mode b s code).ops.length = s.ops.length + if s.pc = .openSlot then 0 else 1 := by
  obtain ⟨hd, hh⟩ := not_or.1 hex
  cases hpc : s.pc with
  | openSlot =>
    simp only [xferStep, hpc, if_true, Nat.add_zero]
    split
    · exact congrArg List.length
        (cyAssert_elim (fun t : XferState => t.ops = s.ops) rfl magicCheck_ops)
    · rfl
  | readMagic | erase => simp [xferStep, hpc]
  | readRow | writeRow => simp only [xferStep, hpc]; split <;> simp
  | done => exact absurd hpc hd
  | halted => exact absurd hpc hh

/-- Every step before an exit calls one more primitive. -/
theorem xferStep_calls (hex : ¬ s.Exited) : (xferStep mode b s code).calls = s.calls + 1 := by
  simp only [XferState.calls, xferStep_ops_length hex, xferStep_pc_ne_openSlot, if_false]

theorem Board.copyOps_length (b : Board) (k : Nat) : (b.copyOps k).length = 2 * k := by
  induction k with
  | zero => rfl
  | succ k ih => simp [Board.copyOps_succ, ih, Board.rowOps]; omega

/-- Before an exit, a debug-build transfer has called at most as many
    primitives as a complete transfer logs. -/
theorem xferInv_calls_le (h : XferInv b s) (hex : ¬ s.Exited) :
    s.calls ≤ b.transferOps.length := by
  have hT : b.transferOps.length = 2 * b.rows + 2 := by
    simp [Board.transferOps, Board.headOps, Board.copyOps_length]
  simp only [XferState.Exited, not_or] at hex
  unfold XferInv at h
  rw [hT, XferState.calls]
  cases hpc : s.pc <;> simp only [hpc] at h hex
  case openSlot => simp [h.2]
  case readMagic => simp [h.2]
  case erase => simp [h.2.2, okLog]
  case readRow =>
    obtain ⟨-, k, hk, ho⟩ := h
    have := hk.lt_rows
    simp [ho, Board.headOps, Board.copyOps_length, okLog]; omega
  case writeRow =>
    obtain ⟨-, k, hk, -, ho⟩ := h
    have := hk.lt_rows
    simp [ho, Board.headOps, Board.copyOps_length, okLog]; omega
  all_goals simp at hex

/-- A debug-build transfer returns or halts once the primitives have returned
    enough codes: `2 * rows + 3` from entry. -/
theorem xferRun_exits (h : XferInv b s)
    (cs : List UInt32) (hlen : b.transferOps.length + 1 ≤ s.calls + cs.length) :
    (xferRun .halt b s cs).Exited := by
  induction cs generalizing s with
  | nil =>
    by_contra hex
    have := xferInv_calls_le h hex
    simp at hlen; omega
  | cons c cs ih =>
    by_cases hex : s.Exited
    · rw [xferRun_of_exit hex]; exact hex
    · refine ih (xferStep_inv h) ?_
      rw [xferStep_calls hex]; simp at hlen; omega

/-- From entry, `2 * rows + 3` primitives are enough for the function to
    return or halt. -/
theorem xferRun_init_exits (b : Board) {cs : List UInt32} (hlen : 2 * b.rows + 3 ≤ cs.length) :
    (xferRun .halt b (XferState.init b.plat) cs).Exited := by
  refine xferRun_exits (xferInv_init b) cs ?_
  simp [Board.transferOps, Board.headOps, Board.copyOps_length, XferState.calls,
    XferState.init]
  omega

end Termination

-- ============================================================================
-- Every primitive succeeding
-- ============================================================================

namespace Board

variable (b : Board)

/-- `⌈fa_size / CY_FLASH_SIZEOF_ROW⌉`: the rows the loop copies while its
    counters do not wrap. -/
def rowsCeil : Nat :=
  (b.primary.faSize.toNat + b.plat.rowSize.toNat - 1) / b.plat.rowSize.toNat

variable {b}

/-- The loop copies row `k` exactly when the row starts inside the slot. -/
theorem lt_rowsCeil_iff (hR : 0 < b.plat.rowSize.toNat) {k : Nat} :
    k < b.rowsCeil ↔ k * b.plat.rowSize.toNat < b.primary.faSize.toNat := by
  rw [rowsCeil, ← Nat.add_one_le_iff, Nat.le_div_iff_mul_le hR, Nat.add_mul, Nat.one_mul]
  omega

/-- The rows cover the slot. -/
theorem le_rowsCeil_mul (hR : 0 < b.plat.rowSize.toNat) :
    b.primary.faSize.toNat ≤ b.rowsCeil * b.plat.rowSize.toNat :=
  Nat.le_of_not_lt fun h => Nat.lt_irrefl _ ((lt_rowsCeil_iff hR).2 h)

/-- The rows overshoot the slot by less than one row. -/
theorem rowsCeil_mul_lt (hR : 0 < b.plat.rowSize.toNat) :
    b.rowsCeil * b.plat.rowSize.toNat < b.primary.faSize.toNat + b.plat.rowSize.toNat := by
  cases h : b.rowsCeil with
  | zero => omega
  | succ m =>
    have := (lt_rowsCeil_iff hR).1 (show m < b.rowsCeil by omega)
    rw [Nat.add_mul, Nat.one_mul]
    omega

/-- A slot of whole rows is copied in `rows` rows. -/
theorem rowsCeil_eq_rows (hR : 0 < b.plat.rowSize.toNat)
    (hS : b.primary.faSize % b.plat.rowSize = 0) : b.rowsCeil = b.rows := by
  have h : b.primary.faSize.toNat % b.plat.rowSize.toNat = 0 := by simpa [u32_eq_iff] using hS
  obtain ⟨q, hq⟩ := Nat.dvd_of_mod_eq_zero h
  rw [rowsCeil, rows, hq, Nat.mul_div_cancel_left q hR]
  apply Nat.div_eq_of_lt_le
  · rw [Nat.mul_comm]; omega
  · rw [Nat.add_mul, Nat.one_mul, Nat.mul_comm q]; omega

end Board

section Loop

variable {mode : AssertMode} {b : Board}

theorem mem_okLog {op : FlashOp} {p : List FlashOp} (h : op ∈ p) :
    (op, CY_RSLT_SUCCESS) ∈ okLog p :=
  List.mem_map_of_mem _ h

/-- The loop test, reached with rows `0 .. j-1` copied after the operations
    `pre`: when every primitive succeeds, the loop copies rows
    `j .. rowsCeil-1` and returns `CY_RSLT_SUCCESS`, in either build.  The
    counters do not wrap while the last row ends below 4 GiB. -/
theorem loop_run (hR : 0 < b.plat.rowSize.toNat)
    (hfit : b.rowsCeil * b.plat.rowSize.toNat < 2 ^ 32) (pre : List FlashOp) :
    ∀ (d : Nat) {j : Nat} {t : XferState}, j + d = b.rowsCeil →
      t.index.toNat = j * b.plat.rowSize.toNat → t.bytesToCopy = b.primary.faSize →
      t.factImgOff = b.rowSrc j → t.primSlotOff = b.rowDst j → t.result = CY_RSLT_SUCCESS →
      t.ops = okLog (pre ++ b.copyOps j) →
      let x := xferRun mode b (loopTest t) (List.replicate (2 * d) CY_RSLT_SUCCESS)
      x.pc = .done ∧ x.result = CY_RSLT_SUCCESS ∧ x.ops = okLog (pre ++ b.copyOps b.rowsCeil)
  | 0, j, t, hd, hidx, hbytes, _, _, hres, hops => by
    have htest : ¬ t.index < t.bytesToCopy := by
      rw [Nat.add_zero] at hd
      rw [u32_lt_iff, hidx, hbytes, hd]
      exact Nat.not_lt.2 (Board.le_rowsCeil_mul hR)
    simp [loopTest, htest, hres, hops, ← hd]
  | d + 1, j, t, hd, hidx, hbytes, hsrc, hdst, _, hops => by
    have hj : j < b.rowsCeil := by omega
    have htest : t.index < t.bytesToCopy := by
      rw [u32_lt_iff, hidx, hbytes]
      exact (Board.lt_rowsCeil_iff hR).1 hj
    have hidx' : (t.index + b.plat.rowSize).toNat = (j + 1) * b.plat.rowSize.toNat := by
      have hle : (j + 1) * b.plat.rowSize.toNat ≤ b.rowsCeil * b.plat.rowSize.toNat :=
        Nat.mul_le_mul_right _ hj
      rw [Nat.add_mul, Nat.one_mul] at hle ⊢
      rw [u32_toNat_add_of_lt (by omega), hidx]
    rw [show 2 * (d + 1) = 2 * d + 1 + 1 by omega, List.replicate_succ, List.replicate_succ,
      xferRun_cons, xferRun_cons, loopTest, if_pos htest]
    simp only [xferStep, ne_eq, not_true_eq_false, if_false]
    exact loop_run hR hfit pre d (by omega) hidx' hbytes (by rw [hsrc, Board.rowSrc_succ])
      (by rw [hdst, Board.rowDst_succ]) rfl
      (by simp [hops, hsrc, hdst, Board.copyOps_succ, Board.rowOps])

/-- With `IMAGE_MAGIC` in place and every primitive succeeding, the transfer
    issues the magic read, the erase and `rowsCeil` rows, and returns
    `CY_RSLT_SUCCESS`: under `NDEBUG` for a slot of any size, in a debug build
    for one of whole rows. -/
theorem xferRun_allOk (hm : b.MagicValid) (hR : 0 < b.plat.rowSize.toNat)
    (hfit : b.rowsCeil * b.plat.rowSize.toNat < 2 ^ 32)
    (hpass : mode = .ndebug ∨ b.primary.faSize % b.plat.rowSize = 0) :
    let x := xferRun mode b (XferState.init b.plat)
      (List.replicate (2 * b.rowsCeil + 3) CY_RSLT_SUCCESS)
    x.pc = .done ∧ x.result = CY_RSLT_SUCCESS ∧
      x.ops = okLog (b.headOps ++ b.copyOps b.rowsCeil) := by
  have hm' : leWord (b.extRead b.plat.smifBase 4) = b.plat.imageMagic := hm
  have hpass' : ∀ h k : XferState,
      cyAssert mode (b.primary.faSize % b.plat.rowSize == 0) h k = k := by
    rcases hpass with rfl | hS
    · simp
    · simp [hS]
  simp only [List.replicate_succ, xferRun_cons, xferStep, XferState.init, ne_eq,
    not_true_eq_false, if_false, if_true, magicCheck, eraseCheck, copySetup, hm', hpass']
  exact loop_run hR hfit b.headOps b.rowsCeil (Nat.zero_add _) (by simp) rfl
    Board.rowSrc_zero.symm Board.rowDst_zero.symm rfl (by simp [Board.headOps, Board.copyOps_zero])

/-- A debug-build transfer of a slot of whole rows, with `IMAGE_MAGIC` in
    place, whose primitives all succeed issues the whole of `transferOps` and
    returns `CY_RSLT_SUCCESS`, however many codes follow its return. -/
theorem xferRun_debug_allOk (hm : b.MagicValid) (hR : 0 < b.plat.rowSize.toNat)
    (hS : b.primary.faSize % b.plat.rowSize = 0) {cs : List UInt32}
    (hcs : ∀ c ∈ cs, c = CY_RSLT_SUCCESS) (hlen : 2 * b.rows + 3 ≤ cs.length) :
    let x := xferRun .halt b (XferState.init b.plat) cs
    x.pc = .done ∧ x.result = CY_RSLT_SUCCESS ∧ x.ops = okLog b.transferOps := by
  have hfit : b.rowsCeil * b.plat.rowSize.toNat < 2 ^ 32 := by
    rw [Board.rowsCeil_eq_rows hR hS, Board.rows_mul hS]; exact u32_toNat_lt _
  obtain ⟨hpc, hres, hops⟩ := xferRun_allOk hm hR hfit (.inr hS)
  rw [Board.rowsCeil_eq_rows hR hS] at hpc hres hops
  rw [List.eq_replicate_iff.2 ⟨rfl, hcs⟩, ← Nat.add_sub_cancel' hlen, List.replicate_add,
    xferRun_append, xferRun_of_exit (.inl hpc)]
  exact ⟨hpc, hres, hops⟩

end Loop

-- ============================================================================
-- transfer_factory_image, both builds
-- ============================================================================

/-- `transfer_factory_image` in a debug build, for any primary slot and any
    status codes of the primitives: the
    operations it issues are a prefix of `transferOps` that stops at the first
    failing primitive; an erase or a write is issued only after the magic read
    succeeded and found `IMAGE_MAGIC`; at `return` the result is
    `CY_RSLT_SUCCESS` exactly when the whole sequence ran without a failure; and
    after `2 * rows + 3` primitives the function has returned or halted.  With
    `IMAGE_MAGIC` in place, a slot of whole rows and every primitive
    succeeding, it issues the whole of `transferOps` and returns
    `CY_RSLT_SUCCESS`. -/
theorem transferFactoryImage_debug (b : Board) (cs : List UInt32) :
    let s := xferRun .halt b (XferState.init b.plat) cs
    s.ops.map Prod.fst <+: b.transferOps ∧
      (∀ e ∈ s.ops.dropLast, e.2 = CY_RSLT_SUCCESS) ∧
      ((∃ e ∈ s.ops, e.1.modifiesSlot) →
        b.MagicValid ∧ s.ops.head? = some (.read b.plat.smifBase 4, CY_RSLT_SUCCESS)) ∧
      (s.pc = .done → (s.result = CY_RSLT_SUCCESS ↔
        s.ops.map Prod.fst = b.transferOps ∧ ∀ e ∈ s.ops, e.2 = CY_RSLT_SUCCESS)) ∧
      (2 * b.rows + 3 ≤ cs.length → s.Exited) ∧
      (b.MagicValid → 0 < b.plat.rowSize.toNat → b.primary.faSize % b.plat.rowSize = 0 →
        (∀ c ∈ cs, c = CY_RSLT_SUCCESS) → 2 * b.rows + 3 ≤ cs.length →
        s.pc = .done ∧ s.result = CY_RSLT_SUCCESS ∧ s.ops = okLog b.transferOps) := by
  have h := xferRun_inv (xferInv_init b) cs
  exact ⟨xferInv_log_isPrefixOf h, xferInv_dropLast_ok h, xferInv_modifies h,
    xferInv_done_success_iff h, xferRun_init_exits b,
    fun hm hR hS hcs hlen => xferRun_debug_allOk hm hR hS hcs hlen⟩

/-- A two-row primary slot on a PSoC 6 whose factory region holds an image
    header magic followed by zeros. -/
def twoRowFactory : Board where
  plat := psoc6
  primary := ⟨.imagePrimary 0, .internal, 0x10018000, 1024⟩
  ext := fun a => if a = 0x18000000 then 0x3d else if a = 0x18000001 then 0xb8
    else if a = 0x18000002 then 0xf3 else if a = 0x18000003 then 0x96 else 0

end RollbackBoot
