/-
  RollbackBoot.Slot

  What `transfer_factory_image` leaves in the primary slot.

  `FlashOp.apply` is the effect of a successful operation on the slot's
  bytes, indexed by offset in the slot: an erase sets its range to the
  flash's erased value, a write stores its bytes, and a read of the external
  flash changes nothing.  `Board.copied k` is the slot after the magic read,
  the erase and the first `k` rows: the factory image below `k` rows, erased
  above.  Each row's read and write take `copied k` to `copied (k + 1)`
  (`slotAfter_rowOps`), so a complete transfer leaves the factory image in
  the whole slot, whatever the slot held before
  (`transfer_success_copies_factory`).  That is the transfer's purpose: it is
  the image the rollback's `boot_go` validates.
-/

import RollbackBoot.TransferLog

namespace RollbackBoot

-- ============================================================================
-- The slot's bytes
-- ============================================================================

/-- A successful flash operation on the primary slot's bytes. -/
def FlashOp.apply (erased : UInt8) (m : Nat → UInt8) : FlashOp → Nat → UInt8
  | .read .. => m
  | .erase off len => fun i =>
    if off.toNat ≤ i ∧ i < off.toNat + len.toNat then erased else m i
  | .write off data => fun i =>
    if off.toNat ≤ i ∧ i < off.toNat + data.length then data.getD (i - off.toNat) 0 else m i

/-- The slot after a sequence of successful operations. -/
def slotAfter (erased : UInt8) (m : Nat → UInt8) (ops : List FlashOp) : Nat → UInt8 :=
  ops.foldl (FlashOp.apply erased) m

section SlotAfter

variable {erased : UInt8} {m : Nat → UInt8}

@[simp] theorem slotAfter_nil : slotAfter erased m [] = m := rfl

@[simp] theorem slotAfter_cons (op : FlashOp) (ops : List FlashOp) :
    slotAfter erased m (op :: ops) = slotAfter erased (op.apply erased m) ops := rfl

theorem slotAfter_append (p q : List FlashOp) :
    slotAfter erased m (p ++ q) = slotAfter erased (slotAfter erased m p) q :=
  List.foldl_append _ _ _ _

end SlotAfter

-- ============================================================================
-- Row by row
-- ============================================================================

namespace Board

variable (b : Board)

/-- The factory image: the external flash from `CY_SMIF_BASE_MEM_OFFSET` on. -/
def factoryImage (i : Nat) : UInt8 := b.ext (b.plat.smifBase.toNat + i)

/-- An erased slot with rows `0 .. k-1` copied into it. -/
def copied (erased : UInt8) (k i : Nat) : UInt8 :=
  if i < k * b.plat.rowSize.toNat then b.factoryImage i else erased

variable {b}

@[simp] theorem extRead_length (off : UInt32) (len : Nat) : (b.extRead off len).length = len := by
  simp [extRead]

theorem extRead_getD {off : UInt32} {len j : Nat} (hj : j < len) :
    (b.extRead off len).getD j 0 = b.ext (off.toNat + j) := by
  simp [extRead, hj]

/-- Row `k < rows` ends inside the slot, whatever the slot's size. -/
theorem row_end_le {k : Nat} (hk : k < b.rows) :
    (k + 1) * b.plat.rowSize.toNat ≤ b.primary.faSize.toNat :=
  (Nat.mul_le_mul_right _ hk).trans (Nat.div_mul_le_self _ _)

theorem rowDst_toNat {k : Nat} (hk : k < b.rows) :
    (b.rowDst k).toNat = k * b.plat.rowSize.toNat := by
  have := row_end_le hk
  have := u32_toNat_lt b.primary.faSize
  rw [rowDst, u32_toNat_ofNat, Nat.mod_eq_of_lt (by rw [Nat.add_mul] at *; omega)]

theorem rowSrc_toNat (hfit : b.plat.smifBase.toNat + b.primary.faSize.toNat ≤ 2 ^ 32)
    {k : Nat} (hk : k < b.rows) :
    (b.rowSrc k).toNat = b.plat.smifBase.toNat + k * b.plat.rowSize.toNat := by
  have := row_end_le hk
  have := rowSize_pos hk
  rw [rowSrc, u32_toNat_ofNat, Nat.mod_eq_of_lt (by rw [Nat.add_mul] at *; omega)]

/-- The magic read and the erase of the whole slot leave it erased. -/
theorem slotAfter_headOps {erased : UInt8} {m : Nat → UInt8} {i : Nat}
    (hi : i < b.primary.faSize.toNat) :
    slotAfter erased m b.headOps i = b.copied erased 0 i := by
  simp [headOps, FlashOp.apply, copied, hi]

/-- The read and the write of row `k` turn a slot holding `k` rows into one
    holding `k + 1`. -/
theorem slotAfter_rowOps (hfit : b.plat.smifBase.toNat + b.primary.faSize.toNat ≤ 2 ^ 32)
    {erased : UInt8} {m : Nat → UInt8} {k i : Nat}
    (hk : k < b.rows) (hm : m i = b.copied erased k i) :
    slotAfter erased m (b.rowOps k) i = b.copied erased (k + 1) i := by
  have hsrc := rowSrc_toNat hfit hk
  simp only [rowOps, slotAfter_cons, slotAfter_nil, FlashOp.apply, rowDst_toNat hk,
    extRead_length]
  by_cases hrow : k * b.plat.rowSize.toNat ≤ i ∧ i < k * b.plat.rowSize.toNat + b.plat.rowSize.toNat
  · rw [if_pos hrow, extRead_getD (by omega), hsrc, copied, if_pos (by rw [Nat.add_mul]; omega),
      factoryImage]
    congr 1
    omega
  · rw [if_neg hrow, hm, copied, copied]
    congr 1
    rw [Nat.add_mul, Nat.one_mul]
    exact propext ⟨fun h => by omega, fun h => by omega⟩

/-- After the magic read, the erase and `k` rows, the slot holds `k` rows. -/
theorem slotAfter_copyOps (hfit : b.plat.smifBase.toNat + b.primary.faSize.toNat ≤ 2 ^ 32)
    {erased : UInt8} {m : Nat → UInt8} :
    ∀ {k : Nat}, k ≤ b.rows → ∀ {i : Nat}, i < b.primary.faSize.toNat →
      slotAfter erased m (b.headOps ++ b.copyOps k) i = b.copied erased k i
  | 0, _, _, hi => slotAfter_headOps hi
  | k + 1, hk, _, hi => by
    rw [copyOps_succ, ← List.append_assoc, slotAfter_append]
    exact slotAfter_rowOps hfit hk (slotAfter_copyOps hfit (Nat.le_of_succ_le hk) hi)

/-- A complete transfer leaves the factory image in the whole slot. -/
theorem slotAfter_transferOps (hfit : b.plat.smifBase.toNat + b.primary.faSize.toNat ≤ 2 ^ 32)
    (hS : b.primary.faSize % b.plat.rowSize = 0) {erased : UInt8} {m : Nat → UInt8} {i : Nat}
    (hi : i < b.primary.faSize.toNat) :
    slotAfter erased m b.transferOps i = b.factoryImage i := by
  rw [transferOps, slotAfter_copyOps hfit (Nat.le_refl _) hi, copied, rows_mul hS, if_pos hi]

end Board

-- ============================================================================
-- The transfer copies the factory image
-- ============================================================================

/-- A debug-build transfer that returned `CY_RSLT_SUCCESS` has left the
    factory image in the slot. -/
theorem xferInv_success_slot {b : Board} {x : XferState} (hx : XferInv b x)
    (hdone : x.pc = .done) (hok : x.result = CY_RSLT_SUCCESS)
    (hfit : b.plat.smifBase.toNat + b.primary.faSize.toNat ≤ 2 ^ 32)
    {erased : UInt8} {m : Nat → UInt8} {i : Nat} (hi : i < b.primary.faSize.toNat) :
    slotAfter erased m (x.ops.map Prod.fst) i = b.factoryImage i := by
  obtain ⟨hS, ho⟩ := xferInv_done_success hx hdone hok
  rw [ho, okLog_map_fst]
  exact Board.slotAfter_transferOps hfit hS hi

/-- When a debug-build `transfer_factory_image` returns `CY_RSLT_SUCCESS`, its
    operations have left the factory image in the whole primary slot, whatever
    the slot held before and whatever an erased byte reads as.  The factory
    region must fit below 4 GiB. -/
theorem transfer_success_copies_factory (b : Board)
    (hfit : b.plat.smifBase.toNat + b.primary.faSize.toNat ≤ 2 ^ 32)
    (cs : List UInt32) (erased : UInt8) (m : Nat → UInt8)
    (hdone : (xferRun .halt b (XferState.init b.plat) cs).pc = .done)
    (hok : (xferRun .halt b (XferState.init b.plat) cs).result = CY_RSLT_SUCCESS)
    (i : Nat) (hi : i < b.primary.faSize.toNat) :
    slotAfter erased m ((xferRun .halt b (XferState.init b.plat) cs).ops.map Prod.fst) i =
      b.factoryImage i :=
  xferInv_success_slot (xferRun_inv (xferInv_init b) cs) hdone hok hfit hi

theorem twoRowFactory_copied :
    let x := xferRun .halt twoRowFactory (XferState.init twoRowFactory.plat) [0, 0, 0, 0, 0, 0, 0]
    twoRowFactory.plat.smifBase.toNat + twoRowFactory.primary.faSize.toNat ≤ 2 ^ 32 ∧
      x.pc = .done ∧ x.result = CY_RSLT_SUCCESS ∧ 1023 < twoRowFactory.primary.faSize.toNat ∧
      slotAfter 0 (fun _ => 0xA5) (x.ops.map Prod.fst) 1023 = twoRowFactory.factoryImage 1023 := by
  have hrun : (xferRun .halt twoRowFactory (XferState.init twoRowFactory.plat)
      [0, 0, 0, 0, 0, 0, 0]).pc = .done ∧
      (xferRun .halt twoRowFactory (XferState.init twoRowFactory.plat)
        [0, 0, 0, 0, 0, 0, 0]).result = CY_RSLT_SUCCESS := by
    set_option maxRecDepth 20000 in decide
  exact ⟨by decide, hrun.1, hrun.2, by decide,
    transfer_success_copies_factory twoRowFactory (by decide) _ 0 (fun _ => 0xA5) hrun.1 hrun.2 1023
      (by decide)⟩

end RollbackBoot
