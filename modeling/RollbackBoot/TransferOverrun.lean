/-
  RollbackBoot.TransferOverrun

  The copy loop of `transfer_factory_image` for a primary slot of any size.

  The loop copies whole rows of `CY_FLASH_SIZEOF_ROW` bytes while
  `index < bytes_to_copy`, so, while its `uint32_t` counters do not wrap, it
  copies `⌈fa_size / CY_FLASH_SIZEOF_ROW⌉` rows (`Board.rowsCeil`).  For a slot
  that is not a whole number of rows the debug build stops at
  `CY_ASSERT((bytes_to_copy % CY_FLASH_SIZEOF_ROW) == 0)`; under `NDEBUG` the
  loop runs, and its last `flash_area_write` ends past the end of the slot.

  With every primitive succeeding the loop runs the same in both builds
  (`xferRun_allOk`); under `NDEBUG` it also runs for a ragged slot, and
  `transfer_ndebug_overruns_slot` follows its last row past the slot.
-/

import RollbackBoot.TransferLog

namespace RollbackBoot

-- ============================================================================
-- The NDEBUG transfer of a slot of any size
-- ============================================================================

section AllOk

variable {b : Board}

/-- Under `NDEBUG`, with `IMAGE_MAGIC` in place and every primitive
    succeeding, the transfer of a slot of any size whose last row ends below
    4 GiB issues the magic read, the erase and `rowsCeil` rows, and returns
    `CY_RSLT_SUCCESS`. -/
theorem xferRun_ndebug_allOk (hm : b.MagicValid) (hR : 0 < b.plat.rowSize.toNat)
    (hfit : b.primary.faSize.toNat + b.plat.rowSize.toNat ≤ 2 ^ 32) :
    let x := xferRun .ndebug b (XferState.init b.plat)
      (List.replicate (2 * b.rowsCeil + 3) CY_RSLT_SUCCESS)
    x.pc = .done ∧ x.result = CY_RSLT_SUCCESS ∧
      x.ops = okLog (b.headOps ++ b.copyOps b.rowsCeil) :=
  xferRun_allOk hm hR (by have := Board.rowsCeil_mul_lt hR; omega) (.inl rfl)

/-- For a slot that is not a whole number of rows, the last row the loop
    copies starts inside the slot and ends past it. -/
theorem Board.last_row_overruns (hR : 0 < b.plat.rowSize.toNat)
    (hS : b.primary.faSize % b.plat.rowSize ≠ 0) :
    ∃ m, b.rowsCeil = m + 1 ∧ m * b.plat.rowSize.toNat < b.primary.faSize.toNat ∧
      b.primary.faSize.toNat < (m + 1) * b.plat.rowSize.toNat := by
  have hS' : b.primary.faSize.toNat % b.plat.rowSize.toNat ≠ 0 := by simpa [u32_eq_iff] using hS
  obtain ⟨m, hn⟩ : ∃ m, b.rowsCeil = m + 1 :=
    Nat.exists_eq_succ_of_ne_zero fun h0 => by
      have := Board.le_rowsCeil_mul hR; rw [h0, Nat.zero_mul] at this
      exact hS' (by rw [Nat.le_zero.1 this, Nat.zero_mod])
  refine ⟨m, hn, (Board.lt_rowsCeil_iff hR).1 (by omega), ?_⟩
  exact Nat.lt_of_le_of_ne (hn ▸ Board.le_rowsCeil_mul hR) fun he => hS' (by rw [he, Nat.mul_mod_left])

/-- The write of row `m` is in the log of a run that copied `m + 1` rows. -/
theorem write_mem_copyOps {pre : List FlashOp} (m : Nat) :
    (FlashOp.write (b.rowDst m) (b.extRead (b.rowSrc m) b.plat.rowSize.toNat), CY_RSLT_SUCCESS) ∈
      okLog (pre ++ b.copyOps (m + 1)) := by
  rw [Board.copyOps_succ]
  exact mem_okLog (by simp [Board.rowOps])

end AllOk

/-- Under `NDEBUG`, with `IMAGE_MAGIC` in the factory region and every
    primitive succeeding, `transfer_factory_image` copies `⌈fa_size / ROW⌉`
    whole rows and returns `CY_RSLT_SUCCESS`, whatever the size of the slot;
    when the slot is not a whole number of rows (where the debug build halts),
    a write it issues ends past the end of the slot.  The slot and one more
    row must fit below 4 GiB. -/
theorem transfer_ndebug_overruns_slot (b : Board) (hm : b.MagicValid)
    (hR : 0 < b.plat.rowSize.toNat)
    (hfit : b.primary.faSize.toNat + b.plat.rowSize.toNat ≤ 2 ^ 32) :
    let x := xferRun .ndebug b (XferState.init b.plat)
      (List.replicate (2 * b.rowsCeil + 3) CY_RSLT_SUCCESS)
    x.pc = .done ∧ x.result = CY_RSLT_SUCCESS ∧
      x.ops = okLog (b.headOps ++ b.copyOps b.rowsCeil) ∧
      (b.primary.faSize % b.plat.rowSize ≠ 0 →
        ∃ off data, (FlashOp.write off data, CY_RSLT_SUCCESS) ∈ x.ops ∧
          b.primary.faSize.toNat < off.toNat + data.length) := by
  obtain ⟨hpc, hres, hops⟩ := xferRun_ndebug_allOk hm hR hfit
  refine ⟨hpc, hres, hops, fun hS => ?_⟩
  obtain ⟨m, hn, hin, hcover⟩ := Board.last_row_overruns hR hS
  refine ⟨b.rowDst m, b.extRead (b.rowSrc m) b.plat.rowSize.toNat, ?_, ?_⟩
  · rw [hops, hn]
    exact write_mem_copyOps m
  · have := u32_toNat_lt b.primary.faSize
    rw [Board.rowDst, u32_toNat_ofNat, Nat.mod_eq_of_lt (by omega)]
    simp only [Board.extRead, List.length_map, List.length_range]
    rwa [Nat.add_mul, Nat.one_mul] at hcover

/-- A PSoC 6 slot of 1000 bytes, two rows less 24 bytes, with a valid
    factory image magic. -/
def raggedFactory : Board :=
  { twoRowFactory with primary := { twoRowFactory.primary with faSize := 1000 } }

theorem raggedFactory_overrun :
    raggedFactory.MagicValid ∧ 0 < raggedFactory.plat.rowSize.toNat ∧
      raggedFactory.primary.faSize.toNat + raggedFactory.plat.rowSize.toNat ≤ 2 ^ 32 ∧
      raggedFactory.primary.faSize % raggedFactory.plat.rowSize ≠ 0 ∧
      raggedFactory.rowsCeil = 2 ∧
      let x := xferRun .ndebug raggedFactory (XferState.init raggedFactory.plat)
        (List.replicate (2 * raggedFactory.rowsCeil + 3) CY_RSLT_SUCCESS)
      x.pc = .done ∧ x.result = CY_RSLT_SUCCESS ∧
        x.ops = okLog (raggedFactory.headOps ++ raggedFactory.copyOps raggedFactory.rowsCeil) ∧
        (raggedFactory.primary.faSize % raggedFactory.plat.rowSize ≠ 0 →
          ∃ off data, (FlashOp.write off data, CY_RSLT_SUCCESS) ∈ x.ops ∧
            raggedFactory.primary.faSize.toNat < off.toNat + data.length) :=
  ⟨by decide, by decide, by decide, by decide, by decide,
    transfer_ndebug_overruns_slot raggedFactory (by decide) (by decide) (by decide)⟩

end RollbackBoot
