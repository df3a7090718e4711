/-
  RollbackBoot.Footprint

  Where the bootloader's flash operations land.

  The flash primitives address an area by offset from its `fa_off`:
  `flash_area_erase(fa, off, len)` and `flash_area_write(fa, off, buf, len)`
  cover the bytes `[fa_off + off, fa_off + off + len)` of `fa`'s device, while
  `psoc6_smif_read` on the synthetic `fap_extf` reads the external flash at the
  address it is given.  `FlashOp.slotBytes` is the slot-relative range of an
  erase or a write, `FlashArea.place` puts it on the device, and
  `FlashOp.extBytes` is the external range of a read.

  Every erase and write of a complete transfer lies in the slot, and every
  read in `[CY_SMIF_BASE_MEM_OFFSET, + max 4 fa_size)` (`transferOps_slotBytes`,
  `transferOps_extBytes`).  In a debug build the log of every reachable state
  of main is a prefix of that sequence (`xferInv_reachable`).  With the
  board's slot the `primary_1` of `boot_area_descs`, which is what
  `flash_area_open(FLASH_AREA_IMAGE_PRIMARY(0))` returns, the table's layout
  then keeps every erase and write away from the other internal areas, the
  bootloader's own among them (`rollback_flash_footprint`), and every read
  inside the factory region, away from the external areas
  (`rollback_reads_factory_region`).

  Under `NDEBUG` nothing stops the copy at the end of a `primary_1` that is not
  a whole number of rows: with the secondary slot on the internal flash, a
  rollback writes into `secondary_1` (`ndebug_rollback_overwrites_secondary`).
-/

import RollbackBoot.Handoff
import RollbackBoot.TransferOverrun
import Mathlib.Data.List.Pairwise

namespace RollbackBoot

-- ============================================================================
-- The bytes an operation covers
-- ============================================================================

/-- The slot-relative bytes an erase or a write covers; a read of the
    external flash covers none of the slot. -/
def FlashOp.slotBytes : FlashOp → Option ByteRange
  | .read .. => none
  | .erase off len => some ⟨off.toNat, len.toNat⟩
  | .write off data => some ⟨off.toNat, data.length⟩

/-- The external-flash bytes a read covers. -/
def FlashOp.extBytes : FlashOp → Option ByteRange
  | .read off len => some ⟨off.toNat, len⟩
  | .erase .. => none
  | .write .. => none

/-- The device bytes an area-relative range of `a` covers. -/
def FlashArea.place (a : FlashArea) (r : ByteRange) : ByteRange := ⟨a.faOff.toNat + r.start, r.len⟩

/-- The primary slot, as slot-relative bytes. -/
def Board.slot (b : Board) : ByteRange := ⟨0, b.primary.faSize.toNat⟩

/-- The external bytes a transfer reads: the magic word and the slot's worth
    of rows, from `CY_SMIF_BASE_MEM_OFFSET`. -/
def Board.readRange (b : Board) : ByteRange :=
  ⟨b.plat.smifBase.toNat, max 4 b.primary.faSize.toNat⟩

theorem FlashArea.place_subset {a : FlashArea} {r : ByteRange}
    (h : r.Subset ⟨0, a.faSize.toNat⟩) : (a.place r).Subset a.range := by
  rcases ByteRange.subset_iff.1 h with h | ⟨-, h⟩
  · exact ByteRange.subset_iff.2 (.inl h)
  · exact ByteRange.subset_iff.2 (.inr ⟨Nat.le_add_right _ _, by simp only [place, range] at *; omega⟩)

-- ============================================================================
-- A complete transfer
-- ============================================================================

namespace Board

variable {b : Board}

theorem mem_transferOps {op : FlashOp} (hop : op ∈ b.transferOps) :
    op = .read b.plat.smifBase 4 ∨ op = .erase 0 b.primary.faSize ∨
      ∃ k < b.rows, op = .read (b.rowSrc k) b.plat.rowSize.toNat ∨
        op = .write (b.rowDst k) (b.extRead (b.rowSrc k) b.plat.rowSize.toNat) := by
  simpa [transferOps, headOps, copyOps, rowOps, List.mem_flatMap, or_assoc] using hop

/-- Every erase and write of a complete transfer lies inside the slot. -/
theorem transferOps_slotBytes {op : FlashOp} (hop : op ∈ b.transferOps) {r : ByteRange}
    (hr : op.slotBytes = some r) : r.Subset b.slot := by
  rcases mem_transferOps hop with rfl | rfl | ⟨k, hk, rfl | rfl⟩ <;>
    simp only [FlashOp.slotBytes, Option.some.injEq, reduceCtorEq] at hr <;> subst hr
  · exact ByteRange.subset_iff.2 (.inr ⟨le_rfl, by simp [slot]⟩)
  · refine ByteRange.subset_iff.2 (.inr ⟨Nat.zero_le _, ?_⟩)
    have := row_end_le hk
    simp only [slot, extRead_length, rowDst_toNat hk]
    rw [Nat.add_mul, Nat.one_mul] at this
    omega

/-- Every read of a complete transfer lies in the external range from
    `CY_SMIF_BASE_MEM_OFFSET` that the magic word and the slot's rows span. -/
theorem transferOps_extBytes (hfit : b.plat.smifBase.toNat + b.primary.faSize.toNat ≤ 2 ^ 32)
    {op : FlashOp} (hop : op ∈ b.transferOps) {r : ByteRange} (hr : op.extBytes = some r) :
    r.Subset b.readRange := by
  rcases mem_transferOps hop with rfl | rfl | ⟨k, hk, rfl | rfl⟩ <;>
    simp only [FlashOp.extBytes, Option.some.injEq, reduceCtorEq] at hr <;> subst hr
  · exact ByteRange.subset_iff.2 (.inr ⟨le_rfl, by simp only [readRange]; omega⟩)
  · refine ByteRange.subset_iff.2 (.inr ⟨?_, ?_⟩) <;>
      simp only [readRange, rowSrc_toNat hfit hk]
    · omega
    · have := row_end_le hk
      rw [Nat.add_mul, Nat.one_mul] at this
      omega

end Board

-- ============================================================================
-- Every state of a debug-build main
-- ============================================================================

section Reachable

variable {b : Board} {s : MainState}

/-- A debug-build step keeps the transfer's invariant on main's copy of its
    locals: the transfer steps them, `rollback_to_factory_image` starts them
    afresh, and nothing else touches them. -/
theorem xferInv_mainStep (h : XferInv b s.xfer) {code : UInt32} {r : BootRsp} :
    XferInv b (mainStep .halt b s code r).xfer := by
  cases hpc : s.pc
  case init | qspiInit =>
    rcases @mainStep_init .halt b s code (by simp [hpc]) r with heq | heq <;> rw [heq] <;> exact h
  case transfer c =>
    obtain ⟨p, -, heq⟩ := @transferStep_eq .halt b s code c hpc
    simp only [mainStep, hpc, heq]
    exact xferStep_inv h
  case rollbackBootGo c =>
    rcases @mainStep_rollbackBootGo .halt b s code c hpc r with heq | heq | heq <;> rw [heq] <;>
      cases c <;> exact h
  all_goals simp only [mainStep, hpc]
  all_goals try split
  all_goals first | exact h | exact xferInv_init b

theorem xferInv_step (h : XferInv b s.xfer) (e : Event) : XferInv b (step .halt b s e).xfer := by
  cases e with
  | run code r => exact xferInv_mainStep h
  | buttonIrq => simp only [step_buttonIrq]; split <;> exact h
  | wake => simp only [step_wake, wakeUp]; split <;> exact h

/-- In every reachable state of a debug-build main, the transfer's log is one
    that a run of the transfer from entry produces. -/
theorem xferInv_reachable (h : Reachable .halt b s) : XferInv b s.xfer := by
  induction h with
  | init => exact xferInv_init b
  | step e _ ih => exact xferInv_step ih e

theorem reachable_slotBytes (h : Reachable .halt b s) {op : FlashOp}
    (hop : op ∈ s.xfer.ops.map Prod.fst) {r : ByteRange} (hr : op.slotBytes = some r) :
    r.Subset b.slot :=
  Board.transferOps_slotBytes ((xferInv_log_isPrefixOf (xferInv_reachable h)).subset hop) hr

end Reachable

-- ============================================================================
-- The flash map
-- ============================================================================

section Map

variable {b : Board} {s : MainState} {cfg : FlashMapConfig}

theorem primary1_mem_bootAreaDescs :
    (primary1 b.plat cfg).toFlashArea ∈ bootAreaDescs b.plat cfg :=
  List.mem_map_of_mem _ (by simp [bootAreaInits])

/-- In a debug build, whatever the oracles return and however interrupts
    interleave, every erase and write main has issued lies in `primary_1`, and
    is disjoint from every other internal area of `boot_area_descs`, the
    bootloader's own among them.  The board's slot is the one
    `flash_area_open(FLASH_AREA_IMAGE_PRIMARY(0))` finds in the table, and the
    table's configuration is one the layout results cover. -/
theorem rollback_flash_footprint (hcfg : InScope b.plat cfg)
    (hopen : b.primary = (primary1 b.plat cfg).toFlashArea) (h : Reachable .halt b s) :
    ∀ op ∈ s.xfer.ops.map Prod.fst, ∀ r, op.slotBytes = some r →
      (b.primary.place r).Subset b.primary.range ∧
      ∀ a ∈ bootAreaDescs b.plat cfg, a.faDeviceId = .internal → a ≠ b.primary →
        (b.primary.place r).Disjoint a.range := by
  intro op hop r hr
  have hin := FlashArea.place_subset (reachable_slotBytes h hop hr)
  refine ⟨hin, fun a ha had hne => hin.disjoint ?_⟩
  have hsymm : Symmetric fun a a' : FlashArea =>
      a.faDeviceId = .internal ∧ a'.faDeviceId = .internal → a.range.Disjoint a'.range :=
    fun _ _ h hd => (h ⟨hd.2, hd.1⟩).symm
  exact (bootAreaDescs_internal_disjoint hcfg).forall hsymm (hopen ▸ primary1_mem_bootAreaDescs)
    ha hne.symm ⟨by rw [hopen]; rfl, had⟩

/-- A board whose slot is the `primary_1` of the single-image external-flash
    build, with a valid factory image magic. -/
def mapFactory : Board :=
  { twoRowFactory with primary := (primary1 psoc6 singleImageExternal).toFlashArea }

/-- A rollback requested at startup, up to the erase of the slot. -/
def rollbackErased : List Event :=
  [.run 0 ⟨0, 0⟩, .run 0 ⟨0, 0⟩, .run 0 ⟨0, 0⟩, .run USER_BTN_PRESSED ⟨0, 0⟩] ++
    List.replicate 3 (.run CY_RSLT_SUCCESS ⟨0, 0⟩)

theorem mapFactory_footprint :
    let s := run .halt mapFactory (MainState.init mapFactory.plat) rollbackErased
    InScope mapFactory.plat singleImageExternal ∧
      mapFactory.primary = (primary1 mapFactory.plat singleImageExternal).toFlashArea ∧
      Reachable .halt mapFactory s ∧
      s.xfer.ops.map Prod.fst = [.read 0x18000000 4, .erase 0 0x1C0000] ∧
      ∀ op ∈ s.xfer.ops.map Prod.fst, ∀ r, op.slotBytes = some r →
        (mapFactory.primary.place r).Subset mapFactory.primary.range ∧
        ∀ a ∈ bootAreaDescs mapFactory.plat singleImageExternal, a.faDeviceId = .internal →
          a ≠ mapFactory.primary → (mapFactory.primary.place r).Disjoint a.range :=
  have hcfg : InScope mapFactory.plat singleImageExternal := ⟨.inl rfl, rfl, by decide⟩
  ⟨hcfg, rfl, reachable_run .init _, by decide,
    rollback_flash_footprint hcfg rfl (reachable_run .init _)⟩

/-- In a debug build every byte main has read from the external flash lies in
    the factory region `[CY_SMIF_BASE_MEM_OFFSET, + CY_FACT_APP_SIZE)`, so it
    never reads an external area of `boot_area_descs` (an external secondary
    slot).  `primary_1` must be no larger than `CY_FACT_APP_SIZE`, the region
    must hold the magic word, and it must end below 4 GiB. -/
theorem rollback_reads_factory_region (hcfg : OffsetsFit b.plat cfg)
    (hopen : b.primary = (primary1 b.plat cfg).toFlashArea)
    (hsize : cfg.primary1Size ≤ cfg.factAppSize) (hmagic : 4 ≤ cfg.factAppSize)
    (hfit : b.plat.smifBase.toNat + cfg.factAppSize ≤ 2 ^ 32) (h : Reachable .halt b s) :
    ∀ op ∈ s.xfer.ops.map Prod.fst, ∀ r, op.extBytes = some r →
      r.Subset (factoryRegion b.plat cfg) ∧
      ∀ a ∈ bootAreaDescs b.plat cfg, a.faDeviceId = .external cfg.externalDeviceIndex →
        r.Disjoint a.range := by
  intro op hop r hr
  have hS : b.primary.faSize.toNat ≤ cfg.factAppSize := by
    rw [hopen, primary1, AreaInit.toFlashArea]
    exact (u32_toNat_ofNat _ ▸ Nat.mod_le _ _).trans hsize
  have hread := Board.transferOps_extBytes (by omega)
    ((xferInv_log_isPrefixOf (xferInv_reachable h)).subset hop) hr
  have hsub : r.Subset (factoryRegion b.plat cfg) := fun x hx => by
    have := hread x hx
    simp only [ByteRange.Contains, Board.readRange, factoryRegion] at this ⊢
    omega
  exact ⟨hsub, fun a ha hd => hsub.disjoint (factoryRegion_precedes_external hcfg a ha hd).disjoint⟩

theorem mapFactory_reads :
    let s := run .halt mapFactory (MainState.init mapFactory.plat) rollbackErased
    OffsetsFit mapFactory.plat singleImageExternal ∧
      mapFactory.primary = (primary1 mapFactory.plat singleImageExternal).toFlashArea ∧
      singleImageExternal.primary1Size ≤ singleImageExternal.factAppSize ∧
      4 ≤ singleImageExternal.factAppSize ∧
      mapFactory.plat.smifBase.toNat + singleImageExternal.factAppSize ≤ 2 ^ 32 ∧
      Reachable .halt mapFactory s ∧
      ∀ op ∈ s.xfer.ops.map Prod.fst, ∀ r, op.extBytes = some r →
        r.Subset (factoryRegion mapFactory.plat singleImageExternal) ∧
        ∀ a ∈ bootAreaDescs mapFactory.plat singleImageExternal,
          a.faDeviceId = .external singleImageExternal.externalDeviceIndex → r.Disjoint a.range :=
  have hfit : OffsetsFit mapFactory.plat singleImageExternal := by decide
  ⟨hfit, rfl, le_rfl, by decide, by decide, reachable_run .init _,
    rollback_reads_factory_region hfit rfl le_rfl (by decide) (by decide) (reachable_run .init _)⟩

/-- With the secondary slot on the internal flash, `secondary_1` begins at
    the byte after `primary_1`. -/
theorem secondary1_follows_primary1 {p : Platform} (hfit : OffsetsFit p cfg)
    (hext : cfg.useExternalFlash = false) :
    (secondary1 p cfg).toFlashArea.faOff.toNat =
      (primary1 p cfg).toFlashArea.faOff.toNat + (primary1 p cfg).toFlashArea.faSize.toNat := by
  have h1 := hfit (primary1 p cfg) (by simp [bootAreaInits])
  have h2 := hfit (secondary1 p cfg) (by simp [bootAreaInits])
  simp only [primary1, secondary1, hext, Bool.false_eq_true, if_false, AreaInit.toFlashArea]
    at h1 h2 ⊢
  rw [u32_toNat_ofNat, u32_toNat_ofNat, u32_toNat_ofNat, Nat.mod_eq_of_lt h1,
    Nat.mod_eq_of_lt h2, Nat.mod_eq_of_lt (by omega)]

/-- Under `NDEBUG`, with the secondary slot on the internal flash
    (`CY_BOOT_USE_EXTERNAL_FLASH` undefined) and `primary_1` not a whole number
    of rows, a transfer whose primitives all succeed reports
    `CY_RSLT_SUCCESS` and has written into `secondary_1`: the last row's write
    runs past the end of `primary_1` into the area after it. -/
theorem ndebug_rollback_overwrites_secondary (hcfg : InScope b.plat cfg)
    (hext : cfg.useExternalFlash = false) (hopen : b.primary = (primary1 b.plat cfg).toFlashArea)
    (hm : b.MagicValid) (hR : 0 < b.plat.rowSize.toNat)
    (hfit : b.primary.faSize.toNat + b.plat.rowSize.toNat ≤ 2 ^ 32)
    (hS : b.primary.faSize % b.plat.rowSize ≠ 0)
    (hsec : (secondary1 b.plat cfg).toFlashArea.faSize ≠ 0) :
    let x := xferRun .ndebug b (XferState.init b.plat)
      (List.replicate (2 * b.rowsCeil + 3) CY_RSLT_SUCCESS)
    x.pc = .done ∧ x.result = CY_RSLT_SUCCESS ∧
      ∃ op ∈ x.ops.map Prod.fst, ∃ r, op.slotBytes = some r ∧
        ¬ (b.primary.place r).Disjoint (secondary1 b.plat cfg).toFlashArea.range := by
  intro x
  obtain ⟨hpc, hres, hops⟩ := xferRun_ndebug_allOk hm hR hfit
  obtain ⟨m, hn, hin, hcover⟩ := Board.last_row_overruns hR hS
  have hw : FlashOp.write (b.rowDst m) (b.extRead (b.rowSrc m) b.plat.rowSize.toNat) ∈
      x.ops.map Prod.fst := by
    rw [hops, hn]
    exact List.mem_map_of_mem Prod.fst (write_mem_copyOps m)
  refine ⟨hpc, hres, _, hw, ⟨(b.rowDst m).toNat, b.plat.rowSize.toNat⟩,
    by simp [FlashOp.slotBytes], fun hd => ?_⟩
  -- the byte just past `primary_1` is the first byte of `secondary_1`
  have hadj := secondary1_follows_primary1 hcfg.offsets_fit hext
  rw [← hopen] at hadj
  have hlen : 0 < (secondary1 b.plat cfg).toFlashArea.faSize.toNat :=
    Nat.pos_of_ne_zero fun h0 => hsec (u32_eq_iff.2 (by simpa using h0))
  have hdst : (b.rowDst m).toNat = m * b.plat.rowSize.toNat := by
    have := u32_toNat_lt b.primary.faSize
    rw [Board.rowDst, u32_toNat_ofNat, Nat.mod_eq_of_lt (by omega)]
  rw [Nat.add_mul, Nat.one_mul] at hcover
  apply hd (b.primary.faOff.toNat + b.primary.faSize.toNat) <;>
    simp only [ByteRange.Contains, FlashArea.place, FlashArea.range, hdst, hadj] at * <;>
    omega

/-- A single-image build with the secondary slot on the internal flash and a
    1000-byte `primary_1`, two rows less 24 bytes. -/
def raggedInternal : FlashMapConfig where
  imageNumber := 1
  swapUsingScratch := false
  useExternalFlash := false
  externalDeviceIndex := 0
  bootloaderSize := 0x18000
  primary1Size := 1000
  secondary1Size := 1000
  primary2Size := 0
  secondary2Size := 0
  scratchSize := 0

/-- The factory board with the slot `raggedInternal` puts at `primary_1`. -/
def raggedMapFactory : Board :=
  { twoRowFactory with primary := (primary1 psoc6 raggedInternal).toFlashArea }

theorem raggedMapFactory_overwrites :
    let x := xferRun .ndebug raggedMapFactory (XferState.init raggedMapFactory.plat)
      (List.replicate (2 * raggedMapFactory.rowsCeil + 3) CY_RSLT_SUCCESS)
    InScope raggedMapFactory.plat raggedInternal ∧ raggedInternal.useExternalFlash = false ∧
      raggedMapFactory.primary = (primary1 raggedMapFactory.plat raggedInternal).toFlashArea ∧
      raggedMapFactory.MagicValid ∧ 0 < raggedMapFactory.plat.rowSize.toNat ∧
      raggedMapFactory.primary.faSize.toNat + raggedMapFactory.plat.rowSize.toNat ≤ 2 ^ 32 ∧
      raggedMapFactory.primary.faSize % raggedMapFactory.plat.rowSize ≠ 0 ∧
      (secondary1 raggedMapFactory.plat raggedInternal).toFlashArea.faSize ≠ 0 ∧
      x.pc = .done ∧ x.result = CY_RSLT_SUCCESS ∧
      ∃ op ∈ x.ops.map Prod.fst, ∃ r, op.slotBytes = some r ∧
        ¬ (raggedMapFactory.primary.place r).Disjoint
          (secondary1 raggedMapFactory.plat raggedInternal).toFlashArea.range :=
  have hcfg : InScope raggedMapFactory.plat raggedInternal := ⟨.inl rfl, rfl, by decide⟩
  ⟨hcfg, rfl, rfl, by decide, by decide, by decide, by decide, by decide,
    ndebug_rollback_overwrites_secondary hcfg rfl rfl (by decide) (by decide) (by decide)
      (by decide) (by decide)⟩

end Map

end RollbackBoot
