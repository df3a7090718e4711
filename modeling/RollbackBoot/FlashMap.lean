/-
  RollbackBoot.FlashMap

  The flash map of `common/ext_flash_map.c`: the static `flash_area`
  initialisers and `boot_area_descs`, for every combination of the build
  switches the file reads (`MCUBOOT_IMAGE_NUMBER`, `MCUBOOT_SWAP_USING_SCRATCH`,
  `CY_BOOT_USE_EXTERNAL_FLASH`) and every value of the size macros.

  An initialiser's offset is a C constant expression stored into a `uint32_t`
  field; `AreaInit` keeps the expression's value and `AreaInit.toFlashArea`
  performs the store.  `OffsetsFit` is the condition that no offset
  expression wraps.

  The layout results:
  * internal-flash areas appear in `boot_area_descs` in increasing address
    order, so any two of them are disjoint (`bootAreaDescs_internal_precedes`);
  * the external areas are disjoint as well when `CY_BOOT_SECONDARY_1_SIZE ≤
    CY_BOOT_PRIMARY_1_SIZE`: the dual-image external layout places
    `secondary_2` at `CY_BOOT_PRIMARY_1_SIZE` past the start of `secondary_1`;
  * the formula range of `primary_1.fa_size` bytes from
    `CY_SMIF_BASE_MEM_OFFSET` (`factoryReadRange`, what a complete copy of a
    whole-row `primary_1` reads) lies in the factory region when
    `CY_BOOT_PRIMARY_1_SIZE ≤ CY_FACT_APP_SIZE`.  Nothing in the table checks
    either size relation.
-/

import RollbackBoot.Basic
import Mathlib.Data.List.Chain

namespace RollbackBoot

-- ============================================================================
-- Flash areas
-- ============================================================================

/-- The `fa_id` values the table uses (`sysflash.h`). -/
inductive FlashAreaId
  | bootloader
  | imagePrimary (n : Nat)
  | imageSecondary (n : Nat)
  | imageScratch
  deriving DecidableEq, Repr

/-- `fa_device_id`: `FLASH_DEVICE_INTERNAL_FLASH` or
    `FLASH_DEVICE_EXTERNAL_FLASH(index)`. -/
inductive FlashDevice
  | internal
  | external (index : Nat)
  deriving DecidableEq, Repr

/-- `struct flash_area`, with the fields the bootloader reads. -/
structure FlashArea where
  faId : FlashAreaId
  faDeviceId : FlashDevice
  faOff : UInt32
  faSize : UInt32
  deriving DecidableEq, Repr

/-- The bytes `[fa_off, fa_off + fa_size)` an area covers on its device. -/
def FlashArea.range (a : FlashArea) : ByteRange := ⟨a.faOff.toNat, a.faSize.toNat⟩

/-- A `static struct flash_area` initialiser: the offset and size are the values
    of the C constant expressions, before the store into `uint32_t`. -/
structure AreaInit where
  faId : FlashAreaId
  faDeviceId : FlashDevice
  faOff : Nat
  faSize : Nat
  deriving DecidableEq, Repr

/-- Storing an initialiser into the `uint32_t` fields of a `flash_area`. -/
def AreaInit.toFlashArea (a : AreaInit) : FlashArea :=
  ⟨a.faId, a.faDeviceId, UInt32.ofNat a.faOff, UInt32.ofNat a.faSize⟩

-- ============================================================================
-- Build configuration and the table
-- ============================================================================

/-- The macros `ext_flash_map.c` is compiled with. -/
structure FlashMapConfig where
  /-- `MCUBOOT_IMAGE_NUMBER`. -/
  imageNumber : Nat
  /-- `MCUBOOT_SWAP_USING_SCRATCH` is defined. -/
  swapUsingScratch : Bool
  /-- `CY_BOOT_USE_EXTERNAL_FLASH` is defined. -/
  useExternalFlash : Bool
  /-- `CY_BOOT_EXTERNAL_DEVICE_INDEX`. -/
  externalDeviceIndex : Nat
  /-- `CY_BOOTLOADER_START_ADDRESS`. -/
  bootloaderStartAddress : Nat := 0x10000000
  bootloaderSize : Nat
  primary1Size : Nat
  secondary1Size : Nat
  primary2Size : Nat
  secondary2Size : Nat
  scratchSize : Nat
  /-- `CY_FACT_APP_SIZE`: the external region reserved for the factory app. -/
  factAppSize : Nat := 0x1C0000
  deriving DecidableEq, Repr

section Table

variable (plat : Platform) (cfg : FlashMapConfig)

/-- `bootloader`. -/
def bootloader : AreaInit :=
  ⟨.bootloader, .internal, cfg.bootloaderStartAddress, cfg.bootloaderSize⟩

/-- `primary_1`. -/
def primary1 : AreaInit :=
  ⟨.imagePrimary 0, .internal, plat.flashBase.toNat + cfg.bootloaderSize, cfg.primary1Size⟩

/-- `secondary_1`: after `primary_1` in internal flash, or after the factory
    region in external flash. -/
def secondary1 : AreaInit :=
  if cfg.useExternalFlash then
    ⟨.imageSecondary 0, .external cfg.externalDeviceIndex,
      plat.smifBase.toNat + cfg.factAppSize, cfg.secondary1Size⟩
  else
    ⟨.imageSecondary 0, .internal,
      plat.flashBase.toNat + cfg.bootloaderSize + cfg.primary1Size, cfg.secondary1Size⟩

/-- `primary_2` (dual image). -/
def primary2 : AreaInit :=
  ⟨.imagePrimary 1, .internal,
    plat.flashBase.toNat + cfg.bootloaderSize + cfg.primary1Size + cfg.secondary1Size,
    cfg.primary2Size⟩

/-- `secondary_2` (dual image).  The external variant is offset by
    `CY_BOOT_PRIMARY_1_SIZE` from the end of the factory region. -/
def secondary2 : AreaInit :=
  if cfg.useExternalFlash then
    ⟨.imageSecondary 1, .external cfg.externalDeviceIndex,
      plat.smifBase.toNat + cfg.factAppSize + cfg.primary1Size, cfg.secondary2Size⟩
  else
    ⟨.imageSecondary 1, .internal,
      plat.flashBase.toNat + cfg.bootloaderSize + cfg.primary1Size + cfg.secondary1Size +
        cfg.primary2Size, cfg.secondary2Size⟩

/-- `scratch`.  With an image number other than 1 or 2 the initialiser has no
    `.fa_off`, which a static object leaves at 0. -/
def scratch : AreaInit :=
  ⟨.imageScratch, .internal,
    if cfg.imageNumber = 1 then
      plat.flashBase.toNat + cfg.bootloaderSize + cfg.primary1Size + cfg.secondary1Size
    else if cfg.imageNumber = 2 then
      plat.flashBase.toNat + cfg.bootloaderSize + cfg.primary1Size + cfg.secondary1Size +
        cfg.primary2Size + cfg.secondary2Size
    else 0,
    cfg.scratchSize⟩

/-- The initialisers `boot_area_descs` points to, in table order. -/
def bootAreaInits : List AreaInit :=
  [bootloader cfg, primary1 plat cfg, secondary1 plat cfg] ++
    (if cfg.imageNumber = 2 then [primary2 plat cfg, secondary2 plat cfg] else []) ++
    (if cfg.swapUsingScratch then [scratch plat cfg] else [])

/-- `boot_area_descs`, without its `NULL` terminator. -/
def bootAreaDescs : List FlashArea := (bootAreaInits plat cfg).map AreaInit.toFlashArea

/-- No offset expression of the table wraps past 32 bits. -/
def OffsetsFit : Prop := ∀ a ∈ bootAreaInits plat cfg, a.faOff < 2 ^ 32

/-- The configurations the layout results cover: one or two images, and the
    bootloader at its default address `CY_FLASH_BASE`. -/
structure InScope : Prop where
  image_number : cfg.imageNumber = 1 ∨ cfg.imageNumber = 2
  start_default : cfg.bootloaderStartAddress = plat.flashBase.toNat
  offsets_fit : OffsetsFit plat cfg

/-- The external region reserved for the factory image,
    `[CY_SMIF_BASE_MEM_OFFSET, CY_SMIF_BASE_MEM_OFFSET + CY_FACT_APP_SIZE)`. -/
def factoryRegion : ByteRange := ⟨plat.smifBase.toNat, cfg.factAppSize⟩

/-- The formula range `[CY_SMIF_BASE_MEM_OFFSET,
    CY_SMIF_BASE_MEM_OFFSET + primary_1.fa_size)`: the factory image a
    complete copy of `primary_1` in whole rows reads.  It is stated by its
    formula, not derived from the transfer's reads; under `NDEBUG` a
    `primary_1` that is not a whole number of rows is read past its end. -/
def factoryReadRange : ByteRange :=
  ⟨plat.smifBase.toNat, (primary1 plat cfg).toFlashArea.faSize.toNat⟩

end Table

instance (plat : Platform) (cfg : FlashMapConfig) : Decidable (OffsetsFit plat cfg) :=
  inferInstanceAs (Decidable (∀ a ∈ bootAreaInits plat cfg, a.faOff < 2 ^ 32))

-- ============================================================================
-- Address order of the initialisers
-- ============================================================================

/-- `a` ends at or before the start of `b`, as values of the C expressions. -/
def AreaInit.Before (a b : AreaInit) : Prop := a.faOff + a.faSize ≤ b.faOff

instance : IsTrans AreaInit AreaInit.Before :=
  ⟨fun _ _ _ hab hbc => by unfold AreaInit.Before at *; omega⟩

@[simp] theorem AreaInit.toFlashArea_faDeviceId (a : AreaInit) :
    a.toFlashArea.faDeviceId = a.faDeviceId := rfl

/-- Storing into `uint32_t` keeps an offset that fits and can only shrink a
    size, so address order survives the store. -/
theorem AreaInit.Before.precedes {a b : AreaInit} (h : a.Before b) (ha : a.faOff < 2 ^ 32)
    (hb : b.faOff < 2 ^ 32) : a.toFlashArea.range.Precedes b.toFlashArea.range := by
  simp only [AreaInit.toFlashArea, FlashArea.range, ByteRange.Precedes, u32_toNat_ofNat,
    Nat.mod_eq_of_lt ha, Nat.mod_eq_of_lt hb]
  have := Nat.mod_le a.faSize (2 ^ 32)
  unfold AreaInit.Before at h
  omega

section Order

variable {plat : Platform} {cfg : FlashMapConfig}

/-- Every area of the table is on the internal flash or on the one external
    device `CY_BOOT_EXTERNAL_DEVICE_INDEX`. -/
theorem bootAreaInits_device {a : AreaInit} (ha : a ∈ bootAreaInits plat cfg) :
    a.faDeviceId = .internal ∨ a.faDeviceId = .external cfg.externalDeviceIndex := by
  simp only [bootAreaInits, List.mem_append, List.mem_cons, List.mem_singleton] at ha
  rcases ha with ((rfl | rfl | rfl | ha) | ha) | ha
  · exact .inl rfl
  · exact .inl rfl
  · unfold secondary1; split <;> simp
  · simp at ha
  · split at ha <;> simp only [List.mem_cons, List.mem_singleton, List.not_mem_nil] at ha
    rcases ha with rfl | rfl | ha
    · exact .inl rfl
    · unfold secondary2; split <;> simp
    · exact ha.elim
  · split at ha <;> simp only [List.mem_singleton, List.not_mem_nil] at ha
    exact ha ▸ .inl rfl

/-- The internal areas, in table order, are laid out one after another. -/
theorem bootAreaInits_internal_chain (himg : cfg.imageNumber = 1 ∨ cfg.imageNumber = 2)
    (hstart : cfg.bootloaderStartAddress = plat.flashBase.toNat) :
    ((bootAreaInits plat cfg).filter (·.faDeviceId = .internal)).Chain' AreaInit.Before := by
  rcases himg with h | h <;> cases hs : cfg.swapUsingScratch <;>
    cases he : cfg.useExternalFlash <;>
    simp [bootAreaInits, bootloader, primary1, secondary1, primary2, secondary2, scratch, h, hs,
      he, AreaInit.Before, hstart]

/-- The external areas, in table order, are laid out one after another when
    `secondary_1` is no larger than the `CY_BOOT_PRIMARY_1_SIZE` gap that the
    dual-image layout leaves for it. -/
theorem bootAreaInits_external_chain
    (hsec : cfg.imageNumber = 2 → cfg.useExternalFlash = true →
      cfg.secondary1Size ≤ cfg.primary1Size) :
    ((bootAreaInits plat cfg).filter
      (·.faDeviceId = .external cfg.externalDeviceIndex)).Chain' AreaInit.Before := by
  by_cases h : cfg.imageNumber = 2 <;> cases hs : cfg.swapUsingScratch <;>
    cases he : cfg.useExternalFlash <;>
    simp_all [bootAreaInits, bootloader, primary1, secondary1, primary2, secondary2, scratch,
      AreaInit.Before]

/-- An address order of the initialisers, between the pairs of devices `P`
    relates, carries over to the stored areas as disjointness. -/
theorem bootAreaDescs_disjoint_of_before (hfit : OffsetsFit plat cfg)
    (P : FlashDevice → FlashDevice → Prop)
    (h : (bootAreaInits plat cfg).Pairwise fun a b => P a.faDeviceId b.faDeviceId → a.Before b) :
    (bootAreaDescs plat cfg).Pairwise fun a b =>
      P a.faDeviceId b.faDeviceId → a.range.Disjoint b.range := by
  rw [bootAreaDescs, List.pairwise_map]
  exact h.imp_of_mem fun ha hb hab hP =>
    ((hab (by simpa using hP)).precedes (hfit _ ha) (hfit _ hb)).disjoint

/-- Any two internal-flash areas of the table are disjoint. -/
theorem bootAreaDescs_internal_disjoint (h : InScope plat cfg) :
    (bootAreaDescs plat cfg).Pairwise fun a b =>
      a.faDeviceId = .internal ∧ b.faDeviceId = .internal → a.range.Disjoint b.range :=
  bootAreaDescs_disjoint_of_before h.offsets_fit (fun d e => d = .internal ∧ e = .internal) <|
    (List.pairwise_filter.1 (List.chain'_iff_pairwise.1
      (bootAreaInits_internal_chain h.image_number h.start_default))).imp fun h' hd => h' hd.1 hd.2

/-- Any two areas of the table on the same device are disjoint, when
    `CY_BOOT_SECONDARY_1_SIZE ≤ CY_BOOT_PRIMARY_1_SIZE` in the dual-image
    external layout. -/
theorem bootAreaDescs_same_device_disjoint (h : InScope plat cfg)
    (hsec : cfg.imageNumber = 2 → cfg.useExternalFlash = true →
      cfg.secondary1Size ≤ cfg.primary1Size) :
    (bootAreaDescs plat cfg).Pairwise fun a b =>
      a.faDeviceId = b.faDeviceId → a.range.Disjoint b.range := by
  have hint := List.pairwise_filter.1 (List.chain'_iff_pairwise.1
    (@bootAreaInits_internal_chain plat cfg h.image_number h.start_default))
  have hext := List.pairwise_filter.1 (List.chain'_iff_pairwise.1
    (@bootAreaInits_external_chain plat cfg hsec))
  refine bootAreaDescs_disjoint_of_before h.offsets_fit _ ((hint.and hext).imp_of_mem ?_)
  intro a b ha _ ⟨hi, he⟩ hab
  rcases bootAreaInits_device ha with hd | hd
  · exact hi hd (hab ▸ hd)
  · exact he hd (hab ▸ hd)

/-- Every external area of the table starts at or after the end of the
    factory region. -/
theorem factoryRegion_precedes_external (hfit : OffsetsFit plat cfg) :
    ∀ a ∈ bootAreaDescs plat cfg, a.faDeviceId = .external cfg.externalDeviceIndex →
      (factoryRegion plat cfg).Precedes a.range := by
  simp only [bootAreaDescs, List.mem_map]
  rintro _ ⟨a, ha, rfl⟩ hd
  have hoff : a.faOff = plat.smifBase.toNat + cfg.factAppSize ∨
      a.faOff = plat.smifBase.toNat + cfg.factAppSize + cfg.primary1Size := by
    simp only [AreaInit.toFlashArea_faDeviceId] at hd
    simp only [bootAreaInits, List.mem_append, List.mem_cons, List.mem_singleton] at ha
    rcases ha with ((rfl | rfl | rfl | ha) | ha) | ha
    · simp [bootloader] at hd
    · simp [primary1] at hd
    · unfold secondary1 at hd ⊢; split at hd <;> simp_all
    · simp at ha
    · split at ha <;> simp only [List.mem_cons, List.mem_singleton, List.not_mem_nil] at ha
      rcases ha with rfl | rfl | ha
      · simp [primary2] at hd
      · unfold secondary2 at hd ⊢; split at hd <;> simp_all
      · exact ha.elim
    · split at ha <;> simp only [List.mem_singleton, List.not_mem_nil] at ha
      subst ha; simp [scratch] at hd
  have hlt := hfit a ha
  simp only [factoryRegion, ByteRange.Precedes, AreaInit.toFlashArea, FlashArea.range,
    u32_toNat_ofNat, Nat.mod_eq_of_lt hlt]
  omega

/-- The formula range lies in the factory region when the primary slot is no
    larger than `CY_FACT_APP_SIZE`. -/
theorem factoryReadRange_subset (hsize : cfg.primary1Size ≤ cfg.factAppSize) :
    (factoryReadRange plat cfg).Subset (factoryRegion plat cfg) := by
  refine ByteRange.subset_iff.2 (.inr ⟨le_rfl, ?_⟩)
  simp only [factoryReadRange, factoryRegion, primary1, AreaInit.toFlashArea, u32_toNat_ofNat]
  have := Nat.mod_le cfg.primary1Size (2 ^ 32)
  omega

end Order

-- ============================================================================
-- The layout, for every configuration in scope
-- ============================================================================

/-- The layout a configuration should have: same-device areas are disjoint, and
    the formula range `factoryReadRange` lies in the factory region and so is
    disjoint from every external area. -/
def LayoutSound (plat : Platform) (cfg : FlashMapConfig) : Prop :=
  (bootAreaDescs plat cfg).Pairwise
      (fun a b => a.faDeviceId = b.faDeviceId → a.range.Disjoint b.range) ∧
    (factoryReadRange plat cfg).Subset (factoryRegion plat cfg) ∧
    ∀ a ∈ bootAreaDescs plat cfg, a.faDeviceId = .external cfg.externalDeviceIndex →
      (factoryReadRange plat cfg).Disjoint a.range

instance (plat : Platform) (cfg : FlashMapConfig) : Decidable (LayoutSound plat cfg) :=
  inferInstanceAs (Decidable (List.Pairwise _ _ ∧ _ ∧ ∀ a ∈ bootAreaDescs plat cfg, _))

/-- A dual-image external-flash build with a 1.875 MB primary slot, larger than
    the 1.75 MB default factory region, and a 2 MB first secondary slot. -/
def oversizedSlots : FlashMapConfig where
  imageNumber := 2
  swapUsingScratch := false
  useExternalFlash := true
  externalDeviceIndex := 0
  bootloaderSize := 0x18000
  primary1Size := 0x1E0000
  secondary1Size := 0x200000
  primary2Size := 0x10000
  secondary2Size := 0x10000
  scratchSize := 0

theorem oversizedSlots_inScope : InScope psoc6 oversizedSlots :=
  ⟨.inr rfl, rfl, by decide⟩

/-- Not every configuration in scope has the layout: `oversizedSlots` overlaps
    `secondary_2` with `secondary_1`, and its formula range runs past the factory
    region into `secondary_1`. -/
theorem layoutSound_fails_oversizedSlots :
    ¬ ∀ cfg, InScope psoc6 cfg → LayoutSound psoc6 cfg :=
  fun h => absurd (h oversizedSlots oversizedSlots_inScope) (by decide)

/-- The layout every configuration in scope has: internal areas are pairwise
    disjoint; all same-device areas are, when `secondary_1` fits the gap the
    dual-image external layout leaves for it; and the formula range
    `factoryReadRange` stays in the factory region, away from every external
    area, when the primary slot is no larger than `CY_FACT_APP_SIZE`. -/
theorem bootAreaDescs_layout {plat : Platform} {cfg : FlashMapConfig} (h : InScope plat cfg) :
    (bootAreaDescs plat cfg).Pairwise
        (fun a b => a.faDeviceId = .internal ∧ b.faDeviceId = .internal →
          a.range.Disjoint b.range) ∧
      ((cfg.imageNumber = 2 → cfg.useExternalFlash = true →
          cfg.secondary1Size ≤ cfg.primary1Size) →
        (bootAreaDescs plat cfg).Pairwise
          (fun a b => a.faDeviceId = b.faDeviceId → a.range.Disjoint b.range)) ∧
      (cfg.primary1Size ≤ cfg.factAppSize →
        (factoryReadRange plat cfg).Subset (factoryRegion plat cfg) ∧
        ∀ a ∈ bootAreaDescs plat cfg, a.faDeviceId = .external cfg.externalDeviceIndex →
          (factoryReadRange plat cfg).Disjoint a.range) := by
  refine ⟨bootAreaDescs_internal_disjoint h, bootAreaDescs_same_device_disjoint h,
    fun hsize => ⟨factoryReadRange_subset hsize, fun a ha hd => ?_⟩⟩
  exact (factoryReadRange_subset hsize).disjoint
    (factoryRegion_precedes_external h.offsets_fit a ha hd).disjoint

/-- The single-image external-flash build of this example: a 1.75 MB primary
    slot, equal to the factory region, and an equal secondary slot. -/
def singleImageExternal : FlashMapConfig where
  imageNumber := 1
  swapUsingScratch := false
  useExternalFlash := true
  externalDeviceIndex := 0
  bootloaderSize := 0x18000
  primary1Size := 0x1C0000
  secondary1Size := 0x1C0000
  primary2Size := 0
  secondary2Size := 0
  scratchSize := 0

theorem singleImageExternal_layout :
    InScope psoc6 singleImageExternal ∧
      (bootAreaDescs psoc6 singleImageExternal).Pairwise
        (fun a b => a.faDeviceId = .internal ∧ b.faDeviceId = .internal →
          a.range.Disjoint b.range) ∧
      ((singleImageExternal.imageNumber = 2 → singleImageExternal.useExternalFlash = true →
          singleImageExternal.secondary1Size ≤ singleImageExternal.primary1Size) →
        (bootAreaDescs psoc6 singleImageExternal).Pairwise
          (fun a b => a.faDeviceId = b.faDeviceId → a.range.Disjoint b.range)) ∧
      (singleImageExternal.primary1Size ≤ singleImageExternal.factAppSize →
        (factoryReadRange psoc6 singleImageExternal).Subset (factoryRegion psoc6 singleImageExternal) ∧
        ∀ a ∈ bootAreaDescs psoc6 singleImageExternal,
          a.faDeviceId = .external singleImageExternal.externalDeviceIndex →
          (factoryReadRange psoc6 singleImageExternal).Disjoint a.range) :=
  have h : InScope psoc6 singleImageExternal := ⟨.inl rfl, rfl, by decide⟩
  ⟨h, bootAreaDescs_layout h⟩

end RollbackBoot
