/-
  RollbackBoot.Transfer

  `transfer_factory_image` of `bootloader_cm0p/main.c`: open the primary slot,
  check the magic word at the start of the factory region, erase the slot, and
  copy `fa_size` bytes row by row from external flash into it.

  The function runs as a machine with one step per flash primitive.  A step
  performs the primitive the program counter names, takes the status code it
  returns as input, and runs the C code that follows up to the next primitive
  call or the `return`.  Every `psoc6_smif_read`, `flash_area_erase` and
  `flash_area_write` is appended to `ops` with its status, so a run's log is
  the sequence of flash operations the function issued.  Reads return the
  bytes of the external flash (`Board.ext`); the loop counters are
  `uint32_t`.

  `transferOps` is the sequence a complete transfer issues.  In a debug build
  (`CY_ASSERT` halts) every run's log is a prefix of it that stops at the first
  failing primitive, and the function returns `CY_RSLT_SUCCESS` exactly when
  the whole sequence ran without a failure.  Under `NDEBUG` the bad-magic
  branch falls through to the copy loop with `result` still
  `CY_RSLT_SUCCESS`: the slot is written without the erase, and the function
  reports success (`RollbackBoot.TransferNdebug`).
-/

import RollbackBoot.FlashMap

namespace RollbackBoot

-- ============================================================================
-- Flash operations and the board
-- ============================================================================

/-- A flash operation `transfer_factory_image` issues. -/
inductive FlashOp
  /-- `psoc6_smif_read` of `len` bytes at offset `off` of the external flash. -/
  | read (off : UInt32) (len : Nat)
  /-- `flash_area_erase` of `len` bytes at offset `off` of the primary slot. -/
  | erase (off len : UInt32)
  /-- `flash_area_write` of `data` at offset `off` of the primary slot. -/
  | write (off : UInt32) (data : List UInt8)
  deriving DecidableEq, Repr

/-- The operation changes the primary slot. -/
def FlashOp.modifiesSlot : FlashOp → Bool
  | .read .. => false
  | .erase .. => true
  | .write .. => true

/-- The little-endian `uint32_t` that four bytes read into `image_magic` form. -/
def leWord : List UInt8 → UInt32
  | [] => 0
  | x :: xs => x.toUInt32 + 256 * leWord xs

/-- What the bootloader finds on the board: the platform, the area
    `flash_area_open(FLASH_AREA_IMAGE_PRIMARY(0))` yields, and the contents of
    the external flash. -/
structure Board where
  plat : Platform
  primary : FlashArea
  ext : Nat → UInt8

namespace Board

variable (b : Board)

/-- The bytes a successful `psoc6_smif_read(fa, off, buf, len)` puts in `buf`. -/
def extRead (off : UInt32) (len : Nat) : List UInt8 :=
  (List.range len).map fun i => b.ext (off.toNat + i)

/-- `fap_primary->fa_size / CY_FLASH_SIZEOF_ROW`: the rows of a full copy. -/
def rows : Nat := b.primary.faSize.toNat / b.plat.rowSize.toNat

/-- `CY_SMIF_BASE_MEM_OFFSET + k * CY_FLASH_SIZEOF_ROW`: where row `k` is read. -/
def rowSrc (k : Nat) : UInt32 :=
  UInt32.ofNat (b.plat.smifBase.toNat + k * b.plat.rowSize.toNat)

/-- `k * CY_FLASH_SIZEOF_ROW`: where row `k` is written in the slot. -/
def rowDst (k : Nat) : UInt32 := UInt32.ofNat (k * b.plat.rowSize.toNat)

/-- The read and the write that copy row `k`. -/
def rowOps (k : Nat) : List FlashOp :=
  [.read (b.rowSrc k) b.plat.rowSize.toNat,
    .write (b.rowDst k) (b.extRead (b.rowSrc k) b.plat.rowSize.toNat)]

/-- The operations that copy rows `0 .. k-1`, in order. -/
def copyOps (k : Nat) : List FlashOp := (List.range k).flatMap b.rowOps

/-- The magic read and the erase of the whole slot. -/
def headOps : List FlashOp := [.read b.plat.smifBase 4, .erase 0 b.primary.faSize]

/-- The flash operations of a complete transfer: the magic read, the erase of
    the whole slot, and the read and write of every row in order. -/
def transferOps : List FlashOp := b.headOps ++ b.copyOps b.rows

/-- The external flash holds a valid image magic at the factory region. -/
def MagicValid : Prop := leWord (b.extRead b.plat.smifBase 4) = b.plat.imageMagic

instance : Decidable b.MagicValid := inferInstanceAs (Decidable (_ = _))

end Board

-- ============================================================================
-- The machine
-- ============================================================================

/-- Where `transfer_factory_image` is: the primitive it calls next, or its exit. -/
inductive XferPc
  /-- `flash_area_open(FLASH_AREA_IMAGE_PRIMARY(0), &fap_primary)`. -/
  | openSlot
  /-- `psoc6_smif_read(&fap_extf, CY_SMIF_BASE_MEM_OFFSET, &image_magic, 4)`. -/
  | readMagic
  /-- `flash_area_erase(fap_primary, 0, fap_primary->fa_size)`. -/
  | erase
  /-- `psoc6_smif_read(&fap_extf, fact_img_off, ram_buf, CY_FLASH_SIZEOF_ROW)`. -/
  | readRow
  /-- `flash_area_write(fap_primary, prim_slot_off, ram_buf, CY_FLASH_SIZEOF_ROW)`. -/
  | writeRow
  /-- `flash_area_close(fap_primary); return result;`. -/
  | done
  /-- A `CY_ASSERT` stopped the core. -/
  | halted
  deriving DecidableEq, Repr

/-- The locals of `transfer_factory_image`, and the log of the flash operations
    it issued with their status codes. -/
structure XferState where
  pc : XferPc
  result : UInt32
  index : UInt32
  bytesToCopy : UInt32
  primSlotOff : UInt32
  factImgOff : UInt32
  imageMagic : UInt32
  ramBuf : List UInt8
  ops : List (FlashOp × UInt32)
  deriving DecidableEq, Repr

/-- The locals at entry. -/
def XferState.init (plat : Platform) : XferState where
  pc := .openSlot
  result := CY_RSLT_SUCCESS
  index := 0
  bytesToCopy := 0
  primSlotOff := 0
  factImgOff := 0
  imageMagic := 0
  ramBuf := List.replicate plat.rowSize.toNat 0
  ops := []

section Step

variable (mode : AssertMode) (b : Board)

/-- `while (index < bytes_to_copy)`. -/
def loopTest (s : XferState) : XferState :=
  if s.index < s.bytesToCopy then { s with pc := .readRow } else { s with pc := .done }

/-- The copy set-up, `CY_ASSERT((bytes_to_copy % CY_FLASH_SIZEOF_ROW) == 0)`,
    and the first loop test. -/
def copySetup (s : XferState) : XferState :=
  let s := { s with
    bytesToCopy := b.primary.faSize, factImgOff := b.plat.smifBase, primSlotOff := 0 }
  cyAssert mode (b.primary.faSize % b.plat.rowSize == 0) { s with pc := .halted } (loopTest s)

/-- `if (result != CY_RSLT_SUCCESS) { ...; CY_ASSERT(0); } else { copy }`. -/
def eraseCheck (s : XferState) : XferState :=
  if s.result ≠ CY_RSLT_SUCCESS then cyAssert mode false { s with pc := .halted } { s with pc := .done }
  else copySetup mode b s

/-- The read-status and magic checks before the erase. -/
def magicCheck (s : XferState) : XferState :=
  if s.result ≠ CY_RSLT_SUCCESS then cyAssert mode false { s with pc := .halted } (eraseCheck mode b s)
  else if s.imageMagic ≠ b.plat.imageMagic then
    cyAssert mode false { s with pc := .halted } (eraseCheck mode b s)
  else { s with pc := .erase }

/-- One step: the primitive at `s.pc` returns `code`, then the code up to the
    next primitive runs.  At the exits the state no longer changes. -/
def xferStep (s : XferState) (code : UInt32) : XferState :=
  match s.pc with
  | .openSlot =>
    if code ≠ CY_RSLT_SUCCESS then
      cyAssert mode false { s with result := code, pc := .halted }
        (magicCheck mode b { s with result := code })
    else { s with result := code, pc := .readMagic }
  | .readMagic =>
    magicCheck mode b
      { s with
        result := code
        imageMagic :=
          if code = CY_RSLT_SUCCESS then leWord (b.extRead b.plat.smifBase 4) else s.imageMagic
        ops := s.ops ++ [(.read b.plat.smifBase 4, code)] }
  | .erase =>
    eraseCheck mode b
      { s with result := code, ops := s.ops ++ [(.erase 0 b.primary.faSize, code)] }
  | .readRow =>
    let s : XferState := { s with
      result := code
      ops := s.ops ++ [(.read s.factImgOff b.plat.rowSize.toNat, code)] }
    if code ≠ CY_RSLT_SUCCESS then { s with pc := .done }
    else { s with ramBuf := b.extRead s.factImgOff b.plat.rowSize.toNat, pc := .writeRow }
  | .writeRow =>
    let s : XferState := { s with result := code, ops := s.ops ++ [(.write s.primSlotOff s.ramBuf, code)] }
    if code ≠ CY_RSLT_SUCCESS then { s with pc := .done }
    else
      loopTest
        { s with
          factImgOff := s.factImgOff + b.plat.rowSize
          primSlotOff := s.primSlotOff + b.plat.rowSize
          index := s.index + b.plat.rowSize }
  | .done => s
  | .halted => s

/-- A run: the primitives return the codes of `codes` in order. -/
def xferRun : XferState → List UInt32 → XferState
  | s, [] => s
  | s, c :: cs => xferRun (xferStep mode b s c) cs

end Step

-- ============================================================================
-- Step equations
-- ============================================================================

section Equations

variable {mode : AssertMode} {b : Board} {s : XferState} {code : UInt32}

@[simp] theorem xferRun_nil : xferRun mode b s [] = s := rfl

@[simp] theorem xferRun_cons (cs : List UInt32) :
    xferRun mode b s (code :: cs) = xferRun mode b (xferStep mode b s code) cs := rfl

theorem xferRun_append (cs ds : List UInt32) :
    xferRun mode b s (cs ++ ds) = xferRun mode b (xferRun mode b s cs) ds := by
  induction cs generalizing s with
  | nil => rfl
  | cons c cs ih => exact ih

/-- The exits are final. -/
theorem xferStep_of_exit (h : s.pc = .done ∨ s.pc = .halted) : xferStep mode b s code = s := by
  rcases h with h | h <;> simp [xferStep, h]

theorem xferRun_of_exit (h : s.pc = .done ∨ s.pc = .halted) (cs : List UInt32) :
    xferRun mode b s cs = s := by
  induction cs with
  | nil => rfl
  | cons c cs ih => rw [xferRun_cons, xferStep_of_exit h, ih]

end Equations

end RollbackBoot
