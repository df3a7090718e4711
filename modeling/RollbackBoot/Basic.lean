/-
  RollbackBoot.Basic

  Shared vocabulary of the rollback bootloader model (`bootloader_cm0p/main.c`
  and `common/ext_flash_map.c`).

  * `Platform` — the device and MCUboot constants the two C files are compiled
    against (`CY_FLASH_BASE`, `CY_SMIF_BASE_MEM_OFFSET`, `CY_FLASH_SIZEOF_ROW`,
    `IMAGE_MAGIC`).  None of them is defined under src/, so every theorem is
    stated for an arbitrary platform; `psoc6` holds the PSoC 6 values.
  * `AssertMode` — the two expansions of `CY_ASSERT`: a halt in a debug build,
    an empty statement when `NDEBUG` is defined.
  * `ByteRange` — a half-open range `[start, start + len)` of device offsets,
    with the containment and disjointness facts the flash map is checked
    against.
  * `uint32_t` arithmetic on `UInt32`, with the few `toNat` facts the loop
    counters of `transfer_factory_image` need.
-/

import Mathlib.Data.List.Basic
import Mathlib.Order.Basic
import Mathlib.Algebra.Group.Nat.Basic

namespace RollbackBoot

-- ============================================================================
-- Platform constants
-- ============================================================================

/-- The constants `main.c` and `ext_flash_map.c` take from the device headers
    and from MCUboot. -/
structure Platform where
  /-- `CY_FLASH_BASE`: start of the internal flash. -/
  flashBase : UInt32
  /-- `CY_SMIF_BASE_MEM_OFFSET`: start of the external (SMIF) flash window. -/
  smifBase : UInt32
  /-- `CY_FLASH_SIZEOF_ROW`: the internal flash program unit. -/
  rowSize : UInt32
  /-- `IMAGE_MAGIC`: the first word of every MCUboot image header. -/
  imageMagic : UInt32
  deriving DecidableEq, Repr

/-- The PSoC 6 values of the platform constants. -/
def psoc6 : Platform where
  flashBase := 0x10000000
  smifBase := 0x18000000
  rowSize := 512
  imageMagic := 0x96f3b83d

/-- `CY_RSLT_SUCCESS`; every flash primitive reports success with it. -/
def CY_RSLT_SUCCESS : UInt32 := 0

/-- `USER_BTN_PRESSED`: the button line reads low while it is held. -/
def USER_BTN_PRESSED : UInt32 := 0

/-- How `CY_ASSERT(x)` is compiled. -/
inductive AssertMode
  /-- Debug build: a false condition halts the core (`CY_HALT`). -/
  | halt
  /-- `NDEBUG` build: `CY_ASSERT` is an empty statement. -/
  | ndebug
  deriving DecidableEq, Repr

/-- `CY_ASSERT(c)` followed by the code `k`: a false `c` stops the core in the
    state `halted` in a debug build; under `NDEBUG` the statement is empty and
    `k` runs. -/
def cyAssert {σ : Type} (mode : AssertMode) (c : Bool) (halted k : σ) : σ :=
  if c || mode == .ndebug then k else halted

section CyAssert

variable {σ : Type} {mode : AssertMode} {c : Bool} {h k : σ}

@[simp] theorem cyAssert_true : cyAssert mode true h k = k := by
  simp [cyAssert]

@[simp] theorem cyAssert_halt_false : cyAssert .halt false h k = h := rfl

@[simp] theorem cyAssert_ndebug : cyAssert .ndebug c h k = k := by
  simp [cyAssert]

/-- A property of both continuations holds after the assertion. -/
theorem cyAssert_elim (P : σ → Prop) (hh : P h) (hk : P k) : P (cyAssert mode c h k) := by
  unfold cyAssert; split
  · exact hk
  · exact hh

end CyAssert

-- ============================================================================
-- uint32_t arithmetic
-- ============================================================================

theorem u32_toNat_add (a b : UInt32) : (a + b).toNat = (a.toNat + b.toNat) % 2 ^ 32 :=
  BitVec.toNat_add _ _

theorem u32_toNat_ofNat (n : Nat) : (UInt32.ofNat n).toNat = n % 2 ^ 32 :=
  BitVec.toNat_ofNat _ _

theorem u32_lt_iff {a b : UInt32} : a < b ↔ a.toNat < b.toNat := Iff.rfl

theorem u32_eq_iff {a b : UInt32} : a = b ↔ a.toNat = b.toNat :=
  ⟨fun h => h ▸ rfl, UInt32.toNat.inj⟩

theorem u32_toNat_lt (a : UInt32) : a.toNat < 2 ^ 32 := a.toNat_lt_size

/-- A `uint32_t` sum that does not wrap is the sum of the values. -/
theorem u32_toNat_add_of_lt {a b : UInt32} (h : a.toNat + b.toNat < 2 ^ 32) :
    (a + b).toNat = a.toNat + b.toNat := by
  rw [u32_toNat_add, Nat.mod_eq_of_lt h]

-- ============================================================================
-- Byte ranges
-- ============================================================================

/-- The half-open range `[start, start + len)` of offsets on one device. -/
structure ByteRange where
  start : Nat
  len : Nat
  deriving DecidableEq, Repr

namespace ByteRange

/-- Offset `x` lies in the range. -/
def Contains (r : ByteRange) (x : Nat) : Prop := r.start ≤ x ∧ x < r.start + r.len

/-- No offset lies in both ranges. -/
def Disjoint (r s : ByteRange) : Prop := ∀ x, r.Contains x → ¬ s.Contains x

/-- Every offset of `r` lies in `s`. -/
def Subset (r s : ByteRange) : Prop := ∀ x, r.Contains x → s.Contains x

/-- `r` ends at or before the start of `s`. -/
def Precedes (r s : ByteRange) : Prop := r.start + r.len ≤ s.start

instance (r s : ByteRange) : Decidable (r.Precedes s) :=
  inferInstanceAs (Decidable (_ ≤ _))

theorem disjoint_iff {r s : ByteRange} :
    r.Disjoint s ↔ r.len = 0 ∨ s.len = 0 ∨ r.Precedes s ∨ s.Precedes r := by
  simp only [Disjoint, Contains, Precedes]
  constructor
  · intro h
    by_contra hn
    push_neg at hn
    by_cases hle : r.start ≤ s.start
    · exact h s.start ⟨hle, by omega⟩ ⟨le_rfl, by omega⟩
    · exact h r.start ⟨le_rfl, by omega⟩ ⟨by omega, by omega⟩
  · rintro (h | h | h | h) x ⟨h1, h2⟩ ⟨h3, h4⟩ <;> omega

theorem subset_iff {r s : ByteRange} :
    r.Subset s ↔ r.len = 0 ∨ (s.start ≤ r.start ∧ r.start + r.len ≤ s.start + s.len) := by
  simp only [Subset, Contains]
  constructor
  · intro h
    by_contra hn
    push_neg at hn
    have hlo := h r.start ⟨le_rfl, by omega⟩
    have hhi := h (r.start + r.len - 1) ⟨by omega, by omega⟩
    omega
  · rintro (h | ⟨h1, h2⟩) x ⟨h3, h4⟩ <;> omega

instance (r s : ByteRange) : Decidable (r.Disjoint s) :=
  decidable_of_iff _ disjoint_iff.symm

instance (r s : ByteRange) : Decidable (r.Subset s) :=
  decidable_of_iff _ subset_iff.symm

theorem Precedes.disjoint {r s : ByteRange} (h : r.Precedes s) : r.Disjoint s :=
  disjoint_iff.2 (.inr (.inr (.inl h)))

theorem Disjoint.symm {r s : ByteRange} (h : r.Disjoint s) : s.Disjoint r :=
  fun x hs hr => h x hr hs

/-- A range inside `s` shares nothing with a range disjoint from `s`. -/
theorem Subset.disjoint {r s t : ByteRange} (hrs : r.Subset s) (hst : s.Disjoint t) :
    r.Disjoint t :=
  fun x hr ht => hst x (hrs x hr) ht

end ByteRange

end RollbackBoot
