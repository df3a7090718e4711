import RollbackBoot.Basic
import RollbackBoot.FlashMap
import RollbackBoot.Transfer
import RollbackBoot.TransferLog
import RollbackBoot.TransferNdebug
import RollbackBoot.TransferOverrun
import RollbackBoot.Slot
import RollbackBoot.Main
import RollbackBoot.Button
import RollbackBoot.Handoff
import RollbackBoot.Decision
import RollbackBoot.Footprint
