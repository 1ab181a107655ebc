import DalHost.Service.State
import DalHost.Lib.Buffer

/-!
# The parser of command packages

The part of the VM library that reads a command package (`admin_pack_ext.c`, `admin_pack_int.c`),
for the commands the plugin knows. A package is a signature block of fixed length and a pack: a
header with the command id, and the structures of that command, each padded to four bytes. The
reader is a cursor into the pack; `none` is any of the parser's errors, which its callers do not
tell apart. The checks of the source against the end of the address space are left out, for a
pack that lies in memory passes them.
-/

namespace DalHost

/-- `BH_GUID`: the sixteen bytes of a `BH_TAID` or a `BH_SDID`. -/
@[ext]
structure Guid where
  bytes : Bytes
  length_eq : bytes.length = 16

instance Guid.decidableEq : DecidableEq Guid := fun _ _ => decidable_of_iff _ Guid.ext_iff.symm

/-! ### Layout -/

/-- `BH_ACP_CSS_HEADER_LENGTH`. -/
def acpCssHeaderLength : Nat := 128 + 520

/-- `BH_MAX_ACP_PORPS_LENGTH`. -/
def maxAcpPropsLength : Nat := 2048

def sizeofAcPackHeader : Nat := 32
def sizeofAcProp : Nat := 8
def sizeofAcInsSdHeader : Nat := 72
def sizeofAcInsSdSigKey : Nat := 264
def sizeofAcInsTaHeader : Nat := 56
def sizeofGuid : Nat := 16

/-- `AC_CMD_ID` of the number in a header. -/
def PackageType.ofCmdId (cmdId : UInt32) : PackageType :=
  if cmdId = 0 then .invalid
  else if cmdId = 1 then .installSD
  else if cmdId = 2 then .uninstallSD
  else if cmdId = 3 then .installJTA
  else if cmdId = 4 then .uninstallJTA
  else if cmdId = 5 then .installNTA
  else if cmdId = 6 then .uninstallNTA
  else if cmdId = 7 then .updateSVL
  else if cmdId = 8 then .installJTAProp
  else .other

/-! ### The reader -/

/-- A read of a pack: the state is `cur - head`. -/
abbrev PackReader := StateT Nat Option

section Reader

variable (pack : Bytes)

/-- The number of four bytes at an offset. -/
def packU32 (off : Nat) : UInt32 := u32At (fun i => pack.getD i 0) off

/-- The sixteen bytes at an offset. -/
def packGuid (off : Nat) : Guid := ⟨slice (fun i => pack.getD i 0) off 16, length_slice _ _ _⟩

/-- `pr_is_safe_to_read`. -/
def prIsSafeToRead (n : Nat) : PackReader Unit := do
  if (← get) + n ≤ pack.length then return () else failure

/-- `pr_align_move` and `pr_8b_align_move`, by the alignment. -/
def prAlignMove (align n : Nat) : PackReader Unit := do
  let newCur := (← get) + n
  let offset := (align - newCur % align) % align
  if newCur + offset ≤ pack.length then set (newCur + offset) else failure

/-- `pr_is_end`. -/
def prIsEnd : PackReader Unit := do
  if (← get) = pack.length then return () else failure

/-- The loads of a structure of fixed size: its offset. -/
def acpLoadFixed (size : Nat) : PackReader Nat := do
  let cur ← get
  prIsSafeToRead pack size
  prAlignMove pack 4 size
  return cur

/-- `ACP_load_prop`. -/
def acpLoadProp : PackReader Nat := do
  let cur ← get
  prIsSafeToRead pack sizeofAcProp
  let len := (packU32 pack (cur + 4)).toNat
  if maxAcpPropsLength < len then failure
  else
    prIsSafeToRead pack (sizeofAcProp + len)
    prAlignMove pack 4 (sizeofAcProp + len)
    return cur

/-- `ACP_load_ta_pack`: the rest of the pack. -/
def acpLoadTaPack : PackReader Nat := do
  prAlignMove pack 8 0
  let cur ← get
  set pack.length
  return cur

/-- `ACP_load_pack_head`: the command id. -/
def acpLoadPackHead : PackReader PackageType := do
  let cur ← acpLoadFixed pack sizeofAcPackHeader
  return .ofCmdId (packU32 pack (cur + 12))

/-- `ACP_load_pack` for a command whose structures are read by `load`. -/
def acpLoadPack {α : Type} (cmdId : PackageType) (load : PackReader α) : PackReader α := do
  let cmdId' ← acpLoadPackHead pack
  if cmdId ≠ cmdId' then failure
  else
    let a ← load
    prIsEnd pack
    return a

/-- `ACP_load_ins_sd`: the offset of the id. -/
def acpLoadInsSd : PackReader Nat := do
  let _ ← acpLoadProp pack
  let head ← acpLoadFixed pack sizeofAcInsSdHeader
  let _ ← acpLoadFixed pack sizeofAcInsSdSigKey
  return head

/-- `ACP_load_uns_sd`, `ACP_load_uns_ta`. -/
def acpLoadUns : PackReader Nat := acpLoadFixed pack sizeofGuid

/-- `ACP_load_ins_jta` and `ACP_load_ta_pack`: the offsets of the id and of the image. -/
def acpLoadInsJta : PackReader (Nat × Nat) := do
  let _ ← acpLoadProp pack
  let head ← acpLoadFixed pack sizeofAcInsTaHeader
  let taPack ← acpLoadTaPack pack
  return (head, taPack)

variable {pack}

theorem packReader_bind_eq_some {α β : Type} {x : PackReader α} {f : α → PackReader β} {cur : Nat} {r : β × Nat} :
    (x >>= f).run cur = some r ↔ ∃ a cur', x.run cur = some (a, cur') ∧ (f a).run cur' = some r := by
  simp only [StateT.run_bind, Option.bind_eq_bind, Option.bind_eq_some_iff, Prod.exists]

theorem run_prAlignMove (pack : Bytes) (align n cur : Nat) : (prAlignMove pack align n).run cur =
    if cur + n + (align - (cur + n) % align) % align ≤ pack.length then
      some ((), cur + n + (align - (cur + n) % align) % align) else none := by
  by_cases hle : cur + n + (align - (cur + n) % align) % align ≤ pack.length
  · rw [if_pos hle]
    simp [prAlignMove, hle]
  · rw [if_neg hle]
    simp only [prAlignMove, StateT.run_bind, StateT.run_get, pure_bind, if_neg hle]
    rfl

theorem run_prIsSafeToRead (pack : Bytes) (n cur : Nat) :
    (prIsSafeToRead pack n).run cur = if cur + n ≤ pack.length then some ((), cur) else none := by
  by_cases hle : cur + n ≤ pack.length
  · rw [if_pos hle]
    simp [prIsSafeToRead, hle]
  · rw [if_neg hle]
    simp only [prIsSafeToRead, StateT.run_bind, StateT.run_get, pure_bind, if_neg hle]
    rfl

theorem run_acpLoadFixed {size cur : Nat} (hle : cur + size ≤ pack.length) (halign : (cur + size) % 4 = 0) :
    (acpLoadFixed pack size).run cur = some (cur, cur + size) := by
  refine packReader_bind_eq_some.2 ⟨cur, cur, rfl, packReader_bind_eq_some.2 ⟨(), cur, ?_, packReader_bind_eq_some.2 ⟨(), cur + size, ?_, rfl⟩⟩⟩
  · rw [run_prIsSafeToRead, if_pos hle]
  · rw [run_prAlignMove, halign, if_pos (by simpa using hle)]
    rfl

end Reader

/-! ### Packages -/

section Package

variable (rawData : Bytes)

/-- The pack behind the signature block, for a package long enough to have one. -/
def acpPack : Option Bytes :=
  if rawData.length ≤ acpCssHeaderLength then none else some (rawData.drop acpCssHeaderLength)

/-- `ACP_get_cmd_id`. -/
def acpGetCmdId : Option PackageType := do
  let pack ← acpPack rawData
  (acpLoadPackHead pack).run' 0

/-- `ACP_pload_ins_sd`: the id. -/
def acpPloadInsSd : Option Guid := do
  let pack ← acpPack rawData
  let head ← (acpLoadPack pack .installSD (acpLoadInsSd pack)).run' 0
  return packGuid pack head

/-- `ACP_pload_uns_sd`: the id that `p_sdid` points to. -/
def acpPloadUnsSd : Option Guid := do
  let pack ← acpPack rawData
  let sdId ← (acpLoadPack pack .uninstallSD (acpLoadUns pack)).run' 0
  return packGuid pack sdId

/-- `ACP_pload_ins_jta`: the id. -/
def acpPloadInsJta : Option Guid := do
  let pack ← acpPack rawData
  let heads ← (acpLoadPack pack .installJTA (acpLoadInsJta pack)).run' 0
  return packGuid pack heads.1

/-- `ACP_pload_uns_jta`: the id. -/
def acpPloadUnsJta : Option Guid := do
  let pack ← acpPack rawData
  let taId ← (acpLoadPack pack .uninstallJTA (acpLoadUns pack)).run' 0
  return packGuid pack taId

end Package

end DalHost
