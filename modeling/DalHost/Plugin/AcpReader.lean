import DalHost.Plugin.AdminPack
import DalHost.Plugin.Beihai
import DalHost.Lib.Scan
import DalHost.Lib.Records

/-!
# The parser of command packages, in full

All that the VM library can load from a package (`admin_pack_ext.c`, `admin_pack_int.c`), on memory: a reader has its
cursor, its head and its end as addresses of eight bytes, whose sums wrap, and what is loaded are addresses too. The
reads of the parser itself, the lengths in the heads and the command id, are logged. `AdminPack` has the part of this
that the plugin needs, on offsets.
-/

namespace DalHost

def bheBadParameter : BhRet := 0x102
def bheInvalidBpkFile : BhRet := 0x308

namespace Acp

/-- `UINTPTR_MAX`. -/
def uintptrMax : UInt64 := 0xFFFFFFFFFFFFFFFF

def maxAcpInsReasonsLength : UInt32 := 1024
def maxAcpUsedServices : UInt32 := 20
def maxAcpSvlRecords : UInt32 := 40
def maxAcpPropsLength : UInt32 := 2048
def maxAcpNtaMetadataLength : UInt32 := 5120

def sizeofAcInsJtaPropHeader : Nat := 20
def sizeofAcSv : Nat := 20

/-- `PackReader`. -/
structure PackReader where
  cur : UInt64
  head : UInt64
  total : UInt32
  deriving DecidableEq

/-- A read through a reader; the accesses are to memory. -/
abbrev Load := StateT PackReader (Scan BhRet)

/-! ### The reader -/

/-- `pr_init`. -/
def prInit (data : UInt64) (n : UInt32) : Scan BhRet PackReader := do
  Scan.check (data ≤ uintptrMax - n.toUInt64) bheInvalidBpkFile
  return ⟨data, data, n⟩

/-- The body of `pr_align_move` and `pr_8b_align_move`. -/
def prAlignedMove (align : UInt64) (nMove : UInt64) : Load Unit := do
  let pr ← get
  let newCur := pr.cur + nMove
  let lenFromHead := newCur - pr.head
  Scan.check (pr.cur ≤ uintptrMax - nMove ∧ pr.head ≤ newCur) bheInvalidBpkFile
  let offset := (align - (lenFromHead &&& (align - 1))) &&& (align - 1)
  Scan.check (newCur ≤ uintptrMax - offset) bheInvalidBpkFile
  Scan.check (newCur + offset ≤ pr.head + pr.total.toUInt64) bheInvalidBpkFile
  set { pr with cur := newCur + offset }

/-- `pr_align_move`; the alignment is `PR_ALIGN`. -/
def prAlignMove (nMove : UInt64) : Load Unit := prAlignedMove 4 nMove

/-- `pr_8b_align_move`. -/
def pr8bAlignMove (nMove : UInt64) : Load Unit := prAlignedMove 8 nMove

/-- `pr_move`. -/
def prMove (nMove : UInt64) : Load Unit := do
  let pr ← get
  Scan.check (pr.cur ≤ uintptrMax - nMove ∧ pr.cur + nMove ≤ pr.head + pr.total.toUInt64) bheInvalidBpkFile
  set { pr with cur := pr.cur + nMove }

/-- `pr_is_safe_to_read`. -/
def prIsSafeToRead (nMove : UInt64) : Load Unit := do
  let pr ← get
  Scan.check (pr.cur ≤ uintptrMax - nMove) bheInvalidBpkFile
  Scan.check (pr.cur + nMove ≤ pr.head + pr.total.toUInt64) bheInvalidBpkFile

/-- `pr_is_end`. -/
def prIsEnd : Load Unit := do
  let pr ← get
  Scan.check (pr.cur = pr.head + pr.total.toUInt64) bheInvalidBpkFile

/-! ### Structures -/

/-- The body of the loads of a structure of fixed size: its address. -/
def acpLoadFixed (size : Nat) : Load UInt64 := do
  prIsSafeToRead (.ofNat size)
  let pr ← get
  prAlignMove (.ofNat size)
  return pr.cur

/-- The body of the loads of a structure that ends in an array: the number of its elements stands at `lenAt`. -/
def acpLoadCounted (size lenAt : Nat) (max : UInt32) (elem : Nat) : Load UInt64 := do
  prIsSafeToRead (.ofNat size)
  let pr ← get
  let count ← (Scan.u32 (pr.cur.toNat + lenAt) : Scan BhRet UInt32)
  Scan.check (count ≤ max) bheInvalidBpkFile
  let len := .ofNat size + count.toUInt64 * .ofNat elem
  prIsSafeToRead len
  prAlignMove len
  return pr.cur

/-- `ACP_load_pack_head`. -/
def acpLoadPackHead : Load UInt64 := acpLoadFixed sizeofAcPackHeader

/-- `ACP_load_ins_sd_head`. -/
def acpLoadInsSdHead : Load UInt64 := acpLoadFixed sizeofAcInsSdHeader

/-- `ACP_load_ins_sd_sig`. -/
def acpLoadInsSdSig : Load UInt64 := acpLoadFixed sizeofAcInsSdSigKey

/-- `ACP_load_sdid`. -/
def acpLoadSdId : Load UInt64 := acpLoadFixed sizeofGuid

/-- `ACP_load_taid`. -/
def acpLoadTaId : Load UInt64 := acpLoadFixed sizeofGuid

/-- `ACP_load_ins_jta_prop_head`. -/
def acpLoadInsJtaPropHead : Load UInt64 := acpLoadFixed sizeofAcInsJtaPropHeader

/-- `ACP_load_ins_jta_head`. -/
def acpLoadInsJtaHead : Load UInt64 := acpLoadFixed sizeofAcInsTaHeader

/-- `ACP_load_ins_nta_head`. -/
def acpLoadInsNtaHead : Load UInt64 := acpLoadFixed sizeofAcInsTaHeader

/-- `ACP_load_metadata`: a length, and so many bytes. -/
def acpLoadMetadata : Load UInt64 := acpLoadCounted 4 0 maxAcpNtaMetadataLength 1

/-- `ACP_load_reasons`: a length, and so many words. -/
def acpLoadReasons : Load UInt64 := acpLoadCounted 4 0 maxAcpInsReasonsLength 4

/-- `ACP_load_taid_list`. -/
def acpLoadTaIdList : Load UInt64 := acpLoadCounted 4 0 maxAcpUsedServices sizeofGuid

/-- `ACP_load_svl`. -/
def acpLoadSvl : Load UInt64 := acpLoadCounted 4 0 maxAcpSvlRecords sizeofAcSv

/-- `ACP_load_prop`: two numbers, the second of them the length in bytes. -/
def acpLoadProp : Load UInt64 := acpLoadCounted sizeofAcProp 4 maxAcpPropsLength 1

/-- `ACP_load_ta_pack`: the rest of the package. -/
def acpLoadTaPack : Load UInt64 := do
  pr8bAlignMove 0
  let pr ← get
  Scan.check (pr.cur ≤ pr.head + pr.total.toUInt64) bheInvalidBpkFile
  let len := pr.head + pr.total.toUInt64 - pr.cur
  prIsSafeToRead len
  prMove len
  return pr.cur

/-! ### Commands -/

/-- `ACInsSDPack`. -/
structure InsSdPack where
  insCond : UInt64
  head : UInt64
  sigKey : UInt64

/-- `ACInsJTAPack` with the package behind it. -/
structure InsJtaPack where
  insCond : UInt64
  head : UInt64
  taPack : UInt64

/-- `ACInsNTAPack` with the package behind it. -/
structure InsNtaPack where
  insCond : UInt64
  head : UInt64
  mdata : UInt64
  taPack : UInt64

/-- `ACInsJTAProp` with the image behind it. -/
structure InsJtaProp where
  head : UInt64
  postReasons : UInt64
  regReasons : UInt64
  prop : UInt64
  usedServiceList : UInt64
  jeffPack : UInt64

/-- `ACUpdateSVLPack`. -/
structure UpdateSvlPack where
  insCond : UInt64
  svList : UInt64

/-- `ACP_load_ins_sd`. -/
def acpLoadInsSd : Load InsSdPack := do
  let insCond ← acpLoadProp
  let head ← acpLoadInsSdHead
  let sigKey ← acpLoadInsSdSig
  return ⟨insCond, head, sigKey⟩

/-- `ACP_load_uns_sd`. -/
def acpLoadUnsSd : Load UInt64 := acpLoadSdId

/-- `ACP_load_ins_jta`, then `ACP_load_ta_pack`. -/
def acpLoadInsJta : Load InsJtaPack := do
  let insCond ← acpLoadProp
  let head ← acpLoadInsJtaHead
  let taPack ← acpLoadTaPack
  return ⟨insCond, head, taPack⟩

/-- `ACP_load_ins_nta`, then `ACP_load_ta_pack`. -/
def acpLoadInsNta : Load InsNtaPack := do
  let insCond ← acpLoadProp
  let head ← acpLoadInsNtaHead
  let mdata ← acpLoadMetadata
  let taPack ← acpLoadTaPack
  return ⟨insCond, head, mdata, taPack⟩

/-- `ACP_load_uns_ta`. -/
def acpLoadUnsTa : Load UInt64 := acpLoadTaId

/-- `ACP_load_ins_jta_prop`, then `ACP_load_ta_pack`. -/
def acpLoadInsJtaProp : Load InsJtaProp := do
  let head ← acpLoadInsJtaPropHead
  let postReasons ← acpLoadReasons
  let regReasons ← acpLoadReasons
  let prop ← acpLoadProp
  let usedServiceList ← acpLoadTaIdList
  let jeffPack ← acpLoadTaPack
  return ⟨head, postReasons, regReasons, prop, usedServiceList, jeffPack⟩

/-- `ACP_load_update_svl`. -/
def acpLoadUpdateSvl : Load UpdateSvlPack := do
  let insCond ← acpLoadProp
  let svList ← acpLoadSvl
  return ⟨insCond, svList⟩

/-! ### Packages -/

/-- The head of a pack, if it is one of the command. -/
def acpLoadHeadOf (cmdId : PackageType) : Load UInt64 := do
  let head ← acpLoadPackHead
  let id ← (Scan.u32 (head.toNat + 12) : Scan BhRet UInt32)
  Scan.check (cmdId = .ofCmdId id) bheBadParameter
  return head

/-- `ACP_load_pack` for a command whose branch of the switch is `load`; the properties of an applet have no head. -/
def acpLoadPack {α : Type} (rawPack : UInt64) (size : UInt32) (cmdId : PackageType) (load : Load α) :
    Scan BhRet (UInt64 × α) := do
  let pr ← prInit rawPack size
  StateT.run' (do
    let head ← if cmdId = .installJTAProp then pure 0 else acpLoadHeadOf cmdId
    let pack ← load
    prIsEnd
    return (head, pack)) pr

/-- `ACP_load_pack` behind the signature block, as all but one of the functions below call it. -/
def acpPload {α : Type} (rawData : UInt64) (size : UInt32) (cmdId : PackageType) (load : Load α) :
    Scan BhRet (UInt64 × α) := do
  Scan.check (rawData ≠ 0 ∧ UInt32.ofNat acpCssHeaderLength < size) bheBadParameter
  acpLoadPack (rawData + .ofNat acpCssHeaderLength) (size - .ofNat acpCssHeaderLength) cmdId load

/-- `ACP_pload_ins_sd`. -/
def acpPloadInsSd (rawData : UInt64) (size : UInt32) := acpPload rawData size .installSD acpLoadInsSd

/-- `ACP_pload_uns_sd`. -/
def acpPloadUnsSd (rawData : UInt64) (size : UInt32) := acpPload rawData size .uninstallSD acpLoadUnsSd

/-- `ACP_pload_ins_jta`. -/
def acpPloadInsJta (rawData : UInt64) (size : UInt32) := acpPload rawData size .installJTA acpLoadInsJta

/-- `ACP_pload_ins_nta`. -/
def acpPloadInsNta (rawData : UInt64) (size : UInt32) := acpPload rawData size .installNTA acpLoadInsNta

/-- `ACP_pload_uns_jta`. -/
def acpPloadUnsJta (rawData : UInt64) (size : UInt32) := acpPload rawData size .uninstallJTA acpLoadUnsTa

/-- `ACP_pload_uns_nta`. -/
def acpPloadUnsNta (rawData : UInt64) (size : UInt32) := acpPload rawData size .uninstallNTA acpLoadUnsTa

/-- `ACP_pload_update_svl`. -/
def acpPloadUpdateSvl (rawData : UInt64) (size : UInt32) := acpPload rawData size .updateSVL acpLoadUpdateSvl

/-- `ACP_pload_ins_jta_prop`: no signature block and no head. -/
def acpPloadInsJtaProp (rawData : UInt64) (size : UInt32) : Scan BhRet (UInt64 × InsJtaProp) := do
  Scan.check (rawData ≠ 0) bheBadParameter
  acpLoadPack rawData size .installJTAProp acpLoadInsJtaProp

/-- `ACP_get_cmd_id`. -/
def acpGetCmdId (rawData : UInt64) (size : UInt32) : Scan BhRet PackageType := do
  Scan.check (rawData ≠ 0 ∧ UInt32.ofNat acpCssHeaderLength < size) bheBadParameter
  let pr ← prInit (rawData + .ofNat acpCssHeaderLength) (size - .ofNat acpCssHeaderLength)
  let head ← StateT.run' acpLoadPackHead pr
  let id ← (Scan.u32 (head.toNat + 12) : Scan BhRet UInt32)
  return .ofCmdId id

end Acp

end DalHost
