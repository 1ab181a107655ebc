import DalHost.Plugin.AdminPack

/-!
# Command packages as the Beihai v2 plugin reads them

`JHI_Plugin_ParsePackage` asks the package parser of the VM library for the type of a package and
for the sixteen bytes of the id it is about, and renders these as text. `uuid_to_string` writes
lower-case digits, which is all the guards behind it have to go by.
-/

namespace DalHost

/-! ### Rendering an id -/

/-- `hex2asc`. -/
def hex2asc (c : UInt8) : UInt8 := if c < 10 then 48 + c else 97 + c - 10

/-- `uuid_to_string`. -/
def uuidToString (uuid : Guid) : Bytes :=
  uuid.bytes.flatMap fun b : UInt8 => [hex2asc ((b &&& 0xf0) >>> 4), hex2asc (b &&& 0xf)]

theorem isUpper_hex2asc (b : UInt8) :
    isUpper (hex2asc ((b &&& 0xf0) >>> 4)) = false ∧ isUpper (hex2asc (b &&& 0xf)) = false :=
  forall_byte (p := fun b => isUpper (hex2asc ((b &&& 0xf0) >>> 4)) = false ∧ isUpper (hex2asc (b &&& 0xf)) = false)
    (by decide +kernel) b

theorem isUpper_of_mem_uuidToString {uuid : Guid} {c : UInt8} (h : c ∈ uuidToString uuid) : isUpper c = false := by
  obtain ⟨b, -, hc⟩ := List.mem_flatMap.1 h
  simp only [List.mem_cons, List.not_mem_nil, or_false] at hc
  rcases hc with rfl | rfl
  · exact (isUpper_hex2asc b).1
  · exact (isUpper_hex2asc b).2

/-- The text of an id is never the constant of the spooler, letter for letter. -/
theorem uuidToString_ne_spooler (uuid : Guid) : uuidToString uuid ≠ spoolerAppletUuid.text := by
  intro h
  have hmem : (66 : UInt8) ∈ uuidToString uuid := by
    rw [h]
    decide +kernel
  exact absurd (isUpper_of_mem_uuidToString hmem) (by decide)

/-! ### `JHI_Plugin_ParsePackage` -/

/-- The id of a package, once the parser has found it. -/
def renderUuid (packageType : PackageType) : Option Guid → Except JhiRet PackageInfo
  | none => .error teeStatusInvalidParams
  | some uuid => .ok ⟨packageType, uuidToString uuid⟩

/-- `BeihaiPlugin::JHI_Plugin_ParsePackage`, with packages for security domains and without packages
for native applets. For the removal of a security domain the source renders the sixteen bytes at
`&cmd_pack.p_sdid`, where the pointer to the id is and not the id; they depend on where the package
lies in memory and are a parameter (`sdIdCell`). -/
def parsePackage (sdIdCell : Bytes → Guid) (cmdPkg : Bytes) : Except JhiRet PackageInfo :=
  if cmdPkg.length = 0 then .error teeStatusInvalidParams
  else
    match acpGetCmdId cmdPkg with
    | none => .error teeStatusInvalidParams
    | some .installSD => renderUuid .installSD (acpPloadInsSd cmdPkg)
    | some .uninstallSD => renderUuid .uninstallSD ((acpPloadUnsSd cmdPkg).map fun _ => sdIdCell cmdPkg)
    | some .installJTA => renderUuid .installJTA (acpPloadInsJta cmdPkg)
    | some .uninstallJTA => renderUuid .uninstallJTA (acpPloadUnsJta cmdPkg)
    | some .updateSVL => .ok ⟨.updateSVL, []⟩
    | some .invalid | some .installNTA | some .uninstallNTA | some .installJTAProp | some .other =>
      .error teeStatusInvalidPackage

/-- A package about an id is one of four kinds. -/
inductive PackageType.AboutId : PackageType → Prop
  | installSD : AboutId .installSD
  | uninstallSD : AboutId .uninstallSD
  | installJTA : AboutId .installJTA
  | uninstallJTA : AboutId .uninstallJTA

theorem renderUuid_eq_ok {packageType : PackageType} {uuid : Option Guid} {info : PackageInfo}
    (h : renderUuid packageType uuid = .ok info) :
    info.packageType = packageType ∧ ∃ g, info.uuid = uuidToString g := by
  unfold renderUuid at h
  split at h
  · exact nomatch h
  · exact Except.ok.inj h ▸ ⟨rfl, _, rfl⟩

/-- What `parsePackage` answers: an id in lower case, or no id at all. -/
theorem parsePackage_eq_ok {sdIdCell : Bytes → Guid} {cmdPkg : Bytes} {info : PackageInfo}
    (h : parsePackage sdIdCell cmdPkg = .ok info) :
    cmdPkg.length ≠ 0 ∧ (info.uuid = [] ∨ info.packageType.AboutId ∧ ∃ g, info.uuid = uuidToString g) := by
  unfold parsePackage at h
  split_ifs at h with hlen
  refine ⟨hlen, ?_⟩
  split at h
  · exact nomatch h
  · obtain ⟨ht, hg⟩ := renderUuid_eq_ok h
    exact .inr ⟨ht ▸ .installSD, hg⟩
  · obtain ⟨ht, hg⟩ := renderUuid_eq_ok h
    exact .inr ⟨ht ▸ .uninstallSD, hg⟩
  · obtain ⟨ht, hg⟩ := renderUuid_eq_ok h
    exact .inr ⟨ht ▸ .installJTA, hg⟩
  · obtain ⟨ht, hg⟩ := renderUuid_eq_ok h
    exact .inr ⟨ht ▸ .uninstallJTA, hg⟩
  · exact .inl (Except.ok.inj h ▸ rfl)
  all_goals exact nomatch h

end DalHost
