import DalHost.Service.AppletsManager

/-!
# Which applets are registered at start-up

Before the first command the service reads the names of the files in the repository directory and
makes a record of every applet it finds (`updateAppletsList`). The Linux build looks for the first
place of the extension in the name, the Windows build asks the system for the names of a pattern and
keeps those whose first 32 characters are an id. Neither looks at what follows the extension, and
neither turns the id to the upper case that the look-ups use.
-/

namespace DalHost

/-! ### The two scans -/

/-- `std::string::find`: where `pat` occurs first. -/
def stringFind (pat : Bytes) : Bytes → Option Nat
  | [] => if pat = [] then some 0 else none
  | c :: cs => if pat.isPrefixOf (c :: cs) then some 0 else (stringFind pat cs).map (· + 1)

/-- The operating system, as far as the scans ask it: `stat` on a path succeeds; `FindFirstFile`,
`FindNextFile` list a name for the pattern of a star and an extension. -/
structure DirectoryHost where
  stat : FileString → Bool
  findFile : Bytes → Bytes → Bool

/-- What is relied on: the files of the directory are there, and a name that ends in the extension
fits the pattern. -/
structure DirectoryHost.Lawful (H : DirectoryHost) (repositoryDir : FileString) (dir : List Bytes) : Prop where
  stat_eq_true : ∀ name ∈ dir, H.stat (repositoryDir ++ ascii ['/'] ++ name) = true
  findFile_append : ∀ ext name, H.findFile ext (name ++ ext) = true

variable (H : DirectoryHost) (repositoryDir : FileString)

/-- The test of the Linux build. -/
def linuxTakes (filename : Bytes) : Bool :=
  if stringFind dalpFileExt filename = some lenAppId then true
  else if stringFind acpFileExt filename = some lenAppId then true
  else false

/-- `uuidsInRepo` of the Linux build, from the names in the order of `readdir`. -/
def linuxUuidsInRepo (listing : List Bytes) : List Bytes :=
  listing.filterMap fun filename =>
    if !H.stat (repositoryDir ++ ascii ['/'] ++ filename) then none
    else if linuxTakes filename then some (filename.take lenAppId)
    else none

/-- One search of the Windows build: the name is cut off after 32 characters and then validated. -/
def windowsSearch (ext : Bytes) (listing : List Bytes) : List Bytes :=
  ((listing.filter fun fileName => H.findFile ext fileName).map fun fileName => fileName.take lenAppId).filter
    validateUuidString

/-- `uuidsInRepo` of the Windows build; each of its two searches has an order of its own. -/
def windowsUuidsInRepo (dalpListing acpListing : List Bytes) : List Bytes :=
  windowsSearch H dalpFileExt dalpListing ++ windowsSearch H acpFileExt acpListing

/-- The record of an applet found in the repository. -/
def repositoryRecord : AppletRecord where
  status := .installed
  sharedSessionSupport := false
  sharedSessionSupportRetrievedFromFW := false

/-- The loop that registers what was found (`addAppRecordEntry`). -/
def registerApplets (isSpooler : Bytes → Bool) (t : AppletTable) : List Bytes → AppletTable
  | [] => t
  | uuid :: uuids =>
    if isSpooler uuid then registerApplets isSpooler t uuids
    else registerApplets isSpooler (t.insert uuid repositoryRecord) uuids

/-- `strcmp(uuid, SPOOLER_APPLET_UUID) == 0`. -/
def isSpoolerStrcmp (uuid : Bytes) : Bool := uuid = spoolerAppletUuid.text

/-- `_stricmp(uuid, SPOOLER_APPLET_UUID) == 0`. -/
def isSpoolerStricmp (uuid : Bytes) : Bool := toUpperCase uuid = spoolerAppletUuid.text

/-- `AppletsManager::updateAppletsList`, the Linux build. -/
def updateAppletsListLinux (listing : List Bytes) (t : AppletTable) : AppletTable :=
  registerApplets isSpoolerStrcmp t (linuxUuidsInRepo H repositoryDir listing)

/-- `AppletsManager::updateAppletsList`, the Windows build. -/
def updateAppletsListWindows (dalpListing acpListing : List Bytes) (t : AppletTable) : AppletTable :=
  registerApplets isSpoolerStricmp t (windowsUuidsInRepo H dalpListing acpListing)

/-! ### What the table should be -/

/-- The repository has a package of `u`. -/
def HasPackage (dir : List Bytes) (u : Bytes) : Prop := u ++ dalpFileExt ∈ dir ∨ u ++ acpFileExt ∈ dir

/-- `key` is the upper-case spelling of an id with a package, and not the spooler. -/
def InRepository (dir : List Bytes) (key : Bytes) : Prop :=
  ∃ u, IsHexId u ∧ HasPackage dir u ∧ key = toUpperCase u ∧ key ≠ spoolerAppletUuid.text

/-- The table has a record for exactly the ids of the repository. -/
def RegistersRepository (dir : List Bytes) (t : AppletTable) : Prop :=
  ∀ key r, t.find? key = some r ↔ r = repositoryRecord ∧ InRepository dir key

/-- Both builds register the repository, in whatever order the directory is listed. -/
def StartUpExact (dir : List Bytes) : Prop :=
  ∀ listing dalpListing acpListing : List Bytes, listing.Perm dir → dalpListing.Perm dir → acpListing.Perm dir →
    RegistersRepository dir (updateAppletsListLinux H repositoryDir listing .empty) ∧
      RegistersRepository dir (updateAppletsListWindows H dalpListing acpListing .empty)

/-! ### The scans find the packages -/

variable {H repositoryDir}

theorem stringFind_append {pat u : Bytes} (w : Bytes) (hpat : pat.head? = some 46) (hu : 46 ∉ u) :
    stringFind pat (u ++ w) = (stringFind pat w).map (· + u.length) := by
  induction u with
  | nil => simp
  | cons c cs ih =>
    obtain ⟨d, pat', rfl⟩ : ∃ d pat', pat = d :: pat' := by
      cases pat with
      | nil => simp at hpat
      | cons d pat' => exact ⟨d, pat', rfl⟩
    obtain rfl : d = 46 := by simpa using hpat
    have hc : c ≠ 46 := fun h => hu (by simp [h])
    have hcs : 46 ∉ cs := fun h => hu (by simp [h])
    rw [List.cons_append, stringFind, if_neg (by simp [hc.symm]), ih hcs, Option.map_map]
    rfl

theorem dot_not_mem {u : Bytes} (hu : ∀ c ∈ u, isHexDigit c = true) : 46 ∉ u := by
  intro h
  exact absurd (hu 46 h) (by decide)

theorem linuxTakes_append {u ext : Bytes} (hu : IsHexId u) (hext : ext = dalpFileExt ∨ ext = acpFileExt) :
    linuxTakes (u ++ ext) = true := by
  have hdot := dot_not_mem hu.2
  have hdalp := @stringFind_append dalpFileExt u ext rfl hdot
  have hacp := @stringFind_append acpFileExt u ext rfl hdot
  obtain ⟨hlen, -⟩ := hu
  rcases hext with rfl | rfl
  · have hself : stringFind dalpFileExt dalpFileExt = some 0 := by decide
    simp [linuxTakes, hdalp, hself, hlen]
  · have hself : stringFind acpFileExt acpFileExt = some 0 := by decide
    simp [linuxTakes, hacp, hself, hlen]

theorem validateUuidString_iff {u : Bytes} : validateUuidString u = true ↔ IsHexId u := by
  simp only [validateUuidString, IsHexId, Bool.and_eq_true, decide_eq_true_eq]
  refine and_congr_right fun hlen => ?_
  have hzero : (u ++ [0])[lenAppId]? = some 0 := by simp [← hlen]
  have htake : (u ++ [0]).take lenAppId = u := by simp [← hlen]
  simp [validateUuidChar, hzero, htake]

/-! ### What the loop leaves in the table -/

theorem find?_registerApplets (isSpooler : Bytes → Bool) (uuids : List Bytes) (t : AppletTable) (key : Bytes) :
    (registerApplets isSpooler t uuids).find? key =
      (t.find? key).or (if key ∈ uuids ∧ isSpooler key = false then some repositoryRecord else none) := by
  induction uuids generalizing t with
  | nil => simp [registerApplets]
  | cons uuid uuids ih =>
    rw [registerApplets]
    by_cases hsp : isSpooler uuid = true
    · rw [if_pos hsp, ih]
      by_cases hkey : key = uuid
      · subst hkey
        simp [hsp]
      · simp [hkey]
    · rw [if_neg hsp, ih, OrdMap.find?_insert]
      by_cases hkey : key = uuid
      · subst hkey
        have hfalse : isSpooler key = false := by simpa using hsp
        cases t.find? key <;> simp [hfalse]
      · simp [hkey]

/-- The names that lead to a record, and which: `takes` is the test on a name. -/
def Registered (takes isSpooler : Bytes → Bool) (dir : List Bytes) (key : Bytes) : Prop :=
  ∃ name ∈ dir, takes name = true ∧ key = name.take lenAppId ∧ isSpooler key = false

theorem registersRepository_iff {takes isSpooler : Bytes → Bool} {dir uuids : List Bytes}
    (h : ∀ key, key ∈ uuids ↔ ∃ name ∈ dir, takes name = true ∧ key = name.take lenAppId) :
    RegistersRepository dir (registerApplets isSpooler .empty uuids) ↔
      ∀ key, Registered takes isSpooler dir key ↔ InRepository dir key := by
  have hreg : ∀ key, (key ∈ uuids ∧ isSpooler key = false) ↔ Registered takes isSpooler dir key := by
    intro key
    rw [h]
    constructor
    · rintro ⟨⟨name, hname, ht, hk⟩, hsp⟩
      exact ⟨name, hname, ht, hk, hsp⟩
    · rintro ⟨name, hname, ht, hk, hsp⟩
      exact ⟨⟨name, hname, ht, hk⟩, hsp⟩
  simp only [RegistersRepository, find?_registerApplets, OrdMap.find?_empty, Option.none_or, hreg,
    Option.ite_none_right_eq_some, Option.some.injEq]
  constructor
  · intro hall key
    have hkey := hall key repositoryRecord
    simpa using hkey
  · intro hall key r
    rw [hall key, and_comm, eq_comm]

theorem mem_linuxUuidsInRepo {dir listing : List Bytes} (hH : H.Lawful repositoryDir dir) (hperm : listing.Perm dir) (key : Bytes) :
    key ∈ linuxUuidsInRepo H repositoryDir listing ↔
      ∃ name ∈ dir, linuxTakes name = true ∧ key = name.take lenAppId := by
  simp only [linuxUuidsInRepo, List.mem_filterMap]
  constructor
  · rintro ⟨name, hname, htake⟩
    have hdir := hperm.mem_iff.1 hname
    rw [hH.stat_eq_true name hdir] at htake
    simp only [Bool.not_true, Bool.false_eq_true, if_false, Option.ite_none_right_eq_some, Option.some.injEq] at htake
    exact ⟨name, hdir, htake.1, htake.2.symm⟩
  · rintro ⟨name, hdir, htake, rfl⟩
    refine ⟨name, hperm.mem_iff.2 hdir, ?_⟩
    rw [hH.stat_eq_true name hdir, htake]
    rfl

/-- The test of the Windows build: one of its searches lists the name and keeps it. -/
def windowsTakes (H : DirectoryHost) (fileName : Bytes) : Bool :=
  (H.findFile dalpFileExt fileName || H.findFile acpFileExt fileName) && validateUuidString (fileName.take lenAppId)

theorem mem_windowsSearch {dir listing : List Bytes} (ext : Bytes) (hperm : listing.Perm dir) (key : Bytes) :
    key ∈ windowsSearch H ext listing ↔
      ∃ name ∈ dir, H.findFile ext name = true ∧ validateUuidString (name.take lenAppId) = true ∧ key = name.take lenAppId := by
  simp only [windowsSearch, List.mem_filter, List.mem_map]
  constructor
  · rintro ⟨⟨name, ⟨hname, hfind⟩, rfl⟩, hvalid⟩
    exact ⟨name, hperm.mem_iff.1 hname, hfind, hvalid, rfl⟩
  · rintro ⟨name, hname, hfind, hvalid, rfl⟩
    exact ⟨⟨name, ⟨hperm.mem_iff.2 hname, hfind⟩, rfl⟩, hvalid⟩

theorem mem_windowsUuidsInRepo {dir dalpListing acpListing : List Bytes} (hdalp : dalpListing.Perm dir)
    (hacp : acpListing.Perm dir) (key : Bytes) :
    key ∈ windowsUuidsInRepo H dalpListing acpListing ↔
      ∃ name ∈ dir, windowsTakes H name = true ∧ key = name.take lenAppId := by
  rw [windowsUuidsInRepo, List.mem_append, mem_windowsSearch dalpFileExt hdalp, mem_windowsSearch acpFileExt hacp]
  simp only [windowsTakes, Bool.and_eq_true, Bool.or_eq_true]
  constructor
  · rintro (⟨name, hname, hfind, hvalid, rfl⟩ | ⟨name, hname, hfind, hvalid, rfl⟩)
    · exact ⟨name, hname, ⟨.inl hfind, hvalid⟩, rfl⟩
    · exact ⟨name, hname, ⟨.inr hfind, hvalid⟩, rfl⟩
  · rintro ⟨name, hname, ⟨hfind | hfind, hvalid⟩, rfl⟩
    · exact .inl ⟨name, hname, hfind, hvalid, rfl⟩
    · exact .inr ⟨name, hname, hfind, hvalid, rfl⟩

/-! ### When the scans are exact -/

/-- The id is in upper case and has a package of its own. -/
def OwnPackage (dir : List Bytes) (u : Bytes) : Prop := IsAppId u ∧ HasPackage dir u

section Scan

variable {takes isSpooler : Bytes → Bool} {dir : List Bytes}
  (htakes : ∀ u ext, IsHexId u → ext = dalpFileExt ∨ ext = acpFileExt → takes (u ++ ext) = true)
  (hspooler : ∀ u, isSpooler u = true → toUpperCase u = spoolerAppletUuid.text)
  (hself : isSpooler spoolerAppletUuid.text = true)

include htakes hspooler in
theorem registered_of_hasPackage {u : Bytes} (hu : IsHexId u) (hp : HasPackage dir u)
    (hne : toUpperCase u ≠ spoolerAppletUuid.text) : Registered takes isSpooler dir u := by
  have hsp : isSpooler u = false := by
    rw [← Bool.not_eq_true]
    exact fun h => hne (hspooler u h)
  have htake : ∀ ext : Bytes, u = (u ++ ext).take lenAppId := fun ext => by rw [← hu.1, List.take_left]
  rcases hp with hp | hp
  · exact ⟨_, hp, htakes u _ hu (.inl rfl), htake _, hsp⟩
  · exact ⟨_, hp, htakes u _ hu (.inr rfl), htake _, hsp⟩

include htakes hspooler hself in
/-- A scan that takes every package registers the repository exactly if everything else it takes is
the spooler or stands beside a package of that very spelling. -/
theorem registered_iff_inRepository :
    (∀ key, Registered takes isSpooler dir key ↔ InRepository dir key) ↔
      ∀ name ∈ dir, takes name = true → isSpooler (name.take lenAppId) = true ∨ OwnPackage dir (name.take lenAppId) := by
  constructor
  · intro hall name hname htake
    by_cases hsp : isSpooler (name.take lenAppId) = true
    · exact .inl hsp
    · right
      obtain ⟨u, hu, hp, hkey, hne⟩ := (hall _).1 ⟨name, hname, htake, rfl, by simpa using hsp⟩
      -- the package may be spelt in lower case, but then it has a record of its own
      obtain ⟨v, hv, -, huv, -⟩ :=
        (hall u).1 (registered_of_hasPackage htakes hspooler hu hp (hkey ▸ hne))
      have happ : IsAppId u := huv ▸ isAppId_toUpperCase hv.1 hv.2
      rw [hkey, toUpperCase_eq_self happ.2]
      exact ⟨happ, hp⟩
  · intro hall key
    constructor
    · rintro ⟨name, hname, htake, rfl, hsp⟩
      rcases hall name hname htake with h | ⟨happ, hp⟩
      · exact absurd h (by simp [hsp])
      · refine ⟨_, happ.isHexId, hp, (toUpperCase_eq_self happ.2).symm, fun heq => ?_⟩
        rw [heq, hself] at hsp
        cases hsp
    · rintro ⟨u, hu, hp, rfl, hne⟩
      have hreg := registered_of_hasPackage htakes hspooler hu hp hne
      obtain ⟨name, hname, htake, hutake, hsp⟩ := hreg
      rcases hall name hname htake with h | ⟨happ, -⟩
      · rw [← hutake, hsp] at h
        cases h
      · rw [← hutake] at happ
        rw [toUpperCase_eq_self happ.2]
        exact ⟨name, hname, htake, hutake, hsp⟩

end Scan

theorem isSpoolerStrcmp_toUpperCase {u : Bytes} (h : isSpoolerStrcmp u = true) : toUpperCase u = spoolerAppletUuid.text := by
  have hu : u = spoolerAppletUuid.text := by simpa [isSpoolerStrcmp] using h
  rw [hu, AppId.toUpperCase_text]

theorem windowsTakes_append {dir : List Bytes} (hH : H.Lawful repositoryDir dir) {u ext : Bytes} (hu : IsHexId u)
    (hext : ext = dalpFileExt ∨ ext = acpFileExt) : windowsTakes H (u ++ ext) = true := by
  have htake : (u ++ ext).take lenAppId = u := by rw [← hu.1, List.take_left]
  have hfind := hH.findFile_append ext u
  rw [windowsTakes, htake, validateUuidString_iff.2 hu]
  rcases hext with rfl | rfl <;> simp [hfind]

/-- Start-up registers the repository, on both builds and in every order of listing, exactly if
every name that a scan takes begins with the spooler's id, or with an upper-case id that has a package
of its own. -/
theorem startUp_exact_iff {dir : List Bytes} (hH : H.Lawful repositoryDir dir) :
    StartUpExact H repositoryDir dir ↔
      (∀ name ∈ dir, linuxTakes name = true →
        isSpoolerStrcmp (name.take lenAppId) = true ∨ OwnPackage dir (name.take lenAppId)) ∧
      (∀ name ∈ dir, windowsTakes H name = true →
        isSpoolerStricmp (name.take lenAppId) = true ∨ OwnPackage dir (name.take lenAppId)) := by
  have hlinux := @registered_iff_inRepository linuxTakes isSpoolerStrcmp dir (fun u ext => linuxTakes_append)
    (fun u => isSpoolerStrcmp_toUpperCase) (by simp [isSpoolerStrcmp])
  have hwindows := @registered_iff_inRepository (windowsTakes H) isSpoolerStricmp dir (fun u ext => windowsTakes_append hH)
    (fun u h => by simpa [isSpoolerStricmp] using h) (by simp [isSpoolerStricmp, AppId.toUpperCase_text])
  rw [← hlinux, ← hwindows]
  constructor
  · intro h
    obtain ⟨hl, hw⟩ := h dir dir dir (.refl dir) (.refl dir) (.refl dir)
    exact ⟨(registersRepository_iff (mem_linuxUuidsInRepo hH (.refl dir))).1 hl,
      (registersRepository_iff (mem_windowsUuidsInRepo (.refl dir) (.refl dir))).1 hw⟩
  · rintro ⟨hl, hw⟩ listing dalpListing acpListing hperm hdalp hacp
    exact ⟨(registersRepository_iff (mem_linuxUuidsInRepo hH hperm)).2 hl,
      (registersRepository_iff (mem_windowsUuidsInRepo hdalp hacp)).2 hw⟩

/-! ### A repository that is read wrongly -/

/-- A system in which every path can be examined and a pattern lists the names that end in the
extension. -/
def plainHost : DirectoryHost where
  stat _ := true
  findFile ext name := ext.isSuffixOf name

theorem plainHost_lawful (repositoryDir : FileString) (dir : List Bytes) : plainHost.Lawful repositoryDir dir where
  stat_eq_true _ _ := rfl
  findFile_append ext name := by simp [plainHost]

/-- A copy of a package, kept under a longer name. -/
def backupName : Bytes := exampleApplet.text ++ dalpFileExt ++ ascii ['.', 'b', 'a', 'k']

/-- The Linux build takes the copy for the package. -/
theorem startUp_not_exact : ¬StartUpExact plainHost (ascii ['r']) [backupName] := by
  intro h
  obtain ⟨hlinux, -⟩ := h [backupName] [backupName] [backupName] (.refl _) (.refl _) (.refl _)
  have hfind : (updateAppletsListLinux plainHost (ascii ['r']) [backupName] .empty).find? exampleApplet.text =
      some repositoryRecord := by decide +kernel
  obtain ⟨-, u, hu, hp, -, -⟩ := (hlinux _ _).1 hfind
  have hlen : ∀ ext : Bytes, u ++ ext = backupName → u.length + ext.length = backupName.length := by
    intro ext heq
    rw [← heq, List.length_append]
  have hbackup : backupName.length = 41 := by decide +kernel
  have hulen : u.length = 32 := hu.1
  rcases hp with hp | hp
  · have h := hlen _ (by simpa using hp)
    have hext : dalpFileExt.length = 5 := rfl
    omega
  · have h := hlen _ (by simpa using hp)
    have hext : acpFileExt.length = 4 := rfl
    omega

/-- Two packages of one applet, one of another, that of the spooler, and files that are no packages. -/
def mixedRepository : List Bytes :=
  [ascii ['l', 'o', 'g'], exampleApplet.text ++ dalpFileExt, spoolerAppletUuid.text ++ dalpFileExt,
    ascii ['A', 'B', '.', 'd', 'a', 'l', 'p'], List.replicate 32 49 ++ acpFileExt,
    exampleApplet.text ++ acpFileExt]

/-- The two applets are registered, each once, and nothing else. -/
theorem startUp_exact_mixed : StartUpExact plainHost (ascii ['r']) mixedRepository := by
  have hown : ∀ name ∈ mixedRepository, linuxTakes name = true ∨ windowsTakes plainHost name = true →
      name.take lenAppId = spoolerAppletUuid.text ∨
        name.take lenAppId ∈ [exampleApplet.text, List.replicate 32 49] := by
    decide +kernel
  have hpackage : ∀ u ∈ [exampleApplet.text, List.replicate 32 49], OwnPackage mixedRepository u := by
    unfold OwnPackage HasPackage
    decide +kernel
  refine (startUp_exact_iff (plainHost_lawful _ _)).2 ⟨fun name hname htaken => ?_, fun name hname htaken => ?_⟩
  · refine (hown name hname (.inl htaken)).imp (fun hspooler => ?_) (hpackage _)
    rw [hspooler]
    decide +kernel
  · refine (hown name hname (.inr htaken)).imp (fun hspooler => ?_) (hpackage _)
    rw [hspooler]
    decide +kernel

end DalHost
