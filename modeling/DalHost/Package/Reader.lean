import DalHost.Package.Dalp
import Mathlib.Data.List.Sort

/-!
# The package reader

`AppletsPackageReader` picks the packages of a DALP document that the platform may run, best first.
On older firmware it takes the highest major version with a record that is not above the firmware,
and of it every record, in the order of the versions. On newer firmware it takes the records of major
version 11 whose API level the platform supports. Either way a first query finds the records, a
second one collects their versions with their positions, and after sorting a third one fetches the
packages by position.
-/

namespace DalHost

/-! ### Versions -/

/-- The numbers of `VERSION` that are compared. -/
structure FwVersion where
  major : UInt16
  minor : UInt16
  hotfix : UInt16
  deriving DecidableEq

/-- `"%d.%d.%d"`. -/
def FwVersion.text (v : FwVersion) : Bytes :=
  decimal v.major.toNat ++ 46 :: (decimal v.minor.toNat ++ 46 :: decimal v.hotfix.toNat)

/-- `operator>>` for an `int`. -/
def readInt : Bytes → Option (Int × Bytes) := readSigned (-2147483648) 2147483647

/-- `stream >> ver1 >> c1 >> ver2 >> c2 >> ver3` for integers. -/
def parseFwVersion (text : Bytes) : Option (Int × Int × Int) := do
  let (ver1, s) ← readInt text
  let (_, s) ← readChar s
  let (ver2, s) ← readInt s
  let (_, s) ← readChar s
  let (ver3, _) ← readInt s
  return (ver1, ver2, ver3)

/-- `AppletsPackageReader::compareFWVersions`: the current major version after the call, or `none`
where the source returns false. -/
def compareFWVersions (fwVersion : Bytes) (currentMajorVersion : Int) (newVersion : Bytes) : Option Int := do
  if newVersion = [] ∨ fwVersion = [] then none
  else
    let (fwVer1, fwVer2, fwVer3) ← parseFwVersion fwVersion
    let (newVer1, newVer2, newVer3) ← parseFwVersion newVersion
    if fwVer1 < newVer1 ∨ fwVer1 = newVer1 ∧ fwVer2 < newVer2 ∨
        fwVer1 = newVer1 ∧ fwVer2 = newVer2 ∧ fwVer3 < newVer3 then return currentMajorVersion
    else if newVer1 > currentMajorVersion then return newVer1
    else return currentMajorVersion

/-- `APPLET_DETAILS`: the firmware numbers have sixteen bits. -/
structure AppletDetails where
  appMajor : Int
  appMinor : Int
  fwMajor : Nat
  fwMinor : Nat
  fwHotfix : Nat
  indexInDalp : Nat
  deriving DecidableEq

/-- `AppletsPackageReader::getAppletAndFwVersionAsStruct`; the caller fills in the index. -/
def getAppletAndFwVersionAsStruct (appletVersion fwVersion : Bytes) (indexInDalp : Nat) : Option AppletDetails := do
  let (appMajor, s) ← readInt appletVersion
  let (_, s) ← readChar s
  let (appMinor, _) ← readInt s
  let (fwMajor, s) ← readUnsigned 16 fwVersion
  let (_, s) ← readChar s
  let (fwMinor, s) ← readUnsigned 16 s
  let (_, s) ← readChar s
  let (fwHotfix, _) ← readUnsigned 16 s
  return ⟨appMajor, appMinor, fwMajor, fwMinor, fwHotfix, indexInDalp⟩

/-- `compareAppletVersions`: `a` comes before `b`. -/
def compareAppletVersions (a b : AppletDetails) : Bool :=
  a.fwMajor > b.fwMajor ||
    (a.fwMajor = b.fwMajor && a.fwMinor > b.fwMinor) ||
    (a.fwMajor = b.fwMajor && a.fwMinor = b.fwMinor && a.fwHotfix > b.fwHotfix) ||
    (a.fwMajor = b.fwMajor && a.fwMinor = b.fwMinor && a.fwHotfix = b.fwHotfix && a.appMajor > b.appMajor) ||
    (a.fwMajor = b.fwMajor && a.fwMinor = b.fwMinor && a.fwHotfix = b.fwHotfix && a.appMajor = b.appMajor &&
      a.appMinor > b.appMinor)

/-- `list::sort(compareAppletVersions)`, which keeps the order of what compares equal. -/
def sortByVersion (l : List AppletDetails) : List AppletDetails :=
  l.insertionSort fun a b => compareAppletVersions b a = false

/-! ### The reader -/

/-- `_JHI_PLATFROM_ID`, by its name in a document. -/
def platformName (fw : FwVersion) : Bytes :=
  if fw.major = 1 ∨ fw.major = 2 then ascii ['S', 'E', 'C']
  else if 7 ≤ fw.major ∧ fw.major ≤ 10 then ascii ['M', 'E']
  else ascii ['C', 'S', 'E']

/-- What the reader asks of its surroundings. The comparison of `compareAppletVersionsSignOnce` holds
of equal versions, so of the sort with it nothing is known but that it permutes the list. -/
structure ReaderEnv where
  fwVersion : FwVersion
  /-- `getPlatformApiLevel`, with `INVALID_API_LEVEL` (-1) where the query fails. -/
  apiLevel : Int
  sortSignOnce : List AppletDetails → List AppletDetails
  sortSignOnce_perm : ∀ l, (sortSignOnce l).Perm l

/-- The loop over the records of the platform that selects the major version. -/
def selectMajor (nodes : List DalpApplet) (fwVersion : Bytes) : List Nat → Int → Option Int
  | [], selectedMajorVersion => some selectedMajorVersion
  | i :: is, selectedMajorVersion => do
    let a ← nodeAt nodes i
    let selectedMajorVersion ← compareFWVersions fwVersion selectedMajorVersion a.fwVersion
    selectMajor nodes fwVersion is selectedMajorVersion

/-- The loop of `getMatchingAppletsToMajorFwVersion`. -/
def collectDetails (nodes : List DalpApplet) : List Nat → Option (List AppletDetails)
  | [] => some []
  | i :: is => do
    let a ← nodeAt nodes i
    let version ← getAppletAndFwVersionAsStruct a.appletVersion a.fwVersion i
    let versions ← collectDetails nodes is
    return version :: versions

/-- `AppletsPackageReader::getMatchingAppletsToMajorFwVersion`. -/
def getMatchingAppletsToMajorFwVersion (applets : List DalpApplet) (platform : Bytes) (major : Int) :
    Option (List AppletDetails) :=
  let nodes := majorApplets applets platform major
  collectDetails nodes (List.range' 1 nodes.length)

/-- The loop of `copyBlobsFromList`: the status of the last read, and the blobs so far. -/
def copyBlobs (nodes : List DalpApplet) : Bool → List AppletDetails → Bool × List Bytes
  | status, [] => (status, [])
  | _, d :: ds =>
    match (nodeAt nodes d.indexInDalp).bind fun a => getNodeTextAsBase64 a.appletBlob with
    | none => (false, [])
    | some blob => ((copyBlobs nodes true ds).1, blob :: (copyBlobs nodes true ds).2)

/-- `AppletsPackageReader::copyBlobsFromList`; the status is false until a read succeeds. -/
def copyBlobsFromList (applets : List DalpApplet) (platform : Bytes) (major : Int) (l : List AppletDetails) :
    Bool × List Bytes :=
  copyBlobs (majorApplets applets platform major) false l

/-- `AppletsPackageReader::getNonSignOnceAppletBlobs`. -/
def getNonSignOnceAppletBlobs (applets : List DalpApplet) (numAppletRecords : Nat) (platform fwVersion : Bytes) :
    Bool × List Bytes :=
  match selectMajor (platformApplets applets platform) fwVersion (List.range' 1 numAppletRecords) 0 with
  | none => (false, [])
  | some selectedMajorVersion =>
    if selectedMajorVersion = 0 then (true, [])
    else
      match getMatchingAppletsToMajorFwVersion applets platform selectedMajorVersion with
      | none => (false, [])
      | some versionsList => copyBlobsFromList applets platform selectedMajorVersion (sortByVersion versionsList)

/-- `AppletsPackageReader::removeHigherApiLevelApplets`. -/
def removeHigherApiLevelApplets (apiLevel : Int) (l : List AppletDetails) : Option (List AppletDetails) :=
  if apiLevel = -1 then none else some (l.filter fun d => (d.fwMinor : Int) ≤ apiLevel)

/-- `SIGN_ONCE_FW__MAJOR_VERSION`. -/
def signOnceFwMajorVersion : Int := 11

/-- `AppletsPackageReader::getSignOnceAppletBlobs`. -/
def getSignOnceAppletBlobs (E : ReaderEnv) (applets : List DalpApplet) (platform : Bytes) : Bool × List Bytes :=
  match getMatchingAppletsToMajorFwVersion applets platform signOnceFwMajorVersion with
  | none => (false, [])
  | some versionsList =>
    match removeHigherApiLevelApplets E.apiLevel versionsList with
    | none => (false, [])
    | some versionsList => copyBlobsFromList applets platform signOnceFwMajorVersion (E.sortSignOnce versionsList)

/-- `TrimString`. -/
def trimString (text : Bytes) : Bytes := ((text.dropWhile isXmlBlank).reverse.dropWhile isXmlBlank).reverse

/-- `sscanf(text, "%d.%d.%d", …)` converts all three numbers: the first of them. -/
def scanMajor (text : Bytes) : Option Int := do
  let (major, s) ← readInt text
  if s.head? ≠ some 46 then none
  else
    let (_, s) ← readInt (s.drop 1)
    if s.head? ≠ some 46 then none
    else
      let (_, _) ← readInt (s.drop 1)
      return major

/-- `AppletsPackageReader::isSignOnce`. -/
def isSignOnce (fwVersion : Bytes) : Option Bool := do
  if fwVersion = [] then none
  else
    let major ← scanMajor (trimString fwVersion)
    if major = 1 ∨ major = 2 ∨ major = 7 ∨ major = 8 ∨ major = 9 ∨ major = 10 then return false
    else return true

/-- `AppletsPackageReader::getAppletBlobs` on a valid package. -/
def readerGetAppletBlobs (E : ReaderEnv) (applets : List DalpApplet) : Bool × List Bytes :=
  let platform := platformName E.fwVersion
  let numAppletRecords := (platformApplets applets platform).length
  if numAppletRecords < 1 then (false, [])
  else
    match isSignOnce E.fwVersion.text with
    | none => (false, [])
    | some true => getSignOnceAppletBlobs E applets platform
    | some false => getNonSignOnceAppletBlobs applets numAppletRecords platform E.fwVersion.text

end DalHost
