import DalHost.Dispatch.Process
import DalHost.Plugin.Package
import DalHost.Service.Evolution

/-!
# The spooler applet and its guards

The spooler is an applet of the service itself, and no client request may be about it. Requests
that carry the id as text are stopped by `verifyAppID`, which looks at the id after it was turned
to upper case. A command package carries the id as sixteen bytes; `jhis_send_cmd_pkg` compares
their rendering with the constant before it turns it to upper case, with a comparison that
depends on the platform.

The worlds of this module (`World.traced`) record the calls to the plugin that a request about the
spooler must not lead to.
-/

namespace DalHost

open Scan

/-! ### The two builds -/

/-- The platform the service is compiled for. -/
inductive Build
  | windows
  | linux
  deriving DecidableEq

/-- The comparison of `jhis_send_cmd_pkg`: `_stricmp` or `strcmp`, equal to zero. -/
def Build.sameText : Build → Bytes → Bytes → Bool
  | .windows, s, t => toUpperCase s = toUpperCase t
  | .linux, s, t => s = t

section Builds

variable {φ : Type} (build : Build) (W : World φ)

/-- The part of `jhis_send_cmd_pkg` after the guard. -/
def forwardPackage (handle : VmHandle) (blob : Bytes) (info : PackageInfo) : StateM (Service φ) JhiRet := do
  let uuid := toUpperCase info.uuid
  match info.packageType with
  | .installSD | .uninstallSD | .updateSVL => onEnv (W.pluginSendCmdPkg handle blob)
  | .installNTA | .uninstallNTA | .installJTAProp => return teeStatusUnsupportedPlatform
  | .installJTA => return jhiErrorToTeeError (← cmdPkgInstallJta W uuid handle blob)
  | .uninstallJTA => return jhiErrorToTeeError (← jhisUninstall W uuid (some (handle, blob)))
  | .invalid | .other => return teeStatusInvalidParams

/-- `jhis_send_cmd_pkg` of a build. -/
def jhisSendCmdPkgOn (handle : VmHandle) (blob : Bytes) : StateM (Service φ) JhiRet := do
  if blob.length = 0 then return teeStatusInvalidParams
  else if !(← get).pluginRegistered then return teeStatusNoFwConnection
  else
    match ← onEnv (W.pluginParsePackage blob) with
    | .error ret => return ret
    | .ok info =>
      if build.sameText info.uuid spoolerAppletUuid.text then return teeStatusInvalidUuid
      else forwardPackage W handle blob info

/-- The service of a build: the other commands do not depend on it. -/
def execOn : (c : Call) → StateM (Service φ) (Answer c)
  | .sendCmdPkg handle blob => jhisSendCmdPkgOn build W handle blob
  | c => exec W c

/-- The service is otherwise modelled for Linux. -/
theorem jhisSendCmdPkgOn_linux (handle : VmHandle) (blob : Bytes) :
    jhisSendCmdPkgOn .linux W handle blob = jhisSendCmdPkg W handle blob := by
  unfold jhisSendCmdPkgOn jhisSendCmdPkg
  simp only [Build.sameText, decide_eq_true_eq]
  congr!

/-- `serviceBackend` of a build. -/
def serviceBackendOn (jhisInit : StateM (JhiState × Service φ) JhiRet) : Backend (JhiState × Service φ) where
  getJhiState s := s.1
  getVmType s := s.2.vmType
  pluginRegistered s := s.2.pluginRegistered
  jhisInit := jhisInit
  exec c := fun s => (((execOn build W c).exe s.2).1, (s.1, ((execOn build W c).exe s.2).2))

theorem serviceBackendOn_linux (jhisInit : StateM (JhiState × Service φ) JhiRet) :
    serviceBackendOn .linux W jhisInit = serviceBackend W jhisInit := by
  have hexec : execOn .linux W = exec W := by
    funext c
    cases c
    case sendCmdPkg handle blob => exact jhisSendCmdPkgOn_linux W handle blob
    all_goals rfl
  unfold serviceBackendOn serviceBackend
  rw [hexec]

end Builds

/-! ### Worlds that record calls to the plugin -/

/-- The calls a client must not get made for the spooler. -/
inductive PluginCall
  | createSession (appId : Bytes)
  | downloadApplet (appId : Bytes)
  | unloadApplet (appId : Bytes)
  | sendCmdPkg (blob : Bytes)
  | getAppletProperty (appId : Bytes)

section Traced

variable {φ α : Type}

/-- The operation, with the calls recorded so far left as they are. -/
def untraced (op : StateM φ α) : StateM (φ × List PluginCall) α := fun e =>
  ((op.exe e.1).1, ((op.exe e.1).2, e.2))

/-- The operation, recorded as a call. -/
def traced (call : PluginCall) (op : StateM φ α) : StateM (φ × List PluginCall) α := fun e =>
  ((op.exe e.1).1, ((op.exe e.1).2, e.2 ++ [call]))

/-- The world `W` with the Beihai v2 plugin's `JHI_Plugin_ParsePackage` and with a record of the
calls. -/
def World.traced (sdIdCell : Bytes → Guid) (W : World φ) : World (φ × List PluginCall) where
  processIsDead p := untraced (W.processIsDead p)
  generateNewSessionId := untraced W.generateNewSessionId
  ownProcessInfo := untraced W.ownProcessInfo
  openEvent n := untraced (W.openEvent n)
  fileExists f := untraced (W.fileExists f)
  copyFile d f := untraced (W.copyFile d f)
  createFileFromBuff f b := untraced (W.createFileFromBuff f b)
  chmod f := untraced (W.chmod f)
  removeFile f := untraced (W.removeFile f)
  renameFile f g := untraced (W.renameFile f g)
  syncFile f := untraced (W.syncFile f)
  readFile f := untraced (W.readFile f)
  readPackage f := untraced (W.readPackage f)
  pluginCreateSession a b id i := DalHost.traced (.createSession a) (W.pluginCreateSession a b id i)
  pluginCloseSession h := untraced (W.pluginCloseSession h)
  pluginForceCloseSession h := untraced (W.pluginForceCloseSession h)
  pluginSendAndRecv h c tx n := untraced (W.pluginSendAndRecv h c tx n)
  pluginDownloadApplet a b := DalHost.traced (.downloadApplet a) (W.pluginDownloadApplet a b)
  pluginUnloadApplet a := DalHost.traced (.unloadApplet a) (W.pluginUnloadApplet a)
  pluginSendCmdPkg h b := DalHost.traced (.sendCmdPkg b) (W.pluginSendCmdPkg h b)
  pluginParsePackage b := pure (parsePackage sdIdCell b)
  pluginGetAppletProperty a tx n := DalHost.traced (.getAppletProperty a) (W.pluginGetAppletProperty a tx n)
  pluginOpenSDSession sd := untraced (W.pluginOpenSDSession sd)
  pluginCloseSDSession h := untraced (W.pluginCloseSDSession h)
  pluginListInstalledTAs h := untraced (W.pluginListInstalledTAs h)
  pluginListInstalledSDs h := untraced (W.pluginListInstalledSDs h)
  pluginQueryTeeMetadata := untraced W.pluginQueryTeeMetadata
  pluginProvisionOemMasterKey k := untraced (W.pluginProvisionOemMasterKey k)
  pluginSetTAEncryptionKey k := untraced (W.pluginSetTAEncryptionKey k)
  pluginDeInit := untraced W.pluginDeInit
  versionInfo := untraced W.versionInfo

/-- The calls recorded in a state of the service. -/
def Service.calls (s : Service (φ × List PluginCall)) : List PluginCall := s.env.2

end Traced

/-! ### Ids given as text -/

section Text

variable {m m' : Nat → UInt8} {α β : Type}

/-- The requests agree outside the 32 bytes of the id. -/
def AgreeOutsideId (m m' : Nat → UInt8) : Prop := ∀ i, i < 5 ∨ 5 + lenAppId ≤ i → m i = m' i

/-- The id is that of the spooler, in any letter case. -/
def SpoolerText (m : Nat → UInt8) : Prop := toUpperCase (slice m 5 lenAppId) = spoolerAppletUuid.text

theorem isHexDigit_of_toUpper : ∀ {c : UInt8}, isUpperHexDigit (toUpper c) = true → isHexDigit c = true :=
  fun {c} => forall_byte (p := fun c => isUpperHexDigit (toUpper c) = true → isHexDigit c = true)
    (by decide +kernel) c

theorem jhiUtilUUIDValidate_spooler {s : Bytes} (h : toUpperCase s = spoolerAppletUuid.text) :
    jhiUtilUUIDValidate s = some spoolerAppletUuid := by
  refine jhiUtilUUIDValidate_eq_some.2 ⟨?_, fun c hc => isHexDigit_of_toUpper ?_, h.symm⟩
  · have hlen := congrArg List.length h
    rw [toUpperCase, List.length_map] at hlen
    exact hlen.trans spoolerAppletUuid.valid.1
  · refine spoolerAppletUuid.valid.2 _ ?_
    rw [← h]
    exact List.mem_map_of_mem hc

theorem cString_id (hid : SpoolerText m) (hend : m (5 + lenAppId) = 0) :
    cString (slice m 5 (lenAppId + 1)) = slice m 5 lenAppId := by
  have hhex := (jhiUtilUUIDValidate_eq_some.1 (jhiUtilUUIDValidate_spooler hid)).2.1
  have hlast : slice m (5 + lenAppId) 1 = [0] := by
    rw [← hend]
    rfl
  rw [slice_add, hlast]
  unfold cString
  rw [List.takeWhile_append_of_pos]
  · simp
  · intro c hc
    have hzero : ¬isHexDigit 0 = true := by decide
    have hne : c ≠ 0 := fun h => hzero (h ▸ hhex c hc)
    simpa using hne

theorem readAppId_spooler (hid : SpoolerText m) (hend : m (5 + lenAppId) = 0) :
    readAppId.answer m = .error jhiInvalidAppletGuid := by
  unfold readAppId convertAppIDtoUpperCase
  rw [answer_u8_bind, answer_check_bind m hend, answer_bytes_bind, cString_id hid hend,
    jhiUtilUUIDValidate_spooler hid]
  exact answer_check_bind_of_not m (by decide +kernel) _

/-- A request that `x` would accept with another id is turned down because of this one. -/
def TurnsDown (m m' : Nat → UInt8) (x : Scan JhiRet α) : Prop :=
  ∀ a, x.answer m' = .ok a → x.answer m = .error jhiInvalidAppletGuid

theorem turnsDown_bind {x : Scan JhiRet α} {f : α → Scan JhiRet β} (hx : x.answer m = x.answer m')
    (hf : ∀ a, TurnsDown m m' (f a)) : TurnsDown m m' (x >>= f) := by
  intro b hb
  obtain ⟨a, ha, hfa⟩ := (answer_bind_eq_ok m').1 hb
  rw [answer_bind_of_ok m (hx.trans ha)]
  exact hf a b hfa

theorem turnsDown_check {c : Prop} [Decidable c] {e : JhiRet} {f : Unit → Scan JhiRet β}
    (hf : ∀ a, TurnsDown m m' (f a)) : TurnsDown m m' (check c e >>= f) :=
  turnsDown_bind (by rw [answer_check, answer_check]) hf

variable (h : AgreeOutsideId m m')
include h

theorem turnsDown_u8 {off : Nat} (hoff : 5 + lenAppId ≤ off) {f : UInt8 → Scan JhiRet β}
    (hf : ∀ a, TurnsDown m m' (f a)) : TurnsDown m m' (u8 off >>= f) :=
  turnsDown_bind (congrArg Except.ok (h off (.inr hoff))) hf

theorem u32At_eq_of_agree {off : Nat} (hoff : off + 4 ≤ 5 ∨ 5 + lenAppId ≤ off) : u32At m off = u32At m' off := by
  unfold u32At
  rw [slice_congr fun i hi => h (off + i) (by omega)]

theorem turnsDown_u32 {off : Nat} (hoff : off + 4 ≤ 5 ∨ 5 + lenAppId ≤ off) {f : UInt32 → Scan JhiRet β}
    (hf : ∀ a, TurnsDown m m' (f a)) : TurnsDown m m' (u32 off >>= f) :=
  turnsDown_bind (congrArg Except.ok (u32At_eq_of_agree h hoff)) hf

theorem turnsDown_checkDataLength {inputSize : UInt32} {e : JhiRet} {f : Unit → Scan JhiRet β}
    (hf : ∀ a, TurnsDown m m' (f a)) : TurnsDown m m' (checkDataLength inputSize e >>= f) := by
  refine turnsDown_bind ?_ hf
  unfold checkDataLength
  rw [answer_u32_bind, answer_u32_bind, u32At_eq_of_agree h (.inl (Nat.le_refl 5)), answer_check, answer_check]

theorem turnsDown_readAppId (hid : SpoolerText m) (f : AppId → Scan JhiRet β) : TurnsDown m m' (readAppId >>= f) := by
  intro b hb
  obtain ⟨a, ha, -⟩ := (answer_bind_eq_ok m').1 hb
  unfold readAppId at ha
  rw [answer_u8_bind] at ha
  have hend := ((answer_check_bind_eq_ok m').1 ha).1
  rw [← h _ (.inr (Nat.le_refl _))] at hend
  rw [answer_bind, readAppId_spooler hid hend]

end Text

/-- The commands whose body starts with the text of an applet id. -/
inductive CommandId.NamesApplet : CommandId → Prop
  | install : NamesApplet .install
  | uninstall : NamesApplet .uninstall
  | createSession : NamesApplet .createSession
  | getSessionsCount : NamesApplet .getSessionsCount
  | getAppletProperty : NamesApplet .getAppletProperty

theorem turnsDown_decode {m m' : Nat → UInt8} (h : AgreeOutsideId m m') (hid : SpoolerText m) (inputSize : UInt32)
    (vmType : VmType) (pluginRegistered : Bool) {id : CommandId} (hn : id.NamesApplet) :
    TurnsDown m m' (decode inputSize vmType pluginRegistered id) := by
  have h38 : 5 + lenAppId ≤ 38 := by decide
  have h42 : 5 + lenAppId ≤ 42 := by decide
  cases hn with
  | install =>
    refine turnsDown_checkDataLength h fun _ => turnsDown_check fun _ => turnsDown_u32 h (.inr h38) fun _ => ?_
    refine turnsDown_check fun _ => turnsDown_check fun _ => turnsDown_u8 h (Nat.le_refl _) fun _ => ?_
    refine turnsDown_check fun _ => turnsDown_u8 h (by omega) fun _ => turnsDown_check fun _ => ?_
    exact turnsDown_readAppId h hid _
  | uninstall | getSessionsCount =>
    refine turnsDown_checkDataLength h fun _ => turnsDown_check fun _ => ?_
    exact turnsDown_readAppId h hid _
  | createSession =>
    refine turnsDown_checkDataLength h fun _ => turnsDown_check fun _ => turnsDown_u32 h (.inr h38) fun _ => ?_
    refine turnsDown_check fun _ => turnsDown_check fun _ => turnsDown_check fun _ => ?_
    exact turnsDown_readAppId h hid _
  | getAppletProperty =>
    refine turnsDown_checkDataLength h fun _ => turnsDown_check fun _ => turnsDown_u32 h (.inr h38) fun _ => ?_
    refine turnsDown_u32 h (.inr h42) fun _ => turnsDown_check fun _ => turnsDown_check fun _ => ?_
    refine turnsDown_check fun _ => turnsDown_check fun _ => ?_
    exact turnsDown_readAppId h hid _

/-! ### Ids in packages -/

section Package

variable {φ : Type} {sdIdCell : Bytes → Guid} {W : World φ}

theorem closed_pluginRegistered : Closed (TidyStep W) fun s => s.pluginRegistered = true := by
  intro s t hst h
  cases hst <;> exact h

theorem closed_calls (sdIdCell : Bytes → Guid) (W : World φ) (n : Nat) :
    Closed (CareStep (W.traced sdIdCell) .any) fun s => n ≤ s.calls.length := by
  intro s t hst h
  cases hst.clean with
  | env he =>
    cases he
    case downloadApplet | unloadApplet | sendCmdPkg | getAppletProperty =>
      show n ≤ (s.env.2 ++ [_]).length
      rw [List.length_append]
      exact Nat.le_add_right_of_le h
    all_goals exact h
  | closed _ force _ | closeFailed _ force _ => cases force <;> exact h
  | applets | unload | uninstallPackage | deadOwners | events => exact h

theorem calls_sendCmdPkg (handle : VmHandle) (blob : Bytes) (s : Service (φ × List PluginCall)) :
    ((onEnv ((W.traced sdIdCell).pluginSendCmdPkg handle blob)).exe s).2.calls = s.calls ++ [.sendCmdPkg blob] := rfl

/-- From `n` calls to more than `n`. -/
def Calls {α : Type} (x : StateM (Service (φ × List PluginCall)) α) : Prop :=
  ∀ n s, n ≤ s.calls.length → n + 1 ≤ (x.exe s).2.calls.length

theorem calls_onEnv_sendCmdPkg (sdIdCell : Bytes → Guid) (W : World φ) (handle : VmHandle) (blob : Bytes) :
    Calls (onEnv ((W.traced sdIdCell).pluginSendCmdPkg handle blob)) := by
  intro n s h
  rw [calls_sendCmdPkg, List.length_append]
  exact Nat.add_le_add_right h 1

theorem Calls.bind {α β : Type} {x : StateM (Service (φ × List PluginCall)) α}
    {f : α → StateM (Service (φ × List PluginCall)) β} (hx : Calls x)
    (hf : ∀ a n, Keeps (fun s => n ≤ s.calls.length) (f a)) : Calls (x >>= f) :=
  fun n s h => hf _ _ _ (hx n s h)

theorem answers_prepareInstallFromBuffer (blob appletId : Bytes) :
    Answers (fun ret => ret = jhiFileErrorCopy ∨ ret = jhiSuccess) (prepareInstallFromBuffer W blob appletId) := by
  have herror : ∀ f, Answers (fun ret => ret = jhiFileErrorCopy ∨ ret = jhiSuccess) (do
      dropPendingFile W f
      return jhiFileErrorCopy) := fun _ => Answers.after fun _ => Answers.pure (.inl rfl)
  refine Answers.after fun s => Answers.after fun _ => Answers.ite (herror _) (Answers.after fun _ => ?_)
  refine Answers.ite (herror _) (Answers.after fun _ => Answers.ite (herror _) ?_)
  exact Answers.after fun _ => Answers.pure (.inr rfl)

theorem cmdPkgInstallJta_calls (sdIdCell : Bytes → Guid) (W : World φ) (appId : Bytes) (handle : VmHandle) (blob : Bytes)
    (s : Service (φ × List PluginCall)) (hreg : s.pluginRegistered = true) :
    ((cmdPkgInstallJta (W.traced sdIdCell) appId handle blob).exe s).1 = jhiFileErrorCopy ∨
      s.calls.length + 1 ≤ ((cmdPkgInstallJta (W.traced sdIdCell) appId handle blob).exe s).2.calls.length := by
  have hreg' := keeps_clearForApplet closed_pluginRegistered (W := W.traced sdIdCell) appId s hreg
  have hclear := keeps_clearForApplet (closed_calls sdIdCell W s.calls.length).tidy appId s (Nat.le_refl _)
  unfold cmdPkgInstallJta cmdPkgInstallCleared
  simp only [exe_bind, exe_get, hreg', Bool.not_true, Bool.false_eq_true, if_false]
  generalize ((clearForApplet (W.traced sdIdCell) appId).exe s).2 = s₁ at hclear
  have hprepare : s.calls.length ≤ ((prepareInstallFromBuffer (W.traced sdIdCell) blob appId).exe s₁).2.calls.length :=
    keeps_prepareInstallFromBuffer (closed_calls sdIdCell W s.calls.length) blob trivial s₁ hclear
  have hsend := calls_onEnv_sendCmdPkg sdIdCell W handle blob
  rw [exe_ite]
  split_ifs with hret
  · refine .inl ?_
    rcases answers_prepareInstallFromBuffer blob appId s₁ with h | h
    · exact h
    · exact absurd h hret
  · refine .inr ?_
    have henv := fun n => keeps_env (closed_calls sdIdCell W n) (.sendCmdPkg (W := W.traced sdIdCell) handle blob)
    have hround := fun ret n => keeps_evictAndRetry (closed_calls sdIdCell W n) trivial ret (henv n)
    refine Calls.bind (Calls.bind (hsend.bind fun ret n => Keeps.ite (fun _ => ?_) fun _ => Keeps.pure _) hround)
      (fun ret n => keeps_finishInstall (closed_calls sdIdCell W n) trivial trivial true true ret) _ _ hprepare
    exact (Keeps.bind (fun s hs => hs) fun _ => keeps_env (closed_calls sdIdCell W n) (.unloadApplet appId)).bind
      fun _ => henv n

theorem calls_unloadFromVm (sdIdCell : Bytes → Guid) (W : World φ) {appId : Bytes} (handle : VmHandle) (blob : Bytes)
    {n : Nat} {s : Service (φ × List PluginCall)} (hlive : hasLiveSessions s.sessionList appId = false)
    (h : n ≤ s.calls.length) :
    n + 1 ≤ ((unloadFromVm (W.traced sdIdCell) appId (some (handle, blob))).exe s).2.calls.length := by
  have hJ := Closed.and (closed_calls sdIdCell W (n + 1)) (Closed.care (closed_noSessions _ appId) _)
  have hsend := calls_onEnv_sendCmdPkg sdIdCell W handle blob n
    { s with log := s.log ++ [⟨.uninstallPackage appId, s.sessionList, s.appletTable⟩] } h
  unfold unloadFromVm
  simp only [exe_bind, exe_record]
  exact (keeps_afterVmUnload hJ trivial (fun _ h => h.2) _ _ ⟨hsend, hlive⟩).1

theorem jhisUnload_calls (sdIdCell : Bytes → Guid) (W : World φ) (appId : Bytes) (handle : VmHandle) (blob : Bytes)
    (s : Service (φ × List PluginCall)) (hreg : s.pluginRegistered = true) (hvm : s.vmType = .beihaiV2) :
    ((jhisUnload (W.traced sdIdCell) appId (some (handle, blob))).exe s).1 = jhiUninstallFailureSessionsExists ∨
      s.calls.length + 1 ≤ ((jhisUnload (W.traced sdIdCell) appId (some (handle, blob))).exe s).2.calls.length := by
  have hreg' := keeps_clearForApplet closed_pluginRegistered (W := W.traced sdIdCell) appId s hreg
  have hclear := keeps_clearForApplet (closed_calls sdIdCell W s.calls.length).tidy appId s (Nat.le_refl _)
  unfold jhisUnload
  simp only [exe_bind, exe_get, hvm, ne_eq, not_true_eq_false, and_false, if_false]
  generalize ((clearForApplet (W.traced sdIdCell) appId).exe s).2 = s₁ at hreg' hclear
  rw [exe_ite]
  split_ifs with hlive
  · exact .inl rfl
  · refine .inr ?_
    simp only [exe_bind, exe_get, hreg', Bool.not_true, Bool.false_eq_true, if_false]
    exact calls_unloadFromVm sdIdCell W handle blob (by simpa using hlive) hclear

theorem jhisUninstall_calls (sdIdCell : Bytes → Guid) (W : World φ) (appId : Bytes) (handle : VmHandle) (blob : Bytes)
    (s : Service (φ × List PluginCall)) (hreg : s.pluginRegistered = true) (hvm : s.vmType = .beihaiV2) :
    ((jhisUninstall (W.traced sdIdCell) appId (some (handle, blob))).exe s).1 = jhiUninstallFailureSessionsExists ∨
      s.calls.length + 1 ≤ ((jhisUninstall (W.traced sdIdCell) appId (some (handle, blob))).exe s).2.calls.length := by
  rcases jhisUnload_calls sdIdCell W appId handle blob s hreg hvm with hret | hcalls
  · refine .inl ?_
    unfold jhisUninstall
    rw [exe_bind, hret, if_neg (by decide)]
    rfl
  · exact .inr (keeps_afterUnload (closed_calls sdIdCell W _) trivial appId _ _ hcalls)

theorem exe_jhisSendCmdPkgOn (build : Build) (sdIdCell : Bytes → Guid) (W : World φ) (handle : VmHandle)
    {blob : Bytes} {info : PackageInfo} (hinfo : parsePackage sdIdCell blob = .ok info)
    (s : Service (φ × List PluginCall)) (hreg : s.pluginRegistered = true) :
    (jhisSendCmdPkgOn build (W.traced sdIdCell) handle blob).exe s =
      if build.sameText info.uuid spoolerAppletUuid.text then (teeStatusInvalidUuid, s)
      else (forwardPackage (W.traced sdIdCell) handle blob info).exe s := by
  have hlen := (parsePackage_eq_ok hinfo).1
  have hparse : (onEnv ((W.traced sdIdCell).pluginParsePackage blob)).exe s = (.ok info, s) := by
    rw [← hinfo]
    rfl
  unfold jhisSendCmdPkgOn
  rw [if_neg hlen]
  simp only [exe_bind, exe_get, hreg, Bool.not_true, Bool.false_eq_true, if_false, hparse, exe_ite, exe_pure]

/-- On Linux a package about the spooler goes the way of any other: it ends over the files of the
repository or over sessions, or it is sent to the VM. -/
theorem forwardPackage_calls (sdIdCell : Bytes → Guid) (W : World φ) (handle : VmHandle) (blob : Bytes)
    {info : PackageInfo} (h : info.packageType.AboutId) (s : Service (φ × List PluginCall))
    (hreg : s.pluginRegistered = true) (hvm : s.vmType = .beihaiV2) :
    ((forwardPackage (W.traced sdIdCell) handle blob info).exe s).1 ≠ teeStatusInvalidUuid ∨
      s.calls.length + 1 ≤ ((forwardPackage (W.traced sdIdCell) handle blob info).exe s).2.calls.length := by
  obtain ⟨packageType, uuid⟩ := info
  unfold forwardPackage
  cases h with
  | installSD | uninstallSD => exact .inr (calls_onEnv_sendCmdPkg sdIdCell W handle blob _ s (Nat.le_refl _))
  | installJTA =>
    simp only [exe_bind, exe_pure]
    rcases cmdPkgInstallJta_calls sdIdCell W (toUpperCase uuid) handle blob s hreg with hret | hcalls
    · rw [hret]
      exact .inl (by decide)
    · exact .inr hcalls
  | uninstallJTA =>
    simp only [exe_bind, exe_pure]
    rcases jhisUninstall_calls sdIdCell W (toUpperCase uuid) handle blob s hreg hvm with hret | hcalls
    · rw [hret]
      exact .inl (by decide)
    · exact .inr hcalls

end Package

/-! ### Requests about the spooler -/

section Guard

variable {φ : Type}

/-- The service with its calls to the plugin recorded. -/
def tracedBackend (build : Build) (sdIdCell : Bytes → Guid) (W : World φ)
    (jhisInit : StateM (JhiState × Service (φ × List PluginCall)) JhiRet) :
    Backend (JhiState × Service (φ × List PluginCall)) :=
  serviceBackendOn build (W.traced sdIdCell) jhisInit

/-- A request names the spooler: by a text that stands where an otherwise acceptable request has its
id, in any letter case, or by a package whose id the plugin renders so. -/
inductive NamesSpooler (sdIdCell : Bytes → Guid) (vmType : VmType) (pluginRegistered : Bool) (req : Request) :
    CommandId → Prop
  | text {id : CommandId} (hn : id.NamesApplet) (hid : SpoolerText req.inputData) {m : Nat → UInt8}
      (hm : AgreeOutsideId req.inputData m) {c : Option Call}
      (hc : (decode req.inputSize vmType pluginRegistered id).answer m = .ok c) :
      NamesSpooler sdIdCell vmType pluginRegistered req id
  | package {handle : VmHandle} {blob : Bytes} {info : PackageInfo}
      (hc : (decode req.inputSize vmType pluginRegistered .sendCmdPkg).answer req.inputData =
        .ok (some (.sendCmdPkg handle blob)))
      (hreg : pluginRegistered = true) (hinfo : parsePackage sdIdCell blob = .ok info)
      (hid : toUpperCase info.uuid = spoolerAppletUuid.text) :
      NamesSpooler sdIdCell vmType pluginRegistered req .sendCmdPkg

/-- The request, whose handler is reached in state `s'`, is answered with `JHI_INVALID_APPLET_GUID` or
`TEE_STATUS_INVALID_UUID`, and the service is left as it was, with no call to the plugin recorded. -/
def Blocked (B : Backend (JhiState × Service (φ × List PluginCall))) (emulation : Bool) (req : Request)
    (s : JhiState × Service (φ × List PluginCall)) (id : CommandId)
    (s' : JhiState × Service (φ × List PluginCall)) : Prop :=
  (((processCommand B emulation req).exe s).1.verdict = .refused id jhiInvalidAppletGuid ∨
    ∃ handle blob, ((processCommand B emulation req).exe s).1.verdict =
      .answered (.sendCmdPkg handle blob) teeStatusInvalidUuid) ∧
  ((processCommand B emulation req).exe s).2 = s'

variable {build : Build} {sdIdCell : Bytes → Guid} {W : World φ}
  {jhisInit : StateM (JhiState × Service (φ × List PluginCall)) JhiRet} {emulation : Bool} {req : Request}
  {s s' : JhiState × Service (φ × List PluginCall)} {id : CommandId}

theorem vmType_of_sendCmdPkg {inputSize : UInt32} {vmType : VmType} {pluginRegistered : Bool} {m : Nat → UInt8}
    {c : Option Call} (h : (decode inputSize vmType pluginRegistered .sendCmdPkg).answer m = .ok c) :
    vmType = .beihaiV2 := by
  unfold decode invokeSendCmdPkg at h
  exact ((answer_check_bind_eq_ok m).1 h).1

theorem aboutId_of_spooler {blob : Bytes} {info : PackageInfo} (hinfo : parsePackage sdIdCell blob = .ok info)
    (hid : toUpperCase info.uuid = spoolerAppletUuid.text) :
    info.packageType.AboutId ∧ info.uuid ≠ spoolerAppletUuid.text := by
  rcases (parsePackage_eq_ok hinfo).2 with hnil | ⟨habout, g, hg⟩
  · rw [hnil] at hid
    exact absurd hid (by decide)
  · rw [hg]
    exact ⟨habout, uuidToString_ne_spooler g⟩

/-- A request about the spooler is blocked, but for packages on Linux. -/
theorem blocked_iff (hreach : Reaches (tracedBackend build sdIdCell W jhisInit) emulation req s id s')
    (hnames : NamesSpooler sdIdCell s'.2.vmType s'.2.pluginRegistered req id) :
    Blocked (tracedBackend build sdIdCell W jhisInit) emulation req s id s' ↔
      build = .windows ∨ id ≠ .sendCmdPkg := by
  unfold Blocked
  rw [processCommand_of_reaches hreach]
  cases hnames with
  | text hn hid hm hc =>
    have hdecode := turnsDown_decode hm hid req.inputSize s'.2.vmType s'.2.pluginRegistered hn _ hc
    obtain ⟨hverdict, hstate⟩ := handle_of_error (B := tracedBackend build sdIdCell W jhisInit) (s := s') hdecode
    have hid' : id ≠ .sendCmdPkg := by
      rintro rfl
      cases hn
    exact ⟨fun _ => .inr hid', fun _ => ⟨.inl hverdict, hstate⟩⟩
  | @package handle blob info hc hreg hinfo hid =>
    obtain ⟨hverdict, hstate⟩ := handle_of_call (B := tracedBackend build sdIdCell W jhisInit) (s := s') hc
    have hexec : ((tracedBackend build sdIdCell W jhisInit).exec (.sendCmdPkg handle blob)).exe s' =
        (((jhisSendCmdPkgOn build (W.traced sdIdCell) handle blob).exe s'.2).1,
          (s'.1, ((jhisSendCmdPkgOn build (W.traced sdIdCell) handle blob).exe s'.2).2)) := rfl
    rw [hexec, exe_jhisSendCmdPkgOn build sdIdCell W handle hinfo s'.2 hreg] at hverdict hstate
    cases build with
    | windows =>
      have hsame : Build.sameText .windows info.uuid spoolerAppletUuid.text = true := by
        simp only [Build.sameText, hid, spoolerAppletUuid.toUpperCase_text, decide_true]
      rw [if_pos hsame] at hverdict hstate
      exact ⟨fun _ => .inl rfl, fun _ => ⟨.inr ⟨handle, blob, hverdict⟩, hstate⟩⟩
    | linux =>
      refine ⟨fun hblocked => ?_, fun h => ?_⟩
      · obtain ⟨hans, hsame⟩ := hblocked
        have habout := aboutId_of_spooler hinfo hid
        rw [if_neg (by simpa [Build.sameText] using habout.2)] at hverdict hstate
        rw [hstate] at hsame
        have hforward := forwardPackage_calls sdIdCell W handle blob habout.1 s'.2 hreg (vmType_of_sendCmdPkg hc)
        generalize (forwardPackage (W.traced sdIdCell) handle blob info).exe s'.2 = r at hverdict hsame hforward
        obtain ⟨ret, t⟩ := r
        rcases hforward with hcode | hcalls
        · rw [hverdict] at hans
          rcases hans with hans | ⟨h', b', hans⟩
          · cases hans
          · cases hans
            exact absurd rfl hcode
        · have hlen : t.calls.length = s'.2.calls.length := congrArg (fun s => s.2.calls.length) hsame
          rw [hlen] at hcalls
          exact absurd hcalls (Nat.not_succ_le_self _)
      · rcases h with h | h
        · cases h
        · exact absurd rfl h

/-! A client asks a Linux service to remove the spooler, by package and by text. -/

/-- The bytes of `SPOOLER_APPLET_UUID`. -/
def spoolerGuid : Bytes :=
  [0xBA, 0x8D, 0x16, 0x43, 0x50, 0xB6, 0x49, 0xCC, 0x86, 0x1D, 0x2C, 0x01, 0xBE, 0xD1, 0x4B, 0xE8]

/-- A pack that removes the applet with these sixteen bytes as its id. -/
def uninstallPack (taId : Bytes) : Bytes := List.replicate 12 0 ++ [4] ++ List.replicate 19 0 ++ taId

/-- `SEND_CMD_PKG` to the security domain with handle 1, of a pack behind an empty signature block. -/
def sendPackRequest (pack : Bytes) : Request where
  inputSize := UInt32.ofNat (17 + acpCssHeaderLength + pack.length)
  inputData i :=
    if i < 17 then
      ([12] ++ le32 (UInt32.ofNat (17 + acpCssHeaderLength + pack.length)) ++ [1, 0, 0, 0, 0, 0, 0, 0] ++
        le32 (UInt32.ofNat (acpCssHeaderLength + pack.length))).getD i 0
    else if i < 17 + acpCssHeaderLength then 0
    else pack.getD (i - (17 + acpCssHeaderLength)) 0

/-- A Beihai v2 service after its start-up, with no call recorded. -/
def tracedState : JhiState × Service (Unit × List PluginCall) :=
  (.initialized, ⟨OrdMap.empty, 0, OrdMap.empty, .beihaiV2, true, [], ((), []), []⟩)

/-- A service in a quiet world; no package of the examples removes a security domain. -/
def quietTracedBackend (build : Build) : Backend (JhiState × Service (Unit × List PluginCall)) :=
  tracedBackend build (fun _ => packGuid [] 0) (World.quiet Unit) (pure jhiSuccess)

/-- The request that removes the spooler by package. -/
def spoolerPackageRequest : Request := sendPackRequest (uninstallPack spoolerGuid)

theorem reaches_spoolerPackageRequest (build : Build) :
    Reaches (quietTracedBackend build) false spoolerPackageRequest tracedState .sendCmdPkg tracedState := by
  refine ⟨(readHeader_eq_ok_iff false).2 ⟨?_, ?_, ?_⟩, rfl⟩
  · decide +kernel
  · decide +kernel
  · decide +kernel

theorem namesSpooler_spoolerPackageRequest :
    NamesSpooler (fun _ => packGuid [] 0) .beihaiV2 true spoolerPackageRequest .sendCmdPkg := by
  refine @NamesSpooler.package _ _ _ _ 1 (List.replicate acpCssHeaderLength 0 ++ uninstallPack spoolerGuid)
    ⟨.uninstallJTA, uuidToString ⟨spoolerGuid, rfl⟩⟩ ?_ rfl ?_ ?_
  · decide +kernel
  · decide +kernel
  · decide +kernel

/-- On Linux the package goes to the VM. -/
theorem spoolerPackage_forwarded :
    Reaches (quietTracedBackend .linux) false spoolerPackageRequest tracedState .sendCmdPkg tracedState ∧
    NamesSpooler (fun _ => packGuid [] 0) .beihaiV2 true spoolerPackageRequest .sendCmdPkg ∧
    ¬Blocked (quietTracedBackend .linux) false spoolerPackageRequest tracedState .sendCmdPkg tracedState := by
  refine ⟨reaches_spoolerPackageRequest .linux, namesSpooler_spoolerPackageRequest, fun h => ?_⟩
  have hcalls := congrArg (fun s => s.2.calls.length) h.2
  exact absurd hcalls (by decide +kernel)

/-- On Windows it is blocked. -/
theorem blocked_iff_spoolerPackageRequest :
    Blocked (quietTracedBackend .windows) false spoolerPackageRequest tracedState .sendCmdPkg tracedState :=
  (blocked_iff (reaches_spoolerPackageRequest .windows) namesSpooler_spoolerPackageRequest).2 (.inl rfl)

end Guard

end DalHost
