import DalHost.Service.Calls

/-!
# How the session table evolves

The commands nest: a create may install, an install may unload another applet, each of them clears
dead owners and closes abandoned sessions. What all of this can do to the session table is said
once, as a small step relation. `CleanStep` has the steps of everything that is not a creation:
a call to the world that opens or closes nothing, an edit of the applet table, owners that leave a
record, a close in the VM with the erasure that follows it. `QuietStep` adds exchanges, crashes, new
owners and attempts to open a session that leave no record, and `Step` the one step that adds a record.

The theorems of the second half say that every command is made of such steps: an invariant closed
under the steps is kept by the command. A property of the table is then proved once for each step
and never looks at a command.
-/

namespace DalHost

variable {φ : Type} (W : World φ)

/-! ### The steps -/

/-- Calls to the world that open no session and close none. Files are written under the permission
`write` only. -/
inductive WorldStep (write : Prop) : φ → φ → Prop
  | processIsDead (p : ProcessInfo) (e : φ) : WorldStep write e ((W.processIsDead p).exe e).2
  | generateNewSessionId (e : φ) : WorldStep write e (W.generateNewSessionId.exe e).2
  | ownProcessInfo (e : φ) : WorldStep write e (W.ownProcessInfo.exe e).2
  | openEvent (n : Bytes) (e : φ) : WorldStep write e ((W.openEvent n).exe e).2
  | fileExists (f : FileString) (e : φ) : WorldStep write e ((W.fileExists f).exe e).2
  | copyFile (hw : write) (d f : FileString) (e : φ) : WorldStep write e ((W.copyFile d f).exe e).2
  | createFileFromBuff (hw : write) (f : FileString) (b : Bytes) (e : φ) : WorldStep write e ((W.createFileFromBuff f b).exe e).2
  | chmod (f : FileString) (e : φ) : WorldStep write e ((W.chmod f).exe e).2
  | removeFile (hw : write) (f : FileString) (e : φ) : WorldStep write e ((W.removeFile f).exe e).2
  | renameFile (hw : write) (f g : FileString) (e : φ) : WorldStep write e ((W.renameFile f g).exe e).2
  | syncFile (f : FileString) (e : φ) : WorldStep write e ((W.syncFile f).exe e).2
  | readFile (f : FileString) (e : φ) : WorldStep write e ((W.readFile f).exe e).2
  | readPackage (f : FileString) (e : φ) : WorldStep write e ((W.readPackage f).exe e).2
  | downloadApplet (a b : Bytes) (e : φ) : WorldStep write e ((W.pluginDownloadApplet a b).exe e).2
  | unloadApplet (a : Bytes) (e : φ) : WorldStep write e ((W.pluginUnloadApplet a).exe e).2
  | sendCmdPkg (h : VmHandle) (b : Bytes) (e : φ) : WorldStep write e ((W.pluginSendCmdPkg h b).exe e).2
  | parsePackage (b : Bytes) (e : φ) : WorldStep write e ((W.pluginParsePackage b).exe e).2
  | getAppletProperty (a tx : Bytes) (n : UInt32) (e : φ) :
      WorldStep write e ((W.pluginGetAppletProperty a tx n).exe e).2
  | openSDSession (sd : Bytes) (e : φ) : WorldStep write e ((W.pluginOpenSDSession sd).exe e).2
  | closeSDSession (h : VmHandle) (e : φ) : WorldStep write e ((W.pluginCloseSDSession h).exe e).2
  | listInstalledTAs (h : VmHandle) (e : φ) : WorldStep write e ((W.pluginListInstalledTAs h).exe e).2
  | listInstalledSDs (h : VmHandle) (e : φ) : WorldStep write e ((W.pluginListInstalledSDs h).exe e).2
  | queryTeeMetadata (e : φ) : WorldStep write e (W.pluginQueryTeeMetadata.exe e).2
  | provisionOemMasterKey (k : Bytes) (e : φ) : WorldStep write e ((W.pluginProvisionOemMasterKey k).exe e).2
  | setTAEncryptionKey (k : Bytes) (e : φ) : WorldStep write e ((W.pluginSetTAEncryptionKey k).exe e).2
  | versionInfo (e : φ) : WorldStep write e (W.versionInfo.exe e).2

/-- Calls to the world that open no session and close none. -/
abbrev Neutral : φ → φ → Prop := WorldStep W True

/-- The stamp and the counter after a record got the owners `owners`. -/
def Stamped (r : SessionRecord) (owners : List ProcessInfo) (counter stamp counter' : UInt32) : Prop :=
  updateSessionLastUsage { r with ownersList := owners } counter =
    ({ r with ownersList := owners, lastUsedTime := stamp }, counter')

/-- Steps of everything but the creation of a session. -/
inductive CleanStep : Service φ → Service φ → Prop
  | env (s : Service φ) {e : φ} (h : Neutral W s.env e) : CleanStep s { s with env := e }
  | applets (s : Service φ) (t : AppletTable) : CleanStep s { s with appletTable := t }
  | unload (s : Service φ) (appId : Bytes) :
      CleanStep s { s with log := s.log ++ [⟨.unloadApplet appId, s.sessionList, s.appletTable⟩] }
  | uninstallPackage (s : Service φ) (appId : Bytes) :
      CleanStep s { s with log := s.log ++ [⟨.uninstallPackage appId, s.sessionList, s.appletTable⟩] }
  /-- Owners that were reported dead leave a record, which may get a new stamp. -/
  | deadOwners (s : Service φ) {id : SessionId} {r : SessionRecord} (hr : s.sessionList.find? id = some r)
      {owners : List ProcessInfo} (hsub : owners.Sublist r.ownersList)
      (hdead : ∃ p ∈ r.ownersList, ∃ e, ((W.processIsDead p).exe e).1 = true) (stamp counter : UInt32)
      (hstamp : Stamped r owners s.sharedSessionLRUCounter stamp counter) :
      CleanStep s { s with
        sessionList := s.sessionList.modify id fun _ => { r with ownersList := owners, lastUsedTime := stamp }
        sharedSessionLRUCounter := counter }
  /-- The event fields of a record change. -/
  | events (s : Service φ) (id : SessionId) (h : SessionRecord → Option EventHandle)
      (q : SessionRecord → List EventData) :
      CleanStep s { s with
        sessionList := s.sessionList.modify id fun r => { r with eventHandle := h r, eventsDataQueue := q r } }
  /-- The VM closed the session: its record goes. -/
  | closed (s : Service φ) {id : SessionId} {r : SessionRecord} (hr : s.sessionList.find? id = some r)
      (force : Bool) (hret : closedInVm ((pluginClose W force r.vmSessionHandle).exe s.env).1 = true) :
      CleanStep s { s with
        env := ((pluginClose W force r.vmSessionHandle).exe s.env).2
        sessionList := s.sessionList.erase id
        log := s.log ++ [⟨.removeSession id, s.sessionList, s.appletTable⟩] }
  /-- The VM did not close the session: its record stays. -/
  | closeFailed (s : Service φ) {id : SessionId} {r : SessionRecord} (hr : s.sessionList.find? id = some r)
      (force : Bool) (hret : closedInVm ((pluginClose W force r.vmSessionHandle).exe s.env).1 = false) :
      CleanStep s { s with env := ((pluginClose W force r.vmSessionHandle).exe s.env).2 }

/-- Steps that add no record to the table. -/
inductive QuietStep : Service φ → Service φ → Prop
  | clean {s t : Service φ} (h : CleanStep W s t) : QuietStep s t
  /-- The session answered. -/
  | exchange (s : Service φ) {id : SessionId} {r : SessionRecord} (hr : s.sessionList.find? id = some r)
      (cmd : UInt32) (tx : Bytes) (n : UInt32)
      (hret : sessionDied ((W.pluginSendAndRecv r.vmSessionHandle cmd tx n).exe s.env).1.retCode = false) :
      QuietStep s { s with env := ((W.pluginSendAndRecv r.vmSessionHandle cmd tx n).exe s.env).2 }
  /-- The session died while it was used: its record goes. -/
  | crashed (s : Service φ) {id : SessionId} {r : SessionRecord} (hr : s.sessionList.find? id = some r)
      (cmd : UInt32) (tx : Bytes) (n : UInt32)
      (hret : sessionDied ((W.pluginSendAndRecv r.vmSessionHandle cmd tx n).exe s.env).1.retCode = true) :
      QuietStep s { s with
        env := ((W.pluginSendAndRecv r.vmSessionHandle cmd tx n).exe s.env).2
        sessionList := s.sessionList.erase id
        log := s.log ++ [⟨.removeSession id, s.sessionList, s.appletTable⟩] }
  /-- An owner gives up one ownership of a record, which may get a new stamp. -/
  | dropOwner (s : Service φ) {id : SessionId} {r : SessionRecord} (hr : s.sessionList.find? id = some r)
      {p : ProcessInfo} (hp : p ∈ r.ownersList) (stamp counter : UInt32)
      (hstamp : Stamped r (r.ownersList.erase p) s.sharedSessionLRUCounter stamp counter) :
      QuietStep s { s with
        sessionList := s.sessionList.modify id fun _ =>
          { r with ownersList := r.ownersList.erase p, lastUsedTime := stamp }
        sharedSessionLRUCounter := counter }
  /-- A process becomes one more owner of a shared session. -/
  | addOwner (s : Service φ) {id : SessionId} {r : SessionRecord} (hr : s.sessionList.find? id = some r)
      (hshared : r.shared = true) (hlt : r.ownersList.length < maxSessionOwners) (p : ProcessInfo) :
      QuietStep s { s with
        sessionList := s.sessionList.modify id fun r => { r with ownersList := r.ownersList ++ [p] }
        log := s.log ++ [⟨.addSessionOwner id, s.sessionList, s.appletTable⟩] }
  /-- A shared session has all the owners it can have. -/
  | ownersFull (s : Service φ) {id : SessionId} {r : SessionRecord} (hr : s.sessionList.find? id = some r)
      (hshared : r.shared = true) (hge : maxSessionOwners ≤ r.ownersList.length) :
      QuietStep s { s with log := s.log ++ [⟨.addSessionOwner id, s.sessionList, s.appletTable⟩] }
  | openFailed (s : Service φ) (appId : Bytes) (blob : Option Bytes) (id : SessionId) (init : Bytes)
      (hret : ((W.pluginCreateSession appId blob id init).exe s.env).1.1 ≠ jhiSuccess) :
      QuietStep s { s with env := ((W.pluginCreateSession appId blob id init).exe s.env).2 }
  /-- A session was opened, its id was taken, and it was closed again. -/
  | undone (s : Service φ) (appId : Bytes) (blob : Option Bytes) (id : SessionId) (init : Bytes)
      (hret : ((W.pluginCreateSession appId blob id init).exe s.env).1.1 = jhiSuccess)
      {e : φ} (he : e = ((W.pluginCreateSession appId blob id init).exe s.env).2)
      {h : VmHandle} (hh : h = ((W.pluginCreateSession appId blob id init).exe s.env).1.2) :
      QuietStep s { s with
        env := ((W.pluginCloseSession h).exe e).2
        log := s.log ++ [⟨.undoCreate h ((W.pluginCloseSession h).exe e).1, s.sessionList, s.appletTable⟩] }

/-- Steps of every command. -/
inductive Step : Service φ → Service φ → Prop
  | quiet {s t : Service φ} (h : QuietStep W s t) : Step s t
  /-- A session was opened and its record added. -/
  | opened (s : Service φ) (appId : AppId) (blob : Option Bytes) {id : SessionId} (init : Bytes) (flags : UInt32)
      (p : ProcessInfo) (hret : ((W.pluginCreateSession appId.text blob id init).exe s.env).1.1 = jhiSuccess)
      (hnew : s.sessionList.find? id = none)
      (hshared : sharedSession flags = true → getSharedSessionID s.sessionList appId.text = none) :
      Step s { s with
        env := ((W.pluginCreateSession appId.text blob id init).exe s.env).2
        sessionList := s.sessionList.insert id (newRecord appId.text
          ((W.pluginCreateSession appId.text blob id init).exe s.env).1.2 id flags p) }

/-! ### Steps of the clean-ups -/

/-- Steps of the clean-ups: they leave the applet table alone, and of the world they ask only which
processes are dead and that sessions be closed. -/
inductive TidyStep : Service φ → Service φ → Prop
  | processIsDead (s : Service φ) (p : ProcessInfo) : TidyStep s { s with env := ((W.processIsDead p).exe s.env).2 }
  | deadOwners (s : Service φ) {id : SessionId} {r : SessionRecord} (hr : s.sessionList.find? id = some r)
      {owners : List ProcessInfo} (hsub : owners.Sublist r.ownersList)
      (hdead : ∃ p ∈ r.ownersList, ∃ e, ((W.processIsDead p).exe e).1 = true) (stamp counter : UInt32)
      (hstamp : Stamped r owners s.sharedSessionLRUCounter stamp counter) :
      TidyStep s { s with
        sessionList := s.sessionList.modify id fun _ => { r with ownersList := owners, lastUsedTime := stamp }
        sharedSessionLRUCounter := counter }
  | closed (s : Service φ) {id : SessionId} {r : SessionRecord} (hr : s.sessionList.find? id = some r)
      (force : Bool) (hret : closedInVm ((pluginClose W force r.vmSessionHandle).exe s.env).1 = true) :
      TidyStep s { s with
        env := ((pluginClose W force r.vmSessionHandle).exe s.env).2
        sessionList := s.sessionList.erase id
        log := s.log ++ [⟨.removeSession id, s.sessionList, s.appletTable⟩] }
  | closeFailed (s : Service φ) {id : SessionId} {r : SessionRecord} (hr : s.sessionList.find? id = some r)
      (force : Bool) (hret : closedInVm ((pluginClose W force r.vmSessionHandle).exe s.env).1 = false) :
      TidyStep s { s with env := ((pluginClose W force r.vmSessionHandle).exe s.env).2 }

/-! ### Steps with what is known where they are taken -/

/-- The call takes the applet out of the VM. -/
def LogCall.Unloads (call : LogCall) (appId : Bytes) : Prop :=
  call = .unloadApplet appId ∨ call = .uninstallPackage appId

/-- What a command may do to applets: whether it may unload those without sessions and delete their
files, which it may install, and which it may unload whatever their sessions. -/
structure Licence where
  unload : Prop
  uninstall : Prop
  install : Bytes → Prop
  force : Bytes → Prop

/-- To use sessions and nothing else. -/
def Licence.none : Licence := ⟨False, False, fun _ => False, fun _ => False⟩

def Licence.unloading : Licence := ⟨True, False, fun _ => False, fun _ => False⟩

def Licence.uninstalling : Licence := ⟨True, True, fun _ => False, fun _ => False⟩

/-- To put one applet into the VM. -/
def Licence.loading (appId : Bytes) : Licence := ⟨True, False, fun _ => False, (· = appId)⟩

/-- To install one applet. -/
def Licence.installing (appId : Bytes) : Licence := ⟨True, False, (· = appId), fun _ => False⟩

/-- To install one applet and to take it out of the VM for this. -/
def Licence.forcing (appId : Bytes) : Licence := ⟨True, False, (· = appId), (· = appId)⟩

def Licence.any : Licence := ⟨True, True, fun _ => True, fun _ => True⟩

/-- Files are written to install and to uninstall. -/
def Licence.write (ℓ : Licence) : Prop := ℓ.uninstall ∨ ∃ appId, ℓ.install appId

/-- What a command does to the applet table when the session table is `t`. -/
inductive AppletEdit (ℓ : Licence) (t : SessionTable) (a : AppletTable) : AppletTable → Prop
  | keep : AppletEdit ℓ t a a
  | markPending {appId : Bytes} (hP : ℓ.install appId) (h : getAppletState a appId = .notInstalled) :
      AppletEdit ℓ t a (a.insert appId pendingRecord)
  | setInstalled {appId : Bytes} (hP : ℓ.install appId) : AppletEdit ℓ t a (DalHost.setInstalled a appId)
  | dropPending {appId : Bytes} (hP : ℓ.install appId) (h : getAppletState a appId = .pendingInstall) :
      AppletEdit ℓ t a (a.erase appId)
  /-- The record of an applet without sessions goes. -/
  | forget {appId : Bytes} (hU : ℓ.unload) (h : hasLiveSessions t appId = false) : AppletEdit ℓ t a (a.erase appId)

/-- A step under a licence. An applet is unloaded when it has no sessions, or when the licence allows
to force it. -/
structure Careful (ℓ : Licence) (s t : Service φ) : Prop where
  applets : AppletEdit ℓ s.sessionList s.appletTable t.appletTable
  log : ∀ e ∈ t.log, e ∈ s.log ∨ e.table = s.sessionList ∧ e.applets = s.appletTable ∧
    ∀ appId, e.call.Unloads appId →
      ℓ.unload ∧ hasLiveSessions s.sessionList appId = false ∨ ℓ.force appId

/-- The steps of unload and install. -/
inductive CareStep (ℓ : Licence) : Service φ → Service φ → Prop
  | tidy {s t : Service φ} (h : TidyStep W s t) : CareStep ℓ s t
  | env (s : Service φ) {e : φ} (h : WorldStep W ℓ.write s.env e) : CareStep ℓ s { s with env := e }
  | applets (s : Service φ) {a : AppletTable} (h : AppletEdit ℓ s.sessionList s.appletTable a) :
      CareStep ℓ s { s with appletTable := a }
  | unload (s : Service φ) {appId : Bytes} (h : ℓ.unload ∧ hasLiveSessions s.sessionList appId = false ∨ ℓ.force appId) :
      CareStep ℓ s { s with log := s.log ++ [⟨.unloadApplet appId, s.sessionList, s.appletTable⟩] }
  | uninstallPackage (s : Service φ) {appId : Bytes} (hU : ℓ.unload) (h : hasLiveSessions s.sessionList appId = false) :
      CareStep ℓ s { s with log := s.log ++ [⟨.uninstallPackage appId, s.sessionList, s.appletTable⟩] }

/-- The steps of everything but the last one of a creation. -/
def CareQuietStep (ℓ : Licence) (s t : Service φ) : Prop := QuietStep W s t ∧ Careful ℓ s t

section Care

variable {W} {ℓ : Licence} {s t : Service φ}

theorem Careful.of_edit (happlets : AppletEdit ℓ s.sessionList s.appletTable t.appletTable) (hlog : t.log = s.log) :
    Careful ℓ s t where
  applets := happlets
  log _ he := .inl (hlog ▸ he)

theorem Careful.of_eq (happlets : t.appletTable = s.appletTable) (hlog : t.log = s.log) : Careful ℓ s t :=
  .of_edit (happlets ▸ .keep) hlog

theorem Careful.of_record {call : LogCall} (happlets : t.appletTable = s.appletTable)
    (hlog : t.log = s.log ++ [⟨call, s.sessionList, s.appletTable⟩])
    (hcall : ∀ appId, call.Unloads appId →
      ℓ.unload ∧ hasLiveSessions s.sessionList appId = false ∨ ℓ.force appId) : Careful ℓ s t where
  applets := happlets ▸ .keep
  log e he := by
    rw [hlog, List.mem_append, List.mem_singleton] at he
    rcases he with he | rfl
    · exact .inl he
    · exact .inr ⟨rfl, rfl, hcall⟩

theorem TidyStep.clean (h : TidyStep W s t) : CleanStep W s t := by
  cases h with
  | processIsDead p => exact .env s (.processIsDead p s.env)
  | deadOwners hr hsub hdead stamp counter hstamp => exact .deadOwners s hr hsub hdead stamp counter hstamp
  | closed hr force hret => exact .closed s hr force hret
  | closeFailed hr force hret => exact .closeFailed s hr force hret

theorem WorldStep.mono {write write' : Prop} (h : write → write') {e e' : φ} (hst : WorldStep W write e e') :
    WorldStep W write' e e' := by
  cases hst with
  | processIsDead p => exact .processIsDead p e
  | generateNewSessionId => exact .generateNewSessionId e
  | ownProcessInfo => exact .ownProcessInfo e
  | openEvent n => exact .openEvent n e
  | fileExists f => exact .fileExists f e
  | copyFile hw d f => exact .copyFile (h hw) d f e
  | createFileFromBuff hw f b => exact .createFileFromBuff (h hw) f b e
  | chmod f => exact .chmod f e
  | removeFile hw f => exact .removeFile (h hw) f e
  | renameFile hw f g => exact .renameFile (h hw) f g e
  | syncFile f => exact .syncFile f e
  | readFile f => exact .readFile f e
  | readPackage f => exact .readPackage f e
  | downloadApplet a b => exact .downloadApplet a b e
  | unloadApplet a => exact .unloadApplet a e
  | sendCmdPkg h b => exact .sendCmdPkg h b e
  | parsePackage b => exact .parsePackage b e
  | getAppletProperty a tx n => exact .getAppletProperty a tx n e
  | openSDSession sd => exact .openSDSession sd e
  | closeSDSession h => exact .closeSDSession h e
  | listInstalledTAs h => exact .listInstalledTAs h e
  | listInstalledSDs h => exact .listInstalledSDs h e
  | queryTeeMetadata => exact .queryTeeMetadata e
  | provisionOemMasterKey k => exact .provisionOemMasterKey k e
  | setTAEncryptionKey k => exact .setTAEncryptionKey k e
  | versionInfo => exact .versionInfo e

theorem WorldStep.neutral {write : Prop} {e e' : φ} (h : WorldStep W write e e') : Neutral W e e' :=
  h.mono fun _ => trivial

theorem TidyStep.careful (h : TidyStep W s t) : Careful ℓ s t := by
  cases h with
  | processIsDead | deadOwners | closeFailed => exact .of_eq rfl rfl
  | closed =>
    refine .of_record rfl rfl fun appId h => ?_
    rcases h with h | h <;> cases h

theorem CareStep.clean (h : CareStep W ℓ s t) : CleanStep W s t := by
  cases h with
  | tidy h => exact h.clean
  | env h => exact .env s h.neutral
  | applets h => exact .applets s _
  | unload h => exact .unload s _
  | uninstallPackage hU h => exact .uninstallPackage s _

theorem CareStep.careful (h : CareStep W ℓ s t) : Careful ℓ s t := by
  cases h with
  | tidy h => exact h.careful
  | env h => exact .of_eq rfl rfl
  | applets h => exact .of_edit h rfl
  | unload h =>
    refine .of_record rfl rfl fun a ha => ?_
    rcases ha with ha | ha
    · cases ha
      exact h
    · cases ha
  | uninstallPackage hU h =>
    refine .of_record rfl rfl fun a ha => ?_
    rcases ha with ha | ha
    · cases ha
    · cases ha
      exact .inl ⟨hU, h⟩

variable {I : Service φ → Prop}

theorem Closed.care (h : Closed (CleanStep W) I) (ℓ : Licence) : Closed (CareStep W ℓ) I :=
  fun s t hst => h s t hst.clean

theorem Closed.tidy (h : Closed (CareStep W ℓ) I) : Closed (TidyStep W) I := fun s t hst => h s t (.tidy hst)

theorem Closed.toTidy (h : Closed (CleanStep W) I) : Closed (TidyStep W) I := fun s t hst => h s t hst.clean

end Care

/-! ### The applets that have sessions -/

/-- Nothing but a creation gives an applet its first session: what holds of all applets with
sessions goes on to hold. -/
theorem closed_appIds (Q : Bytes → Prop) :
    Closed (QuietStep W) fun s => ∀ id r, s.sessionList.find? id = some r → Q r.appId := by
  have hmod : ∀ {t : SessionTable} {id : SessionId} {f : SessionRecord → SessionRecord},
      (∀ id r, t.find? id = some r → Q r.appId) → (∀ r, t.find? id = some r → (f r).appId = r.appId) →
      ∀ i r, (t.modify id f).find? i = some r → Q r.appId := by
    intro t id f h hf i r hr
    rw [OrdMap.find?_modify] at hr
    split_ifs at hr with hi
    · subst hi
      obtain ⟨r', hr', rfl⟩ := Option.map_eq_some_iff.1 hr
      rw [hf r' hr']
      exact h _ r' hr'
    · exact h i r hr
  have herase : ∀ {t : SessionTable} {id : SessionId}, (∀ id r, t.find? id = some r → Q r.appId) →
      ∀ i r, (t.erase id).find? i = some r → Q r.appId := by
    intro t id h i r hr
    rw [OrdMap.find?_erase] at hr
    split_ifs at hr
    exact h i r hr
  intro s t hst h
  cases hst with
  | clean hst =>
    cases hst with
    | env | applets | unload | uninstallPackage | closeFailed => exact h
    | deadOwners hr =>
      refine hmod h fun r hr' => ?_
      cases hr.symm.trans hr'
      rfl
    | events => exact hmod h fun _ _ => rfl
    | closed => exact herase h
  | exchange | ownersFull | openFailed | undone => exact h
  | dropOwner hr =>
    refine hmod h fun r hr' => ?_
    cases hr.symm.trans hr'
    rfl
  | crashed => exact herase h
  | addOwner => exact hmod h fun _ _ => rfl

/-! ### Rules for the clean-ups -/

section Tidy

variable {W} {I : Service φ → Prop} (hI : Closed (TidyStep W) I)
include hI

/-! ### Owners -/

omit hI in
theorem setOwners_eq (s : Service φ) (id : SessionId) (r : SessionRecord) (owners : List ProcessInfo) :
    ∃ stamp counter, Stamped r owners s.sharedSessionLRUCounter stamp counter ∧ ((setOwners id r owners).exe s).2 = { s with
      sessionList := s.sessionList.modify id fun _ => { r with ownersList := owners, lastUsedTime := stamp }
      sharedSessionLRUCounter := counter } := by
  simp only [setOwners, exe_bind, exe_get, exe_modify, Stamped, updateSessionLastUsage]
  split_ifs
  · exact ⟨_, _, rfl, rfl⟩
  · exact ⟨r.lastUsedTime, _, rfl, rfl⟩

theorem keeps_removeDead (ps : List ProcessInfo) : Keeps I (onEnv (removeDead W ps)) := by
  induction ps with
  | nil => exact Keeps.pure _
  | cons p ps ih =>
    intro s hs
    exact ih _ (hI _ _ (.processIsDead s p) hs)

omit hI in
theorem removeDead_sublist (W : World φ) (ps : List ProcessInfo) (e : φ) :
    ((removeDead W ps).exe e).1.Sublist ps := by
  induction ps generalizing e with
  | nil => exact List.Sublist.refl _
  | cons p ps ih =>
    simp only [removeDead, exe_bind, exe_pure]
    split_ifs
    · exact (ih _).cons p
    · exact (ih _).cons_cons p

omit hI in
theorem exists_dead_of_removeDead (W : World φ) {ps : List ProcessInfo} {e : φ}
    (h : ((removeDead W ps).exe e).1.length < ps.length) :
    ∃ p ∈ ps, ∃ e', ((W.processIsDead p).exe e').1 = true := by
  induction ps generalizing e with
  | nil => cases h
  | cons p ps ih =>
    simp only [removeDead, exe_bind, exe_pure] at h
    split_ifs at h with hdead
    · exact ⟨p, List.mem_cons_self, e, hdead⟩
    · obtain ⟨q, hq, hdead'⟩ := ih (Nat.lt_of_succ_lt_succ h)
      exact ⟨q, List.mem_cons_of_mem p hq, hdead'⟩

theorem keeps_clearSessionDeadOwners (id : SessionId) : Keeps I (clearSessionDeadOwners W id) := by
  intro s hs
  simp only [clearSessionDeadOwners, exe_bind, exe_get]
  cases hr : s.sessionList.find? id with
  | none => exact hs
  | some r =>
    have hs' := keeps_removeDead hI r.ownersList s hs
    simp only [exe_bind, exe_onEnv, exe_ite] at hs' ⊢
    split
    next hlt =>
      obtain ⟨stamp, counter, hstamp, heq⟩ := setOwners_eq { s with env := ((removeDead W r.ownersList).exe s.env).2 } id r
        ((removeDead W r.ownersList).exe s.env).1
      have hstep := TidyStep.deadOwners (s := { s with env := ((removeDead W r.ownersList).exe s.env).2 }) hr
        (removeDead_sublist W _ s.env) (exists_dead_of_removeDead W hlt) stamp counter hstamp
      rw [← heq] at hstep
      exact hI _ _ hstep hs'
    · exact hs'

theorem keeps_clearSessionsDeadOwners : Keeps I (clearSessionsDeadOwners W) :=
  Keeps.get.bind fun _ => Keeps.iterateAny (keeps_clearSessionDeadOwners hI) _

/-! ### Closing -/

omit hI in
theorem find?_of_getVMSessionHandle {t : SessionTable} {id : SessionId} {h : VmHandle}
    (hh : getVMSessionHandle t id = some h) : ∃ r, t.find? id = some r ∧ r.vmSessionHandle = h := by
  simpa [getVMSessionHandle] using hh

theorem closeInVm_step {s : Service φ} {id : SessionId} {r : SessionRecord} (hr : s.sessionList.find? id = some r)
    (force : Bool) (hs : I s) :
    I ((finishClose id force ((pluginClose W force r.vmSessionHandle).exe s.env).1).exe
      { s with env := ((pluginClose W force r.vmSessionHandle).exe s.env).2 }).2 := by
  simp only [finishClose]
  split_ifs with hret
  · have hpres : isSessionPresent s.sessionList id = true := OrdMap.contains_iff.2 ⟨r, hr⟩
    simp only [remove, exe_bind, exe_get, hpres, if_true, exe_record, exe_modifySessions, exe_pure]
    split_ifs <;> exact hI _ _ (.closed s hr force hret) hs
  · exact hI _ _ (.closeFailed s hr force (by simpa using hret)) hs

theorem keeps_closeRemoval (id : SessionId) (force : Bool) : Keeps I (closeRemoval W id force true) := by
  intro s hs
  simp only [closeRemoval, exe_bind, exe_get, exe_ite, if_true]
  split
  · exact hs
  · cases hh : getVMSessionHandle s.sessionList id with
    | none => exact hs
    | some handle =>
      obtain ⟨r, hr, rfl⟩ := find?_of_getVMSessionHandle hh
      have hpres : isSessionPresent s.sessionList id = true := OrdMap.contains_iff.2 ⟨r, hr⟩
      simp only [exe_bind, exe_get, exe_onEnv, exe_ite, hpres, Bool.not_true, Bool.and_false, Bool.false_eq_true,
        if_false]
      split
      · exact hs
      · exact closeInVm_step hI hr force hs

theorem keeps_closeInternally (id : SessionId) : Keeps I (closeInternally W id) := by
  refine Keeps.bind (Keeps.get.bind fun s => ?_) fun _ => Keeps.pure _
  cases closeBranch s.sessionList id none false with
  | notExists | notOwner | dropOwner => exact Keeps.pure _
  | removal => exact keeps_closeRemoval hI id false

theorem keeps_clearDeadAndAbandoned : Keeps I (clearDeadAndAbandoned W) := by
  refine (keeps_clearSessionsDeadOwners hI).bind fun _ => Keeps.bind ?_ fun _ => Keeps.pure _
  exact Keeps.get.bind fun _ => Keeps.iterateAny (keeps_closeInternally hI) _

theorem keeps_clearAppletSharedSession (appId : Bytes) : Keeps I (clearAppletSharedSession W appId) := by
  refine Keeps.get.bind fun s => ?_
  split
  · exact Keeps.pure _
  · exact keeps_closeInternally hI _

theorem keeps_tryRemoveUnusedSharedSession (allow : Bool) : Keeps I (tryRemoveUnusedSharedSession W allow) := by
  refine Keeps.get.bind fun s => ?_
  split
  · exact Keeps.pure _
  · exact keeps_closeInternally hI _

theorem keeps_clearForApplet (appId : Bytes) : Keeps I (clearForApplet W appId) := by
  refine (keeps_clearDeadAndAbandoned hI).bind fun _ => Keeps.get.bind fun s => Keeps.ite (fun _ => ?_) fun _ => ?_
  · exact (keeps_clearAppletSharedSession hI appId).bind fun _ => Keeps.pure _
  · exact Keeps.pure _

end Tidy

/-! ### Rules for the parts of a command -/

section Rules

variable {W} {ℓ : Licence} {I : Service φ → Prop} (hI : Closed (CareStep W ℓ) I)
include hI

theorem keeps_env {α : Type} {op : StateM φ α} (h : ∀ e, WorldStep W ℓ.write e (op.exe e).2) : Keeps I (onEnv op) :=
  fun s hs => hI _ _ (.env s (h s.env)) hs

theorem keeps_modifyApplets {f : AppletTable → AppletTable}
    (h : ∀ s, I s → AppletEdit ℓ s.sessionList s.appletTable (f s.appletTable)) : Keeps I (modifyApplets f) :=
  fun s hs => hI _ _ (.applets s (h s hs)) hs

theorem keeps_unloadApplet {appId : Bytes}
    (h : ∀ s, I s → ℓ.unload ∧ hasLiveSessions s.sessionList appId = false ∨ ℓ.force appId) :
    Keeps I (unloadApplet W appId) :=
  Keeps.bind (fun s hs => hI _ _ (.unload s (h s hs)) hs) fun _ => keeps_env hI (.unloadApplet appId)

theorem keeps_removeAppletRecord {appId : Bytes}
    (h : ∀ s, I s → AppletEdit ℓ s.sessionList s.appletTable (s.appletTable.erase appId)) :
    Keeps I (removeAppletRecord appId) :=
  Keeps.get.bind fun _ => (keeps_modifyApplets hI h).bind fun _ => Keeps.pure _

theorem keeps_markPending {appId : Bytes} (hP : ℓ.install appId) : Keeps I (markPending appId) := by
  intro s hs
  simp only [markPending, exe_bind, exe_get, exe_ite]
  split_ifs with hstate
  · exact hI _ _ (.applets s (.markPending hP hstate)) hs
  · exact hs

theorem keeps_appletExistInRepository (appId : Bytes) : Keeps I (appletExistInRepository W appId) := by
  refine Keeps.get.bind fun s => (keeps_env hI (.fileExists _)).bind fun _ => Keeps.ite (fun _ => Keeps.pure _) fun _ => ?_
  exact (keeps_env hI (.fileExists _)).bind fun _ => Keeps.ite (fun _ => Keeps.pure _) fun _ => Keeps.pure _

theorem keeps_getAppletBlobs (file : FileString) (isAcp : Bool) : Keeps I (getAppletBlobs W file isAcp) := by
  refine Keeps.ite (fun _ => ?_) fun _ => Keeps.ite (fun _ => ?_) fun _ => Keeps.pure _
  · refine (keeps_env hI (.readFile file)).bind fun b => ?_
    cases b <;> exact Keeps.pure _
  · refine (keeps_env hI (.readPackage file)).bind fun b => ?_
    split <;> exact Keeps.pure _

theorem keeps_dropPendingFile (hw : ℓ.write) (file : FileString) : Keeps I (dropPendingFile W file) := by
  refine (keeps_env hI (.fileExists file)).bind fun _ => Keeps.ite (fun _ => ?_) fun _ => Keeps.pure _
  exact (keeps_env hI (.removeFile hw file)).bind fun _ => Keeps.pure _

theorem keeps_prepareInstallFromFile (file : FileString) {appId : Bytes} (hP : ℓ.install appId) (isAcp : Bool) :
    Keeps I (prepareInstallFromFile W file appId isAcp) := by
  have hdrop := fun (f : FileString) (ret : JhiRet) => (keeps_dropPendingFile hI (.inr ⟨appId, hP⟩) f).bind fun _ =>
    Keeps.pure (Except.error ret : Except JhiRet (List Bytes))
  refine Keeps.get.bind fun s => (keeps_env hI (.copyFile (.inr ⟨appId, hP⟩) _ _)).bind fun _ => Keeps.ite (fun _ => hdrop _ _) fun _ => ?_
  refine (keeps_env hI (.chmod _)).bind fun _ => Keeps.ite (fun _ => hdrop _ _) fun _ => ?_
  refine (keeps_getAppletBlobs hI _ _).bind fun blobs => ?_
  cases blobs with
  | error ret => exact hdrop _ _
  | ok blobs => exact (keeps_markPending hI hP).bind fun _ => Keeps.pure _

theorem keeps_prepareInstallFromBuffer (blob : Bytes) {appId : Bytes} (hP : ℓ.install appId) :
    Keeps I (prepareInstallFromBuffer W blob appId) := by
  have hdrop := fun (f : FileString) => (keeps_dropPendingFile hI (.inr ⟨appId, hP⟩) f).bind fun _ => Keeps.pure jhiFileErrorCopy
  refine Keeps.get.bind fun s =>
    (keeps_env hI (.createFileFromBuff (.inr ⟨appId, hP⟩) _ _)).bind fun _ => Keeps.ite (fun _ => hdrop _) fun _ => ?_
  refine (keeps_env hI (.fileExists _)).bind fun _ => Keeps.ite (fun _ => hdrop _) fun _ => ?_
  refine (keeps_env hI (.chmod _)).bind fun _ => Keeps.ite (fun _ => hdrop _) fun _ => ?_
  exact (keeps_markPending hI hP).bind fun _ => Keeps.pure _

theorem keeps_downloadAgain (appId : Bytes) (ret : JhiRet) (blobs : List Bytes) :
    Keeps I (downloadAgain W appId ret blobs) :=
  Keeps.tryEach (fun blob => keeps_env hI (.downloadApplet appId blob)) blobs ret

theorem keeps_syncAppletRepoToDisk : Keeps I (syncAppletRepoToDisk W) :=
  Keeps.get.bind fun _ => keeps_env hI (.syncFile _)

theorem keeps_completeInstall {appId : Bytes} (hP : ℓ.install appId) (isAcp : Bool) :
    Keeps I (completeInstall W appId isAcp) := by
  have hw : ℓ.write := .inr ⟨appId, hP⟩
  refine Keeps.get.bind fun s => (keeps_env hI (.removeFile hw _)).bind fun _ => ?_
  refine (keeps_env hI (.removeFile hw _)).bind fun _ => (keeps_env hI (.renameFile hw _ _)).bind fun renamed => ?_
  refine Keeps.bind ?_ fun _ => Keeps.ite (fun _ => Keeps.pure _) fun _ => ?_
  · refine Keeps.get.bind fun s => (keeps_env hI (.syncFile _)).bind fun _ => Keeps.ite (fun _ => Keeps.pure _) fun _ => ?_
    exact keeps_syncAppletRepoToDisk hI
  · exact (keeps_modifyApplets hI fun _ _ => .setInstalled hP).bind fun _ => Keeps.pure _

/-! ### Unload -/

omit hI in
theorem hasLiveSessions_eq_false_iff {t : SessionTable} {appId : Bytes} :
    hasLiveSessions t appId = false ↔ ∀ id r, t.find? id = some r → toUpperCase appId ≠ r.appId := by
  simp only [hasLiveSessions, List.any_eq_false, decide_eq_true_eq, Prod.forall, OrdMap.mem_entries_iff, ne_eq]

omit hI in
theorem closed_noSessions (W : World φ) (appId : Bytes) :
    Closed (CleanStep W) fun s => hasLiveSessions s.sessionList appId = false := by
  intro s t hst h
  rw [hasLiveSessions_eq_false_iff] at h ⊢
  exact closed_appIds W (toUpperCase appId ≠ ·) s t (.clean hst) h

variable (hU : ℓ.unload)
include hU

theorem keeps_afterVmUnload {appId : Bytes} (h : ∀ s, I s → hasLiveSessions s.sessionList appId = false)
    (ret : JhiRet) : Keeps I (do
      if ret = jhiSuccess then
        if !(← removeAppletRecord appId) && (← get).vmType ≠ .beihaiV2 then return jhiInternalError
        else return ret
      else return ret : StateM (Service φ) JhiRet) := by
  refine Keeps.ite (fun _ => ?_) fun _ => Keeps.pure _
  refine (keeps_removeAppletRecord hI fun s hs => .forget hU (h s hs)).bind fun _ => Keeps.get.bind fun _ => ?_
  exact Keeps.ite (fun _ => Keeps.pure _) fun _ => Keeps.pure _

theorem keeps_unloadFromVm {appId : Bytes} (h : ∀ s, I s → hasLiveSessions s.sessionList appId = false)
    (pkg : Option (VmHandle × Bytes)) : Keeps I (unloadFromVm W appId pkg) := by
  cases pkg with
  | none => exact (keeps_unloadApplet hI fun s hs => .inl ⟨hU, h s hs⟩).bind (keeps_afterVmUnload hI hU h)
  | some pkg =>
    refine Keeps.bind (fun s hs => hI _ _ (.uninstallPackage s hU (h s hs)) hs) fun _ => ?_
    exact (keeps_env hI (.sendCmdPkg pkg.1 pkg.2)).bind (keeps_afterVmUnload hI hU h)

/-- The guard of `jhis_unload`: from the test on, the applet has no sessions. -/
theorem keeps_jhisUnload (appId : Bytes) (pkg : Option (VmHandle × Bytes)) : Keeps I (jhisUnload W appId pkg) := by
  refine Keeps.get.bind fun s => Keeps.ite (fun _ => Keeps.pure _) fun _ => ?_
  refine (keeps_clearForApplet hI.tidy appId).bind fun _ s hs => ?_
  simp only [exe_bind, exe_get, exe_ite]
  split_ifs with hlive
  · exact hs
  · exact hs
  · have hJ := Closed.and hI (Closed.care (closed_noSessions W appId) ℓ)
    exact (keeps_unloadFromVm hJ hU (fun _ h => h.2) pkg s ⟨hs, by simpa using hlive⟩).1

omit hU in
theorem keeps_afterUnload (hR : ℓ.uninstall) (appId : Bytes) (ret : JhiRet) : Keeps I (do
      if ret = jhiSuccess ∨ ret = jhiAppletNotInstalled ∨ ret = teeStatusTaDoesNotExist then
        match ← appletExistInRepository W appId with
        | none => return ret
        | some (filename, _) =>
          if !(← onEnv (W.removeFile filename)) then
            return if ret = jhiSuccess then jhiDeleteFromRepositoryFailure else ret
          else
            let _ ← syncAppletRepoToDisk W
            return jhiSuccess
      else return ret : StateM (Service φ) JhiRet) := by
  refine Keeps.ite (fun _ => ?_) fun _ => Keeps.pure _
  refine (keeps_appletExistInRepository hI appId).bind fun found => ?_
  cases found with
  | none => exact Keeps.pure _
  | some found =>
    refine (keeps_env hI (.removeFile (.inl hR) _)).bind fun _ => Keeps.ite (fun _ => Keeps.pure _) fun _ => ?_
    exact (keeps_syncAppletRepoToDisk hI).bind fun _ => Keeps.pure _

theorem keeps_jhisUninstall (hR : ℓ.uninstall) (appId : Bytes) (pkg : Option (VmHandle × Bytes)) :
    Keeps I (jhisUninstall W appId pkg) :=
  (keeps_jhisUnload hI hU appId pkg).bind (keeps_afterUnload hI hR appId)

theorem keeps_unloadAppletWithNoSessions (loaded : List Bytes) : Keeps I (unloadAppletWithNoSessions W loaded) := by
  induction loaded with
  | nil => exact Keeps.pure _
  | cons a as ih =>
    refine Keeps.get.bind fun s => Keeps.ite (fun _ => ?_) fun _ => ih
    exact (keeps_jhisUnload hI hU a none).bind fun _ => Keeps.pure _

theorem keeps_tryUnloadUnusedApplet : Keeps I (tryUnloadUnusedApplet W) := by
  refine Keeps.get.bind fun s => (keeps_unloadAppletWithNoSessions hI hU _).bind fun _ => ?_
  refine Keeps.ite (fun _ => Keeps.pure _) fun _ => (keeps_tryRemoveUnusedSharedSession hI.tidy false).bind fun _ => ?_
  exact Keeps.ite (fun _ => keeps_unloadAppletWithNoSessions hI hU _) fun _ => Keeps.pure _

/-! ### Install

An install takes the applet out of the VM, whatever its sessions, when the VM calls the package
identical to what it has, and when the new file cannot be given its name. -/

theorem keeps_evictAndRetry (ret : JhiRet) {retry : StateM (Service φ) JhiRet} (hretry : Keeps I retry) :
    Keeps I (evictAndRetry W ret retry) := by
  refine Keeps.get.bind fun s => Keeps.ite (fun _ => ?_) fun _ => Keeps.pure _
  exact (keeps_tryUnloadUnusedApplet hI hU).bind fun _ => Keeps.ite (fun _ => hretry) fun _ => Keeps.pure _

variable {appId : Bytes} (hP : ℓ.install appId)
include hP

omit hU in
theorem keeps_errorRemoveApplet (isAcp : Bool) : Keeps I (errorRemoveApplet W appId isAcp) := by
  refine Keeps.get.bind fun s => (keeps_env hI (.removeFile (.inr ⟨appId, hP⟩) _)).bind fun _ s hs => ?_
  simp only [exe_bind, exe_get, exe_ite]
  split_ifs with hstate
  · exact hI _ _ (.applets s (.dropPending hP hstate)) hs
  · exact hs

variable (hF : ℓ.force appId)
include hF

omit hU hP in
theorem keeps_downloadBlobs (ret : JhiRet) (blobs : List Bytes) : Keeps I (downloadBlobs W appId ret blobs) := by
  induction blobs generalizing ret with
  | nil => exact Keeps.pure _
  | cons blob blobs ih =>
    have hdownload := keeps_env hI (.downloadApplet (W := W) appId blob)
    refine hdownload.bind fun r => Keeps.ite (fun _ => ?_) fun _ => Keeps.ite (fun _ => Keeps.pure _) fun _ => ih r
    exact (keeps_unloadApplet hI fun _ _ => .inr hF).bind fun _ => hdownload

omit hU in
theorem keeps_finishInstall (visibleApp isAcp : Bool) (ret : JhiRet) :
    Keeps I (finishInstall W appId visibleApp isAcp ret) := by
  have herror := keeps_errorRemoveApplet hI hP isAcp
  refine Keeps.ite (fun _ => ?_) fun _ => Keeps.ite (fun _ => ?_) fun _ => Keeps.pure _
  · exact Keeps.ite (fun _ => herror.bind fun _ => Keeps.pure _) fun _ => Keeps.pure _
  · refine (keeps_completeInstall hI hP isAcp).bind fun _ => Keeps.ite (fun _ => ?_) fun _ => Keeps.pure _
    exact (keeps_unloadApplet hI fun _ _ => .inr hF).bind fun _ => herror.bind fun _ => Keeps.pure _

theorem keeps_installCleared (file : FileString) (visibleApp isAcp : Bool) :
    Keeps I (installCleared W appId file visibleApp isAcp) := by
  refine Keeps.get.bind fun _ => Keeps.ite (fun _ => Keeps.pure _) fun _ => ?_
  refine (keeps_env hI (.fileExists file)).bind fun _ => Keeps.ite (fun _ => Keeps.pure _) fun _ => ?_
  refine Keeps.ite (fun _ => Keeps.pure _) fun _ => Keeps.bind ?_ fun blobs => ?_
  · exact Keeps.ite (fun _ => keeps_prepareInstallFromFile hI file hP isAcp) fun _ => keeps_getAppletBlobs hI file isAcp
  · cases blobs with
    | error ret => exact Keeps.pure _
    | ok blobs =>
      refine Keeps.bind ?_ (keeps_finishInstall hI hP hF visibleApp isAcp)
      refine (keeps_downloadBlobs hI hF jhiSuccess blobs).bind fun ret => ?_
      exact keeps_evictAndRetry hI hU ret (keeps_downloadAgain hI appId ret blobs)

theorem keeps_jhisInstall (file : FileString) (visibleApp isAcp : Bool) :
    Keeps I (jhisInstall W appId file visibleApp isAcp) :=
  (keeps_clearForApplet hI.tidy appId).bind fun _ => keeps_installCleared hI hU hP hF file visibleApp isAcp

omit hU hP in
theorem keeps_sendInstallPkg (handle : VmHandle) (blob : Bytes) : Keeps I (sendInstallPkg W appId handle blob) := by
  have hsend := keeps_env hI (.sendCmdPkg (W := W) handle blob)
  refine hsend.bind fun ret => Keeps.ite (fun _ => ?_) fun _ => Keeps.pure _
  exact (keeps_unloadApplet hI fun _ _ => .inr hF).bind fun _ => hsend

theorem keeps_cmdPkgInstallCleared (handle : VmHandle) (blob : Bytes) :
    Keeps I (cmdPkgInstallCleared W appId handle blob) := by
  refine Keeps.get.bind fun _ => Keeps.ite (fun _ => Keeps.pure _) fun _ => ?_
  refine (keeps_prepareInstallFromBuffer hI blob hP).bind fun _ => Keeps.ite (fun _ => Keeps.pure _) fun _ => ?_
  refine Keeps.bind ?_ (keeps_finishInstall hI hP hF true true)
  refine (keeps_sendInstallPkg hI hF handle blob).bind fun ret => ?_
  exact keeps_evictAndRetry hI hU ret (keeps_env hI (.sendCmdPkg handle blob))

theorem keeps_cmdPkgInstallJta (handle : VmHandle) (blob : Bytes) :
    Keeps I (cmdPkgInstallJta W appId handle blob) :=
  (keeps_clearForApplet hI.tidy appId).bind fun _ => keeps_cmdPkgInstallCleared hI hU hP hF handle blob

omit hP hF in
theorem keeps_jhisSendCmdPkg (hR : ℓ.uninstall) (handle : VmHandle) (blob : Bytes)
    (hinstall : ∀ uuid, Keeps I (cmdPkgInstallJta W uuid handle blob)) : Keeps I (jhisSendCmdPkg W handle blob) := by
  refine Keeps.ite (fun _ => Keeps.pure _) fun _ => Keeps.get.bind fun _ => Keeps.ite (fun _ => Keeps.pure _) fun _ => ?_
  refine (keeps_env hI (.parsePackage blob)).bind fun info => ?_
  cases info with
  | error ret => exact Keeps.pure _
  | ok info =>
    refine Keeps.ite (fun _ => Keeps.pure _) fun _ => ?_
    cases info.packageType with
    | installSD | uninstallSD | updateSVL => exact keeps_env hI (.sendCmdPkg handle blob)
    | installNTA | uninstallNTA | installJTAProp | invalid | other => exact Keeps.pure _
    | installJTA => exact (hinstall _).bind fun _ => Keeps.pure _
    | uninstallJTA => exact (keeps_jhisUninstall hI hU hR _ _).bind fun _ => Keeps.pure _

end Rules

end DalHost
