import DalHost.Lib.Calls
import DalHost.Plugin.SecurityDomains

/-!
# Sessions of security domains

Which sessions of security domains the firmware has open, next to those that the plugin remembers. The
library is taken to keep books (`SdFirmware.Books`): a success of `BHP_OpenSDSession` opens one session,
`BHP_CloseSDSession` closes the one that it names. The plugin has one place for a session of a domain that is not
the Intel one, and a second session takes the place of the first: `sd_sessions_iff`.
-/

namespace DalHost

/-! ### The library's books -/

/-- A session: its handle and its domain, which the library reads without regard to the case of the letters. -/
abbrev SdSession := VmHandle × Bytes

/-- The sessions that are open change as the library documents it. Before `BHP_Init` the library opens and closes
nothing; a reset of the VM may close everything. -/
structure SdFirmware.Books {ψ : Type} (F : SdFirmware ψ) (inited : ψ → Bool) (sessions : ψ → List SdSession) : Prop where
  init_again : ∀ reset s, inited s = true →
    inited ((F.init reset).exe s).2 = true ∧ sessions ((F.init reset).exe s).2 = sessions s
  init : ∀ reset s, inited s = false →
    sessions ((F.init reset).exe s).2 = sessions s ∨ reset = true ∧ sessions ((F.init reset).exe s).2 = []
  deinit : ∀ reset s,
    sessions ((F.deinit reset).exe s).2 = sessions s ∨ reset = true ∧ sessions ((F.deinit reset).exe s).2 = []
  teardown : ∀ s, sessions (F.teardown.exe s).2 = sessions s
  opens : ∀ id s, ((F.openSDSession id).exe s).1.1 = bhSuccess →
    inited s = true ∧ inited ((F.openSDSession id).exe s).2 = true ∧
    ((F.openSDSession id).exe s).1.2 ≠ 0 ∧ ((F.openSDSession id).exe s).1.2 ∉ (sessions s).map Prod.fst ∧
    sessions ((F.openSDSession id).exe s).2 = (((F.openSDSession id).exe s).1.2, toUpperCase id) :: sessions s
  open_fails : ∀ id s, ((F.openSDSession id).exe s).1.1 ≠ bhSuccess →
    inited ((F.openSDSession id).exe s).2 = inited s ∧ sessions ((F.openSDSession id).exe s).2 = sessions s
  closes : ∀ handle s, inited s = true → inited ((F.closeSDSession handle).exe s).2 = true ∧
    sessions ((F.closeSDSession handle).exe s).2 = (sessions s).filter fun e => e.1 ≠ handle
  close_fails : ∀ handle s, inited s = false → inited ((F.closeSDSession handle).exe s).2 = false ∧
    sessions ((F.closeSDSession handle).exe s).2 = sessions s

/-! ### Runs of the plugin -/

inductive SdOp
  | init (reset : Bool)
  | deInit (reset : Bool)
  | openSD (sdId : Bytes)
  | closeSD (handle : VmHandle)

section Run

variable {ψ : Type} (F : SdFirmware ψ)

def SdOp.exec : SdOp → SdPlugin ψ → SdPlugin ψ
  | init reset, p => ((jhiPluginInit F reset).exe p).2
  | deInit reset, p => ((jhiPluginDeInit F reset).exe p).2
  | openSD sdId, p => ((jhiPluginOpenSDSession F sdId).exe p).2
  | closeSD handle, p => ((jhiPluginCloseSDSession F handle).exe p).2

/-- `JHI_Plugin_ListInstalledTAs` asks the library about this handle. -/
def SdPlugin.recognises (p : SdPlugin ψ) (handle : VmHandle) : Prop := ∃ sdId, sdOfHandle p handle = .ok sdId

/-- The bookkeeping in the state after some operations. -/
structure SdBookkeeping (sessions : ψ → List SdSession) (ops : List SdOp) (p : SdPlugin ψ) : Prop where
  closed : ∀ reset, ops.getLast? = some (.deInit reset) → sessions p.fw = []
  one : ((sessions p.fw).map Prod.snd).Nodup
  recognised : ∀ handle, p.recognises handle ↔ handle ∈ (sessions p.fw).map Prod.fst

/-- An open that would put a second session in the place of one that is open. -/
def SdOp.Displaces : SdOp → SdPlugin ψ → Prop
  | openSD sdId, p => validateUuidString sdId = true ∧ toUpperCase sdId ≠ intelSdUuid ∧ p.isOemSdOpen = true ∧
      sdId ≠ p.oemSdId ∧ ((F.openSDSession sdId).exe p.fw).1.1 = bhSuccess
  | _, _ => False

end Run

/-! ### The sessions that the plugin remembers -/

section Remembered

variable {ψ : Type}

def SdPlugin.remembered (p : SdPlugin ψ) : List SdSession :=
  (if p.isIntelSdOpen then [(p.intelSdHandle, intelSdUuid)] else []) ++
    if p.isOemSdOpen then [(p.oemSdHandle, toUpperCase p.oemSdId)] else []

/-- The plugin remembers what is open. -/
structure SdInv (inited : ψ → Bool) (sessions : ψ → List SdSession) (p : SdPlugin ψ) : Prop where
  perm : (sessions p.fw).Perm p.remembered
  intel : p.isIntelSdOpen = false → p.intelSdHandle = 0
  nonzero : ∀ e ∈ p.remembered, e.1 ≠ 0
  handles : (p.remembered.map Prod.fst).Nodup
  domain : p.isOemSdOpen = true → toUpperCase p.oemSdId ≠ intelSdUuid
  inited : inited p.fw = false → p.remembered = []

theorem mem_handles_iff {p : SdPlugin ψ} {handle : VmHandle} : handle ∈ p.remembered.map Prod.fst ↔
    (p.isIntelSdOpen = true ∧ handle = p.intelSdHandle) ∨ p.isOemSdOpen = true ∧ handle = p.oemSdHandle := by
  unfold SdPlugin.remembered
  cases p.isIntelSdOpen <;> cases p.isOemSdOpen <;> simp

theorem recognises_iff' {p : SdPlugin ψ} {handle : VmHandle} : p.recognises handle ↔
    handle ≠ 0 ∧ (handle = p.intelSdHandle ∨ p.isOemSdOpen = true ∧ handle = p.oemSdHandle) := by
  unfold SdPlugin.recognises sdOfHandle
  split_ifs with hzero hintel hoem
  · simp [hzero]
  · exact iff_of_true ⟨_, rfl⟩ ⟨hzero, .inl hintel⟩
  · exact iff_of_true ⟨_, rfl⟩ ⟨hzero, .inr hoem⟩
  · simp [hintel, hoem]

variable {inited : ψ → Bool} {sessions : ψ → List SdSession}

theorem sdInv_fresh {fw : ψ} (h : sessions fw = []) : SdInv inited sessions (.fresh fw) where
  perm := by rw [SdPlugin.fresh, h]; rfl
  intel _ := rfl
  nonzero e he := absurd he List.not_mem_nil
  handles := List.nodup_nil
  domain h := by cases h
  inited _ := rfl

variable {p : SdPlugin ψ} (h : SdInv inited sessions p)
include h

theorem SdInv.nodup_domains : ((sessions p.fw).map Prod.snd).Nodup := by
  rw [(h.perm.map Prod.snd).nodup_iff]
  unfold SdPlugin.remembered
  by_cases hboth : p.isIntelSdOpen = true ∧ p.isOemSdOpen = true
  · rw [if_pos hboth.1, if_pos hboth.2]
    simpa using (h.domain hboth.2).symm
  · cases hi : p.isIntelSdOpen <;> cases ho : p.isOemSdOpen
    · simp
    · simp
    · simp
    · exact absurd ⟨hi, ho⟩ hboth

theorem SdInv.recognises_iff (handle : VmHandle) : p.recognises handle ↔ handle ∈ (sessions p.fw).map Prod.fst := by
  rw [(h.perm.map Prod.fst).mem_iff, mem_handles_iff, recognises_iff']
  constructor
  · rintro ⟨hne, hintel | hoem⟩
    · refine .inl ⟨?_, hintel⟩
      rw [← Bool.not_eq_false]
      exact fun hclosed => hne (hintel.trans (h.intel hclosed))
    · exact .inr hoem
  · intro hmem
    have hne : handle ≠ 0 := by
      obtain ⟨e, he, rfl⟩ := List.mem_map.1 (mem_handles_iff.2 hmem)
      exact h.nonzero e he
    exact ⟨hne, hmem.imp And.right id⟩

end Remembered

/-! ### One operation -/

section Step

variable {ψ : Type} {F : SdFirmware ψ} {inited : ψ → Bool} {sessions : ψ → List SdSession}

theorem SdInv.fw {p : SdPlugin ψ} (h : SdInv inited sessions p) {fw : ψ} (hsessions : sessions fw = sessions p.fw)
    (hinited : inited fw = inited p.fw ∨ p.remembered = []) : SdInv inited sessions { p with fw := fw } where
  perm := hsessions ▸ h.perm
  intel := h.intel
  nonzero := h.nonzero
  handles := h.handles
  domain := h.domain
  inited hnot := by
    rcases hinited with hsame | hnone
    · exact h.inited (hsame ▸ hnot)
    · exact hnone

theorem exe_openIntelSD (p : SdPlugin ψ) : ((openIntelSD F).exe p).2 =
    if p.isIntelSdOpen then p
    else if ((F.openSDSession intelSdUuid).exe p.fw).1.1 = bhSuccess then
      { p with intelSdHandle := ((F.openSDSession intelSdUuid).exe p.fw).1.2, isIntelSdOpen := true,
               fw := ((F.openSDSession intelSdUuid).exe p.fw).2 }
    else { p with fw := ((F.openSDSession intelSdUuid).exe p.fw).2 } := by
  unfold openIntelSD
  simp only [exe_bind, exe_get, exe_ite, exe_pure, exe_modify, exe_onSdFw]
  split_ifs <;> rfl

theorem exe_closeIntelSD (p : SdPlugin ψ) : ((closeIntelSD F).exe p).2 =
    if p.isIntelSdOpen then
      { p with intelSdHandle := 0, isIntelSdOpen := false, fw := ((F.closeSDSession p.intelSdHandle).exe p.fw).2 }
    else p := by
  unfold closeIntelSD
  simp only [exe_bind, exe_get, exe_ite, exe_pure, exe_modify, exe_onSdFw]
  cases p.isIntelSdOpen <;> rfl

theorem exe_closeOemSD (p : SdPlugin ψ) : ((closeOemSD F).exe p).2 =
    if p.isOemSdOpen then
      { p with isOemSdOpen := false, oemSdHandle := 0, oemSdId := [], fw := ((F.closeSDSession p.oemSdHandle).exe p.fw).2 }
    else p := by
  unfold closeOemSD
  simp only [exe_bind, exe_get, exe_ite, exe_pure, exe_modify, exe_onSdFw]
  split_ifs <;> rfl

variable (hF : F.Books inited sessions)
include hF

theorem keeps_openIntelSD : Keeps (SdInv inited sessions) (openIntelSD F) := by
  intro p h
  rw [exe_openIntelSD]
  split_ifs with hopen hok
  · exact h
  · obtain ⟨hinited, hinited', hne, hnew, hsessions⟩ := hF.opens _ _ hok
    rw [Bool.not_eq_true] at hopen
    have hperm := h.perm
    have hhandles := h.handles
    have hnonzero := h.nonzero
    rw [(h.perm.map Prod.fst).mem_iff] at hnew
    rw [SdPlugin.remembered, if_neg (by rw [hopen]; decide), List.nil_append] at hperm hhandles hnonzero hnew
    have hupper : toUpperCase intelSdUuid = intelSdUuid := by decide
    refine ⟨?_, fun hclosed => ?_, ?_, ?_, h.domain, fun hnot => ?_⟩
    · show (sessions ((F.openSDSession intelSdUuid).exe p.fw).2).Perm (_ :: _)
      rw [hsessions, hupper]
      exact hperm.cons _
    · cases hclosed
    · exact List.forall_mem_cons.2 ⟨hne, hnonzero⟩
    · exact List.nodup_cons.2 ⟨hnew, hhandles⟩
    · rw [show inited _ = _ from hinited'] at hnot
      cases hnot
  · obtain ⟨hinited, hsessions⟩ := hF.open_fails _ _ hok
    exact h.fw hsessions (.inl hinited)

theorem SdInv.close {p : SdPlugin ψ} (h : SdInv inited sessions p) {handle : VmHandle} (hmem : handle ∈ p.remembered.map Prod.fst) :
    inited ((F.closeSDSession handle).exe p.fw).2 = true ∧
    (sessions ((F.closeSDSession handle).exe p.fw).2).Perm (p.remembered.filter fun e => e.1 ≠ handle) := by
  have hinited : inited p.fw = true := by
    rw [← Bool.not_eq_false]
    intro hnot
    rw [h.inited hnot] at hmem
    exact absurd hmem List.not_mem_nil
  obtain ⟨hinited', hsessions⟩ := hF.closes handle p.fw hinited
  rw [hsessions]
  exact ⟨hinited', h.perm.filter _⟩

theorem keeps_closeIntelSD : Keeps (SdInv inited sessions) (closeIntelSD F) := by
  intro p h
  rw [exe_closeIntelSD]
  split_ifs with hopen
  · obtain ⟨hinited, hperm⟩ := h.close hF (mem_handles_iff.2 (.inl ⟨hopen, rfl⟩))
    have hhandles := h.handles
    have hnonzero := h.nonzero
    have hrest : p.remembered.filter (fun e => e.1 ≠ p.intelSdHandle) =
        if p.isOemSdOpen then [(p.oemSdHandle, toUpperCase p.oemSdId)] else [] := by
      unfold SdPlugin.remembered at hhandles ⊢
      rw [if_pos hopen] at hhandles ⊢
      split_ifs with hoem
      · rw [if_pos hoem] at hhandles
        have hne : p.oemSdHandle ≠ p.intelSdHandle := by simpa using Ne.symm (by simpa using hhandles)
        simp [hne]
      · simp
    rw [hrest] at hperm
    rw [SdPlugin.remembered, if_pos hopen] at hhandles hnonzero
    refine ⟨hperm, fun _ => rfl, fun e he => hnonzero e (List.mem_append_right _ he), ?_, h.domain, fun hnot => ?_⟩
    · rw [List.map_append] at hhandles
      exact (List.nodup_append.1 hhandles).2.1
    · rw [show inited _ = _ from hinited] at hnot
      cases hnot
  · exact h

theorem keeps_closeOemSD : Keeps (SdInv inited sessions) (closeOemSD F) := by
  intro p h
  rw [exe_closeOemSD]
  split_ifs with hopen
  · obtain ⟨hinited, hperm⟩ := h.close hF (mem_handles_iff.2 (.inr ⟨hopen, rfl⟩))
    have hhandles := h.handles
    have hnonzero := h.nonzero
    have hrest : p.remembered.filter (fun e => e.1 ≠ p.oemSdHandle) =
        if p.isIntelSdOpen then [(p.intelSdHandle, intelSdUuid)] else [] := by
      unfold SdPlugin.remembered at hhandles ⊢
      rw [if_pos hopen] at hhandles ⊢
      split_ifs with hintel
      · rw [if_pos hintel] at hhandles
        have hne : p.intelSdHandle ≠ p.oemSdHandle := by simpa using hhandles
        simp [hne]
      · simp
    rw [hrest] at hperm
    rw [SdPlugin.remembered, if_pos hopen] at hhandles hnonzero
    refine ⟨?_, h.intel, fun e he => hnonzero e (List.mem_append_left _ ?_), ?_, fun hc => ?_, fun hnot => ?_⟩
    · rw [SdPlugin.remembered]
      simpa using hperm
    · rw [SdPlugin.remembered] at he
      simpa using he
    · rw [List.map_append] at hhandles
      rw [SdPlugin.remembered]
      simpa using (List.nodup_append.1 hhandles).1
    · cases hc
    · rw [show inited _ = _ from hinited] at hnot
      cases hnot
  · exact h

theorem sdInv_init {p : SdPlugin ψ} (h : SdInv inited sessions p) (reset : Bool) :
    SdInv inited sessions (SdOp.exec F (.init reset) p) := by
  have hinit : SdInv inited sessions { p with fw := ((F.init reset).exe p.fw).2 } := by
    cases hinited : inited p.fw with
    | true =>
      obtain ⟨hinited', hsessions⟩ := hF.init_again reset p.fw hinited
      exact h.fw hsessions (.inl (hinited'.trans hinited.symm))
    | false =>
      -- nothing is remembered, so nothing is open
      have hnone := h.inited hinited
      have hempty : sessions p.fw = [] := List.perm_nil.1 (hnone ▸ h.perm)
      refine h.fw ?_ (.inr hnone)
      rcases hF.init reset p.fw hinited with hsame | ⟨-, hreset⟩
      · exact hsame
      · rw [hreset, hempty]
  exact keeps_openIntelSD hF _ hinit

theorem sdInv_deInit {p : SdPlugin ψ} (h : SdInv inited sessions p) (reset : Bool) :
    SdInv inited sessions (SdOp.exec F (.deInit reset) p) ∧ sessions (SdOp.exec F (.deInit reset) p).fw = [] := by
  have hclosed := keeps_closeOemSD hF _ (keeps_closeIntelSD hF _ h)
  -- both sessions are closed, and so nothing is remembered
  have hnone : ((closeOemSD F).exe ((closeIntelSD F).exe p).2).2.remembered = [] := by
    rw [exe_closeOemSD, exe_closeIntelSD]
    unfold SdPlugin.remembered
    cases hi : p.isIntelSdOpen <;> cases hoem : p.isOemSdOpen <;> simp [hi, hoem]
  have hempty := List.perm_nil.1 (hnone ▸ hclosed.perm)
  have hexec : SdOp.exec F (.deInit reset) p =
      { ((closeOemSD F).exe ((closeIntelSD F).exe p).2).2 with
        fw := (F.teardown.exe ((F.deinit reset).exe ((closeOemSD F).exe ((closeIntelSD F).exe p).2).2.fw).2).2 } := by
    simp only [SdOp.exec, jhiPluginDeInit, exe_bind, exe_onSdFw, exe_ite, exe_pure]
    split_ifs <;> rfl
  have hsessions : sessions (F.teardown.exe ((F.deinit reset).exe ((closeOemSD F).exe ((closeIntelSD F).exe p).2).2.fw).2).2 = [] := by
    rw [hF.teardown]
    rcases hF.deinit reset ((closeOemSD F).exe ((closeIntelSD F).exe p).2).2.fw with hsame | ⟨-, hreset⟩
    · rw [hsame, hempty]
    · exact hreset
  rw [hexec]
  exact ⟨hclosed.fw (hsessions.trans hempty.symm) (.inr hnone), hsessions⟩

theorem sdInv_close {p : SdPlugin ψ} (h : SdInv inited sessions p) (handle : VmHandle) :
    SdInv inited sessions (SdOp.exec F (.closeSD handle) p) := by
  simp only [SdOp.exec, jhiPluginCloseSDSession, exe_bind, exe_get, exe_ite, exe_pure, exe_onSdFw]
  split_ifs with hintel hoem
  · exact h
  · exact h
  · cases hinited : inited p.fw with
    | true =>
      obtain ⟨hinited', hsessions⟩ := hF.closes handle p.fw hinited
      refine h.fw ?_ (.inl (hinited'.trans hinited.symm))
      -- the handle names no open session
      rw [hsessions, List.filter_eq_self]
      intro e he
      have hmem := mem_handles_iff.1 ((h.perm.map Prod.fst).mem_iff.1 (List.mem_map_of_mem he))
      rw [decide_eq_true_eq]
      rintro rfl
      rcases hmem with hmem | hmem
      · exact hintel hmem.2
      · exact hoem hmem
    | false =>
      obtain ⟨hinited', hsessions⟩ := hF.close_fails handle p.fw hinited
      exact h.fw hsessions (.inl (hinited'.trans hinited.symm))

/-- An open that calls the library, and the call succeeds. -/
def SdPlugin.opened (F : SdFirmware ψ) (p : SdPlugin ψ) (sdId : Bytes) : SdPlugin ψ :=
  { p with isOemSdOpen := true, oemSdHandle := ((F.openSDSession sdId).exe p.fw).1.2, oemSdId := sdId,
           fw := ((F.openSDSession sdId).exe p.fw).2 }

/-- An open that is neither refused nor answered from memory. -/
def SdPlugin.asks (p : SdPlugin ψ) (sdId : Bytes) : Prop :=
  validateUuidString sdId = true ∧ toUpperCase sdId ≠ intelSdUuid ∧ ¬(p.isOemSdOpen = true ∧ sdId = p.oemSdId)

omit hF in
theorem exec_openSD_of_asks {p : SdPlugin ψ} {sdId : Bytes} (h : p.asks sdId) : SdOp.exec F (.openSD sdId) p =
    if ((F.openSDSession sdId).exe p.fw).1.1 = bhSuccess then p.opened F sdId
    else { p with fw := ((F.openSDSession sdId).exe p.fw).2 } := by
  obtain ⟨hvalid, hintel, hother⟩ := h
  simp only [SdOp.exec, jhiPluginOpenSDSession, exe_bind, exe_get, exe_ite, exe_pure, exe_onSdFw, exe_modify]
  rw [if_neg (by simp [hvalid]), if_neg hintel, if_neg hother]
  split_ifs <;> rfl

omit hF in
theorem exec_openSD_of_not_asks {p : SdPlugin ψ} {sdId : Bytes} (h : ¬p.asks sdId) : SdOp.exec F (.openSD sdId) p = p := by
  simp only [SdOp.exec, jhiPluginOpenSDSession, exe_bind, exe_get, exe_ite, exe_pure, exe_onSdFw, exe_modify]
  split_ifs with hvalid hintel hsame
  · rfl
  · rfl
  · rfl
  · exact absurd ⟨by simpa using hvalid, hintel, hsame⟩ h
  · exact absurd ⟨by simpa using hvalid, hintel, hsame⟩ h

theorem sdInv_open {p : SdPlugin ψ} (h : SdInv inited sessions p) {sdId : Bytes}
    (hcalm : ¬SdOp.Displaces F (.openSD sdId) p) : SdInv inited sessions (SdOp.exec F (.openSD sdId) p) := by
  by_cases hasks : p.asks sdId
  · rw [exec_openSD_of_asks hasks]
    obtain ⟨hvalid, hintel, hother⟩ := hasks
    split_ifs with hok
    · -- the place is free
      have hfree : p.isOemSdOpen = false := by
        rw [← Bool.not_eq_true]
        exact fun hopen => hcalm ⟨hvalid, hintel, hopen, fun hid => hother ⟨hopen, hid⟩, hok⟩
      have hremembered : p.remembered = if p.isIntelSdOpen then [(p.intelSdHandle, intelSdUuid)] else [] := by
        rw [SdPlugin.remembered, hfree]
        exact List.append_nil _
      have hopened : (p.opened F sdId).remembered =
          p.remembered ++ [(((F.openSDSession sdId).exe p.fw).1.2, toUpperCase sdId)] := by
        rw [hremembered]
        rfl
      obtain ⟨hinited, hinited', hne, hnew, hsessions⟩ := hF.opens _ _ hok
      rw [(h.perm.map Prod.fst).mem_iff] at hnew
      refine ⟨?_, h.intel, ?_, ?_, fun _ => hintel, fun hnot => ?_⟩
      · rw [hopened]
        show (sessions ((F.openSDSession sdId).exe p.fw).2).Perm _
        rw [hsessions]
        exact (h.perm.cons _).trans (List.perm_append_singleton _ _).symm
      · rw [hopened, List.forall_mem_append, List.forall_mem_singleton]
        exact ⟨h.nonzero, hne⟩
      · rw [hopened, List.map_append, List.nodup_append]
        refine ⟨h.handles, by simp, fun a ha b hb hab => ?_⟩
        rw [List.map_singleton, List.mem_singleton] at hb
        rw [hab, hb] at ha
        exact hnew ha
      · exact absurd (hinited'.symm.trans hnot) (by decide)
    · obtain ⟨hinited, hsessions⟩ := hF.open_fails _ _ hok
      exact h.fw hsessions (.inl hinited)
  · rw [exec_openSD_of_not_asks hasks]
    exact h

theorem sdInv_exec (op : SdOp) (p : SdPlugin ψ) (h : SdInv inited sessions p) (hcalm : ¬op.Displaces F p) :
    SdInv inited sessions (op.exec F p) := by
  cases op with
  | init reset => exact sdInv_init hF h reset
  | deInit reset => exact (sdInv_deInit hF h reset).1
  | openSD sdId => exact sdInv_open hF h hcalm
  | closeSD handle => exact sdInv_close hF h handle

/-- After the second session has taken the place, the first is still open and its handle is not recognised. -/
theorem not_recognised_of_displaces {p : SdPlugin ψ} (h : SdInv inited sessions p) {op : SdOp} (hop : op.Displaces F p)
    (ops : List SdOp) : ¬SdBookkeeping sessions ops (op.exec F p) := by
  cases op with
  | init | deInit | closeSD => exact hop.elim
  | openSD sdId =>
    obtain ⟨hvalid, hintel, hopen, hother, hok⟩ := hop
    obtain ⟨-, -, -, hnew, hsessions⟩ := hF.opens _ _ hok
    have hold : p.oemSdHandle ∈ (sessions p.fw).map Prod.fst :=
      (h.perm.map Prod.fst).mem_iff.2 (mem_handles_iff.2 (.inr ⟨hopen, rfl⟩))
    have hstill : p.oemSdHandle ∈ (sessions (p.opened F sdId).fw).map Prod.fst := by
      show _ ∈ (sessions ((F.openSDSession sdId).exe p.fw).2).map Prod.fst
      rw [hsessions]
      exact List.mem_cons_of_mem _ hold
    rw [exec_openSD_of_asks ⟨hvalid, hintel, fun hc => hother hc.2⟩, if_pos hok]
    intro hbooks
    have hrec := recognises_iff'.1 ((hbooks.recognised p.oemSdHandle).2 hstill)
    rcases hrec.2 with heq | ⟨-, heq⟩
    · -- the Intel session has another handle
      replace heq : p.oemSdHandle = p.intelSdHandle := heq
      cases hi : p.isIntelSdOpen with
      | true =>
        have hhandles := h.handles
        rw [SdPlugin.remembered, if_pos hi, if_pos hopen, heq] at hhandles
        simp at hhandles
      | false => exact hrec.1 (heq.trans (h.intel hi))
    · replace heq : p.oemSdHandle = ((F.openSDSession sdId).exe p.fw).1.2 := heq
      rw [heq] at hold
      exact hnew hold

end Step

/-! ### Whole runs -/

theorem bookkeeping_of_never {ψ : Type} {F : SdFirmware ψ} {inited : ψ → Bool} {sessions : ψ → List SdSession}
    (hF : F.Books inited sessions) {p : SdPlugin ψ} (hp : SdInv inited sessions p) {ops : List SdOp}
    (h : Never (SdOp.exec F) (SdOp.Displaces F) ops p) :
    SdBookkeeping sessions ops (afterCalls (SdOp.exec F) ops p) := by
  have hstep := @sdInv_exec ψ F inited sessions hF
  have hinv := invariant_of_never hstep hp h
  refine ⟨fun reset hlast => ?_, hinv.nodup_domains, hinv.recognises_iff⟩
  obtain ⟨before, rfl⟩ := List.getLast?_eq_some_iff.1 hlast
  rw [afterCalls_concat]
  have hbefore := invariant_of_never hstep hp (h.before (List.prefix_append _ _))
  exact (sdInv_deInit hF hbefore reset).2

/-- The sessions of the firmware are those that the plugin remembers, in every state of a run, exactly when no open puts a
second session in the place of one that is open. -/
theorem sd_sessions_iff {ψ : Type} {F : SdFirmware ψ} {inited : ψ → Bool} {sessions : ψ → List SdSession}
    (hF : F.Books inited sessions) {fw : ψ} (hfw : sessions fw = []) (ops : List SdOp) :
    Along (SdOp.exec F) (SdBookkeeping sessions) ops (.fresh fw) ↔
      Never (SdOp.exec F) (SdOp.Displaces F) ops (.fresh fw) :=
  along_iff_never (sdInv_exec hF) (sdInv_fresh hfw)
    (fun _ h => bookkeeping_of_never hF (sdInv_fresh hfw) h)
    (fun _ _ _ hp hop => not_recognised_of_displaces hF hp hop _) ops

/-! ### A library -/

/-- Whether the library is initialised, and its sessions. -/
abbrev SdBooks := Bool × List SdSession

/-- A handle that no open session has. -/
def freeHandle (s : SdBooks) : Option VmHandle := [1, 2, 3].find? fun handle => handle ∉ s.2.map Prod.fst

/-- A library with three handles. -/
def threeHandles : SdFirmware SdBooks where
  init _ s := (bhSuccess, (true, s.2))
  deinit _ s := (bhSuccess, (false, s.2))
  teardown s := (true, s)
  openSDSession id s :=
    if s.1 = true ∧ (freeHandle s).isSome = true then
      ((bhSuccess, (freeHandle s).getD 0), (true, ((freeHandle s).getD 0, toUpperCase id) :: s.2))
    else ((bpeInternalError, 0), s)
  closeSDSession handle s :=
    if s.1 = true then (bhSuccess, (true, s.2.filter fun e => e.1 ≠ handle)) else (bpeInternalError, s)
  listInstalledTAs _ _ s := (⟨bhSuccess, 0, none, by simp⟩, s)
  listInstalledSDs _ s := (⟨bhSuccess, 0, none, by simp⟩, s)

theorem threeHandles_books : threeHandles.Books Prod.fst Prod.snd where
  init_again _ _ _ := ⟨rfl, rfl⟩
  init _ _ _ := .inl rfl
  deinit _ _ := .inl rfl
  teardown _ := rfl
  opens id s hok := by
    simp only [threeHandles, StateM.exe] at hok ⊢
    split_ifs at hok ⊢ with hfree
    · obtain ⟨handle, hhandle⟩ := Option.isSome_iff_exists.1 hfree.2
      have hmem := List.mem_of_find?_eq_some hhandle
      have hnew := List.find?_some hhandle
      rw [hhandle, Option.getD_some]
      refine ⟨hfree.1, rfl, ?_, by simpa using hnew, rfl⟩
      rintro rfl
      exact absurd hmem (by decide)
    · exact absurd (show bpeInternalError = bhSuccess from hok) (by decide)
  open_fails id s hfail := by
    simp only [threeHandles, StateM.exe] at hfail ⊢
    split_ifs at hfail ⊢ with hfree
    · exact absurd rfl hfail
    · exact ⟨rfl, rfl⟩
  closes handle s hinited := by
    simp only [threeHandles, StateM.exe, if_pos hinited, and_self]
  close_fails handle s hinited := by
    simp only [threeHandles, StateM.exe, hinited, Bool.false_eq_true, if_false, and_self]

/-- Two domains of an OEM. -/
def domainA : Bytes := List.replicate 32 65
def domainB : Bytes := List.replicate 32 66

/-- One domain is opened twice. -/
def reopening : List SdOp := [.init false, .openSD domainA, .openSD domainA, .closeSD 2, .deInit false]

theorem never_reopening : Never (SdOp.exec threeHandles) (SdOp.Displaces threeHandles) reopening (.fresh (false, [])) := by
  refine never_cons id (never_cons (fun h => ?_) (never_cons (fun h => ?_) (never_cons id (never_cons id (never_nil _)))))
  · exact absurd h.2.2.1 (by decide +kernel)
  · exact h.2.2.2.1 (by decide +kernel)

theorem sd_sessions_iff_reopening :
    Never (SdOp.exec threeHandles) (SdOp.Displaces threeHandles) reopening (.fresh (false, [])) ∧
    Along (SdOp.exec threeHandles) (SdBookkeeping Prod.snd) reopening (.fresh (false, [])) :=
  ⟨never_reopening, (sd_sessions_iff threeHandles_books rfl reopening).2 never_reopening⟩

/-- Two domains are opened one after the other, and the plugin is shut down. -/
def opening : List SdOp := [.init false, .openSD domainA, .openSD domainB, .deInit false]

/-- The session of the first domain is open for ever. -/
theorem sd_sessions_left_open :
    (afterCalls (SdOp.exec threeHandles) opening (.fresh (false, []))).fw.2 = [(2, domainA)] ∧
    ¬Along (SdOp.exec threeHandles) (SdBookkeeping Prod.snd) opening (.fresh (false, [])) := by
  have hleft : (afterCalls (SdOp.exec threeHandles) opening (.fresh (false, []))).fw.2 = [(2, domainA)] := by decide +kernel
  refine ⟨hleft, fun h => ?_⟩
  have hclosed := (h opening List.prefix_rfl).closed false rfl
  rw [hleft] at hclosed
  cases hclosed

end DalHost
