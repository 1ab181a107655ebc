import DalHost.Repository.Store
import DalHost.Service.AppletStates
import DalHost.Plugin.Package

/-!
# The repository between two commands

Whatever the commands, their order and their outcome: as long as files can be deleted and renamed,
no pending file and no pending record outlives a command, and an applet never has two files. The
argument follows an install through its three phases. The preparation writes the pending file and
nothing else, the downloads write nothing, and the end either deletes the pending file or makes it
the file of the applet.
-/

namespace DalHost

variable {φ : Type} {W : World φ} {folder : FileString}

/-- No install is under way as far as the records go. -/
def NoPending (s : Service φ) : Prop := ∀ appId, getAppletState s.appletTable appId ≠ .pendingInstall

/-- The repository between two commands. -/
structure RepoInv (F : FileSystem W folder) (s : Service φ) : Prop where
  folder_eq : s.appletsFolder = folder
  noPendingFile : ∀ (a : AppId) isAcp, F.files s.env (getPendingFileName folder a.text isAcp) = none
  oneFile : ∀ a : AppId, F.files s.env (getFileName folder a.text false) = none ∨
    F.files s.env (getFileName folder a.text true) = none
  noPendingRecord : NoPending s

/-- The directory is the same and nothing is pending. -/
structure Undisturbed (F : FileSystem W folder) (s t : Service φ) : Prop extends F.Same s t where
  noPendingRecord : NoPending t

section Invariant

variable {F : FileSystem W folder} {s t : Service φ}

theorem Undisturbed.trans {u : Service φ} (hst : Undisturbed F s t) (htu : Undisturbed F t u) : Undisturbed F s u :=
  ⟨hst.toSame.trans htu.toSame, htu.noPendingRecord⟩

theorem FileSystem.Prepared.same {p : FileString} {contents : Option Bytes} {starts succeeds : Prop}
    (h : F.Prepared p contents s starts succeeds t) (hfails : ¬succeeds) (hp : F.Removes p) (hnone : F.files s.env p = none) :
    F.Same s t :=
  h.off.same ((h.dropped hfails hp).trans hnone.symm)

theorem RepoInv.renamed {appId : AppId} {isAcp : Bool} {contents : Option Bytes} (h : RepoInv F s)
    (hst : F.Renamed appId isAcp contents s t) (hrecord : NoPending t) : RepoInv F t := by
  refine ⟨hst.folder_eq.trans h.folder_eq, fun a x => ?_, fun a => ?_, hrecord⟩
  · by_cases heq : a = appId ∧ x = isAcp
    · obtain ⟨rfl, rfl⟩ := heq
      exact hst.pending
    · rw [hst.frame _ (inFolder_getPendingFileName _ _ _) (fun _ => getFileName_ne_getPendingFileName.symm)]
      · exact h.noPendingFile a x
      · rwa [Ne, getPendingFileName_inj]
  · by_cases ha : a = appId
    · subst ha
      cases isAcp with
      | false => exact .inr hst.other
      | true => exact .inl hst.other
    · have hframe : ∀ x, F.files t.env (getFileName folder a.text x) = F.files s.env (getFileName folder a.text x) := by
        intro x
        refine hst.frame _ (inFolder_getFileName _ _ _) (fun y => ?_) getFileName_ne_getPendingFileName
        rw [Ne, getFileName_inj]
        exact fun heq => ha heq.1
      rw [hframe, hframe]
      exact h.oneFile a

theorem RepoInv.removed (h : RepoInv F s) {e : φ}
    (hfiles : ∀ g, InFolder folder g → F.files e g = none ∨ F.files e g = F.files s.env g) :
    RepoInv F { s with env := e } where
  folder_eq := h.folder_eq
  noPendingFile a isAcp := by
    rcases hfiles _ (inFolder_getPendingFileName folder a.text isAcp) with hnone | hsame
    · exact hnone
    · exact hsame.trans (h.noPendingFile a isAcp)
  oneFile a := by
    rcases h.oneFile a with hdalp | hacp
    · rcases hfiles _ (inFolder_getFileName folder a.text false) with hnone | hsame
      · exact .inl hnone
      · exact .inl (hsame.trans hdalp)
    · rcases hfiles _ (inFolder_getFileName folder a.text true) with hnone | hsame
      · exact .inr hnone
      · exact .inr (hsame.trans hacp)
  noPendingRecord := h.noPendingRecord

/-- A plugin that parses a command package does so as the package parser does. -/
def Parses (W : World φ) (sdIdCell : Bytes → Guid) : Prop :=
  ∀ blob e info, ((W.pluginParsePackage blob).exe e).1 = .ok info → parsePackage sdIdCell blob = .ok info

end Invariant

end DalHost
