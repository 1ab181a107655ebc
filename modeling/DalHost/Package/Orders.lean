import DalHost.Lib.StableSort
import DalHost.Package.Reader
import Mathlib.Data.List.Lex

/-!
# The order of the candidates

Before firmware 11 the candidates are sorted by firmware version and then by applet version; from then on (sign-once)
by applet version alone. `list::sort` asks for a strict weak order. `compareAppletVersions` is one.
`compareAppletVersionsSignOnce` compares the minor version with `>=`, so it holds of every record and itself, and both ways of two
records of one version.
-/

namespace DalHost

/-- `compareAppletVersionsSignOnce`. -/
def compareAppletVersionsSignOnce (versionA versionB : AppletDetails) : Bool :=
  versionA.appMajor > versionB.appMajor ||
    (versionA.appMajor = versionB.appMajor && versionA.appMinor ≥ versionB.appMinor)

/-- The two calls of `versionsList.sort`. -/
inductive VersionOrder
  /-- In `getNonSignOnceAppletBlobs`. -/
  | nonSignOnce
  /-- In `getSignOnceAppletBlobs`. -/
  | signOnce
  deriving DecidableEq

namespace VersionOrder

def compare : VersionOrder → AppletDetails → AppletDetails → Bool
  | nonSignOnce => compareAppletVersions
  | signOnce => compareAppletVersionsSignOnce

def sort (E : ReaderEnv) : VersionOrder → List AppletDetails → List AppletDetails
  | nonSignOnce => sortByVersion
  | signOnce => E.sortSignOnce

/-- The numbers that are compared, the first ones first. -/
def version : VersionOrder → AppletDetails → List Int
  | nonSignOnce => fun d => [d.fwMajor, d.fwMinor, d.fwHotfix, d.appMajor, d.appMinor]
  | signOnce => fun d => [d.appMajor, d.appMinor]

end VersionOrder

/-- The comparison orders the candidates, and their list is sorted by version; records of equal version keep the order
of the package. -/
structure CandidatesOrdered (E : ReaderEnv) (order : VersionOrder) (l : List AppletDetails) : Prop where
  laws : StrictWeakOn (· ∈ l) order.compare
  perm : (order.sort E l).Perm l
  sorted : (order.sort E l).Pairwise fun a b => order.version b ≤ order.version a
  stable : ∀ v, (order.sort E l).filter (fun d => order.version d = v) = l.filter fun d => order.version d = v

/-! ### Before sign-once -/

theorem compareAppletVersions_iff (a b : AppletDetails) :
    compareAppletVersions a b = true ↔ VersionOrder.nonSignOnce.version b < VersionOrder.nonSignOnce.version a := by
  have hnil : ¬([] : List Int) < [] := List.not_lt_nil _
  simp only [compareAppletVersions, VersionOrder.version, List.cons_lt_cons_iff, Bool.or_eq_true, Bool.and_eq_true,
    decide_eq_true_eq, gt_iff_lt, hnil, and_false, or_false]
  omega

theorem strictWeak_compareAppletVersions : StrictWeakOn (fun _ => True) compareAppletVersions :=
  strictWeakOn_of_key VersionOrder.nonSignOnce.version compareAppletVersions_iff

theorem candidatesOrdered_nonSignOnce (E : ReaderEnv) (l : List AppletDetails) : CandidatesOrdered E .nonSignOnce l := by
  have hle : ∀ a b, compareAppletVersions b a = false ↔
      VersionOrder.nonSignOnce.version b ≤ VersionOrder.nonSignOnce.version a := by
    intro a b
    rw [← Bool.not_eq_true, compareAppletVersions_iff, not_lt]
  refine ⟨strictWeak_compareAppletVersions.mono fun _ _ => trivial, stableSort_perm l, ?_, fun v => ?_⟩
  · exact (stableSort_pairwise strictWeak_compareAppletVersions l).imp fun {a b} h => (hle a b).1 h
  · apply stableSort_filter
    intro a b ha hb
    have heq : VersionOrder.nonSignOnce.version b = VersionOrder.nonSignOnce.version a :=
      (of_decide_eq_true hb).trans (of_decide_eq_true ha).symm
    exact (hle a b).2 (le_of_eq heq)

/-! ### Sign-once -/

theorem compareSignOnce_both_iff (a b : AppletDetails) :
    compareAppletVersionsSignOnce a b = true ∧ compareAppletVersionsSignOnce b a = true ↔
      VersionOrder.signOnce.version a = VersionOrder.signOnce.version b := by
  simp only [compareAppletVersionsSignOnce, VersionOrder.version, Bool.or_eq_true, Bool.and_eq_true, decide_eq_true_eq,
    gt_iff_lt, ge_iff_le, List.cons.injEq, and_true]
  omega

/-- The order of the candidates is sound exactly where the non-sign-once procedure sorts them, or there are none. -/
theorem candidatesOrdered_iff (E : ReaderEnv) (order : VersionOrder) (l : List AppletDetails) :
    CandidatesOrdered E order l ↔ order = .nonSignOnce ∨ l = [] := by
  cases order with
  | nonSignOnce => exact iff_of_true (candidatesOrdered_nonSignOnce E l) (Or.inl rfl)
  | signOnce =>
    constructor
    · intro h
      refine Or.inr ?_
      cases l with
      | nil => rfl
      | cons a l =>
        -- the first record comes before itself
        have hself := ((compareSignOnce_both_iff a a).2 rfl).1
        have hirrefl : compareAppletVersionsSignOnce a a = false := h.laws.irrefl a List.mem_cons_self
        rw [hself] at hirrefl
        cases hirrefl
    · intro h
      have hnil : l = [] := h.resolve_left nofun
      subst hnil
      have hsort : VersionOrder.signOnce.sort E [] = [] := (E.sortSignOnce_perm []).eq_nil
      refine ⟨⟨nofun, nofun, nofun, nofun⟩, ?_, ?_, fun v => ?_⟩
      · rw [hsort]
      · rw [hsort]
        exact List.Pairwise.nil
      · rw [hsort]

/-- Two records of version 1.0. -/
def twoOfOneVersion : List AppletDetails := [⟨1, 0, 11, 0, 0, 1⟩, ⟨1, 0, 11, 0, 0, 2⟩]

/-- Each of them comes before the other one, whatever the sort makes of it. -/
theorem signOnce_not_ordered :
    ¬∀ (E : ReaderEnv) (order : VersionOrder) (l : List AppletDetails), CandidatesOrdered E order l := by
  intro h
  have hlaws := (h ⟨⟨11, 0, 0⟩, 1, id, List.Perm.refl⟩ .signOnce twoOfOneVersion).laws
  have hfalse := hlaws.asymm ⟨1, 0, 11, 0, 0, 1⟩ ⟨1, 0, 11, 0, 0, 2⟩ (by decide) (by decide) (by decide)
  exact absurd hfalse (by decide)

end DalHost
