import DalHost.Package.Reader

/-!
# Positions in node sets

The loops of the reader run over positions and look each record up again. Here they are brought to
the list of records itself: the selection is a fold over it, the versions are those of its records in
order, each with its position, and what is fetched through a position is the package of the very
record whose version was read there.
-/

namespace DalHost

/-! ### The loops over all positions -/

theorem nodeAt_succ_of_drop {nodes as : List DalpApplet} {a : DalpApplet} {k : Nat} (h : nodes.drop k = a :: as) :
    nodeAt nodes (k + 1) = some a ∧ nodes.drop (k + 1) = as := by
  have hget : nodes[k]? = some a := by
    rw [← List.head?_drop, h]
    rfl
  refine ⟨by rw [nodeAt, if_neg (by omega), Nat.add_sub_cancel, hget], ?_⟩
  rw [← List.drop_drop, h]
  rfl

theorem selectMajor_eq_foldlM (nodes : List DalpApplet) (fwVersion : Bytes) (cur : Int) :
    selectMajor nodes fwVersion (List.range' 1 nodes.length) cur =
      nodes.foldlM (fun cur a => compareFWVersions fwVersion cur a.fwVersion) cur := by
  have hrest : ∀ (as : List DalpApplet) (k : Nat) (cur : Int), nodes.drop k = as →
      selectMajor nodes fwVersion (List.range' (k + 1) as.length) cur =
        as.foldlM (fun cur a => compareFWVersions fwVersion cur a.fwVersion) cur := by
    intro as
    induction as with
    | nil => intro k cur _; rfl
    | cons a as ih =>
      intro k cur hdrop
      obtain ⟨hnode, hnext⟩ := nodeAt_succ_of_drop hdrop
      rw [List.length_cons, List.range'_succ, List.foldlM_cons, selectMajor, hnode]
      simp only [Option.bind_eq_bind, Option.bind_some]
      congr 1
      funext cur'
      exact ih (k + 1) cur' hnext
  exact hrest nodes 0 cur rfl

/-- The version structure of a record at a position. -/
def detailsAt (p : DalpApplet × Nat) : Option AppletDetails :=
  getAppletAndFwVersionAsStruct p.1.appletVersion p.1.fwVersion p.2

theorem collectDetails_eq_mapM (nodes : List DalpApplet) :
    collectDetails nodes (List.range' 1 nodes.length) = (nodes.zipIdx 1).mapM detailsAt := by
  have hrest : ∀ (as : List DalpApplet) (k : Nat), nodes.drop k = as →
      collectDetails nodes (List.range' (k + 1) as.length) = (as.zipIdx (k + 1)).mapM detailsAt := by
    intro as
    induction as with
    | nil => intro k _; rfl
    | cons a as ih =>
      intro k hdrop
      obtain ⟨hnode, hnext⟩ := nodeAt_succ_of_drop hdrop
      rw [List.length_cons, List.range'_succ, List.zipIdx_cons, List.mapM_cons, collectDetails, hnode, ih (k + 1) hnext]
      rfl
  exact hrest nodes 0 rfl

theorem indexInDalp_of_detailsAt {p : DalpApplet × Nat} {d : AppletDetails} (h : detailsAt p = some d) :
    d.indexInDalp = p.2 := by
  simp only [detailsAt, getAppletAndFwVersionAsStruct, Option.bind_eq_bind, Option.bind_eq_some_iff, Option.pure_def] at h
  obtain ⟨_, _, _, _, _, _, _, _, _, _, _, _, _, _, _, _, h⟩ := h
  cases h
  rfl

theorem nodeAt_of_mem_zipIdx {nodes : List DalpApplet} {p : DalpApplet × Nat} (h : p ∈ nodes.zipIdx 1) :
    nodeAt nodes p.2 = some p.1 := by
  obtain ⟨hle, hget⟩ := List.mem_zipIdx_iff_le_and_getElem?_sub.1 h
  rw [nodeAt, if_neg (by omega)]
  exact hget

theorem mapM_eq_some_iff {α β : Type} {f : α → Option β} {l : List α} {l' : List β} :
    l.mapM f = some l' ↔ l.map f = l'.map some := by
  induction l generalizing l' with
  | nil => cases l' <;> simp
  | cons a l ih =>
    rw [List.mapM_cons]
    simp only [Option.bind_eq_bind, Option.bind_eq_some_iff, Option.pure_def, Option.some.injEq, List.map_cons]
    constructor
    · rintro ⟨b, hb, bs, hbs, rfl⟩
      rw [hb, ih.1 hbs]
      rfl
    · intro h
      cases l' with
      | nil => cases h
      | cons b bs =>
        obtain ⟨hb, hbs⟩ := List.cons.inj h
        exact ⟨b, hb, bs, ih.2 hbs, rfl⟩

theorem exists_node_of_mem_details {nodes : List DalpApplet} {l : List AppletDetails}
    (h : collectDetails nodes (List.range' 1 nodes.length) = some l) {d : AppletDetails} (hd : d ∈ l) :
    ∃ a ∈ nodes, nodeAt nodes d.indexInDalp = some a ∧ detailsAt (a, d.indexInDalp) = some d := by
  rw [collectDetails_eq_mapM] at h
  have hsome : some d ∈ (nodes.zipIdx 1).map detailsAt := by
    rw [mapM_eq_some_iff.1 h]
    exact List.mem_map_of_mem hd
  obtain ⟨p, hp, hpd⟩ := List.mem_map.1 hsome
  have hidx := indexInDalp_of_detailsAt hpd
  have hnode := nodeAt_of_mem_zipIdx hp
  have hmem : p.1 ∈ nodes := by
    have hfst := List.mem_map_of_mem (f := Prod.fst) hp
    rwa [List.zipIdx_map_fst] at hfst
  rw [hidx]
  exact ⟨p.1, hmem, hnode, hpd⟩

/-! ### Fetching the packages -/

/-- The blob behind a position. -/
def blobAt (nodes : List DalpApplet) (d : AppletDetails) : Option Bytes :=
  (nodeAt nodes d.indexInDalp).bind fun a => getNodeTextAsBase64 a.appletBlob

theorem copyBlobs_cons (nodes : List DalpApplet) (status : Bool) (d : AppletDetails) (l : List AppletDetails) :
    copyBlobs nodes status (d :: l) =
      match blobAt nodes d with
      | none => (false, [])
      | some blob => ((copyBlobs nodes true l).1, blob :: (copyBlobs nodes true l).2) := rfl

theorem copyBlobs_eq_true {nodes : List DalpApplet} {status : Bool} {l : List AppletDetails} :
    (copyBlobs nodes status l).1 = true ↔ (l = [] → status = true) ∧ ∀ d ∈ l, (blobAt nodes d).isSome = true := by
  induction l generalizing status with
  | nil => simp [copyBlobs]
  | cons d l ih =>
    rw [copyBlobs_cons]
    cases hblob : blobAt nodes d with
    | none => simp [hblob]
    | some blob =>
      simp only [ih, List.mem_cons, forall_eq_or_imp, hblob, Option.isSome_some, true_and, reduceCtorEq, false_implies]
      constructor
      · exact fun h => h.2
      · exact fun h => ⟨fun _ => trivial, h⟩

theorem copyBlobs_blobs {nodes : List DalpApplet} {status : Bool} {l : List AppletDetails}
    (h : (copyBlobs nodes status l).1 = true) : (copyBlobs nodes status l).2.map some = l.map (blobAt nodes) := by
  induction l generalizing status with
  | nil => rfl
  | cons d l ih =>
    rw [copyBlobs_cons] at h ⊢
    cases hblob : blobAt nodes d with
    | none => simp [hblob] at h
    | some blob =>
      simp only [hblob] at h ⊢
      rw [List.map_cons, List.map_cons, ih h, hblob]

/-! ### Candidates by the start of their version -/

theorem hasMajor_iff (n : Nat) (a : DalpApplet) :
    hasMajor n a = true ↔ ∃ rest, a.fwVersion.dropWhile isXmlBlank = decimal n ++ 46 :: rest := by
  have hdigits := (isDecimal_decimal n).1
  have hblank : ∀ c ∈ decimal n ++ [46], isXmlBlank c = false := by
    intro c hc
    rcases List.mem_append.1 hc with hc | hc
    · have hspace := isSpace_eq_false_of_isDecDigit (hdigits c hc)
      simp only [isSpace, isXmlBlank] at hspace ⊢
      revert hspace
      have hall : ∀ m : Fin 256, (UInt8.ofFin m = 32 || (9 ≤ UInt8.ofFin m && UInt8.ofFin m ≤ 13)) = false →
          (UInt8.ofFin m = 32 || UInt8.ofFin m = 9 || UInt8.ofFin m = 10 || UInt8.ofFin m = 13) = false := by decide +kernel
      exact hall c.toFin
    · obtain rfl := List.mem_singleton.1 hc
      rfl
  have htext : intText (n : Int) = decimal n := rfl
  rw [hasMajor, htext, normalizeSpace, isPrefixOf_collapseBlanks hblank, List.isPrefixOf_iff_prefix]
  constructor
  · rintro ⟨rest, hrest⟩
    exact ⟨rest, by rw [← hrest]; simp⟩
  · rintro ⟨rest, hrest⟩
    exact ⟨rest, by rw [hrest]; simp⟩

end DalHost
