import SecretAccess.Proofs.Access.Collapse

namespace SecretAccess

variable {α σ : Type} {name : α → Given} {cmp : α → α → Except Failure Ordering} {rows sorted : List α}

/-- A comparison of rows that puts them in one line, as far as their names are texts. -/
structure TotalOrder (name : α → Given) (cmp : α → α → Except Failure Ordering) : Prop where
  units : ∀ {a b s t}, name a = some (.text s) → name b = some (.text t) →
    (cmp a b = .ok .lt ↔ Text.units s < Text.units t)
  total : ∀ {a b}, (name a).IsText → (name b).IsText → ∃ o : Ordering, cmp a b = .ok o ∧ cmp b a = .ok o.swap
  same : ∀ {a b}, (name a).IsText → (name b).IsText → (cmp a b = .ok .eq ↔ name a = name b)
  trans : ∀ {a b c} {o o' : Ordering}, (name a).IsText → (name b).IsText → (name c).IsText →
    cmp a b = .ok o → cmp b c = .ok o' → o.isLE = true → o'.isLE = true → cmp a c = .ok (o.then o')

/-- An order of some rows that goes up all the way, and the only one that never goes down. -/
structure OnlyOrder (cmp : α → α → Except Failure Ordering) (rows sorted : List α) : Prop where
  perm : sorted.Perm rows
  ascend : sorted.Pairwise fun a b => cmp a b = .ok .lt
  only : ∀ {others : List α}, others.Perm rows → (others.Pairwise fun a b => cmp a b ≠ .ok .gt) → others = sorted

instance (answer : Except Failure Ordering) (o : Ordering) : Decidable (answer = .ok o) :=
  match answer with
  | .ok o' => decidable_of_iff (o' = o) (by rw [Except.ok.injEq])
  | .error _ => isFalse nofun

/-- A way to sort the rows of a source that leaves no choice where their names differ, whatever their order was. -/
structure SortsOneWay (name : α → Given) (cmp : α → α → Except Failure Ordering) (rows : σ → List α)
    (sort : σ → Except Failure (List α)) : Prop where
  order : TotalOrder name cmp
  once : ∀ source, (∀ row ∈ rows source, (name row).IsText) → ((rows source).map name).Nodup →
    ∃ sorted, OnlyOrder cmp (rows source) sorted ∧ ∀ other, (rows other).Perm (rows source) → sort other = .ok sorted

namespace TotalOrder

theorem of_texts (h : ∀ {a b s t}, name a = some (.text s) → name b = some (.text t) →
    cmp a b = .ok (Text.compareUnits s t)) : TotalOrder name cmp where
  units hs ht := by
    rw [h hs ht, Except.ok.injEq, Text.compareUnits_eq_lt_iff]
  total := by
    rintro a b ⟨s, hs⟩ ⟨t, ht⟩
    have hswap : Text.compareUnits t s = (Text.compareUnits s t).swap := Std.OrientedCmp.eq_swap
    exact ⟨_, h hs ht, hswap ▸ h ht hs⟩
  same := by
    rintro a b ⟨s, hs⟩ ⟨t, ht⟩
    rw [h hs ht, hs, ht, Except.ok.injEq, Std.LawfulEqCmp.compare_eq_iff_eq, Option.some.injEq, Document.text.injEq]
  trans := by
    rintro a b c o o' ⟨r, hr⟩ ⟨s, hs⟩ ⟨t, ht⟩ hab hbc hle hle'
    cases Except.ok.inj ((h hr hs).symm.trans hab)
    cases Except.ok.inj ((h hs ht).symm.trans hbc)
    rw [h hr ht, Text.compare_eq_then hle hle']

theorem of_names (name : α → Given) : TotalOrder name fun a b => compareNames (name a) (name b) :=
  of_texts fun hs ht => by rw [hs, ht, compareNames_text]

variable (h : TotalOrder name cmp)

include h

theorem lt_of_below {a b : α} (hab : (name a).Below (name b)) : cmp a b = .ok .lt := by
  obtain ⟨s, t, hs, ht, hlt⟩ := hab
  exact (h.units hs ht).2 (Text.compareUnits_eq_lt_iff.1 hlt)

theorem ne_gt_of_below {a b : α} (hab : (name a).Below (name b)) : cmp a b ≠ .ok .gt := by
  rw [h.lt_of_below hab]
  nofun

theorem antisymm {a b : α} (ha : (name a).IsText) (hb : (name b).IsText) (hab : cmp a b ≠ .ok .gt)
    (hba : cmp b a ≠ .ok .gt) : name a = name b := by
  obtain ⟨o, ho, hswap⟩ := h.total ha hb
  cases o with
  | lt => exact absurd hswap hba
  | eq => exact (h.same ha hb).1 ho
  | gt => exact absurd ho hab

theorem onlyOrder (htext : ∀ row ∈ rows, (name row).IsText) (hdistinct : (rows.map name).Nodup)
    (hperm : sorted.Perm rows) (hascend : sorted.Pairwise fun a b => (name a).Below (name b)) :
    OnlyOrder cmp rows sorted where
  perm := hperm
  ascend := hascend.imp h.lt_of_below
  only := by
    intro others hothers hallowed
    refine List.Perm.eq_of_pairwise ?_ hallowed (hascend.imp h.ne_gt_of_below) (hothers.trans hperm.symm)
    intro a b ha hb hab hba
    have hrowA : a ∈ rows := hothers.mem_iff.1 ha
    have hrowB : b ∈ rows := hperm.mem_iff.1 hb
    exact List.inj_on_of_nodup_map hdistinct hrowA hrowB
      (h.antisymm (htext a hrowA) (htext b hrowB) hab hba)

theorem sortsOneWay {rows : σ → List α} {sort : σ → Except Failure (List α)}
    (hsort : ∀ source, (∀ row ∈ rows source, (name row).IsText) →
      sort source = sortByName (fun row => .ok (name row)) (rows source)) : SortsOneWay name cmp rows sort where
  order := h
  once := by
    intro source htext hdistinct
    obtain ⟨sorted, _, hperm, hascend⟩ := sortByName_of_texts htext hdistinct
    have honly := h.onlyOrder htext hdistinct hperm hascend
    refine ⟨sorted, honly, fun other hother => ?_⟩
    have htext' : ∀ row ∈ rows other, (name row).IsText := fun row hrow => htext row (hother.mem_iff.1 hrow)
    have hdistinct' : ((rows other).map name).Nodup := (hother.map name).nodup_iff.2 hdistinct
    obtain ⟨sorted', hsorted, hperm', hascend'⟩ := sortByName_of_texts htext' hdistinct'
    rw [hsort other htext', hsorted, honly.only (hperm'.trans hother) (hascend'.imp h.ne_gt_of_below)]

end TotalOrder

namespace Rows

theorem totalOrder (row : α → Given) :
    TotalOrder (fun a => (row a).field? "name") fun a b => compareByName (row a) (row b) := by
  apply TotalOrder.of_texts
  intro a b s t hs ht
  have hnameA : nameOf (row a) = .ok (some (.text s)) := hs ▸ Given.part_eq_ok (Option.isSome_of_eq_some hs) "name"
  have hnameB : nameOf (row b) = .ok (some (.text t)) := ht ▸ Given.part_eq_ok (Option.isSome_of_eq_some ht) "name"
  rw [compareByName, hnameA, hnameB]
  exact compareNames_text s t

abbrev NamedPaths := { documents : List Document //
  PathsNamed (Given.field? "id") (Given.field? "name") (documents.map pathIn) }

end Rows

/-- Names that are texts have one order by their code units. Rows with different names come in it wherever they are
sorted by name: by themselves, as what paths collapse to, or as what a store lists. -/
theorem one_order_by_name :
    TotalOrder (Given.field? "name") Rows.compareByName ∧
    (∀ (α : Type) (name : α → Given), SortsOneWay name (fun a b => compareNames (name a) (name b))
      (fun rows => rows) (sortByName fun row => .ok (name row))) ∧
    SortsOneWay (fun row => Given.field? "name" (some row)) (fun a b => Rows.compareByName (some a) (some b))
      (fun rows => rows) Rows.sortByName ∧
    SortsOneWay (fun r => r.secret.name) (fun a b => compareNames a.secret.name b.secret.name)
      (gather fun secret : Secret => secret.id) collapsePaths ∧
    SortsOneWay (fun r => r.secret.field? "name") (fun a b => Rows.compareByName a.secret b.secret)
      (fun paths : Rows.NamedPaths => gather (Given.field? "id") (paths.1.map Rows.pathIn))
      (fun paths => Rows.collapse paths.1) ∧
    ∀ kind : EntityKind, SortsOneWay (fun row => row.name) (fun a b => compareNames a.name b.name)
      (fun s : Store => (s.entities kind).values) (fun s => s.list kind) := by
  refine ⟨Rows.totalOrder fun row => row, fun α name => ?_, ?_, ?_, ?_, fun kind => ?_⟩
  · exact (TotalOrder.of_names name).sortsOneWay fun rows _ => rfl
  · exact (Rows.totalOrder some).sortsOneWay fun rows htext => Rows.sortByName_nameOf htext
  · exact (TotalOrder.of_names fun r : ReachedSecret => r.secret.name).sortsOneWay fun paths _ => rfl
  · exact (Rows.totalOrder fun r : Reached Given => r.secret).sortsOneWay fun paths _ => Rows.collapse_eq paths.2
  · exact (TotalOrder.of_names fun row : Entity kind => row.name).sortsOneWay fun s _ => rfl

def rowsNamed (names : List String) : List Document :=
  names.map fun name => .fields [("name", .text name)]

def entityNamed (kind : EntityKind) (name : String) : Entity kind :=
  (Given.draft (some (.fields [("name", .text name)])) kind).entity (some (.text name)) "2026-01-01T00:00:00.000Z"

def pathsNamed (names : List String) : List SecretPath :=
  names.map fun name => ⟨entityNamed .secret name, some "g", some "web"⟩

def clientsByArrival (names : List String) : Store :=
  { Store.empty with
    clients := names.foldl (fun t name => t.put (.value (some (.text name))) (entityNamed .client name)) .empty }

/-- A name beyond the basic plane comes between the other two, wherever the rows are from. -/
theorem one_order_by_name_beyond :
    Rows.sortByName (rowsNamed ["\ufb01", "😀", "Zed"]) = .ok (rowsNamed ["Zed", "😀", "\ufb01"]) ∧
    collapsePaths (pathsNamed ["\ufb01", "😀", "Zed"]) =
      .ok (["Zed", "😀", "\ufb01"].map fun name => ⟨entityNamed .secret name, [some "web"]⟩) ∧
    (clientsByArrival ["\ufb01", "😀", "Zed"]).list .client =
      .ok (["Zed", "😀", "\ufb01"].map (entityNamed .client)) := by
  obtain ⟨_, _, hrows, hpaths, _, hlists⟩ := one_order_by_name
  obtain ⟨rows, hrows, hsorted⟩ := hrows.once (rowsNamed ["\ufb01", "😀", "Zed"]) (by decide) (by decide)
  obtain ⟨reached, hreached, hcollapsed⟩ := hpaths.once (pathsNamed ["\ufb01", "😀", "Zed"]) (by decide) (by decide)
  obtain ⟨clients, hclients, hlisted⟩ :=
    (hlists .client).once (clientsByArrival ["\ufb01", "😀", "Zed"]) (by decide) (by decide)
  refine ⟨?_, ?_, ?_⟩
  · exact (hsorted _ (.refl _)).trans (congrArg Except.ok (hrows.only (by decide) (by decide)).symm)
  · exact (hcollapsed _ (.refl _)).trans (congrArg Except.ok (hreached.only (by decide) (by decide)).symm)
  · exact (hlisted _ (.refl _)).trans (congrArg Except.ok (hclients.only (by decide) (by decide)).symm)

end SecretAccess
