import SecretAccess.Proofs.Access.FirstByName
import SecretAccess.Proofs.Access.Gather

namespace SecretAccess

variable {α : Type} {id name : α → Given} {paths : List (PathTo α)}

structure CollapsesTo (id name : α → Given) (paths : List (PathTo α)) (reached : List (Reached α)) : Prop where
  once : (reached.map fun r => id r.secret).Perm (paths.map fun path => id path.secret).eraseDups
  entries : ∀ r ∈ reached, EntryOf id paths r
  total : (reached.map fun r => r.groupNames.length).sum =
    (paths.map fun path => (id path.secret, path.groupId)).eraseDups.length
  order : ByName (fun r => id r.secret) (fun r => name r.secret) (paths.map fun path => id path.secret) reached

theorem EntryOf.length_eq {reached : Reached α} (h : EntryOf id paths reached) :
    reached.groupNames.length = ((pathsTo id (id reached.secret) paths).map (·.groupId)).eraseDups.length := by
  have hlength := congrArg List.length h.names
  rwa [List.length_map, List.length_map] at hlength

theorem length_pairs_eq_sum (id : α → Given) (paths : List (PathTo α)) :
    (paths.map fun path => (id path.secret, path.groupId)).eraseDups.length =
      ((paths.map fun path => id path.secret).eraseDups.map fun secret =>
        ((pathsTo id secret paths).map (·.groupId)).eraseDups.length).sum := by
  apply Order.length_eq_sum (Order.nodup_eraseDups _) (Order.nodup_eraseDups _) fun _ => Order.nodup_eraseDups _
  intro secret group
  simp only [List.mem_eraseDups, List.mem_map, mem_pathsTo, Prod.mk.injEq]
  constructor
  · rintro ⟨path, hpath, rfl, rfl⟩
    exact ⟨⟨path, hpath, rfl⟩, path, ⟨hpath, rfl⟩, rfl⟩
  · rintro ⟨_, path, ⟨hpath, hid⟩, hgroup⟩
    exact ⟨path, hpath, hid, hgroup⟩

theorem CollapsesTo.of_perm {reached : List (Reached α)} (hplain : ∀ path ∈ paths, path.Plain id)
    (hperm : reached.Perm (gather id paths))
    (horder : ByName (fun r => id r.secret) (fun r => name r.secret) (paths.map fun path => id path.secret) reached) :
    CollapsesTo id name paths reached where
  once := map_id_gather hplain ▸ hperm.map _
  entries r hr := entryOf_gather hplain (hperm.mem_iff.1 hr)
  total := by
    have hlengths : ((gather id paths).map fun r => r.groupNames.length) =
        ((gather id paths).map fun r => id r.secret).map fun secret =>
          ((pathsTo id secret paths).map (·.groupId)).eraseDups.length := by
      rw [List.map_map]
      exact List.map_congr_left fun r hr => (entryOf_gather hplain hr).length_eq
    rw [(hperm.map _).sum_nat, hlengths, map_id_gather hplain, ← length_pairs_eq_sum]
  order := horder

def PathsNamed (id name : α → Given) (paths : List (PathTo α)) : Prop :=
  ∀ path ∈ paths, path.Plain id ∧ (name path.secret).IsText

instance (id name : α → Given) (paths : List (PathTo α)) : Decidable (PathsNamed id name paths) :=
  inferInstanceAs (Decidable (∀ path ∈ paths, _ ∧ _))

theorem PathsNamed.plain (h : PathsNamed id name paths) : ∀ path ∈ paths, path.Plain id :=
  fun path hpath => (h path hpath).1

theorem PathsNamed.names (h : PathsNamed id name paths) {r : Reached α} (hr : r ∈ gather id paths) :
    (name r.secret).IsText := by
  obtain ⟨path, hpath, hsecret⟩ := Option.map_eq_some_iff.1 (entryOf_gather h.plain hr).first
  rw [← hsecret]
  exact (h path (List.mem_of_find?_eq_some hpath)).2

theorem PathsNamed.exists_collapsed (h : PathsNamed id name paths) :
    ∃ reached, sortByName (fun r => .ok (name r.secret)) (gather id paths) = .ok reached ∧
      CollapsesTo id name paths reached := by
  have hids := Order.idxOf_eraseDups (paths.map fun path => id path.secret)
  rw [← map_id_gather h.plain, List.pairwise_map] at hids
  obtain ⟨reached, hreached, hperm, hstable⟩ := sortByName_stable (fun _ => h.names) hids
  exact ⟨reached, hreached, .of_perm h.plain hperm hstable⟩

namespace Rows

def pathIn (document : Document) : PathTo Given :=
  ⟨Given.field? "series" (some document), document.field? "groupId", document.field? "groupName"⟩

theorem collapse_eq {documents : List Document}
    (h : PathsNamed (Given.field? "id") (Given.field? "name") (documents.map pathIn)) :
    collapse documents = SecretAccess.sortByName (fun r => .ok (Given.field? "name" r.secret))
      (gather (Given.field? "id") (documents.map pathIn)) := by
  let withId (secret : Given) : Given × Given := (secret.field? "id", secret)
  have hpaths : documents.mapM pathOf = .ok ((documents.map pathIn).map fun path =>
      ⟨withId path.secret, path.groupId, path.groupName⟩) := by
    rw [List.map_map]
    apply mapM_eq_ok_map
    intro document hdocument
    have hname := (h _ (List.mem_map_of_mem hdocument)).2
    have hseries : (Given.field? "series" (some document)).isSome = true := by
      obtain ⟨s, hs⟩ := hname
      obtain ⟨series, hseries, _⟩ := Option.bind_eq_some_iff.1 hs
      exact Option.isSome_of_eq_some hseries
    have hid : (Given.field? "series" (some document)).part "id" =
        .ok (Given.field? "id" (Given.field? "series" (some document))) := Given.part_eq_ok hname.isSome "id"
    rw [pathOf, Given.part_eq_ok hseries]
    change (do return (⟨(← Given.part "id" _, _), _, _⟩ : PathTo (Given × Given))) = _
    rw [hid]
    rfl
  have hgather := gather_map Prod.fst withId fun path hpath => (h path hpath).1
  have hsecrets : ∀ r ∈ gather (Given.field? "id") (documents.map pathIn), (Given.field? "name" r.secret).IsText :=
    fun r hr => h.names hr
  rw [collapse, hpaths]
  change SecretAccess.sortByName _ ((gather Prod.fst _).map _) = _
  rw [hgather, List.map_map]
  exact (congrArg _ (List.map_id _)).trans (sortByName_nameOf hsecrets)

end Rows

/-- Collapsing paths loses nothing, whatever rows and names come with their ids. -/
theorem collapse_lossless :
    (∀ paths : List SecretPath, PathsNamed (·.id) (·.name) paths →
      ∃ reached, collapsePaths paths = .ok reached ∧ CollapsesTo (·.id) (·.name) paths reached) ∧
    ∀ documents : List Document,
      PathsNamed (Given.field? "id") (Given.field? "name") (documents.map Rows.pathIn) →
        ∃ reached, Rows.collapse documents = .ok reached ∧
          CollapsesTo (Given.field? "id") (Given.field? "name") (documents.map Rows.pathIn) reached := by
  refine ⟨fun paths h => h.exists_collapsed, fun documents h => ?_⟩
  rw [Rows.collapse_eq h]
  exact h.exists_collapsed

/-- Paths to two secrets of one name. The rows of the first and the names of a group do not agree. -/
def tangled : List SecretPath :=
  let secret (id description : String) : Secret := ⟨some id, some "token", some description,
    ⟨none, some (.fields [])⟩, "2026-01-01T00:00:00.000Z", none, "2026-01-01T00:00:00.000Z", none⟩
  [⟨secret "s" "first", some "g", some "web"⟩, ⟨secret "r" "other", some "g", some "web"⟩,
    ⟨secret "s" "later", some "h", some "ops"⟩, ⟨secret "s" "last", some "g", some "all"⟩]

def tangledDocuments : List Document :=
  let path (id group name : String) : Document := .fields
    [("series", .fields [("id", .text id), ("name", "token")]), ("groupId", .text group), ("groupName", .text name)]
  [path "s" "g" "web", path "r" "g" "web", path "s" "h" "ops", path "s" "g" "all"]

theorem collapse_lossless_tangled : PathsNamed (·.id) (·.name) tangled ∧
    (∃ reached, collapsePaths tangled = .ok reached ∧ CollapsesTo (·.id) (·.name) tangled reached) ∧
      ∃ reached, Rows.collapse tangledDocuments = .ok reached ∧
        CollapsesTo (Given.field? "id") (Given.field? "name") (tangledDocuments.map Rows.pathIn) reached :=
  ⟨by decide, collapse_lossless.1 tangled (by decide), collapse_lossless.2 tangledDocuments (by decide)⟩

example : (collapsePaths tangled).toOption.map (·.map fun r => (r.secret.description, r.groupNames)) =
    some [(some (.text "first"), [some (.text "all"), some (.text "ops")]),
      (some (.text "other"), [some (.text "web")])] := by cbv

end SecretAccess
