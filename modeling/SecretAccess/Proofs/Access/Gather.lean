import Mathlib.Data.Option.Basic
import SecretAccess.Access.Paths
import SecretAccess.Proofs.Store.WellFormed

namespace SecretAccess

variable {α : Type} {id : α → Given} {paths : List (PathTo α)}

def PathTo.Plain (id : α → Given) (path : PathTo α) : Prop :=
  (id path.secret).standsAlone = false ∧ path.groupId.standsAlone = false

instance (id : α → Given) (path : PathTo α) : Decidable (path.Plain id) :=
  inferInstanceAs (Decidable (_ ∧ _))

def PathTo.Textual (id : α → Given) (path : PathTo α) : Prop :=
  (id path.secret).IsText ∧ path.groupId.IsText

def GroupsAgree (paths : List (PathTo α)) : Prop :=
  ∀ path ∈ paths, ∀ other ∈ paths, path.groupId = other.groupId → path.groupName = other.groupName

theorem GroupsAgree.subset {some all : List (PathTo α)} (h : GroupsAgree all) (hsub : some ⊆ all) :
    GroupsAgree some :=
  fun path hpath other hother => h path (hsub hpath) other (hsub hother)

def pathsTo (id : α → Given) (secret : Given) (paths : List (PathTo α)) : List (PathTo α) :=
  paths.filter fun path => id path.secret = secret

theorem mem_pathsTo {secret : Given} {path : PathTo α} :
    path ∈ pathsTo id secret paths ↔ path ∈ paths ∧ id path.secret = secret := by
  rw [pathsTo, List.mem_filter, decide_eq_true_iff]

def lastName? (paths : List (PathTo α)) (group : Given) : Option Given :=
  (paths.filter (·.groupId = group)).getLast?.map (·.groupName)

/-- A secret as it is on the first path to it, with the latest name of each group on the way, in the order in which
the groups come first. -/
structure EntryOf (id : α → Given) (paths : List (PathTo α)) (reached : Reached α) : Prop where
  first : (paths.find? fun path => id path.secret = id reached.secret).map (·.secret) = some reached.secret
  names : reached.groupNames.map some = ((pathsTo id (id reached.secret) paths).map (·.groupId)).eraseDups.map
    (lastName? (pathsTo id (id reached.secret) paths))

def groupsOn (paths : List (PathTo α)) : Table Identity Given :=
  paths.foldl (fun groups path => groups.put (.value path.groupId) path.groupName) .empty

def entryOn (paths : List (PathTo α)) : Option (α × Table Identity Given) :=
  paths.head?.map fun path => (path.secret, groupsOn paths)

def follow (id : α → Given) (found : Found α) (path : PathTo α) : Found α :=
  let entry := (found.get? (.value (id path.secret))).getD (path.secret, .empty)
  found.put (.value (id path.secret)) (entry.1, entry.2.put (.value path.groupId) path.groupName)

theorem get?_groupsOn (paths : List (PathTo α)) (group : Given) :
    (groupsOn paths).get? (.value group) = lastName? paths group := by
  induction paths using List.reverseRecOn with
  | nil => rfl
  | append_singleton paths path ih =>
      rw [groupsOn, List.foldl_concat, Table.get?_put]
      by_cases h : group = path.groupId
      · subst h
        simp [lastName?]
      · rw [if_neg fun he => h (Identity.value.inj he), lastName?, List.filter_append,
          List.filter_cons_of_neg (by simpa using Ne.symm h), List.filter_nil, List.append_nil]
        exact ih

theorem map_some_groupsOn (paths : List (PathTo α)) :
    (groupsOn paths).values.map some = (paths.map (·.groupId)).eraseDups.map (lastName? paths) := by
  have hkeys : (groupsOn paths).keys = (paths.map (·.groupId)).eraseDups.map Identity.value := by
    rw [← Order.eraseDups_map (f := Identity.value) fun _ _ => Identity.value.inj, List.map_map]
    exact Table.keys_foldl (fun path => Identity.value path.groupId) (fun t path => Table.keys_put t _ _) paths
  rw [← Table.map_get?_keys, hkeys, List.map_map]
  exact List.map_congr_left fun group _ => get?_groupsOn paths group

theorem entryOn_concat (paths : List (PathTo α)) (path : PathTo α) :
    entryOn (paths ++ [path]) = some (((entryOn paths).getD (path.secret, .empty)).1,
      ((entryOn paths).getD (path.secret, .empty)).2.put (.value path.groupId) path.groupName) := by
  rw [entryOn, groupsOn, List.foldl_concat]
  cases paths <;> rfl

theorem get?_foldl_follow (paths : List (PathTo α)) (secret : Given) :
    (paths.foldl (follow id) .empty).get? (.value secret) = entryOn (pathsTo id secret paths) := by
  induction paths using List.reverseRecOn with
  | nil => rfl
  | append_singleton paths path ih =>
      rw [List.foldl_concat, follow, Table.get?_put]
      by_cases h : secret = id path.secret
      · subst h
        have hpaths : pathsTo id (id path.secret) (paths ++ [path]) = pathsTo id (id path.secret) paths ++ [path] := by
          simp [pathsTo]
        rw [if_pos rfl, hpaths, entryOn_concat, ih]
      · have hpaths : pathsTo id secret (paths ++ [path]) = pathsTo id secret paths := by
          simp [pathsTo, Ne.symm h]
        rw [if_neg fun he => h (Identity.value.inj he), hpaths, ih]

theorem keys_foldl_follow (id : α → Given) (paths : List (PathTo α)) :
    (paths.foldl (follow id) .empty).keys = (paths.map fun path => id path.secret).eraseDups.map Identity.value := by
  rw [← Order.eraseDups_map (f := Identity.value) fun _ _ => Identity.value.inj, List.map_map]
  exact Table.keys_foldl (fun path => Identity.value (id path.secret)) (fun t path => Table.keys_put t _ _) paths

theorem entryOf_of_entryOn {secret : Given} {entry : α × Table Identity Given}
    (h : entryOn (pathsTo id secret paths) = some entry) :
    id entry.1 = secret ∧ EntryOf id paths ⟨entry.1, entry.2.values⟩ := by
  obtain ⟨path, hpath, rfl⟩ := Option.map_eq_some_iff.1 h
  have hsecret : id path.secret = secret := (mem_pathsTo.1 (List.mem_of_mem_head? hpath)).2
  have hfirst : (paths.find? fun other => id other.secret = secret) = some path := by
    rw [← hpath, pathsTo, List.head?_filter]
  subst hsecret
  refine ⟨rfl, ?_, map_some_groupsOn _⟩
  rw [hfirst, Option.map_some]

section

variable (hplain : ∀ path ∈ paths, path.Plain id)

include hplain

theorem gather_eq : gather id paths =
    (paths.foldl (follow id) .empty).values.map fun entry => ⟨entry.1, entry.2.values⟩ := by
  have hgather : gather id paths =
      (paths.zipIdx.foldl (fun found placed => addPath id found placed.1 placed.2) .empty).values.map fun entry =>
        ⟨entry.1, entry.2.values⟩ := rfl
  have hfound : paths.zipIdx.foldl (fun found placed => addPath id found placed.1 placed.2) .empty =
      (paths.zipIdx.map (·.1)).foldl (follow id) .empty := by
    rw [List.foldl_map]
    apply List.foldl_ext
    rintro found ⟨path, place⟩ hpath
    obtain ⟨hsecret, hgroup⟩ := hplain path (List.fst_mem_of_mem_zipIdx hpath)
    simp only [addPath, follow, Given.identity, hsecret, hgroup]
    rfl
  rw [hgather, hfound, List.zipIdx_map_fst]

theorem map_some_gather : (gather id paths).map some =
    (paths.map fun path => id path.secret).eraseDups.map fun secret =>
      (entryOn (pathsTo id secret paths)).map fun entry => ⟨entry.1, entry.2.values⟩ := by
  have hfound : (gather id paths).map some = ((paths.foldl (follow id) .empty).values.map some).map
      (Option.map fun entry => ⟨entry.1, entry.2.values⟩) := by
    rw [gather_eq hplain, List.map_map, List.map_map]
    rfl
  rw [hfound, ← Table.map_get?_keys, keys_foldl_follow, List.map_map, List.map_map]
  apply List.map_congr_left
  intro secret _
  rw [Function.comp_apply, Function.comp_apply, get?_foldl_follow]

theorem map_id_gather :
    ((gather id paths).map fun reached => id reached.secret) = (paths.map fun path => id path.secret).eraseDups := by
  apply List.map_injective_iff.2 (Option.some_injective Given)
  calc ((gather id paths).map fun reached => id reached.secret).map some
      = ((gather id paths).map some).map (Option.map fun reached => id reached.secret) := by
        rw [List.map_map, List.map_map]
        rfl
    _ = (paths.map fun path => id path.secret).eraseDups.map some := by
        rw [map_some_gather hplain, List.map_map]
        apply List.map_congr_left
        intro secret hsecret
        obtain ⟨path, hpath, hid⟩ := List.mem_map.1 (List.mem_eraseDups.1 hsecret)
        cases hentry : entryOn (pathsTo id secret paths) with
        | none =>
            have hnil := List.head?_eq_none_iff.1 (Option.map_eq_none_iff.1 hentry)
            exact absurd (hnil ▸ mem_pathsTo.2 ⟨hpath, hid⟩) List.not_mem_nil
        | some entry =>
            simp only [Function.comp_apply, hentry, Option.map_some, (entryOf_of_entryOn hentry).1]

theorem entryOf_gather {reached : Reached α} (h : reached ∈ gather id paths) : EntryOf id paths reached := by
  have hsome := List.mem_map_of_mem (f := some) h
  rw [map_some_gather hplain] at hsome
  obtain ⟨secret, _, hmap⟩ := List.mem_map.1 hsome
  obtain ⟨entry, hentry, rfl⟩ := Option.map_eq_some_iff.1 hmap
  exact (entryOf_of_entryOn hentry).2

end

theorem gather_map {β : Type} (id : α → Given) (f : β → α) {paths : List (PathTo β)}
    (hplain : ∀ path ∈ paths, path.Plain fun secret => id (f secret)) :
    gather id (paths.map fun path => ⟨f path.secret, path.groupId, path.groupName⟩) =
      (gather (fun secret => id (f secret)) paths).map fun reached => ⟨f reached.secret, reached.groupNames⟩ := by
  have hplain' : ∀ path ∈ paths.map fun path => (⟨f path.secret, path.groupId, path.groupName⟩ : PathTo α),
      path.Plain id := by
    intro _ hmem
    obtain ⟨path, hpath, rfl⟩ := List.mem_map.1 hmem
    exact hplain path hpath
  apply List.map_injective_iff.2 (Option.some_injective _)
  calc _ = ((gather (fun secret => id (f secret)) paths).map some).map
        (Option.map fun reached => (⟨f reached.secret, reached.groupNames⟩ : Reached α)) := by
        rw [map_some_gather hplain', map_some_gather hplain, List.map_map, List.map_map]
        apply List.map_congr_left
        intro secret _
        simp only [entryOn, groupsOn, pathsTo, List.filter_map, List.head?_map, List.foldl_map, Option.map_map,
          Function.comp_def]
    _ = _ := by
      rw [List.map_map, List.map_map]
      rfl

theorem PathTo.Textual.plain {path : PathTo α} (h : path.Textual id) : path.Plain id :=
  ⟨h.1.standsAlone_eq, h.2.standsAlone_eq⟩

theorem EntryOf.mem_names {reached : Reached α} (h : EntryOf id paths reached) (hagree : GroupsAgree paths)
    {name : Given} : name ∈ reached.groupNames ↔
      ∃ path ∈ paths, id path.secret = id reached.secret ∧ path.groupName = name := by
  have hlast {group : Given} {path : PathTo α}
      (hpath : ((pathsTo id (id reached.secret) paths).filter (·.groupId = group)).getLast? = some path) :
      path ∈ paths ∧ id path.secret = id reached.secret ∧ path.groupId = group := by
    obtain ⟨hmem, hgroup⟩ := List.mem_filter.1 (List.mem_of_getLast? hpath)
    obtain ⟨hmem, hid⟩ := mem_pathsTo.1 hmem
    exact ⟨hmem, hid, of_decide_eq_true hgroup⟩
  have hsome : name ∈ reached.groupNames ↔ some name ∈ reached.groupNames.map some := by simp
  rw [hsome, h.names, List.mem_map]
  constructor
  · rintro ⟨group, _, hname⟩
    obtain ⟨path, hpath, rfl⟩ := Option.map_eq_some_iff.1 hname
    obtain ⟨hmem, hid, _⟩ := hlast hpath
    exact ⟨path, hmem, hid, rfl⟩
  · rintro ⟨path, hpath, hid, rfl⟩
    have hto : path ∈ pathsTo id (id reached.secret) paths := mem_pathsTo.2 ⟨hpath, hid⟩
    refine ⟨path.groupId, List.mem_eraseDups.2 (List.mem_map_of_mem hto), ?_⟩
    have hthrough : path ∈ (pathsTo id (id reached.secret) paths).filter (·.groupId = path.groupId) :=
      List.mem_filter.2 ⟨hto, decide_eq_true rfl⟩
    cases hget : ((pathsTo id (id reached.secret) paths).filter (·.groupId = path.groupId)).getLast? with
    | none => exact absurd (List.getLast?_eq_none_iff.1 hget ▸ hthrough) List.not_mem_nil
    | some last =>
        obtain ⟨hmem, _, hgroup⟩ := hlast hget
        rw [lastName?, hget, Option.map_some, hagree last hmem path hpath hgroup]

theorem gather_of_textual (htext : ∀ path ∈ paths, path.Textual id) (hagree : GroupsAgree paths) :
    ((gather id paths).map fun reached => id reached.secret).Nodup ∧
      (∀ path ∈ paths, ∃ reached ∈ gather id paths, id reached.secret = id path.secret) ∧
      ∀ reached ∈ gather id paths, (∃ path ∈ paths, path.secret = reached.secret) ∧
        ∀ name, name ∈ reached.groupNames ↔
          ∃ path ∈ paths, id path.secret = id reached.secret ∧ path.groupName = name := by
  have hplain : ∀ path ∈ paths, path.Plain id := fun path hpath => (htext path hpath).plain
  refine ⟨?_, fun path hpath => ?_, fun reached hreached => ?_⟩
  · rw [map_id_gather hplain]
    exact Order.nodup_eraseDups _
  · rw [← List.mem_map, map_id_gather hplain, List.mem_eraseDups]
    exact List.mem_map_of_mem hpath
  · have hentry := entryOf_gather hplain hreached
    obtain ⟨path, hpath, hsecret⟩ := Option.map_eq_some_iff.1 hentry.first
    exact ⟨⟨path, List.mem_of_find?_eq_some hpath, hsecret⟩, fun name => hentry.mem_names hagree⟩

end SecretAccess
