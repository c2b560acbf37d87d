import SecretAccess.Proofs.Store.WellFormed

namespace SecretAccess.Store

/-- An edge of a kind is stored between two ids. -/
def Joined (s : Store) (edge : EdgeKind) (endpoint group : Given) : Prop :=
  ∃ row ∈ (s.edges edge).values, row.endpoint = endpoint ∧ row.group = group

/-- A stored group through which a client reads a stored secret. -/
structure LeadsTo (s : Store) (client : Given) (group : Group) (secret : Secret) : Prop where
  storedGroup : group ∈ (s.entities .group).values
  storedSecret : secret ∈ (s.entities .secret).values
  membership : s.Joined .membership client group.id
  grant : s.Joined .grant secret.id group.id

variable {s : Store}

theorem WellFormed.get?_iff (h : s.WellFormed) {kind : EntityKind} {id : Given} (hid : id.IsText)
    {row : Entity kind} : s.get? kind id = some row ↔ row ∈ (s.entities kind).values ∧ row.id = id := by
  rw [get?, s.key_of_isText hid, Table.mem_values_iff]
  constructor
  · intro hget
    exact ⟨⟨_, hget⟩, (Identity.value.inj ((h.entities kind).key hget)).symm⟩
  · rintro ⟨⟨key, hget⟩, rfl⟩
    rwa [← (h.entities kind).key hget]

theorem WellFormed.isText_of_contains (h : s.WellFormed) {kind : EntityKind} {id : Given}
    (hid : (s.entities kind).contains (.value id) = true) : id.IsText := by
  obtain ⟨row, hget⟩ := Option.isSome_iff_exists.1 hid
  rw [Identity.value.inj ((h.entities kind).key hget)]
  exact ((h.entities kind).text hget).1

theorem WellFormed.ends_isText (h : s.WellFormed) (edge : EdgeKind) {row : Edge}
    (hrow : row ∈ (s.edges edge).values) : row.endpoint.IsText ∧ row.group.IsText := by
  obtain ⟨key, hget⟩ := Table.mem_values_iff.1 hrow
  exact ⟨h.isText_of_contains ((h.edges edge).endpoint hget), h.isText_of_contains ((h.edges edge).group hget)⟩

theorem WellFormed.isText (h : s.WellFormed) {kind : EntityKind} {row : Entity kind}
    (hrow : row ∈ (s.entities kind).values) : row.id.IsText ∧ row.name.IsText := by
  obtain ⟨key, hget⟩ := Table.mem_values_iff.1 hrow
  exact (h.entities kind).text hget

theorem WellFormed.copy_eq (h : s.WellFormed) {kind : EntityKind} {row : Entity kind}
    (hrow : row ∈ (s.entities kind).values) : row.copy = row := by
  obtain ⟨key, hget⟩ := Table.mem_values_iff.1 hrow
  exact (h.entities kind).copied hget

theorem WellFormed.eq_of_id (h : s.WellFormed) {kind : EntityKind} {row twin : Entity kind}
    (hrow : row ∈ (s.entities kind).values) (htwin : twin ∈ (s.entities kind).values) (hid : row.id = twin.id) :
    row = twin := by
  have hget := (h.get?_iff (h.isText hrow).1).2 ⟨hrow, rfl⟩
  rw [(h.get?_iff (h.isText hrow).1).2 ⟨htwin, hid.symm⟩] at hget
  exact (Option.some.inj hget).symm

theorem WellFormed.eq_of_name (h : s.WellFormed) {kind : EntityKind} {row twin : Entity kind}
    (hrow : row ∈ (s.entities kind).values) (htwin : twin ∈ (s.entities kind).values)
    (hname : row.name = twin.name) : row = twin := by
  obtain ⟨key, hget⟩ := Table.mem_values_iff.1 hrow
  obtain ⟨other, hother⟩ := Table.mem_values_iff.1 htwin
  have hkey := (h.entities kind).unique hget hother hname
  rw [hkey, hother] at hget
  exact (Option.some.inj hget).symm

theorem WellFormed.mem_endpointsOf (h : s.WellFormed) {edge : EdgeKind} {group : Given}
    {row : Entity edge.endpoint} :
    row ∈ s.endpointsOf edge group ↔ row ∈ (s.entities edge.endpoint).values ∧ s.Joined edge row.id group := by
  rw [endpointsOf, List.mem_filterMap]
  constructor
  · rintro ⟨link, hlink, hfound⟩
    by_cases hgroup : link.group = group
    · rw [if_pos hgroup] at hfound
      obtain ⟨hrow, hid⟩ := (h.get?_iff (h.ends_isText edge hlink).1).1 hfound
      exact ⟨hrow, link, hlink, hid.symm, hgroup⟩
    · rw [if_neg hgroup] at hfound
      cases hfound
  · rintro ⟨hrow, link, hlink, hid, hgroup⟩
    refine ⟨link, hlink, ?_⟩
    rw [if_pos hgroup]
    exact (h.get?_iff (h.ends_isText edge hlink).1).2 ⟨hrow, hid.symm⟩

theorem WellFormed.mem_groupsOf (h : s.WellFormed) {edge : EdgeKind} {endpoint : Given} {group : Group} :
    group ∈ s.groupsOf edge endpoint ↔ group ∈ (s.entities .group).values ∧ s.Joined edge endpoint group.id := by
  rw [groupsOf, List.mem_filterMap]
  constructor
  · rintro ⟨link, hlink, hfound⟩
    by_cases hendpoint : link.endpoint = endpoint
    · rw [if_pos hendpoint] at hfound
      obtain ⟨hgroup, hid⟩ := (h.get?_iff (h.ends_isText edge hlink).2).1 hfound
      exact ⟨hgroup, link, hlink, hendpoint, hid.symm⟩
    · rw [if_neg hendpoint] at hfound
      cases hfound
  · rintro ⟨hgroup, link, hlink, hendpoint, hid⟩
    refine ⟨link, hlink, ?_⟩
    rw [if_pos hendpoint]
    exact (h.get?_iff (h.ends_isText edge hlink).2).2 ⟨hgroup, hid.symm⟩

theorem WellFormed.mem_clientsForSecret (h : s.WellFormed) {secret : Given} {client : Client} :
    client ∈ s.clientsForSecret secret ↔ client ∈ (s.entities .client).values ∧
      ∃ group, s.Joined .grant secret group ∧ s.Joined .membership client.id group := by
  rw [clientsForSecret, List.mem_flatMap]
  constructor
  · rintro ⟨grant, hgrant, hclient⟩
    by_cases hsecret : grant.endpoint = secret
    · rw [if_pos hsecret] at hclient
      obtain ⟨hstored, hmembership⟩ := h.mem_endpointsOf.1 hclient
      exact ⟨hstored, grant.group, ⟨grant, hgrant, hsecret, rfl⟩, hmembership⟩
    · rw [if_neg hsecret] at hclient
      cases hclient
  · rintro ⟨hstored, _, ⟨grant, hgrant, hsecret, rfl⟩, hmembership⟩
    refine ⟨grant, hgrant, ?_⟩
    rw [if_pos hsecret]
    exact h.mem_endpointsOf.2 ⟨hstored, hmembership⟩

theorem WellFormed.mem_pathsFrom (h : s.WellFormed) {client : Given} {path : SecretPath} :
    path ∈ s.pathsFrom client ↔
      ∃ group, s.LeadsTo client group path.secret ∧ path.groupId = group.id ∧ path.groupName = group.name := by
  rw [pathsFrom, List.mem_flatMap]
  constructor
  · rintro ⟨membership, hmembership, hpath⟩
    split at hpath
    · rename_i hclient
      split at hpath
      · cases hpath
      · rename_i group hfound
        obtain ⟨hgroup, hid⟩ := (h.get?_iff (h.ends_isText .membership hmembership).2).1 hfound
        obtain ⟨secret, hsecret, rfl⟩ := List.mem_map.1 hpath
        obtain ⟨hstored, hgrant⟩ := h.mem_endpointsOf.1 hsecret
        exact ⟨group, ⟨hgroup, hstored, ⟨membership, hmembership, hclient, hid.symm⟩, hgrant⟩, rfl, rfl⟩
    · cases hpath
  · rintro ⟨group, hleads, hid, hname⟩
    obtain ⟨membership, hmembership, hclient, hgroup⟩ := hleads.membership
    refine ⟨membership, hmembership, ?_⟩
    have hfound : s.get? .group membership.group = some group :=
      (h.get?_iff (h.ends_isText .membership hmembership).2).2 ⟨hleads.storedGroup, hgroup.symm⟩
    rw [if_pos hclient, hfound]
    refine List.mem_map.2 ⟨path.secret, h.mem_endpointsOf.2 ⟨hleads.storedSecret, hleads.grant⟩, ?_⟩
    rw [← hid, ← hname]

end SecretAccess.Store
