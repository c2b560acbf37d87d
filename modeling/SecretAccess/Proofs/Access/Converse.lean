import SecretAccess.Proofs.Access.Distinct
import SecretAccess.Proofs.Access.Listing
import SecretAccess.Proofs.Store.Edges

namespace SecretAccess

/-- Who reads a secret, what a client reads, and the groups of both, as they are all listed. -/
structure Session.ListedBothWays (s : Session) (journaled : Bool) (client : Client) (secret : Secret)
    (readers : List Client) (entries : List SanitizedSecret) (clientGroups secretGroups : List Group) : Prop where
  readBy : s.Answers journaled (.clientsForSecret secret.id) readers []
  reads : s.Answers journaled (.sanitizedForClient client.id) entries []
  memberships : s.Answers journaled (.groupsForClient client.id) clientGroups []
  grants : s.Answers journaled (.groupsForSecret secret.id) secretGroups []
  ascend : readers.Pairwise fun a b => a.name.Below b.name
  reaches : (∃ reader ∈ readers, reader.id = client.id) ↔ ∃ group, s.store.LeadsTo client.id group secret
  converse : (∃ reader ∈ readers, reader.id = client.id) ↔ ∃ entry ∈ entries, entry.secret.id = secret.id
  once : (∃ reader ∈ readers, reader.id = client.id) →
    readers.filter (·.id = client.id) = [client] ∧
      (entries.filter (·.secret.id = secret.id)).map (·.secret) = [secret]
  groups : ∀ entry ∈ entries, entry.secret.id = secret.id →
    entry.groups = (clientGroups.filter (· ∈ secretGroups)).map (·.name)

namespace Store

variable {s : Store}

theorem WellFormed.filter_id_eq (h : s.WellFormed) {kind : EntityKind} {row : Entity kind} {rows : List (Entity kind)}
    (hrows : rows ⊆ (s.entities kind).values) (hascend : rows.Pairwise fun a b => a.name.Below b.name)
    (hrow : row ∈ rows) : rows.filter (·.id = row.id) = [row] := by
  apply eq_of_below (hascend.filter _) (List.pairwise_singleton _ row)
  intro other
  rw [List.mem_filter, decide_eq_true_iff, List.mem_singleton]
  constructor
  · rintro ⟨hother, hid⟩
    exact h.eq_of_id (hrows hother) (hrows hrow) hid
  · rintro rfl
    exact ⟨hrow, rfl⟩

theorem WellFormed.mem_clientsForSecret_iff (h : s.WellFormed) {client : Client} {secret : Secret}
    (hclient : client ∈ (s.entities .client).values) (hsecret : secret ∈ (s.entities .secret).values) :
    client ∈ s.clientsForSecret secret.id ↔ ∃ group, s.LeadsTo client.id group secret := by
  rw [h.mem_clientsForSecret]
  constructor
  · rintro ⟨_, id, hgrant, hmembership⟩
    -- the query for clients never looks at the groups, but no edge is left without its ends
    obtain ⟨group, hgroup, rfl⟩ := h.exists_row hgrant (.inr ⟨rfl, rfl⟩)
    exact ⟨group, hgroup, hsecret, hmembership, hgrant⟩
  · rintro ⟨group, hleads⟩
    exact ⟨hclient, group.id, hleads.grant, hleads.membership⟩

variable {client : Given} {entries : List SanitizedSecret} {entry : SanitizedSecret} {secret : Secret}

theorem Listing.secret_eq (h : s.Listing client entries) (hs : s.WellFormed)
    (hsecret : secret ∈ (s.entities .secret).values) (hentry : entry ∈ entries) (hid : entry.secret.id = secret.id) :
    entry.secret = secret := by
  obtain ⟨_, hleads⟩ := h.reached entry hentry
  exact hs.eq_of_id hleads.storedSecret hsecret hid

theorem Listing.filter_secret_eq (h : s.Listing client entries) (hs : s.WellFormed) (hentry : entry ∈ entries) :
    (entries.filter (·.secret.id = entry.secret.id)).map (·.secret) = [entry.secret] := by
  have hstored : entries.map (·.secret) ⊆ (s.entities .secret).values := by
    intro row hrow
    obtain ⟨other, hother, rfl⟩ := List.mem_map.1 hrow
    obtain ⟨_, hleads⟩ := h.reached other hother
    exact hleads.storedSecret
  have hone := hs.filter_id_eq hstored (List.pairwise_map.2 h.ascend) (List.mem_map_of_mem hentry)
  rwa [List.filter_map] at hone

theorem Listing.groups_eq (h : s.Listing client entries) (hs : s.WellFormed) (hentry : entry ∈ entries)
    {clientGroups secretGroups : List Group} (hclient : ∀ group, group ∈ clientGroups ↔ group ∈ s.groupsOf .membership client)
    (hascend : clientGroups.Pairwise fun a b => a.name.Below b.name)
    (hsecret : ∀ group, group ∈ secretGroups ↔ group ∈ s.groupsOf .grant entry.secret.id) :
    entry.groups = (clientGroups.filter (· ∈ secretGroups)).map (·.name) := by
  have hcommon : ((clientGroups.filter (· ∈ secretGroups)).map (·.name)).Pairwise Given.Below :=
    List.pairwise_map.2 (hascend.filter _)
  have hnames : entry.groups.Pairwise Given.Below := h.groupsAscend entry hentry
  apply eq_of_below hnames hcommon
  intro name
  rw [h.groups entry hentry, List.mem_map]
  simp only [List.mem_filter, decide_eq_true_iff, hclient, hsecret, hs.mem_groupsOf]
  constructor
  · rintro ⟨group, hleads, hname⟩
    exact ⟨group, ⟨⟨hleads.storedGroup, hleads.membership⟩, hleads.storedGroup, hleads.grant⟩, hname⟩
  · rintro ⟨group, ⟨⟨hgroup, hmembership⟩, _, hgrant⟩, hname⟩
    obtain ⟨_, hleads⟩ := h.reached entry hentry
    exact ⟨group, ⟨hgroup, hleads.storedSecret, hmembership, hgrant⟩, hname⟩

end Store

theorem Session.exists_listedBothWays {s : Session} (hs : s.store.WellFormed) (journaled : Bool) {client : Client}
    (hclient : client ∈ (s.store.entities .client).values) {secret : Secret}
    (hsecret : secret ∈ (s.store.entities .secret).values) :
    ∃ readers entries clientGroups secretGroups,
      s.ListedBothWays journaled client secret readers entries clientGroups secretGroups := by
  have hclients : s.store.clientsForSecret secret.id ⊆ (s.store.entities .client).values :=
    fun row hrow => (hs.mem_clientsForSecret.1 hrow).1
  have hgroups (edge : EdgeKind) (endpoint : Given) :
      s.store.groupsOf edge endpoint ⊆ (s.store.entities .group).values :=
    fun row hrow => (hs.mem_groupsOf.1 hrow).1
  obtain ⟨entries, hentries, hlisting⟩ := answers_listing hs journaled client.id
  obtain ⟨readers, hreaders, hmem, hascend⟩ := hs.exists_distinct hclients
  obtain ⟨clientGroups, hmemberships, hmembership, hordered⟩ := hs.exists_distinct (hgroups .membership client.id)
  obtain ⟨secretGroups, hgrants, hgrant, _⟩ := hs.exists_distinct (hgroups .grant secret.id)
  have hstored : readers ⊆ (s.store.entities .client).values := fun row hrow => hclients ((hmem row).1 hrow)
  have hreader : (∃ reader ∈ readers, reader.id = client.id) ↔ client ∈ readers := by
    constructor
    · rintro ⟨reader, hreader, hid⟩
      rwa [← hs.eq_of_id (hstored hreader) hclient hid]
    · exact fun hreader => ⟨client, hreader, rfl⟩
  have hreach : (∃ reader ∈ readers, reader.id = client.id) ↔ ∃ group, s.store.LeadsTo client.id group secret := by
    rw [hreader, hmem, hs.mem_clientsForSecret_iff hclient hsecret]
  have hentry : (∃ group, s.store.LeadsTo client.id group secret) ↔ ∃ entry ∈ entries, entry.secret.id = secret.id := by
    constructor
    · rintro ⟨_, hleads⟩
      obtain ⟨entry, hentry, rfl⟩ := hlisting.all hleads
      exact ⟨entry, hentry, rfl⟩
    · rintro ⟨entry, hentry, hid⟩
      rw [← hlisting.secret_eq hs hsecret hentry hid]
      exact hlisting.reached entry hentry
  refine ⟨readers, entries, clientGroups, secretGroups, answers_clientsForSecret hreaders, hentries,
    answers_groupsForClient hmemberships, answers_groupsForSecret hgrants, hascend, hreach, hreach.trans hentry, ?_, ?_⟩
  · intro hread
    obtain ⟨entry, hlisted, hid⟩ := hentry.1 (hreach.1 hread)
    obtain rfl := hlisting.secret_eq hs hsecret hlisted hid
    exact ⟨hs.filter_id_eq hstored hascend (hreader.1 hread), hlisting.filter_secret_eq hs hlisted⟩
  · intro entry hlisted hid
    obtain rfl := hlisting.secret_eq hs hsecret hlisted hid
    exact hlisting.groups_eq hs hlisted hmembership hordered hgrant

namespace Queue

/-- After every serial run access reads the same from both sides, for every stored client and every stored
secret. -/
theorem converse_of_serially (now : Instant) (quiet : Bool) (events : List Event)
    (h : (make now quiet).Serially events) (journaled : Bool) {client : Client} {secret : Secret}
    (hclient : client ∈ (((make now quiet).run events).session.store.entities .client).values)
    (hsecret : secret ∈ (((make now quiet).run events).session.store.entities .secret).values) :
    ∃ readers entries clientGroups secretGroups,
      ((make now quiet).run events).session.ListedBothWays journaled client secret readers entries clientGroups
        secretGroups :=
  Session.exists_listedBothWays (sound_run (make_sound now quiet) h).rows journaled hclient hsecret

theorem converse_of_serially_twoGroups :
    let s := ((make 0 false).run twoGroups).session
    let row (kind : EntityKind) (id name : String) (traits : Traits kind) : Entity kind :=
      ⟨some id, some name, none, traits, "1970-01-01T00:00:00.000Z", none, "1970-01-01T00:00:00.000Z", none⟩
    let client : Client := row .client "c" "ci" ⟨some (.flag true)⟩
    let secret : Secret := row .secret "s" "token" ⟨none, some (.fields [])⟩
    (make 0 false).Serially twoGroups ∧ client ∈ (s.store.entities .client).values ∧
      secret ∈ (s.store.entities .secret).values ∧
      ∃ readers entries clientGroups secretGroups,
        s.ListedBothWays false client secret readers entries clientGroups secretGroups := by
  intro s row client secret
  have hclient : client ∈ (s.store.entities .client).values := by decide +kernel
  have hsecret : secret ∈ (s.store.entities .secret).values := by decide +kernel
  exact ⟨by decide, hclient, hsecret, converse_of_serially 0 false twoGroups (by decide) false hclient hsecret⟩

end Queue

end SecretAccess
