import SecretAccess.Proofs.Access.Answers
import SecretAccess.Proofs.Access.Distinct
import SecretAccess.Proofs.Access.Gather
import SecretAccess.Proofs.Access.Sorted
import SecretAccess.Proofs.Store.Joins
import SecretAccess.Proofs.Transaction.Serial

namespace SecretAccess

/-- A listing for a client: each secret to which some group leads it once and no other one, as it is stored,
with the names of all such groups. -/
structure Store.Listing (s : Store) (client : Given) (entries : List SanitizedSecret) : Prop where
  once : (entries.map (·.secret.id)).Nodup
  all : ∀ {group secret}, s.LeadsTo client group secret → ∃ entry ∈ entries, entry.secret = secret
  reached : ∀ entry ∈ entries, ∃ group, s.LeadsTo client group entry.secret
  groups : ∀ entry ∈ entries, ∀ name, name ∈ entry.groups ↔
    ∃ group, s.LeadsTo client group entry.secret ∧ group.name = name
  groupsAscend : ∀ entry ∈ entries, entry.groups.Pairwise Given.Below
  ascend : entries.Pairwise fun a b => a.secret.name.Below b.secret.name

theorem mapM_eq_ok_map {α β : Type} {f : α → Except Failure β} {g : α → β} {rows : List α}
    (h : ∀ row ∈ rows, f row = .ok (g row)) : rows.mapM f = .ok (rows.map g) := by
  induction rows with
  | nil => rfl
  | cons row rows ih =>
      have hrest := ih fun other hother => h other (List.mem_cons_of_mem _ hother)
      rw [List.mapM_cons, h row List.mem_cons_self, hrest]
      rfl

theorem head?_mapM_eq_ok_map {α β : Type} {f : α → Except Failure β} {g : α → β} {rows : List α}
    (h : ∀ row ∈ rows, f row = .ok (g row)) : rows.head?.mapM f = .ok (rows.map g).head? := by
  cases rows with
  | nil => rfl
  | cons row rows =>
      rw [List.head?_cons, Option.mapM_some, h row List.mem_cons_self]
      rfl

def Store.wantedPaths (s : Store) (client : Given) (test : Secret → Bool) : List SecretPath :=
  (s.pathsFrom client).filter fun path => test path.secret

structure Store.Collapsed (s : Store) (client : Given) (test : Secret → Bool) (reached : List ReachedSecret) :
    Prop where
  once : (reached.map (·.secret.id)).Nodup
  all : ∀ {group secret}, s.LeadsTo client group secret → test secret = true → ∃ r ∈ reached, r.secret = secret
  passes : ∀ r ∈ reached, test r.secret = true
  leads : ∀ r ∈ reached, ∃ group, s.LeadsTo client group r.secret
  names : ∀ r ∈ reached, ∀ name, name ∈ r.groupNames ↔
    ∃ group, s.LeadsTo client group r.secret ∧ group.name = name

theorem Sanitized.eq_of_ascend {α : Type} {entry twin : Sanitized α} (hsecret : entry.secret = twin.secret)
    (h : entry.groups.Pairwise Given.Below) (htwin : twin.groups.Pairwise Given.Below)
    (hnames : ∀ name, name ∈ entry.groups ↔ name ∈ twin.groups) : entry = twin := by
  obtain ⟨secret, groups⟩ := entry
  obtain ⟨_, others⟩ := twin
  cases hsecret
  have hgroups : groups = others := eq_of_below h htwin hnames
  rw [hgroups]

/-- An entry for a client: a secret to which some group leads it, with the names of all such groups in order. -/
structure Store.Shows (s : Store) (client : Given) (entry : SanitizedSecret) : Prop where
  leads : ∃ group, s.LeadsTo client group entry.secret
  names : ∀ name, name ∈ entry.groups ↔ ∃ group, s.LeadsTo client group entry.secret ∧ group.name = name
  ascend : entry.groups.Pairwise Given.Below

def ReachedSecret.listed (reached : ReachedSecret) : SanitizedSecret :=
  ⟨reached.secret, ascending reached.groupNames⟩

variable {s : Store}

theorem Store.WellFormed.mem_wantedPaths (h : s.WellFormed) {client : Given} {test : Secret → Bool} {path : SecretPath} :
    path ∈ s.wantedPaths client test ↔ test path.secret = true ∧
      ∃ group, s.LeadsTo client group path.secret ∧ path.groupId = group.id ∧ path.groupName = group.name := by
  rw [wantedPaths, List.mem_filter, h.mem_pathsFrom, and_comm]

theorem Store.WellFormed.gathered (h : s.WellFormed) (client : Given) (test : Secret → Bool) :
    s.Collapsed client test (gather (·.id) (s.wantedPaths client test)) := by
  have htext : ∀ path ∈ s.wantedPaths client test, path.Textual (·.id) := by
    intro path hpath
    obtain ⟨_, group, hleads, hid, _⟩ := h.mem_wantedPaths.1 hpath
    exact ⟨(h.isText hleads.storedSecret).1, hid ▸ (h.isText hleads.storedGroup).1⟩
  have hagree : GroupsAgree (s.wantedPaths client test) := by
    intro path hpath other hother hgroup
    obtain ⟨_, group, hleads, hid, hname⟩ := h.mem_wantedPaths.1 hpath
    obtain ⟨_, twin, htwin, hid', hname'⟩ := h.mem_wantedPaths.1 hother
    rw [hid, hid'] at hgroup
    rw [hname, hname', h.eq_of_id hleads.storedGroup htwin.storedGroup hgroup]
  obtain ⟨honce, hall, heach⟩ := gather_of_textual htext hagree
  have hreached : ∀ r ∈ gather (·.id) (s.wantedPaths client test),
      test r.secret = true ∧ ∃ group, s.LeadsTo client group r.secret := by
    intro r hr
    obtain ⟨path, hpath, hsecret⟩ := (heach r hr).1
    obtain ⟨hpasses, group, hleads, _⟩ := h.mem_wantedPaths.1 hpath
    exact ⟨hsecret ▸ hpasses, group, hsecret ▸ hleads⟩
  refine ⟨honce, ?_, fun r hr => (hreached r hr).1, fun r hr => (hreached r hr).2, fun r hr name => ?_⟩
  · intro group secret hleads hpasses
    obtain ⟨r, hr, hid⟩ := hall ⟨secret, group.id, group.name⟩ (h.mem_wantedPaths.2 ⟨hpasses, group, hleads, rfl, rfl⟩)
    obtain ⟨_, _, hstored⟩ := hreached r hr
    exact ⟨r, hr, h.eq_of_id hstored.storedSecret hleads.storedSecret hid⟩
  · rw [(heach r hr).2]
    obtain ⟨hpasses, _, hstored⟩ := hreached r hr
    constructor
    · rintro ⟨path, hpath, hid, hname⟩
      obtain ⟨_, group, hleads, _, hgroup⟩ := h.mem_wantedPaths.1 hpath
      rw [h.eq_of_id hleads.storedSecret hstored.storedSecret hid] at hleads
      exact ⟨group, hleads, hgroup.symm.trans hname⟩
    · rintro ⟨group, hleads, hname⟩
      exact ⟨⟨r.secret, group.id, group.name⟩, h.mem_wantedPaths.2 ⟨hpasses, group, hleads, rfl, rfl⟩, rfl, hname⟩

theorem Store.Collapsed.perm {client : Given} {test : Secret → Bool} {reached sorted : List ReachedSecret}
    (h : s.Collapsed client test reached) (hperm : sorted.Perm reached) : s.Collapsed client test sorted := by
  constructor
  · exact (hperm.map _).nodup_iff.2 h.once
  · intro group secret hleads hpasses
    obtain ⟨r, hr, hsecret⟩ := h.all hleads hpasses
    exact ⟨r, hperm.mem_iff.2 hr, hsecret⟩
  · exact fun r hr => h.passes r (hperm.mem_iff.1 hr)
  · exact fun r hr => h.leads r (hperm.mem_iff.1 hr)
  · exact fun r hr => h.names r (hperm.mem_iff.1 hr)

theorem Store.Collapsed.stored {client : Given} {test : Secret → Bool} {reached : List ReachedSecret}
    (h : s.Collapsed client test reached) {r : ReachedSecret} (hr : r ∈ reached) :
    r.secret ∈ (s.entities .secret).values := by
  obtain ⟨_, hleads⟩ := h.leads r hr
  exact hleads.storedSecret

section

variable {client : Given} {test : Secret → Bool} {reached : List ReachedSecret} {r : ReachedSecret}

theorem Store.Collapsed.names_isText (h : s.Collapsed client test reached) (hs : s.WellFormed) (hr : r ∈ reached) :
    ∀ name ∈ r.groupNames, name.IsText := by
  intro name hname
  obtain ⟨group, hleads, rfl⟩ := (h.names r hr name).1 hname
  exact (hs.isText hleads.storedGroup).2

theorem Store.Collapsed.sanitized (h : s.Collapsed client test reached) (hs : s.WellFormed) (hr : r ∈ reached) :
    r.sanitized = .ok r.listed := by
  rw [ReachedSecret.sanitized, sanitize_of_texts _ (h.names_isText hs hr), hs.copy_eq (h.stored hr)]
  rfl

theorem Store.Collapsed.shows (h : s.Collapsed client test reached) (hs : s.WellFormed) (hr : r ∈ reached) :
    s.Shows client r.listed :=
  ⟨h.leads r hr, fun name => mem_ascending.trans (h.names r hr name), ascending_below (h.names_isText hs hr)⟩

end

theorem Store.WellFormed.exists_collapsed (h : s.WellFormed) (client : Given) (test : Secret → Bool) :
    ∃ reached, collapsePaths (s.wantedPaths client test) = .ok reached ∧ s.Collapsed client test reached ∧
      reached.Pairwise fun a b => a.secret.name.Below b.secret.name := by
  have hgathered := h.gathered client test
  have hnames : ((gather (·.id) (s.wantedPaths client test)).map (·.secret.name)).Nodup :=
    (h.distinguished (List.Subset.refl _)).nodup_names (fun r hr => hgathered.stored hr) hgathered.once
  obtain ⟨reached, hsorted, hperm, hascend⟩ :=
    sortByName_of_texts (fun r hr => (h.isText (hgathered.stored hr)).2) hnames
  exact ⟨reached, hsorted, hgathered.perm hperm, hascend⟩

theorem Store.Collapsed.listing {client : Given} {reached : List ReachedSecret}
    (h : s.Collapsed client (fun _ => true) reached) (hs : s.WellFormed)
    (hascend : reached.Pairwise fun a b => a.secret.name.Below b.secret.name) :
    s.Listing client (reached.map ReachedSecret.listed) := by
  have hshows : ∀ entry ∈ reached.map ReachedSecret.listed, s.Shows client entry := by
    intro entry hentry
    obtain ⟨r, hr, rfl⟩ := List.mem_map.1 hentry
    exact h.shows hs hr
  constructor
  · rw [List.map_map]
    exact h.once
  · intro group secret hleads
    obtain ⟨r, hr, hsecret⟩ := h.all hleads rfl
    exact ⟨_, List.mem_map_of_mem hr, hsecret⟩
  · exact fun entry hentry => (hshows entry hentry).leads
  · exact fun entry hentry => (hshows entry hentry).names
  · exact fun entry hentry => (hshows entry hentry).ascend
  · exact List.pairwise_map.2 hascend

theorem Store.Shows.eq_of_secret {client : Given} {entry twin : SanitizedSecret} (h : s.Shows client entry)
    (htwin : s.Shows client twin) (hsecret : entry.secret = twin.secret) : entry = twin := by
  apply Sanitized.eq_of_ascend hsecret h.ascend htwin.ascend
  intro name
  rw [h.names, htwin.names, hsecret]

section

variable {client : Given} {entries : List SanitizedSecret} {entry : SanitizedSecret}

theorem Store.Listing.mem_iff (h : s.Listing client entries) : entry ∈ entries ↔ s.Shows client entry := by
  have hshows {entry : SanitizedSecret} (hentry : entry ∈ entries) : s.Shows client entry :=
    ⟨h.reached entry hentry, h.groups entry hentry, h.groupsAscend entry hentry⟩
  constructor
  · exact hshows
  · intro hentry
    obtain ⟨_, hleads⟩ := hentry.leads
    obtain ⟨twin, htwin, hsecret⟩ := h.all hleads
    rwa [← (hshows htwin).eq_of_secret hentry hsecret]

theorem Store.Listing.filter_eq (h : s.Listing client entries) (hs : s.WellFormed) {test : Secret → Bool}
    {reached : List ReachedSecret} (hreached : s.Collapsed client test reached)
    (hascend : reached.Pairwise fun a b => a.secret.name.Below b.secret.name) :
    entries.filter (fun entry => test entry.secret) = reached.map ReachedSecret.listed := by
  have hlisted : (reached.map ReachedSecret.listed).Pairwise fun a b => a.secret.name.Below b.secret.name :=
    List.pairwise_map.2 hascend
  apply eq_of_below (h.ascend.filter _) hlisted
  intro entry
  rw [List.mem_filter, h.mem_iff, List.mem_map]
  constructor
  · rintro ⟨hentry, hpasses⟩
    obtain ⟨_, hleads⟩ := hentry.leads
    obtain ⟨r, hr, hsecret⟩ := hreached.all hleads hpasses
    exact ⟨r, hr, (hreached.shows hs hr).eq_of_secret hentry hsecret⟩
  · rintro ⟨r, hr, rfl⟩
    exact ⟨hreached.shows hs hr, hreached.passes r hr⟩

end

theorem Store.WellFormed.exists_listing (h : s.WellFormed) (client : Given) :
    ∃ reached entries, collapsePaths (s.pathsFrom client) = .ok reached ∧
      reached.mapM ReachedSecret.sanitized = .ok entries ∧ s.Listing client entries := by
  obtain ⟨reached, hreached, hcollapsed, hascend⟩ := h.exists_collapsed client fun _ => true
  rw [wantedPaths, List.filter_true] at hreached
  exact ⟨reached, _, hreached, mapM_eq_ok_map fun r hr => hcollapsed.sanitized h hr, hcollapsed.listing h hascend⟩

theorem Session.run_sanitizedForClient (s : Session) (journaled : Bool) (client : Given)
    {reached : List ReachedSecret} {entries : List SanitizedSecret}
    (hreached : collapsePaths (s.store.pathsFrom client) = .ok reached)
    (hentries : reached.mapM ReachedSecret.sanitized = .ok entries) :
    (s.run journaled (.query (.sanitizedForClient client))).1 = .ok entries :=
  congrArg Prod.fst (answers_sanitizedForClient hreached hentries)

theorem Session.answers_listing {s : Session} (hs : s.store.WellFormed) (journaled : Bool) (client : Given) :
    ∃ entries, s.Answers journaled (.sanitizedForClient client) entries [] ∧ s.store.Listing client entries := by
  obtain ⟨reached, entries, hreached, hentries, hlisting⟩ := hs.exists_listing client
  exact ⟨entries, answers_sanitizedForClient hreached hentries, hlisting⟩

namespace Queue

/-- After every serial run the secrets that a client can read are listed, through whatever context it asks. -/
theorem listing_of_serially (now : Instant) (quiet : Bool) (events : List Event)
    (h : (make now quiet).Serially events) (journaled : Bool) (client : Given) :
    let s := ((make now quiet).run events).session
    ∃ entries, (s.run journaled (.query (.sanitizedForClient client))).1 = .ok entries ∧
      s.store.Listing client entries := by
  obtain ⟨reached, entries, hreached, hentries, hlisting⟩ :=
    (sound_run (make_sound now quiet) h).rows.exists_listing client
  exact ⟨entries, Session.run_sanitizedForClient _ journaled client hreached hentries, hlisting⟩

/-- A client reads one of two secrets through two groups. It was in a third one, which can read both. -/
def twoGroups : List Event :=
  let step (c : Call) : Event := .step (.call .autocommit c)
  let create (kind : EntityKind) (id name : String) : Event :=
    step (.request (.create kind (some (.fields [("id", .text id), ("name", .text name)]))))
  [create .client "c" "ci", create .group "g" "web", create .group "h" "ops", create .group "i" "all",
    create .secret "s" "token", create .secret "r" "key",
    step (.mutate false .enrollClient "c" "g"), step (.mutate false .enrollClient "c" "h"),
    step (.mutate false .enrollClient "c" "i"), step (.mutate false .evictClient "c" "i"),
    step (.mutate false .allowAccess "s" "g"), step (.mutate false .allowAccess "s" "h"),
    step (.mutate false .allowAccess "s" "i"), step (.mutate false .allowAccess "r" "i")]

theorem listing_of_serially_twoGroups : (make 0 true).Serially twoGroups ∧
    let s := ((make 0 true).run twoGroups).session
    ∃ entries, (s.run false (.query (.sanitizedForClient (some "c")))).1 = .ok entries ∧
      s.store.Listing (some "c") entries :=
  ⟨by decide, listing_of_serially 0 true twoGroups (by decide) false (some "c")⟩

end Queue

end SecretAccess
