import SecretAccess.Proofs.Access.Effect
import SecretAccess.Proofs.Access.Lookup

namespace SecretAccess

namespace Session

variable {s t u : Session} {client : Given} {ids : List Given}

/-- A client is taken out of some groups, one after another, by whatever calls ask the store for that. -/
inductive Evicts (client : Given) : Session → List Given → Session → Prop
  | nil (s : Session) : Evicts client s [] s
  | cons {s u : Session} {group : Given} {ids : List Given} {journaled : Bool} {call : Call} {answer : call.Answer}
      (asks : call.asks = some (.unlink .membership client group))
      (succeeds : (s.run journaled call).1 = .ok answer)
      (others : Evicts client (s.run journaled call).2 ids u) : Evicts client s (group :: ids) u

theorem exists_evicts (client : Given) (ids : List Given) : ∀ s : Session, ∃ u, Evicts client s ids u := by
  induction ids with
  | nil => exact fun s => ⟨s, .nil s⟩
  | cons group ids ih =>
      intro s
      have hok : (s.run false (.request (.unlink .membership client group))).1 = .ok () := by
        rcases s.store.unlink_cases .membership client group with ⟨_, hu⟩ | ⟨_, _, hu⟩
        · exact congrArg Outcome.answer hu
        · exact congrArg Outcome.answer hu
      obtain ⟨u, hu⟩ := ih (s.run false (.request (.unlink .membership client group))).2
      exact ⟨u, .cons rfl hok hu⟩

/-- Only the memberships of the client in these groups are gone. -/
structure Evicted (client : Given) (s : Session) (ids : List Given) (u : Session) : Prop where
  rows : u.store.WellFormed
  entities : ∀ kind, u.store.entities kind = s.store.entities kind
  joined : ∀ {edge endpoint group}, u.store.Joined edge endpoint group ↔
    s.store.Joined edge endpoint group ∧ ¬(edge = .membership ∧ endpoint = client ∧ group ∈ ids)

theorem Evicts.evicted (h : Evicts client s ids u) (hs : s.store.WellFormed) (hclient : client.IsText)
    (hids : ∀ id ∈ ids, id.IsText) : Evicted client s ids u := by
  induction h with
  | nil s => exact ⟨hs, fun _ => rfl, by simp⟩
  | @cons s u group ids journaled call answer asks succeeds others ih =>
      have hgroup : group.IsText := hids group List.mem_cons_self
      obtain ⟨_, hasked⟩ := asked_of_run_eq_ok asks succeeds
      have hstore : (s.run journaled call).2.store = (s.store.unlink .membership client group).store := hasked.store
      have hfirst : (s.run journaled call).2.store.WellFormed := hstore ▸ hs.unlink .membership client group
      obtain ⟨hrows, hentities, hjoined⟩ := ih hfirst fun id hid => hids id (List.mem_cons_of_mem _ hid)
      refine ⟨hrows, fun kind => ?_, fun {edge endpoint other} => ?_⟩
      · rw [hentities, hstore, Store.entities_unlink]
      · rw [hjoined, hstore, hs.joined_unlink .membership hclient hgroup, List.mem_cons]
        tauto

theorem Evicted.leadsTo_iff (h : Evicted client s ids u) {group : Group} {secret : Secret} :
    u.store.LeadsTo client group secret ↔ s.store.LeadsTo client group secret ∧ group.id ∉ ids := by
  constructor
  · rintro ⟨hgroup, hsecret, hmembership, hgrant⟩
    rw [h.entities] at hgroup hsecret
    rw [h.joined] at hmembership hgrant
    exact ⟨⟨hgroup, hsecret, hmembership.1, hgrant.1⟩, fun hid => hmembership.2 ⟨rfl, rfl, hid⟩⟩
  · rintro ⟨⟨hgroup, hsecret, hmembership, hgrant⟩, hid⟩
    rw [← h.entities] at hgroup hsecret
    exact ⟨hgroup, hsecret, h.joined.2 ⟨hmembership, fun hgone => hid hgone.2.2⟩,
      h.joined.2 ⟨hgrant, fun hgone => nomatch hgone.1⟩⟩

section

variable {groups : List Group} {entry : SanitizedSecret}

theorem Evicted.leadsTo_iff_name (h : Evicted client s (groups.map (·.id)) u) (hs : s.store.WellFormed)
    (hgroups : ∀ group ∈ groups, group ∈ (s.store.entities .group).values) {group : Group} {secret : Secret} :
    u.store.LeadsTo client group secret ↔
      s.store.LeadsTo client group secret ∧ group.name ∉ groups.map (·.name) := by
  rw [h.leadsTo_iff, and_congr_right_iff]
  intro hleads
  have hmem : group.id ∈ groups.map (·.id) ↔ group.name ∈ groups.map (·.name) := by
    rw [List.mem_map, List.mem_map]
    constructor
    · rintro ⟨twin, htwin, hid⟩
      exact ⟨twin, htwin, congrArg Entity.name (hs.eq_of_id (hgroups twin htwin) hleads.storedGroup hid)⟩
    · rintro ⟨twin, htwin, hname⟩
      exact ⟨twin, htwin, congrArg Entity.id (hs.eq_of_name (hgroups twin htwin) hleads.storedGroup hname)⟩
  rw [hmem]

variable (h : Evicted client s (groups.map (·.id)) u) (hs : s.store.WellFormed)
  (hgroups : ∀ group ∈ groups, group ∈ (s.store.entities .group).values) (hshows : s.store.Shows client entry)

include h hs hgroups hshows

theorem Evicted.shows_rest (hrest : ¬entry.groups ⊆ groups.map (·.name)) :
    u.store.Shows client { entry with groups := entry.groups.filter (· ∉ groups.map (·.name)) } := by
  refine ⟨?_, fun name => ?_, hshows.ascend.filter _⟩
  · rw [List.subset_def] at hrest
    push Not at hrest
    obtain ⟨name, hname, hkept⟩ := hrest
    obtain ⟨group, hleads, rfl⟩ := (hshows.names name).1 hname
    exact ⟨group, (h.leadsTo_iff_name hs hgroups).2 ⟨hleads, hkept⟩⟩
  · rw [List.mem_filter, hshows.names, decide_eq_true_iff]
    constructor
    · rintro ⟨⟨group, hleads, rfl⟩, hkept⟩
      exact ⟨group, (h.leadsTo_iff_name hs hgroups).2 ⟨hleads, hkept⟩, rfl⟩
    · rintro ⟨group, hleads, rfl⟩
      obtain ⟨hled, hkept⟩ := (h.leadsTo_iff_name hs hgroups).1 hleads
      exact ⟨⟨group, hled, rfl⟩, hkept⟩

theorem Evicted.shows_none (hall : entry.groups ⊆ groups.map (·.name)) {twin : SanitizedSecret}
    (htwin : u.store.Shows client twin) : twin.secret.name ≠ entry.secret.name := by
  intro hname
  obtain ⟨group, hleads⟩ := htwin.leads
  obtain ⟨hled, hkept⟩ := (h.leadsTo_iff_name hs hgroups).1 hleads
  obtain ⟨_, hother⟩ := hshows.leads
  rw [hs.eq_of_name hled.storedSecret hother.storedSecret hname] at hled
  exact hkept (hall ((hshows.names _).2 ⟨group, hled, rfl⟩))

end

end Session

theorem Store.Shows.exists_groups {s : Store} {client : Given} {entry : SanitizedSecret} (h : s.Shows client entry)
    {names : List Given} (hnames : names ⊆ entry.groups) : ∃ groups : List Group,
      groups.map (·.name) = names ∧ ∀ group ∈ groups, s.LeadsTo client group entry.secret := by
  induction names with
  | nil => exact ⟨[], rfl, by simp⟩
  | cons name names ih =>
      obtain ⟨group, hleads, rfl⟩ := (h.names name).1 (hnames List.mem_cons_self)
      obtain ⟨groups, rfl, hgroups⟩ := ih (List.subset_of_cons_subset hnames)
      exact ⟨group :: groups, rfl, List.forall_mem_cons.2 ⟨hleads, hgroups⟩⟩

namespace Session

variable {s u : Session}

theorem exists_answers_shown (hs : s.store.WellFormed) (journaled : Bool) (client : Given) (name : String) :
    ∃ found, s.Answers journaled (.sanitizedFor client name) found (missed client name found.isNone) ∧
      ∀ entry, found = some entry ↔ s.store.Shows client entry ∧ entry.secret.name = some (.text name) := by
  obtain ⟨entries, found, series, hlookup⟩ := exists_looksUp hs journaled client name
  refine ⟨found, hlookup.sanitized, fun entry => ?_⟩
  rw [← Option.mem_toList, ← hlookup.listed, List.mem_filter, hlookup.reaches.mem_iff, decide_eq_true_iff]

theorem Evicted.run_sanitizedFor {client : Given} {groups : List Group} {entry : SanitizedSecret} {name : String}
    (h : Evicted client s (groups.map (·.id)) u) (hs : s.store.WellFormed)
    (hgroups : ∀ group ∈ groups, group ∈ (s.store.entities .group).values) (hshows : s.store.Shows client entry)
    (hname : entry.secret.name = some (.text name)) (journaled : Bool) :
    (u.run journaled (.query (.sanitizedFor client name))).1 = .ok
      (if entry.groups ⊆ groups.map (·.name) then none
        else some { entry with groups := entry.groups.filter (· ∉ groups.map (·.name)) }) := by
  obtain ⟨found, hfound, hshown⟩ := exists_answers_shown h.rows journaled client name
  have hanswer : (u.run journaled (.query (.sanitizedFor client name))).1 = .ok found := congrArg Prod.fst hfound
  rw [hanswer]
  split
  · rename_i hall
    cases found with
    | none => rfl
    | some twin =>
        obtain ⟨htwin, hsame⟩ := (hshown twin).1 rfl
        exact absurd (hsame.trans hname.symm) (h.shows_none hs hgroups hshows hall htwin)
  · rename_i hrest
    rw [(hshown _).2 ⟨h.shows_rest hs hgroups hshows hrest, hname⟩]

end Session

namespace Queue

/-- After every serial run, the groups that a lookup names are stored under their names, and they are the reasons for
access: taken out of some of them the client finds the secret through the others, and out of all it finds none. -/
theorem reasons_of_serially (now : Instant) (quiet : Bool) (events : List Event)
    (h : (make now quiet).Serially events) (journaled : Bool) (client : Given) (name : String)
    (entry : SanitizedSecret) (names : List Given) :
    let s := ((make now quiet).run events).session
    (s.run journaled (.query (.sanitizedFor client name))).1 = .ok (some entry) → names ⊆ entry.groups →
    ∃ groups : List Group, groups.map (·.name) = names ∧
      (∀ group ∈ groups, group ∈ (s.store.entities .group).values ∧
        s.run journaled (.request (.getByName .group group.name)) = (.ok (some group), s)) ∧
      (∃ u, Session.Evicts client s (groups.map (·.id)) u) ∧
      ∀ u, Session.Evicts client s (groups.map (·.id)) u → ∀ journaled,
        (u.run journaled (.query (.sanitizedFor client name))).1 = .ok
          (if entry.groups ⊆ names then none
            else some { entry with groups := entry.groups.filter (· ∉ names) }) := by
  intro s hentry hnames
  have hs : s.store.WellFormed := (sound_run (make_sound now quiet) h).rows
  obtain ⟨found, hfound, hshown⟩ := Session.exists_answers_shown hs journaled client name
  cases Except.ok.inj ((congrArg Prod.fst hfound).symm.trans hentry)
  obtain ⟨hshows, hname⟩ := (hshown entry).1 rfl
  obtain ⟨groups, rfl, hleads⟩ := hshows.exists_groups hnames
  have hstored : ∀ group ∈ groups, group ∈ (s.store.entities .group).values :=
    fun group hgroup => (hleads group hgroup).storedGroup
  refine ⟨groups, rfl, fun group hgroup => ⟨hstored group hgroup, ?_⟩, Session.exists_evicts client _ s,
    fun u hu journaled => ?_⟩
  · obtain ⟨text, htext⟩ := (hs.isText (hstored group hgroup)).2
    rw [htext]
    exact Session.ask_apply s journaled rfl (congrArg Except.ok (hs.getByName?_eq (hstored group hgroup) htext))
  · obtain ⟨_, hled⟩ := hshows.leads
    have hids : ∀ id ∈ groups.map (·.id), id.IsText :=
      List.forall_mem_map.2 fun group hgroup => (hs.isText (hstored group hgroup)).1
    exact (hu.evicted hs (hs.isText_of_joined hled.membership).1 hids).run_sanitizedFor hs hstored hshows hname
      journaled

theorem reasons_of_serially_twoGroups :
    let s := ((make 0 true).run twoGroups).session
    let lookup : Call := .query (.sanitizedFor (some "c") "token")
    let names : List Given := ["web"]
    (make 0 true).Serially twoGroups ∧ ∃ entry : SanitizedSecret,
      (s.run false lookup).1 = .ok (some entry) ∧ names ⊆ entry.groups ∧ ¬entry.groups ⊆ names ∧
      ∃ groups : List Group, groups.map (·.name) = names ∧
        (∃ u, Session.Evicts (some "c") s (groups.map (·.id)) u) ∧
        ∀ u, Session.Evicts (some "c") s (groups.map (·.id)) u →
          (u.run true lookup).1 = .ok (some { entry with groups := entry.groups.filter (· ∉ names) }) := by
  intro s lookup names
  have hserially : (make 0 true).Serially twoGroups := by decide
  have hs : s.store.WellFormed := (sound_run (make_sound 0 true) hserially).rows
  let web : Group := (s.store.get? .group (some "g")).get (by decide)
  let ops : Group := (s.store.get? .group (some "h")).get (by decide)
  let token : Secret := (s.store.get? .secret (some "s")).get (by decide)
  have hweb : s.store.LeadsTo (some "c") web token :=
    ⟨by decide, by decide, (by decide : ∃ row ∈ _, _), (by decide : ∃ row ∈ _, _)⟩
  have hops : s.store.LeadsTo (some "c") ops token :=
    ⟨by decide, by decide, (by decide : ∃ row ∈ _, _), (by decide : ∃ row ∈ _, _)⟩
  obtain ⟨entries, _, hlisting⟩ := Session.answers_listing hs false (some "c")
  obtain ⟨entry, hlisted, hsecret⟩ := hlisting.all hweb
  have hshows := hlisting.mem_iff.1 hlisted
  obtain ⟨found, hfound, hshown⟩ := Session.exists_answers_shown hs false (some "c") "token"
  cases (hshown entry).2 ⟨hshows, by rw [hsecret]; decide⟩
  have hentry : (s.run false lookup).1 = .ok (some entry) := congrArg Prod.fst hfound
  have hnames : names ⊆ entry.groups :=
    List.cons_subset.2 ⟨(hshows.names _).2 ⟨web, hsecret ▸ hweb, by decide⟩, List.nil_subset _⟩
  have hrest : ¬entry.groups ⊆ names := fun hall =>
    absurd (hall ((hshows.names _).2 ⟨ops, hsecret ▸ hops, rfl⟩)) (by decide)
  obtain ⟨groups, hgroups, _, hevicts, hall⟩ :=
    reasons_of_serially 0 true twoGroups hserially false (some "c") "token" entry names hentry hnames
  refine ⟨hserially, entry, hentry, hnames, hrest, groups, hgroups, hevicts, fun u hu => ?_⟩
  rw [hall u hu true, if_neg hrest]

end Queue

end SecretAccess
