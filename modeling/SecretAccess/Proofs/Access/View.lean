import SecretAccess.Proofs.Access.Lookup

namespace SecretAccess

namespace Store

/-- A client is in the same groups elsewhere, by id and name, and no secret is taken from these there. -/
def VisibleIn (s u : Store) (client : Given) : Prop :=
  ∀ group ∈ (s.entities .group).values, s.Joined .membership client group.id →
    (∃ twin ∈ (u.entities .group).values,
      u.Joined .membership client twin.id ∧ twin.id = group.id ∧ twin.name = group.name) ∧
    ∀ secret ∈ (s.entities .secret).values, s.Joined .grant secret.id group.id →
      secret ∈ (u.entities .secret).values ∧ u.Joined .grant secret.id group.id

instance (s : Store) (edge : EdgeKind) (endpoint group : Given) : Decidable (s.Joined edge endpoint group) :=
  inferInstanceAs (Decidable (∃ row ∈ (s.edges edge).values, _))

instance (s u : Store) (client : Given) : Decidable (s.VisibleIn u client) :=
  inferInstanceAs (Decidable (∀ group ∈ (s.entities .group).values, _))

variable {s u : Store} {client : Given}

theorem LeadsTo.visible {group : Group} {secret : Secret} (hleads : s.LeadsTo client group secret)
    (h : s.VisibleIn u client) : ∃ twin, u.LeadsTo client twin secret ∧ twin.name = group.name := by
  obtain ⟨⟨twin, htwin, hmembership, hid, hname⟩, hsecrets⟩ := h group hleads.storedGroup hleads.membership
  obtain ⟨hsecret, hgrant⟩ := hsecrets secret hleads.storedSecret hleads.grant
  exact ⟨twin, ⟨htwin, hsecret, hmembership, hid ▸ hgrant⟩, hname⟩

theorem Shows.visible {entry : SanitizedSecret} (h : s.Shows client entry) (hsu : s.VisibleIn u client)
    (hus : u.VisibleIn s client) : u.Shows client entry := by
  constructor
  · obtain ⟨_, hleads⟩ := h.leads
    obtain ⟨twin, htwin, _⟩ := hleads.visible hsu
    exact ⟨twin, htwin⟩
  · intro name
    rw [h.names]
    constructor
    · rintro ⟨_, hleads, rfl⟩
      exact hleads.visible hsu
    · rintro ⟨_, hleads, rfl⟩
      exact hleads.visible hus
  · exact h.ascend

theorem Listing.eq_of_visible {entries others : List SanitizedSecret} (h : s.Listing client entries)
    (h' : u.Listing client others) (hsu : s.VisibleIn u client) (hus : u.VisibleIn s client) : entries = others := by
  apply eq_of_below h.ascend h'.ascend
  intro entry
  rw [h.mem_iff, h'.mem_iff]
  constructor
  · exact fun hentry => hentry.visible hsu hus
  · exact fun hentry => hentry.visible hus hsu

end Store

namespace Session

def AnswerAlike (s u : Session) (journaled : Bool) (query : AccessQuery) : Prop :=
  ∃ answer entries, s.Answers journaled query answer entries ∧ u.Answers journaled query answer entries

def Unreachable (s : Session) (client : Given) (name : String) : Prop :=
  ∀ group secret, s.store.LeadsTo client group secret → secret.name ≠ some (.text name)

/-- Two well-formed stores answer a client alike if they agree on its groups and on what is granted to these.
What it cannot reach by a name is answered in one way, be it stored or not. -/
theorem answerAlike_of_visibleIn {s u : Session} (hs : s.store.WellFormed) (hu : u.store.WellFormed)
    {client : Given} (hsu : s.store.VisibleIn u.store client) (hus : u.store.VisibleIn s.store client)
    (journaled : Bool) :
    (∃ entries, s.store.Listing client entries ∧ s.Answers journaled (.sanitizedForClient client) entries [] ∧
        u.Answers journaled (.sanitizedForClient client) entries []) ∧
      (∀ name, s.AnswerAlike u journaled (.secretFor client name) ∧
        s.AnswerAlike u journaled (.sanitizedFor client name)) ∧
      ∀ name : String, s.Unreachable client name →
        s.Answers journaled (.secretFor client name) none [noPathEntry client name] ∧
        s.Answers journaled (.sanitizedFor client name) none [noPathEntry client name] := by
  obtain ⟨entries, hentries, hlisting⟩ := answers_listing hs journaled client
  obtain ⟨others, hothers, hlisting'⟩ := answers_listing hu journaled client
  obtain rfl := hlisting.eq_of_visible hlisting' hsu hus
  refine ⟨⟨entries, hlisting, hentries, hothers⟩, fun name => ?_, fun name hnone => ?_⟩
  · have hfound : entries.find? (·.secret.wanted name) = entries.find? (·.secret.wanted name) := rfl
    obtain ⟨hsanitized, hsecret⟩ := answers_lookup hs hlisting journaled hfound
    obtain ⟨hsanitized', hsecret'⟩ := answers_lookup hu hlisting' journaled hfound
    exact ⟨⟨_, _, hsecret, hsecret'⟩, ⟨_, _, hsanitized, hsanitized'⟩⟩
  · have hfound : entries.find? (·.secret.wanted (some (.text name))) = none := by
      rw [List.find?_eq_none]
      intro entry hentry hwanted
      obtain ⟨group, hleads⟩ := hlisting.reached entry hentry
      rw [Secret.wanted_text, decide_eq_true_iff] at hwanted
      exact hnone group entry.secret hleads hwanted
    obtain ⟨hsanitized, hsecret⟩ := answers_lookup hs hlisting journaled hfound
    exact ⟨hsecret, hsanitized⟩

end Session

namespace Queue

def sharedGroups : List Event :=
  let step (c : Call) : Event := .step (.call .autocommit c)
  let create (kind : EntityKind) (id name : String) : Event :=
    step (.request (.create kind (some (.fields [("id", .text id), ("name", .text name)]))))
  [create .secret "s" "token", create .group "h" "ops", create .group "g" "web", create .client "d" "cd",
    create .client "c" "ci", step (.mutate false .allowAccess "s" "h"), step (.mutate false .allowAccess "s" "g"),
    step (.mutate false .enrollClient "d" "g"), step (.mutate false .enrollClient "c" "h"),
    step (.mutate false .enrollClient "c" "g")]

theorem answerAlike_of_visibleIn_sharedGroups :
    let s := ((make 0 false).run twoGroups).session
    let u := ((make 0 false).run sharedGroups).session
    s.store.WellFormed ∧ u.store.WellFormed ∧ s.store.VisibleIn u.store (some "c") ∧
      u.store.VisibleIn s.store (some "c") ∧
      (∃ entries, s.store.Listing (some "c") entries ∧ s.Answers false (.sanitizedForClient (some "c")) entries [] ∧
        u.Answers false (.sanitizedForClient (some "c")) entries []) ∧
      (∀ name, s.AnswerAlike u false (.secretFor (some "c") name) ∧
        s.AnswerAlike u false (.sanitizedFor (some "c") name)) ∧
      ∀ name : String, s.Unreachable (some "c") name →
        s.Answers false (.secretFor (some "c") name) none [noPathEntry (some "c") name] ∧
        s.Answers false (.sanitizedFor (some "c") name) none [noPathEntry (some "c") name] := by
  intro s u
  have hs : s.store.WellFormed := (sound_run (make_sound 0 false) (by decide : Serially _ twoGroups)).rows
  have hu : u.store.WellFormed := (sound_run (make_sound 0 false) (by decide : Serially _ sharedGroups)).rows
  have hsu : s.store.VisibleIn u.store (some "c") := by decide
  have hus : u.store.VisibleIn s.store (some "c") := by decide
  exact ⟨hs, hu, hsu, hus, Session.answerAlike_of_visibleIn hs hu hsu hus false⟩

end Queue

end SecretAccess
