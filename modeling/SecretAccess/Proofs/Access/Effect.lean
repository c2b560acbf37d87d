import SecretAccess.Proofs.Access.Listing
import SecretAccess.Proofs.Store.Edges

namespace SecretAccess

def Session.Reads (s : Session) (client secret : Given) : Prop :=
  ∃ entries, (s.run false (.query (.sanitizedForClient client))).1 = .ok entries ∧
    ∃ entry ∈ entries, entry.secret.id = secret

namespace Store

def Connects (s : Store) (client group secret : Given) : Prop :=
  s.Joined .membership client group ∧ s.Joined .grant secret group

/-- The group connects the two, and no other one does. -/
def OnlyConnects (s : Store) (client group secret : Given) : Prop :=
  s.Connects client group secret ∧ ∀ other, s.Connects client other secret → other = group

end Store

/-- Whether a client reads a secret once a request has succeeded, told from the state before it. -/
def Session.ReadsAfter (s : Session) (client secret : Given) : Request → Prop
  | .link .membership enrolled group =>
      s.Reads client secret ∨ client = enrolled ∧ s.store.Joined .grant secret group
  | .link .grant granted group =>
      s.Reads client secret ∨ secret = granted ∧ s.store.Joined .membership client group
  | .unlink .membership evicted group =>
      s.Reads client secret ∧ ¬(client = evicted ∧ s.store.OnlyConnects client group secret)
  | .unlink .grant revoked group =>
      s.Reads client secret ∧ ¬(secret = revoked ∧ s.store.OnlyConnects client group secret)
  | .delete .group group => s.Reads client secret ∧ ¬s.store.OnlyConnects client group secret
  | .delete .client deleted => s.Reads client secret ∧ client ≠ deleted
  | .delete .secret deleted => s.Reads client secret ∧ secret ≠ deleted
  | _ => s.Reads client secret

theorem Session.reads_iff {s : Session} (h : s.store.WellFormed) {client secret : Given} :
    s.Reads client secret ↔ ∃ group, s.store.Connects client group secret := by
  obtain ⟨reached, entries, hreached, hentries, hlisting⟩ := h.exists_listing client
  have hrun := s.run_sanitizedForClient false client hreached hentries
  constructor
  · rintro ⟨listed, hlisted, entry, hentry, rfl⟩
    cases Except.ok.inj (hrun.symm.trans hlisted)
    obtain ⟨group, hleads⟩ := hlisting.reached entry hentry
    exact ⟨group.id, hleads.membership, hleads.grant⟩
  · rintro ⟨_, hmembership, hgrant⟩
    obtain ⟨group, hgroup, rfl⟩ := h.exists_row hgrant (.inr ⟨rfl, rfl⟩)
    obtain ⟨row, hrow, rfl⟩ := h.exists_row hgrant (.inl ⟨rfl, rfl⟩)
    obtain ⟨entry, hentry, rfl⟩ := hlisting.all ⟨hgroup, hrow, hmembership, hgrant⟩
    exact ⟨entries, hrun, entry, hentry, rfl⟩

namespace Session

variable {s u : Session} {client secret group : Given} {gained lost : Prop}

theorem reads_congr (hs : s.store.WellFormed) (hu : u.store.WellFormed)
    (h : ∀ via, u.store.Connects client via secret ↔ s.store.Connects client via secret) :
    u.Reads client secret ↔ s.Reads client secret := by
  rw [reads_iff hs, reads_iff hu]
  exact exists_congr h

theorem reads_of_gained (group : Given) (hs : s.store.WellFormed) (hu : u.store.WellFormed)
    (h : ∀ via, u.store.Connects client via secret ↔ s.store.Connects client via secret ∨ gained ∧ via = group) :
    u.Reads client secret ↔ s.Reads client secret ∨ gained := by
  rw [reads_iff hs, reads_iff hu]
  simp only [h]
  constructor
  · rintro ⟨via, hold | ⟨hgained, _⟩⟩
    · exact .inl ⟨via, hold⟩
    · exact .inr hgained
  · rintro (⟨via, hold⟩ | hgained)
    · exact ⟨via, .inl hold⟩
    · exact ⟨group, .inr ⟨hgained, rfl⟩⟩

theorem reads_of_lost (hs : s.store.WellFormed) (hu : u.store.WellFormed)
    (h : ∀ via, u.store.Connects client via secret ↔ s.store.Connects client via secret ∧ ¬(lost ∧ via = group)) :
    u.Reads client secret ↔ s.Reads client secret ∧ ¬(lost ∧ s.store.OnlyConnects client group secret) := by
  rw [reads_iff hs, reads_iff hu]
  simp only [h]
  constructor
  · rintro ⟨via, hold, hkept⟩
    refine ⟨⟨via, hold⟩, ?_⟩
    rintro ⟨hlost, _, honly⟩
    exact hkept ⟨hlost, honly via hold⟩
  · rintro ⟨⟨via, hold⟩, hkept⟩
    -- if every connection was lost, they all went through the one group
    by_contra hnone
    have hall (other : Given) (hother : s.store.Connects client other secret) : lost ∧ other = group := by
      by_contra hstays
      exact hnone ⟨other, hother, hstays⟩
    obtain ⟨hlost, rfl⟩ := hall via hold
    exact hkept ⟨hlost, hold, fun other hother => (hall other hother).2⟩

theorem reads_of_all_lost (hs : s.store.WellFormed) (hu : u.store.WellFormed)
    (h : ∀ via, u.store.Connects client via secret ↔ s.store.Connects client via secret ∧ ¬lost) :
    u.Reads client secret ↔ s.Reads client secret ∧ ¬lost := by
  rw [reads_iff hs, reads_iff hu]
  simp only [h, exists_and_right]

theorem reads_of_link (hs : s.store.WellFormed) (hu : u.store.WellFormed) {edge : EdgeKind} {endpoint : Given}
    (hjoined : ∀ {other e g}, u.store.Joined other e g ↔
      s.store.Joined other e g ∨ other = edge ∧ e = endpoint ∧ g = group) :
    u.Reads client secret ↔ s.ReadsAfter client secret (.link edge endpoint group) := by
  cases edge with
  | membership =>
      apply reads_of_gained group hs hu
      intro via
      simp only [Store.Connects, hjoined, reduceCtorEq, false_and, or_false, true_and]
      grind
  | grant =>
      apply reads_of_gained group hs hu
      intro via
      simp only [Store.Connects, hjoined, reduceCtorEq, false_and, or_false, true_and]
      grind

theorem reads_of_unlink (hs : s.store.WellFormed) (hu : u.store.WellFormed) {edge : EdgeKind} {endpoint : Given}
    (hjoined : ∀ {other e g}, u.store.Joined other e g ↔
      s.store.Joined other e g ∧ ¬(other = edge ∧ e = endpoint ∧ g = group)) :
    u.Reads client secret ↔ s.ReadsAfter client secret (.unlink edge endpoint group) := by
  cases edge with
  | membership =>
      apply reads_of_lost hs hu
      intro via
      simp only [Store.Connects, hjoined, reduceCtorEq, false_and, not_false_eq_true, and_true, true_and]
      grind
  | grant =>
      apply reads_of_lost hs hu
      intro via
      simp only [Store.Connects, hjoined, reduceCtorEq, false_and, not_false_eq_true, and_true, true_and]
      grind

theorem reads_of_delete (hs : s.store.WellFormed) (hu : u.store.WellFormed) {kind : EntityKind} {id : Given}
    (hjoined : ∀ {other e g}, u.store.Joined other e g ↔
      s.store.Joined other e g ∧ ¬Store.IsEnd other kind id e g) :
    u.Reads client secret ↔ s.ReadsAfter client secret (.delete kind id) := by
  cases kind with
  | group =>
      rw [ReadsAfter, ← true_and (s.store.OnlyConnects client id secret)]
      apply reads_of_lost hs hu
      intro via
      simp only [Store.Connects, hjoined, Store.IsEnd, reduceCtorEq, false_and, false_or, true_and]
      grind
  | client =>
      apply reads_of_all_lost hs hu
      intro via
      simp only [Store.Connects, hjoined, Store.IsEnd, reduceCtorEq, false_and, or_false, not_false_eq_true,
        and_true, true_and]
      grind
  | secret =>
      apply reads_of_all_lost hs hu
      intro via
      simp only [Store.Connects, hjoined, Store.IsEnd, reduceCtorEq, false_and, or_false, not_false_eq_true,
        and_true, true_and]
      grind

theorem reads_asked (hs : s.store.WellFormed) {request : Request} (ht : request.Textual) {journaled : Bool}
    (hasked : s.Asked journaled request u) {reply : request.Answer}
    (hok : (s.store.answer s.clock request).answer = .ok reply) :
    u.Reads client secret ↔ s.ReadsAfter client secret request := by
  have hu : u.store.WellFormed := hasked.store ▸ hs.answer s.clock ht
  cases request with
  | link edge endpoint group =>
      apply reads_of_link hs hu
      intro other e g
      have hlinked : (s.store.link s.clock edge endpoint group).answer = .ok () := hok
      rw [hasked.store, Store.answer, hs.joined_link s.clock edge ht.1 ht.2, hlinked]
      simp only [and_true]
  | unlink edge endpoint group =>
      apply reads_of_unlink hs hu
      intro other e g
      rw [hasked.store, Store.answer, hs.joined_unlink edge ht.1 ht.2]
  | delete kind id =>
      apply reads_of_delete hs hu
      intro other e g
      rw [hasked.store, Store.answer, hs.joined_delete kind ht]
  | create kind input =>
      apply reads_congr hs hu
      intro via
      simp only [Store.Connects, hasked.store, Store.answer, Store.createAsked]
      split
      · simp only [Store.joined_create]
      · rfl
  | get | getByName | list | groupsOf | endpointsOf | clientsForSecret | secretPaths | linked | count =>
      apply reads_congr hs hu
      intro via
      rw [hasked.store]
      rfl

end Session

namespace Queue

/-- In every state of a serial run, each call that succeeds, through whatever context, gives or takes exactly
the pairs that its request says. -/
theorem reads_of_serially (now : Instant) (quiet : Bool) (events : List Event)
    (h : (make now quiet).Serially events) (journaled : Bool) (call : Call) (ht : call.Textual)
    (request : Request) (hasks : call.asks = some request) (answer : call.Answer)
    (hok : (((make now quiet).run events).session.run journaled call).1 = .ok answer) (client secret : Given) :
    (((make now quiet).run events).session.run journaled call).2.Reads client secret ↔
      ((make now quiet).run events).session.ReadsAfter client secret request := by
  obtain ⟨⟨reply, hreply⟩, hasked⟩ := Session.asked_of_run_eq_ok hasks hok
  exact Session.reads_asked (sound_run (make_sound now quiet) h).rows (Call.textual_of_asks hasks ht) hasked hreply

set_option maxRecDepth 2000 in
theorem reads_of_serially_evicted :
    let s := ((make 0 true).run twoGroups).session
    let evict : Call := .mutate true .evictClient (some "c") (some "g")
    (make 0 true).Serially twoGroups ∧ (s.run false evict).1 = .ok () ∧
      ((s.run false evict).2.Reads (some "c") (some "s") ↔
        s.Reads (some "c") (some "s") ∧
          ¬((some "c" : Given) = some "c" ∧ s.store.OnlyConnects (some "c") (some "g") (some "s"))) := by
  intro s evict
  have hserially : (make 0 true).Serially twoGroups := by decide
  have hok : (s.run false evict).1 = .ok () := by rfl
  refine ⟨hserially, hok, ?_⟩
  exact reads_of_serially 0 true twoGroups hserially false evict trivial _ rfl () hok (some "c") (some "s")

end Queue

end SecretAccess
