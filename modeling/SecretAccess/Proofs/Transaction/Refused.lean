import SecretAccess.Proofs.Access.Answers
import SecretAccess.Proofs.Text.Order

namespace SecretAccess

theorem Instant.toText?_eq_none_iff {now : Instant} : now.toText? = none ↔ now.inRange = false := by
  unfold toText?
  cases now.inRange <;> simp

namespace Store

def drawing (s : Store) (draws : Bool) : Store := { s with issued := s.issued + draws.toNat }

/-- Why a create fails. Each reason stands only where those before it do not. -/
inductive CreateFails (s : Store) (now : Instant) (kind : EntityKind) (id name : Given) : Failure → Prop
  | taken (stored : s.contains kind id = true) :
      CreateFails s now kind id name (.duplicate s!"{kind.tableName}_pkey")
  | named (free : s.contains kind id = false) {row : Entity kind} (stored : row ∈ (s.entities kind).values)
      (same : row.name.sameAs name = true) :
      CreateFails s now kind id name (.duplicate s!"{kind.tableName}_name_unique")
  | timeless (free : s.contains kind id = false)
      (fresh : ∀ row ∈ (s.entities kind).values, row.name.sameAs name = false) (late : now.inRange = false) :
      CreateFails s now kind id name .invalidInstant

inductive LinkFails (s : Store) (now : Instant) (edge : EdgeKind) (endpoint group : Given) : Failure → Prop
  | endpoint (missing : s.contains edge.endpoint endpoint = false) :
      LinkFails s now edge endpoint group (danglingEndpoint edge)
  | group (stored : s.contains edge.endpoint endpoint = true) (missing : s.contains .group group = false) :
      LinkFails s now edge endpoint group (danglingGroup edge)
  | timeless (stored : s.contains edge.endpoint endpoint = true) (storedGroup : s.contains .group group = true)
      (absent : s.linked edge endpoint group = false) (late : now.inRange = false) :
      LinkFails s now edge endpoint group .invalidInstant

variable {s : Store} {now : Instant} {failure : Failure}

theorem contains_eq_false_iff {kind : EntityKind} {id : Given} :
    s.contains kind id = false ↔ s.get? kind id = none :=
  Option.isSome_eq_false_iff.trans Option.isNone_iff_eq_none

theorem drawing_false (s : Store) : s.drawing false = s := rfl

theorem drawId_eq_drawing (s : Store) (kind : EntityKind) (asked : Given) :
    (s.drawId kind asked).2 = s.drawing asked.present.isNone := by
  unfold drawId
  split <;> rename_i hasked <;> rw [hasked] <;> rfl

theorem create_of_error {kind : EntityKind} {draft : Draft kind} (h : (s.create now draft).answer = .error failure) :
    s.create now draft = .unchanged (s.drawing draft.id.present.isNone) (.error failure) := by
  rcases create_cases s now draft with ⟨other, hc⟩ | ⟨id, drawn, stamp, _, _, _, hc⟩
  · rw [hc] at h
    cases h
    rw [hc, drawId_eq_drawing]
  · rw [hc] at h
    cases h

theorem answer_of_error {request : Request} (h : (s.answer now request).answer = .error failure) :
    s.answer now request = .unchanged (s.drawing request.draws) (.error failure) := by
  cases request with
  | create kind input =>
      simp only [answer, createAsked, Request.draws] at h ⊢
      cases hpart : input.part "id" with
      | ok asked =>
          rw [hpart] at h
          exact create_of_error h
      | error other =>
          rw [hpart] at h
          cases h
          rfl
  | delete kind id =>
      rcases delete_cases s kind id with ⟨_, hd⟩ | ⟨_, _, hd⟩ <;> rw [answer, hd] at h <;> cases h
  | link edge endpoint group =>
      rcases link_cases s now edge endpoint group with ⟨answer, hl⟩ | ⟨_, _, _, _, hl⟩
      · rw [Store.answer, hl] at h ⊢
        exact congrArg (Outcome.unchanged s) h
      · rw [Store.answer, hl] at h
        cases h
  | unlink edge endpoint group =>
      rcases unlink_cases s edge endpoint group with ⟨_, hu⟩ | ⟨_, _, hu⟩ <;> rw [answer, hu] at h <;> cases h
  | get | getByName | list | groupsOf | endpointsOf | clientsForSecret | secretPaths | linked | count =>
      exact congrArg (Outcome.unchanged s) h

theorem createRefusal_drawing (s : Store) (draws : Bool) (kind : EntityKind) (id name : Given) :
    (s.drawing draws).createRefusal kind id name = s.createRefusal kind id name := by
  cases kind <;> rfl

theorem error_iff_of_reason {α : Type} {answer : Except Failure α} {Fails : Failure → Prop}
    (hfails : ∀ {other}, Fails other → answer = .error other)
    (hreason : answer = .error failure → ∃ other, Fails other) : answer = .error failure ↔ Fails failure := by
  refine ⟨fun h => ?_, hfails⟩
  obtain ⟨other, hother⟩ := hreason h
  cases h.symm.trans (hfails hother)
  exact hother

theorem create_eq_error_iff {kind : EntityKind} {draft : Draft kind} :
    (s.create now draft).answer = .error failure ↔
      s.CreateFails now kind (s.drawId kind draft.id).1 draft.name failure := by
  have hrefusal := s.createRefusal_drawing draft.id.present.isNone kind (s.drawId kind draft.id).1 draft.name
  rw [← s.drawId_eq_drawing kind] at hrefusal
  have hrefused {other : Failure} (h : s.createRefusal kind (s.drawId kind draft.id).1 draft.name = some other) :
      (s.create now draft).answer = .error other := by
    simp only [create, hrefusal, h]
    rfl
  have hfails {other : Failure} (h : s.CreateFails now kind (s.drawId kind draft.id).1 draft.name other) :
      (s.create now draft).answer = .error other := by
    cases h with
    | taken stored => exact hrefused (by simp [createRefusal, stored])
    | @named free row stored same =>
        exact hrefused (by simpa [createRefusal, free] using ⟨row, stored, same⟩)
    | timeless free fresh late =>
        have hnone := createRefusal_eq_none_iff.2 ⟨contains_eq_false_iff.1 free, fresh⟩
        simp only [create, hrefusal, hnone, Instant.toText?_eq_none_iff.2 late]
        rfl
  refine error_iff_of_reason hfails fun h => ?_
  cases hstored : s.contains kind (s.drawId kind draft.id).1 with
  | true => exact ⟨_, .taken hstored⟩
  | false =>
      by_cases hnamed : ∃ row ∈ (s.entities kind).values, row.name.sameAs draft.name = true
      · obtain ⟨row, hrow, hsame⟩ := hnamed
        exact ⟨_, .named hstored hrow hsame⟩
      · have hfresh : ∀ row ∈ (s.entities kind).values, row.name.sameAs draft.name = false := by simpa using hnamed
        cases hstamp : now.toText? with
        | none => exact ⟨_, .timeless hstored hfresh (Instant.toText?_eq_none_iff.1 hstamp)⟩
        | some stamp =>
            have hnone := createRefusal_eq_none_iff.2 ⟨contains_eq_false_iff.1 hstored, hfresh⟩
            simp only [create, hrefusal, hnone, hstamp] at h
            cases h

theorem link_eq_error_iff {edge : EdgeKind} {endpoint group : Given} :
    (s.link now edge endpoint group).answer = .error failure ↔ s.LinkFails now edge endpoint group failure := by
  have hfails {other : Failure} (h : s.LinkFails now edge endpoint group other) :
      (s.link now edge endpoint group).answer = .error other := by
    cases h with
    | endpoint missing => simp [link, linkRefusal, missing, Outcome.unchanged]
    | group stored missing => simp [link, linkRefusal, stored, missing, Outcome.unchanged]
    | timeless stored storedGroup absent late =>
        rw [linked] at absent
        simp [link, linkRefusal, stored, storedGroup, absent, Instant.toText?_eq_none_iff.2 late, Outcome.unchanged]
  refine error_iff_of_reason hfails fun h => ?_
  cases hstored : s.contains edge.endpoint endpoint with
  | false => exact ⟨_, .endpoint hstored⟩
  | true =>
      cases hgroup : s.contains .group group with
      | false => exact ⟨_, .group hstored hgroup⟩
      | true =>
          have hrefusal := linkRefusal_eq_none_iff.2 ⟨hstored, hgroup⟩
          cases hlinked : s.linked edge endpoint group with
          | true =>
              rw [linked] at hlinked
              simp [link, hrefusal, hlinked, Outcome.unchanged] at h
          | false =>
              cases hstamp : now.toText? with
              | none => exact ⟨_, .timeless hstored hgroup hlinked (Instant.toText?_eq_none_iff.1 hstamp)⟩
              | some stamp =>
                  rw [linked] at hlinked
                  simp [link, hrefusal, hlinked, hstamp] at h

end Store

namespace SessionM

variable {α β : Type}

def Peeks (x : SessionM α) : Prop := ∀ s : Session, (x s).2 = s

/-- An action that leaves a session as it is unless it succeeds. -/
def Atomic (x : SessionM α) : Prop := ∀ (s : Session) (failure : Failure), (x s).1 = .error failure → (x s).2 = s

theorem Peeks.atomic {x : SessionM α} (h : Peeks x) : Atomic x := fun s _ _ => h s

theorem Peeks.ofExcept (answer : Except Failure α) : Peeks (ofExcept answer) := by
  intro s
  rw [ofExcept_apply]

theorem Peeks.bind {x : SessionM α} {f : α → SessionM β} (hx : Peeks x) (hf : ∀ a, Peeks (f a)) :
    Peeks (x >>= f) := by
  intro s
  rw [bind_apply]
  have hfirst := hx s
  cases hrun : x s with
  | mk answer s' =>
      rw [hrun] at hfirst
      cases answer with
      | error failure => exact hfirst
      | ok a => exact (hf a s').trans hfirst

theorem Peeks.ask {request : Request} (h : request.writes = false) (journaled : Bool) :
    Peeks ((Session.gateway journaled).ask request) := by
  intro s
  obtain ⟨hstore, hundo⟩ := s.store.answer_of_not_writes h s.clock
  simp [Session.gateway, hstore, hundo]

theorem Atomic.ask {request : Request} (h : request.draws = false) (journaled : Bool) :
    Atomic ((Session.gateway journaled).ask request) := by
  intro s failure hfails
  have hunchanged := Store.answer_of_error hfails
  rw [h, Store.drawing_false] at hunchanged
  simp [Session.gateway, hunchanged, Outcome.unchanged]

theorem Atomic.peek_bind {x : SessionM α} {f : α → SessionM β} (hx : Peeks x) (hf : ∀ a, Atomic (f a)) :
    Atomic (x >>= f) := by
  intro s failure hfails
  rw [bind_apply] at hfails ⊢
  have hfirst := hx s
  cases hrun : x s with
  | mk answer s' =>
      rw [hrun] at hfirst hfails
      cases answer with
      | error other => exact hfirst
      | ok a => exact (hf a s' failure hfails).trans hfirst

theorem Atomic.bind {x : SessionM α} {f : α → SessionM β} (hx : Atomic x)
    (hf : ∀ (a : α) (s : Session), ∃ b, (f a s).1 = .ok b) : Atomic (x >>= f) := by
  intro s failure hfails
  rw [bind_apply] at hfails ⊢
  cases hrun : x s with
  | mk answer s' =>
      rw [hrun] at hfails
      cases answer with
      | error other =>
          have hfirst := hx s other (by rw [hrun])
          rwa [hrun] at hfirst
      | ok a =>
          obtain ⟨b, hb⟩ := hf a s'
          cases hfails.symm.trans hb

end SessionM

namespace Session

open SessionM

theorem peeks_requireStored (journaled : Bool) (kind : EntityKind) (id : String) :
    Peeks (requireStored (gateway journaled) kind id) := by
  refine .bind (.ask rfl journaled) fun row => ?_
  split
  · exact fun s => rfl
  · exact fun s => rfl

theorem atomic_mutate (journaled verify : Bool) (change : Mutation) (endpoint group : Given) :
    Atomic (mutate (gateway journaled) verify change endpoint group) := by
  refine .peek_bind (.ofExcept _) fun e => .peek_bind (.ofExcept _) fun g => ?_
  have hask : Atomic (do
      let _ ← (gateway journaled).ask (change.request e g)
      (gateway journaled).record (change.entry e g)) :=
    .bind (.ask (by cases change <;> rfl) journaled) fun _ s => ⟨(), rfl⟩
  split
  · exact .peek_bind (peeks_requireStored journaled _ e) fun _ =>
      .peek_bind (peeks_requireStored journaled _ g) fun _ => hask
  · exact hask

theorem collapsePaths_nil : collapsePaths [] = .ok [] :=
  congrArg Except.ok (Text.sortBy_perm _ []).eq_nil

theorem authorized_cases (s : Session) (journaled : Bool) (client name : Given) :
    (authorized (gateway journaled) client name s).2 = s ∨
      (authorized (gateway journaled) client name s).1 = .ok [] := by
  have hpaths : s.store.secretPaths client (.ok name) =
      .ok ((s.store.pathsFrom client).filter fun path => name.isNone || path.secret.name.sameAs name) := rfl
  rw [authorized_apply s journaled hpaths]
  cases (s.store.pathsFrom client).filter fun path => name.isNone || path.secret.name.sameAs name with
  | nil => exact .inr collapsePaths_nil
  | cons path paths => exact .inl (noting_nil s)

theorem atomic_authorized_bind {α : Type} (journaled : Bool) (client name : Given)
    {f : List ReachedSecret → SessionM α} (hf : ∀ reached, Peeks (f reached))
    (hnil : ∀ s, ∃ a, (f [] s).1 = .ok a) : Atomic (authorized (gateway journaled) client name >>= f) := by
  intro s failure hfails
  rw [bind_apply] at hfails ⊢
  have hcases := s.authorized_cases journaled client name
  cases hrun : authorized (gateway journaled) client name s with
  | mk answer s' =>
      rw [hrun] at hfails hcases
      rcases hcases with hsame | hnone
      · cases answer with
        | error other => exact hsame
        | ok reached => exact (hf reached s').trans hsame
      · cases hnone
        obtain ⟨a, ha⟩ := hnil s'
        cases hfails.symm.trans ha

theorem atomic_runQuery (journaled : Bool) (query : AccessQuery) :
    Atomic (runQuery (gateway journaled) query) := by
  cases query with
  | groupsForSecret | groupsForClient | clientsForGroup | clientsForSecret =>
      exact .peek_bind (.ask rfl journaled) fun _ => (Peeks.ofExcept _).atomic
  | sanitizedForGroup | sanitizedForClient =>
      exact .peek_bind (.ask rfl journaled) fun _ => .peek_bind (.ofExcept _) fun _ => (Peeks.ofExcept _).atomic
  | secretFor client name =>
      exact atomic_authorized_bind journaled client name (fun _ _ => rfl) fun _ => ⟨_, rfl⟩
  | sanitizedFor client name =>
      exact atomic_authorized_bind journaled client name (fun _ => .ofExcept _) fun _ => ⟨_, rfl⟩

def drawing (s : Session) (call : Call) : Session := { s with store := s.store.drawing call.draws }

theorem run_of_error {s : Session} {journaled : Bool} {call : Call} {failure : Failure}
    (h : (s.run journaled call).1 = .error failure) : (s.run journaled call).2 = s.drawing call := by
  cases call with
  | request request =>
      have hunchanged := Store.answer_of_error h
      simp [run, Call.run, gateway, hunchanged, Outcome.unchanged, drawing, Call.draws]
  | mutate verify change endpoint group => exact atomic_mutate journaled verify change endpoint group s failure h
  | query query => exact atomic_runQuery journaled query s failure h

/-- A call that fails leaves a store in use as it was, in whatever state that is, but for the id that a create without
one has drawn. A create fails for the first reason of three, or for none, and so does a link. -/
theorem unchanged_of_failed (s : Session) (journaled : Bool) :
    (∀ (call : Call) (failure : Failure), (s.run journaled call).1 = .error failure →
      (s.run journaled call).2 = s.drawing call) ∧
    (∀ (kind : EntityKind) (entries : List (String × Document)) (failure : Failure),
      let draft := Given.draft (some (.fields entries)) kind
      (s.run journaled (.request (.create kind (some (.fields entries))))).1 = .error failure ↔
        s.store.CreateFails s.clock kind (s.store.drawId kind draft.id).1 draft.name failure) ∧
    ∀ (edge : EdgeKind) (endpoint group : Given) (failure : Failure),
      (s.run journaled (.request (.link edge endpoint group))).1 = .error failure ↔
        s.store.LinkFails s.clock edge endpoint group failure :=
  ⟨fun _ _ => run_of_error, fun _ _ _ => Store.create_eq_error_iff, fun _ _ _ _ => Store.link_eq_error_iff⟩

theorem unchanged_of_failed_late :
    let s : Session := ⟨.empty, Instant.limit + 1, [], [], false⟩
    let call : Call := .request (.create .client (some (.fields [("name", .text "ci")])))
    (s.run true call).1 = .error .invalidInstant ∧ (s.run true call).2 = s.drawing call ∧
      (s.drawing call).store.issued = 1 ∧
      s.store.CreateFails s.clock .client (some (.text "client-1")) (some (.text "ci")) .invalidInstant := by
  intro s call
  have hfails : (s.run true call).1 = .error .invalidInstant := rfl
  have hid : (s.store.drawId .client none).1 = some (.text "client-1") := by decide
  have hunchanged := unchanged_of_failed s true
  rw [← hid]
  exact ⟨hfails, hunchanged.1 call _ hfails, rfl, (hunchanged.2.1 .client _ _).1 hfails⟩

end Session

end SecretAccess
