import SecretAccess.Proofs.Store.Issued
import SecretAccess.Proofs.Store.WellFormed
import SecretAccess.Transaction.Session

namespace SecretAccess

def Request.writes : Request → Bool
  | .create .. | .delete .. | .link .. | .unlink .. => true
  | _ => false

def Call.writes : Call → Bool
  | .request r => r.writes
  | .mutate .. => true
  | .query _ => false

def Call.draws : Call → Bool
  | .request r => r.draws
  | _ => false

def Call.Textual : Call → Prop
  | .request r => r.Textual
  | _ => True

instance : (call : Call) → Decidable call.Textual
  | .request r => inferInstanceAs (Decidable r.Textual)
  | .mutate .. | .query _ => inferInstanceAs (Decidable True)

/-- The request that a call makes once nothing has stood in its way. A query changes nothing and counts as
none. -/
def Call.asks : Call → Option Request
  | .request r => some r
  | .mutate _ change endpoint group => do return change.request (← endpoint.text?) (← group.text?)
  | .query _ => none

theorem Call.textual_of_asks {call : Call} {request : Request} (h : call.asks = some request)
    (ht : call.Textual) : request.Textual := by
  cases call with
  | request r =>
      cases h
      exact ht
  | mutate verify change endpoint group =>
      simp only [asks, Option.bind_eq_bind, Option.bind_eq_some_iff, Option.pure_def, Option.some.injEq] at h
      obtain ⟨e, _, g, _, rfl⟩ := h
      cases change <;> exact ⟨⟨e, rfl⟩, g, rfl⟩
  | query => cases h

theorem Identifier.eq_of_require {field id : String} {value : Given} (h : require field value = .ok id) :
    value = some (.text id) := by
  unfold require check at h
  split at h
  · rename_i id' hcheck
    cases h
    split at hcheck
    · cases hcheck
    · split at hcheck
      · cases hcheck
      · split at hcheck
        · cases hcheck
        · cases hcheck
          rfl
    · cases hcheck
  · cases h

theorem Store.answer_of_not_writes {request : Request} (h : request.writes = false) (s : Store)
    (now : Instant) : (s.answer now request).store = s ∧ (s.answer now request).undo = [] := by
  cases request with
  | create | delete | link | unlink => cases h
  | get | getByName | list | groupsOf | endpointsOf | clientsForSecret | secretPaths | linked | count =>
      exact ⟨rfl, rfl⟩

namespace Session

structure Asked (journaled : Bool) (s : Session) (request : Request) (s' : Session) : Prop where
  store : s'.store = (s.store.answer s.clock request).store
  journal : s'.journal = if journaled then s.journal ++ (s.store.answer s.clock request).undo else s.journal
  clock : s'.clock = s.clock

structure Untouched (s s' : Session) : Prop where
  store : s'.store = s.store
  journal : s'.journal = s.journal
  clock : s'.clock = s.clock

theorem Untouched.refl (s : Session) : s.Untouched s := ⟨rfl, rfl, rfl⟩

theorem Untouched.trans {s t u : Session} (h : s.Untouched t) (h' : t.Untouched u) : s.Untouched u :=
  ⟨h'.store.trans h.store, h'.journal.trans h.journal, h'.clock.trans h.clock⟩

theorem Untouched.asked {journaled : Bool} {s t u : Session} {request : Request} (h : s.Untouched t)
    (h' : Asked journaled t request u) : Asked journaled s request u :=
  ⟨by rw [h'.store, h.store, h.clock], by rw [h'.journal, h.journal, h.store, h.clock], h'.clock.trans h.clock⟩

theorem Asked.untouched {journaled : Bool} {s t u : Session} {request : Request}
    (h : Asked journaled s request t) (h' : t.Untouched u) : Asked journaled s request u :=
  ⟨h'.store.trans h.store, h'.journal.trans h.journal, h'.clock.trans h.clock⟩

end Session

section

variable {σ α β : Type}

theorem bind_apply (x : ExceptT Failure (StateM σ) α) (f : α → ExceptT Failure (StateM σ) β) (s : σ) :
    (x >>= f) s = match x s with
      | (.ok a, s') => f a s'
      | (.error failure, s') => (.error failure, s') := by
  change ExceptT.bindCont f (x s).1 (x s).2 = _
  rcases x s with ⟨_ | _, _⟩ <;> rfl

theorem ofExcept_apply (answer : Except Failure α) (s : σ) :
    (ofExcept answer : ExceptT Failure (StateM σ) α) s = (answer, s) := by
  cases answer <;> rfl

end

namespace SessionM

variable {α β : Type}

def Looks (x : SessionM α) : Prop := ∀ s : Session, s.Untouched (x s).2

theorem Looks.pure (a : α) : Looks (pure a) := fun s => .refl s

theorem Looks.throw (failure : Failure) : Looks (throw failure : SessionM α) := fun s => .refl s

theorem Looks.ofExcept (answer : Except Failure α) : Looks (ofExcept answer) := by
  intro s
  rw [ofExcept_apply]
  exact .refl s

theorem Looks.bind {x : SessionM α} {f : α → SessionM β} (hx : Looks x) (hf : ∀ a, Looks (f a)) :
    Looks (x >>= f) := by
  intro s
  rw [bind_apply]
  have hfirst := hx s
  cases hrun : x s with
  | mk answer s' =>
      rw [hrun] at hfirst
      cases answer with
      | error failure => exact hfirst
      | ok a => exact hfirst.trans (hf a s')

theorem Looks.ask {request : Request} (h : request.writes = false) (journaled : Bool) :
    Looks ((Session.gateway journaled).ask request) := by
  intro s
  obtain ⟨hstore, hundo⟩ := s.store.answer_of_not_writes h s.clock
  refine ⟨hstore, ?_, rfl⟩
  change (if journaled then s.journal ++ (s.store.answer s.clock request).undo else s.journal) = s.journal
  rw [hundo]
  cases journaled <;> simp

theorem Looks.record (journaled : Bool) (entry : LogEntry) :
    Looks ((Session.gateway journaled).record entry) := by
  intro s
  cases hq : s.quiet <;> exact ⟨by simp [Session.gateway, hq], by simp [Session.gateway, hq],
    by simp [Session.gateway, hq]⟩

/-- An action that fails and changes nothing, or makes one request of those that are allowed and succeeds
only if this does. -/
def AsksOnce (journaled : Bool) (allowed : Request → Prop) (x : SessionM α) : Prop :=
  ∀ s : Session, s.Untouched (x s).2 ∧ (∃ failure, (x s).1 = .error failure) ∨
    ∃ request, allowed request ∧ s.Asked journaled request (x s).2 ∧
      ∀ a, (x s).1 = .ok a → ∃ reply, (s.store.answer s.clock request).answer = .ok reply

variable {journaled : Bool} {allowed : Request → Prop}

theorem AsksOnce.ask {request : Request} (h : allowed request) :
    AsksOnce journaled allowed ((Session.gateway journaled).ask request) :=
  fun _ => .inr ⟨request, h, ⟨rfl, rfl, rfl⟩, fun reply hok => ⟨reply, hok⟩⟩

theorem AsksOnce.look_bind {x : SessionM α} {f : α → SessionM β} (hx : Looks x)
    (hf : ∀ a, AsksOnce journaled allowed (f a)) : AsksOnce journaled allowed (x >>= f) := by
  intro s
  rw [bind_apply]
  have hfirst := hx s
  cases hrun : x s with
  | mk answer s' =>
      rw [hrun] at hfirst
      cases answer with
      | error failure => exact .inl ⟨hfirst, failure, rfl⟩
      | ok a =>
          rcases hf a s' with ⟨hrest, hfails⟩ | ⟨request, hallowed, hrest, hok⟩
          · exact .inl ⟨hfirst.trans hrest, hfails⟩
          · rw [hfirst.store, hfirst.clock] at hok
            exact .inr ⟨request, hallowed, hfirst.asked hrest, hok⟩

theorem AsksOnce.ofExcept_bind {answer : Except Failure α} {f : α → SessionM β}
    (h : ∀ a, answer = .ok a → AsksOnce journaled allowed (f a)) :
    AsksOnce journaled allowed (ofExcept answer >>= f) := by
  intro s
  rw [bind_apply, ofExcept_apply]
  cases answer with
  | error failure => exact .inl ⟨.refl s, failure, rfl⟩
  | ok a => exact h a rfl s

theorem AsksOnce.bind_looks {x : SessionM α} {f : α → SessionM β} (hx : AsksOnce journaled allowed x)
    (hf : ∀ a, Looks (f a)) : AsksOnce journaled allowed (x >>= f) := by
  intro s
  rw [bind_apply]
  have hfirst := hx s
  cases hrun : x s with
  | mk answer s' =>
      rw [hrun] at hfirst
      cases answer with
      | error failure =>
          rcases hfirst with ⟨hfirst, _⟩ | ⟨request, hallowed, hfirst, _⟩
          · exact .inl ⟨hfirst, failure, rfl⟩
          · exact .inr ⟨request, hallowed, hfirst, fun _ hok => by cases hok⟩
      | ok a =>
          rcases hfirst with ⟨_, failure, hfails⟩ | ⟨request, hallowed, hfirst, hok⟩
          · cases hfails
          · exact .inr ⟨request, hallowed, hfirst.untouched (hf a s'), fun _ _ => hok a rfl⟩

end SessionM

namespace Session

open SessionM

theorem looks_authorized (journaled : Bool) (client name : Given) :
    Looks (authorized (gateway journaled) client name) := by
  refine .bind (.ask rfl journaled) fun paths => ?_
  split
  · exact .bind (.record journaled _) fun _ => .ofExcept (collapsePaths paths)
  · exact .ofExcept (collapsePaths paths)

theorem looks_runQuery (journaled : Bool) (query : AccessQuery) :
    Looks (runQuery (gateway journaled) query) := by
  cases query with
  | groupsForSecret | groupsForClient | clientsForGroup | clientsForSecret =>
      exact .bind (.ask rfl journaled) fun _ => .ofExcept _
  | sanitizedForGroup | sanitizedForClient =>
      exact .bind (.ask rfl journaled) fun _ => .bind (.ofExcept _) fun _ => .ofExcept _
  | secretFor client name => exact .bind (looks_authorized journaled client name) fun _ => .pure _
  | sanitizedFor client name => exact .bind (looks_authorized journaled client name) fun _ => .ofExcept _

theorem looks_requireStored (journaled : Bool) (kind : EntityKind) (id : String) :
    Looks (requireStored (gateway journaled) kind id) := by
  refine .bind (.ask rfl journaled) fun row => ?_
  split
  · exact .throw _
  · exact .pure _

theorem asksOnce_mutate (journaled verify : Bool) (change : Mutation) (endpoint group : Given) :
    AsksOnce journaled (fun request => (Call.mutate verify change endpoint group).asks = some request)
      (mutate (gateway journaled) verify change endpoint group) := by
  refine .ofExcept_bind fun e he => .ofExcept_bind fun g hg => ?_
  have hasks : (Call.mutate verify change endpoint group).asks = some (change.request e g) := by
    rw [Identifier.eq_of_require he, Identifier.eq_of_require hg]
    rfl
  have hask : AsksOnce journaled (fun request => (Call.mutate verify change endpoint group).asks = some request) (do
      let _ ← (gateway journaled).ask (change.request e g)
      (gateway journaled).record (change.entry e g)) :=
    .bind_looks (.ask hasks) fun _ => .record journaled _
  split
  · exact .look_bind (looks_requireStored journaled _ e) fun _ =>
      .look_bind (looks_requireStored journaled _ g) fun _ => hask
  · exact hask

theorem run_asks (s : Session) (journaled : Bool) (call : Call) :
    s.Untouched (s.run journaled call).2 ∧
        (call.asks.isSome = true → ∃ failure, (s.run journaled call).1 = .error failure) ∨
      ∃ request, call.asks = some request ∧ s.Asked journaled request (s.run journaled call).2 ∧
        ∀ a, (s.run journaled call).1 = .ok a → ∃ reply, (s.store.answer s.clock request).answer = .ok reply := by
  cases call with
  | request r => exact .inr ⟨r, rfl, ⟨rfl, rfl, rfl⟩, fun reply hok => ⟨reply, hok⟩⟩
  | mutate verify change endpoint group =>
      rcases asksOnce_mutate journaled verify change endpoint group s with ⟨h, hfails⟩ | h
      · exact .inl ⟨h, fun _ => hfails⟩
      · exact .inr h
  | query query => exact .inl ⟨looks_runQuery journaled query s, fun h => nomatch h⟩

theorem asked_of_run_eq_ok {s : Session} {journaled : Bool} {call : Call} {request : Request}
    (hasks : call.asks = some request) {answer : call.Answer} (hok : (s.run journaled call).1 = .ok answer) :
    (∃ reply, (s.store.answer s.clock request).answer = .ok reply) ∧
      s.Asked journaled request (s.run journaled call).2 := by
  rcases s.run_asks journaled call with ⟨_, hfails⟩ | ⟨_, hasks', hasked, hreply⟩
  · obtain ⟨failure, hfailure⟩ := hfails (by rw [hasks]; rfl)
    rw [hok] at hfailure
    cases hfailure
  · cases Option.some.inj (hasks.symm.trans hasks')
    exact ⟨hreply answer hok, hasked⟩

theorem run_cases (s : Session) (journaled : Bool) (call : Call) :
    s.Untouched (s.run journaled call).2 ∨ ∃ request : Request, call.writes = true ∧
      (call.Textual → request.Textual) ∧ s.Asked journaled request (s.run journaled call).2 := by
  rcases s.run_asks journaled call with ⟨h, _⟩ | ⟨request, hasks, h, _⟩
  · exact .inl h
  · have htextual := Call.textual_of_asks hasks
    cases call with
    | request r =>
        cases hw : r.writes with
        | false => exact .inl (Looks.ask hw journaled s)
        | true => exact .inr ⟨request, hw, htextual, h⟩
    | mutate => exact .inr ⟨request, rfl, htextual, h⟩
    | query => cases hasks

structure Beside (s u : Session) : Prop where
  store : s.store = u.store
  clock : s.clock = u.clock
  log : s.log = u.log
  quiet : s.quiet = u.quiet

end Session

namespace SessionM

variable {α β : Type}

def Blind (x : Bool → SessionM α) : Prop :=
  ∀ (journaled journaled' : Bool) (s u : Session), s.Beside u →
    (x journaled s).1 = (x journaled' u).1 ∧ (x journaled s).2.Beside (x journaled' u).2

theorem Blind.ofExcept (answer : Except Failure α) : Blind fun _ => (ofExcept answer : SessionM α) := by
  intro _ _ s u h
  simp only [ofExcept_apply]
  exact ⟨trivial, h⟩

theorem Blind.pure (a : α) : Blind fun _ => (pure a : SessionM α) := fun _ _ _ _ h => ⟨rfl, h⟩

theorem Blind.bind {x : Bool → SessionM α} {f : Bool → α → SessionM β} (hx : Blind x)
    (hf : ∀ a, Blind fun journaled => f journaled a) : Blind fun journaled => x journaled >>= f journaled := by
  intro journaled journaled' s u h
  simp only [bind_apply]
  obtain ⟨hanswer, hbeside⟩ := hx journaled journaled' s u h
  cases hs : x journaled s with
  | mk answer s' =>
      cases hu : x journaled' u with
      | mk twin u' =>
          rw [hs, hu] at hanswer hbeside
          subst hanswer
          cases answer with
          | error failure => exact ⟨rfl, hbeside⟩
          | ok a => exact hf a journaled journaled' s' u' hbeside

theorem Blind.ask (request : Request) : Blind fun journaled => (Session.gateway journaled).ask request := by
  intro _ _ s u h
  simp only [Session.gateway, h.store, h.clock]
  exact ⟨trivial, rfl, rfl, h.log, h.quiet⟩

theorem Blind.record (entry : LogEntry) : Blind fun journaled => (Session.gateway journaled).record entry := by
  intro _ _ s u h
  have hquiet := h.quiet
  simp only [Session.gateway]
  cases hu : u.quiet <;> rw [hu] at hquiet <;> rw [hquiet]
  · exact ⟨trivial, h.store, h.clock, congrArg (· ++ [entry]) h.log, rfl⟩
  · exact ⟨trivial, h⟩

end SessionM

namespace Session

open SessionM

theorem blind_authorized (client name : Given) : Blind fun journaled => authorized (gateway journaled) client name := by
  refine .bind (.ask _) fun paths => ?_
  split
  · exact .bind (.record _) fun _ => .ofExcept (collapsePaths paths)
  · exact .ofExcept (collapsePaths paths)

theorem blind_runQuery (query : AccessQuery) : Blind fun journaled => runQuery (gateway journaled) query := by
  cases query with
  | groupsForSecret | groupsForClient | clientsForGroup | clientsForSecret => exact .bind (.ask _) fun _ => .ofExcept _
  | sanitizedForGroup | sanitizedForClient =>
      exact .bind (.ask _) fun _ => .bind (.ofExcept _) fun _ => .ofExcept _
  | secretFor client name => exact .bind (blind_authorized client name) fun _ => .pure _
  | sanitizedFor client name => exact .bind (blind_authorized client name) fun _ => .ofExcept _

theorem blind_requireStored (kind : EntityKind) (id : String) :
    Blind fun journaled => requireStored (gateway journaled) kind id := by
  refine .bind (.ask _) fun row => ?_
  split
  · exact .ofExcept (.error _)
  · exact .pure _

theorem blind_mutate (verify : Bool) (change : Mutation) (endpoint group : Given) :
    Blind fun journaled => mutate (gateway journaled) verify change endpoint group := by
  refine .bind (.ofExcept _) fun e => .bind (.ofExcept _) fun g => ?_
  have hask : Blind fun journaled => (gateway journaled).ask (change.request e g) >>= fun _ =>
      (gateway journaled).record (change.entry e g) :=
    .bind (.ask _) fun _ => .record _
  cases verify with
  | true => exact .bind (blind_requireStored _ e) fun _ => .bind (blind_requireStored _ g) fun _ => hask
  | false => exact hask

theorem Beside.run {s u : Session} (h : s.Beside u) (journaled journaled' : Bool) (call : Call) :
    (s.run journaled call).1 = (u.run journaled' call).1 ∧
      (s.run journaled call).2.Beside (u.run journaled' call).2 := by
  cases call with
  | request request => exact Blind.ask request journaled journaled' s u h
  | mutate verify change endpoint group => exact blind_mutate verify change endpoint group journaled journaled' s u h
  | query query => exact blind_runQuery query journaled journaled' s u h

theorem journal_run (s : Session) (call : Call) : (s.run false call).2.journal = s.journal := by
  rcases s.run_asks false call with ⟨h, _⟩ | ⟨request, _, h, _⟩
  · exact h.journal
  · exact h.journal

end Session

end SecretAccess
