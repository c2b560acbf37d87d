import SecretAccess.Proofs.Access.RowOrder

namespace SecretAccess

/-- Two sessions that differ in the order of their rows, and in what they have journaled and logged. -/
structure Session.Abreast (s u : Session) : Prop where
  rows : s.store.WellFormed
  same : s.store.Same u.store
  issued : s.store.issued = u.store.issued
  clock : s.clock = u.clock
  quiet : s.quiet = u.quiet

def Call.SameAnswer : (call : Call) → call.Answer → call.Answer → Prop
  | .request r, answer, twin => r.SameRows answer twin
  | .mutate .., answer, twin => answer = twin
  | .query _, answer, twin => answer = twin

namespace SessionM

variable {α β : Type}

structure Agreed (same : α → α → Prop) (quiet : Bool) (x y : Except Failure α × Session) : Prop where
  answers : Alike same x.1 y.1
  abreast : x.2.Abreast y.2
  log : x.2.log = y.2.log
  quiet : x.2.quiet = quiet

def Agree (same : α → α → Prop) (x y : SessionM α) : Prop :=
  ∀ s u : Session, s.Abreast u → s.log = u.log → Agreed same s.quiet (x s) (y u)

theorem Agree.pure {same : α → α → Prop} {a b : α} (h : same a b) : Agree same (pure a) (pure b) :=
  fun _ _ habreast hlog => ⟨.ok h, habreast, hlog, rfl⟩

theorem Agree.throw (same : α → α → Prop) (failure : Failure) :
    Agree same (throw failure : SessionM α) (throw failure) :=
  fun _ _ habreast hlog => ⟨.error failure, habreast, hlog, rfl⟩

theorem Agree.ofExcept (answer : Except Failure α) :
    Agree Eq (ofExcept answer : SessionM α) (ofExcept answer) := by
  intro s u habreast hlog
  rw [ofExcept_apply, ofExcept_apply]
  exact ⟨.refl Eq.refl answer, habreast, hlog, rfl⟩

theorem Agree.bind {same : α → α → Prop} {same' : β → β → Prop} {x y : SessionM α} {f g : α → SessionM β}
    (h : Agree same x y) (h' : ∀ a b, same a b → Agree same' (f a) (g b)) : Agree same' (x >>= f) (y >>= g) := by
  intro s u habreast hlog
  rw [bind_apply, bind_apply]
  have hfirst := h s u habreast hlog
  cases hx : x s with
  | mk answer s' =>
      cases hy : y u with
      | mk twin u' =>
          rw [hx, hy] at hfirst
          obtain ⟨halike, habreast', hlog', hquiet⟩ := hfirst
          cases halike with
          | ok hsame => exact hquiet ▸ h' _ _ hsame s' u' habreast' hlog'
          | error failure => exact ⟨.error failure, habreast', hlog', hquiet⟩

variable (journaled journaled' : Bool)

theorem Agree.ask {request : Request} (ht : request.Textual) :
    Agree request.SameRows ((Session.gateway journaled).ask request) ((Session.gateway journaled').ask request) := by
  intro s u h hlog
  obtain ⟨halike, hsame⟩ := h.rows.answer_alike h.same s.clock ht fun _ => h.issued
  rw [h.clock] at halike hsame
  simp only [Session.gateway]
  rw [h.clock]
  refine ⟨halike, ⟨h.rows.answer _ ht, hsame, ?_, rfl, h.quiet⟩, hlog, rfl⟩
  change (s.store.answer u.clock request).store.issued = (u.store.answer u.clock request).store.issued
  rw [Store.issued_answer, Store.issued_answer, h.issued]

theorem agreed_noting {s u : Session} (h : s.Abreast u) (hlog : s.log = u.log) {same : α → α → Prop} {a b : α}
    (hsame : same a b) (entries : List LogEntry) :
    Agreed same s.quiet (.ok a, s.noting entries) (.ok b, u.noting entries) := by
  simp only [Session.noting, h.quiet]
  cases hquiet : u.quiet with
  | true => exact ⟨.ok hsame, h, hlog, h.quiet.trans hquiet⟩
  | false => exact ⟨.ok hsame, ⟨h.rows, h.same, h.issued, h.clock, rfl⟩, congrArg (· ++ entries) hlog, rfl⟩

theorem Agree.record (entry : LogEntry) :
    Agree Eq ((Session.gateway journaled).record entry) ((Session.gateway journaled').record entry) :=
  fun _ _ h hlog => agreed_noting h hlog rfl [entry]

theorem Agree.requireStored (kind : EntityKind) (id : String) :
    Agree Eq (requireStored (Session.gateway journaled) kind id) (requireStored (Session.gateway journaled') kind id) := by
  refine .bind (.ask journaled journaled' trivial) fun row twin (hrow : row = twin) => ?_
  rw [hrow]
  split
  · exact .throw _ _
  · exact .pure rfl

theorem Agree.mutate (verify : Bool) (change : Mutation) (endpoint group : Given) :
    Agree Eq (mutate (Session.gateway journaled) verify change endpoint group)
      (mutate (Session.gateway journaled') verify change endpoint group) := by
  refine .bind (.ofExcept _) fun e e' he => .bind (.ofExcept _) fun g g' hg => ?_
  obtain rfl : e = e' := he
  obtain rfl : g = g' := hg
  have htextual : (change.request e g).Textual := by cases change <;> exact ⟨⟨e, rfl⟩, g, rfl⟩
  have hask : Agree Eq (do
      let _ ← (Session.gateway journaled).ask (change.request e g)
      (Session.gateway journaled).record (change.entry e g)) (do
      let _ ← (Session.gateway journaled').ask (change.request e g)
      (Session.gateway journaled').record (change.entry e g)) :=
    .bind (.ask journaled journaled' htextual) fun _ _ _ => .record journaled journaled' _
  split
  · exact .bind (.requireStored journaled journaled' _ e) fun _ _ _ =>
      .bind (.requireStored journaled journaled' _ g) fun _ _ _ => hask
  · exact hask

theorem Agree.query (query : AccessQuery) :
    Agree Eq (runQuery (Session.gateway journaled) query) (runQuery (Session.gateway journaled') query) := by
  intro s u h hlog
  obtain ⟨answer, entries, hanswers⟩ := Session.exists_answer_of_same h.rows h.same query
  have hs : runQuery (Session.gateway journaled) query s = (.ok answer, s.noting entries) := (hanswers journaled).1
  have hu : runQuery (Session.gateway journaled') query u = (.ok answer, u.noting entries) := (hanswers journaled').2
  rw [hs, hu]
  exact agreed_noting h hlog rfl entries

end SessionM

namespace Session

open SessionM

/-- A call does the same to sessions abreast, through whatever context. -/
theorem Abreast.run {s u : Session} (h : s.Abreast u) (hlog : s.log = u.log) (journaled journaled' : Bool) {call : Call}
    (ht : call.Textual) : Agreed call.SameAnswer s.quiet (s.run journaled call) (u.run journaled' call) := by
  cases call with
  | request request => exact Agree.ask journaled journaled' ht s u h hlog
  | mutate verify change endpoint group => exact Agree.mutate journaled journaled' verify change endpoint group s u h hlog
  | query query => exact Agree.query journaled journaled' query s u h hlog

end Session

end SecretAccess
