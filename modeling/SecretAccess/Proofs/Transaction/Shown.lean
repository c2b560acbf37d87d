import SecretAccess.Proofs.Access.Lookup
import SecretAccess.Proofs.Store.Same
import SecretAccess.Proofs.Transaction.Drawn

namespace SecretAccess

def Request.Deletes (kind : EntityKind) (id : Given) : Request → Prop
  | .delete other gone => other = kind ∧ gone = id
  | _ => False

def Step.Removes (kind : EntityKind) (id : Given) : Step → Prop
  | .clear => True
  | step => ∃ request ∈ step.asks, request.Deletes kind id

instance (kind : EntityKind) (id : Given) : (request : Request) → Decidable (request.Deletes kind id)
  | .delete other gone => inferInstanceAs (Decidable (other = kind ∧ gone = id))
  | .create .. | .get .. | .getByName .. | .list _ | .link .. | .unlink .. | .groupsOf .. | .endpointsOf ..
  | .clientsForSecret _ | .secretPaths .. | .linked .. | .count _ => inferInstanceAs (Decidable False)

instance (kind : EntityKind) (id : Given) : (step : Step) → Decidable (step.Removes kind id)
  | .clear => inferInstanceAs (Decidable True)
  | .call scope c => inferInstanceAs (Decidable (∃ request ∈ (Step.call scope c).asks, request.Deletes kind id))
  | .clock now => inferInstanceAs (Decidable (∃ request ∈ (Step.clock now).asks, request.Deletes kind id))
  | .dump => inferInstanceAs (Decidable (∃ request ∈ Step.dump.asks, request.Deletes kind id))
  | .spawn steps ending =>
      inferInstanceAs (Decidable (∃ request ∈ (Step.spawn steps ending).asks, request.Deletes kind id))

namespace Store

variable {s : Store} {kind : EntityKind}

section

variable {rows : List (Entity kind)}

theorem WellFormed.find?_id (h : s.WellFormed) (hperm : rows.Perm (s.entities kind).values) (id : Given) :
    rows.find? (·.id = id) = s.get? kind id := by
  cases hfound : rows.find? (·.id = id) with
  | some row =>
      have hrow := hperm.mem_iff.1 (List.mem_of_find?_eq_some hfound)
      have hid := key_eq_of_find? hfound
      exact ((h.get?_iff (hid ▸ (h.isText hrow).1)).2 ⟨hrow, hid⟩).symm
  | none =>
      cases hget : s.get? kind id with
      | none => rfl
      | some row =>
          rw [h.get?_eq] at hget
          have hid : id = row.id := Identity.value.inj ((h.entities kind).key hget)
          have hrow := hperm.mem_iff.2 (Table.mem_values_iff.2 ⟨_, hget⟩)
          exact absurd (decide_eq_true hid.symm) (List.find?_eq_none.1 hfound row hrow)

theorem WellFormed.find?_name (h : s.WellFormed) (hperm : rows.Perm (s.entities kind).values) (name : Given) :
    rows.find? (·.name = name) = s.getByName? kind name := by
  have hsame : s.getByName? kind name = (s.entities kind).values.find? (·.name = name) := by
    rw [getByName?, ← List.head?_filter, ← List.head?_filter, List.filter_congr]
    intro row hrow
    rw [Given.sameAs, (h.isText hrow).2.standsAlone_eq]
    rfl
  rw [hsame]
  apply find?_eq_of_perm hperm
  intro row hrow twin htwin hname hname'
  exact h.eq_of_name (hperm.mem_iff.1 hrow) (hperm.mem_iff.1 htwin)
    ((of_decide_eq_true hname).trans (of_decide_eq_true hname').symm)

end

section

variable {row : Entity kind} {id : Given} (h : (s.entities kind).get? (.value id) = some row)

include h

theorem get?_create (now : Instant) {other : EntityKind} (draft : Draft other) :
    ((s.create now draft).store.entities kind).get? (.value id) = some row := by
  rcases create_cases s now draft with ⟨failure, hc⟩ | ⟨new, drawn, stamp, hdraw, hrefusal, _, hc⟩
  · rw [hc]
    exact (congrArg (·.get? (.value id)) (table_drawId s other _ (.entities kind))).trans h
  · have hdrawn : drawn.entities kind = s.entities kind := by
      have htable := table_drawId s other draft.id (.entities kind)
      rwa [hdraw] at htable
    have hplaced : (drawn.withPlaceFor new).entities kind = s.entities kind :=
      (table_withPlaceFor drawn new (.entities kind)).trans hdrawn
    rw [hc]
    by_cases hother : other = kind
    · subst hother
      -- no row stands under the key that the new one gets
      have hkey : Identity.value id ≠ drawn.key new := by
        intro hkey
        have hfree : (drawn.entities other).get? (drawn.key new) = none := (createRefusal_eq_none_iff.1 hrefusal).1
        rw [← hkey, hdrawn, h] at hfree
        cases hfree
      rw [entities_withEntities, Table.get?_put, if_neg hkey, hdrawn]
      exact h
    · rw [entities_withEntities_of_ne _ hother, hplaced]
      exact h

theorem get?_delete {other : EntityKind} {gone : Given} (hspares : ¬(other = kind ∧ gone = id)) :
    ((s.delete other gone).store.entities kind).get? (.value id) = some row := by
  rcases delete_cases s other gone with ⟨_, hd⟩ | ⟨_, _, hd⟩ <;> rw [hd]
  · exact h
  · rw [entities_cascade]
    by_cases hother : other = kind
    · subst hother
      have hkey : Identity.value id ≠ s.key gone := fun hkey => hspares ⟨rfl, eq_of_key_eq_value hkey.symm⟩
      rw [entities_withEntities, Table.get?_erase, if_neg hkey]
      exact h
    · rw [entities_withEntities_of_ne s hother]
      exact h

theorem get?_answer_of_spares (now : Instant) {request : Request} (hspares : ¬request.Deletes kind id) :
    ((s.answer now request).store.entities kind).get? (.value id) = some row := by
  cases request with
  | create other input =>
      rw [Store.answer, createAsked]
      split
      · exact get?_create h now (input.draft other)
      · exact h
  | delete other gone => exact get?_delete h hspares
  | link edge endpoint group =>
      rw [Store.answer, entities_link]
      exact h
  | unlink edge endpoint group =>
      rw [Store.answer, entities_unlink]
      exact h
  | get | getByName | list | groupsOf | endpointsOf | clientsForSecret | secretPaths | linked | count => exact h

end

theorem get?_of_create_eq_ok {row : Entity kind} {now : Instant} {input : Given}
    (hwell : (s.answer now (.create kind input)).store.WellFormed)
    (h : (s.answer now (.create kind input)).answer = .ok row) :
    ((s.answer now (.create kind input)).store.entities kind).get? (.value row.id) = some row := by
  suffices hrow : row ∈ ((s.answer now (.create kind input)).store.entities kind).values by
    rw [← hwell.get?_eq]
    exact (hwell.get?_iff (hwell.isText hrow).1).2 ⟨hrow, rfl⟩
  clear hwell
  rw [Store.answer, createAsked] at h ⊢
  split at h
  · rcases create_cases s now (input.draft kind) with ⟨failure, hc⟩ | ⟨new, drawn, stamp, _, _, _, hc⟩
    · rw [hc] at h
      cases h
    · rw [hc] at h ⊢
      cases h
      rw [entities_withEntities]
      exact Table.mem_values_iff.2 ⟨drawn.key new, by rw [Table.get?_put, if_pos rfl]⟩
  · cases h

end Store

/-- All reads of one kind agree on which rows there are. -/
structure Session.ReadsAgree (s : Session) (journaled : Bool) {kind : EntityKind} (rows : List (Entity kind)) :
    Prop where
  stored : rows.Perm (s.store.entities kind).values
  ascend : rows.Pairwise fun a b => a.name.Below b.name
  list : s.run journaled (.request (.list kind)) = (.ok rows, s)
  get : ∀ id, s.run journaled (.request (.get kind id)) = (.ok (rows.find? (·.id = id)), s)
  getByName : ∀ name, s.run journaled (.request (.getByName kind name)) = (.ok (rows.find? (·.name = name)), s)
  own : ∀ row ∈ rows, rows.find? (·.id = row.id) = some row ∧ rows.find? (·.name = row.name) = some row

theorem Store.WellFormed.exists_readsAgree {s : Session} (h : s.store.WellFormed) (journaled : Bool)
    (kind : EntityKind) : ∃ rows : List (Entity kind), s.ReadsAgree journaled rows := by
  obtain ⟨rows, hlist, hperm, hascend⟩ := h.exists_list kind
  refine ⟨rows, hperm, hascend, Session.ask_apply s journaled rfl hlist, fun id => ?_, fun name => ?_, ?_⟩
  · exact Session.ask_apply s journaled rfl (congrArg Except.ok (h.find?_id hperm id).symm)
  · exact Session.ask_apply s journaled rfl (congrArg Except.ok (h.find?_name hperm name).symm)
  · intro row hrow
    have hstored := hperm.mem_iff.1 hrow
    obtain ⟨name, hname⟩ := (h.isText hstored).2
    rw [h.find?_id hperm, h.find?_name hperm, hname]
    exact ⟨(h.get?_iff (h.isText hstored).1).2 ⟨hstored, rfl⟩, h.getByName?_eq hstored hname⟩

/-- All reads show a row, and no other one with its id or its name. -/
structure Session.ShowsRow (s : Session) (journaled : Bool) {kind : EntityKind} (row : Entity kind) : Prop where
  get : s.run journaled (.request (.get kind row.id)) = (.ok (some row), s)
  getByName : s.run journaled (.request (.getByName kind row.name)) = (.ok (some row), s)
  list : ∃ rows, s.run journaled (.request (.list kind)) = (.ok rows, s) ∧ row ∈ rows ∧
    ∀ other ∈ rows, other.id = row.id ∨ other.name = row.name → other = row

theorem Store.WellFormed.showsRow {s : Session} (h : s.store.WellFormed) (journaled : Bool) {kind : EntityKind}
    {row : Entity kind} (hget : (s.store.entities kind).get? (.value row.id) = some row) :
    s.ShowsRow journaled row := by
  obtain ⟨rows, hreads⟩ := h.exists_readsAgree journaled kind
  have hstored : row ∈ (s.store.entities kind).values := Table.mem_values_iff.2 ⟨_, hget⟩
  have hrow : row ∈ rows := hreads.stored.mem_iff.2 hstored
  obtain ⟨hid, hname⟩ := hreads.own row hrow
  refine ⟨hid ▸ hreads.get row.id, hname ▸ hreads.getByName row.name, rows, hreads.list, hrow, ?_⟩
  intro other hother hsame
  have hother' := hreads.stored.mem_iff.1 hother
  rcases hsame with hsame | hsame
  · exact h.eq_of_id hother' hstored hsame
  · exact h.eq_of_name hother' hstored hsame

namespace Queue

variable {q : Queue} {e : Event} {kind : EntityKind} {row : Entity kind} {owner : Option Nat}

def Creates (input : Given) (row : Entity kind) (q : Queue) (e : Event) : Prop :=
  ∃ scope, q.stepOf e = some (.call scope (.request (.create kind input))) ∧
    (q.take (.call scope (.request (.create kind input)))).1.outcome = .ok (.answer (.request (.create kind input)) row)

def Spares (kind : EntityKind) (id : Given) (owner : Option Nat) (q : Queue) (e : Event) : Prop :=
  (∀ step ∈ q.stepOf e, ¬step.Removes kind id) ∧
    ∀ ended ∈ q.endsOf e, owner = some ended.ticket → ended.outcome.isOk = true

instance (kind : EntityKind) (id : Given) (owner : Option Nat) (q : Queue) (e : Event) :
    Decidable (q.Spares kind id owner e) :=
  inferInstanceAs (Decidable ((∀ step ∈ _, ¬Step.Removes kind id step) ∧ ∀ ended ∈ _, _))

/-- A row is stored, and it would be if the open transaction was taken back, unless that is the one that created it. -/
structure Keeps (row : Entity kind) (owner : Option Nat) (q : Queue) : Prop where
  rows : (q.session.store.entities kind).get? (.value row.id) = some row
  back : owner.isSome = true ∧ q.running.map (·.ticket) = owner ∨
    ((q.session.store.rollBack q.session.journal).entities kind).get? (.value row.id) = some row

theorem endsOf_of_settle {running : Running} (hafter : q.after e = q.settle running) : q.endsOf e = [running.told] := by
  rw [endsOf, hafter]
  exact List.drop_left

theorem Keeps.settle {running : Running} (h : q.Keeps row owner) (hrunning : q.running = some running)
    (htold : owner = some running.ticket → running.told.outcome.isOk = true) : (q.settle running).Keeps row owner := by
  have hrows : ((q.settle running).session.store.entities kind).get? (.value row.id) = some row := by
    rw [store_settle]
    split
    · exact h.rows
    · rename_i failure hfailure
      rcases h.back with ⟨_, howner⟩ | hback
      · rw [hrunning] at howner
        have hok := htold howner.symm
        rw [hfailure] at hok
        cases hok
      · exact hback
  exact ⟨hrows, .inr hrows⟩

theorem get?_take (h : (q.session.store.entities kind).get? (.value row.id) = some row) {step : Step}
    (hspares : ¬step.Removes kind row.id) :
    ((q.take step).2.session.store.entities kind).get? (.value row.id) = some row := by
  rcases q.take_cases step with ⟨hstore, _⟩ | ⟨rfl, _⟩ | ⟨request, hasks, hstore, _⟩
  · rw [hstore]
    exact h
  · exact absurd trivial hspares
  · rw [hstore]
    apply Store.get?_answer_of_spares h
    intro hdeletes
    cases step with
    | call => exact hspares ⟨request, hasks, hdeletes⟩
    | clock | clear | dump | spawn => cases hasks

theorem Keeps.after (h : q.Keeps row owner) (hidle : q.running = none → q.session.journal = [])
    (hexclusive : q.Exclusive e) (hspares : q.Spares kind row.id owner e) : (q.after e).Keeps row owner := by
  cases q.turn e with
  | settle isRunning _ hafter =>
      rw [hafter]
      apply h.settle isRunning
      exact hspares.2 _ (by rw [endsOf_of_settle hafter]; exact List.mem_singleton.2 rfl)
  | effect effect hrunning =>
      have hrows : ((q.after e).session.store.entities kind).get? (.value row.id) = some row :=
        store_after (fun s => (s.entities kind).get? (.value row.id) = some row) h.rows effect
          fun step hstep => get?_take h.rows (hspares.1 step hstep)
      refine ⟨hrows, ?_⟩
      rcases h.back with ⟨howned, howner⟩ | hback
      · left
        refine ⟨howned, ?_⟩
        rw [hrunning ?_, howner]
        rwa [← howner, Option.isSome_map] at howned
      · right
        rcases rolledBack_after hidle hexclusive effect with hafter | hsame
        · rw [hafter]
          exact hrows
        · rw [hsame.entities kind]
          exact hback

theorem Sound.keeps (hq : q.Sound) (hexclusive : q.Exclusive e) (htextual : q.Textual e) {input : Given}
    (h : q.Creates input row e) : (q.after e).Keeps row (q.running.map (·.ticket)) := by
  obtain ⟨scope, hstep, houtcome⟩ := h
  have hwell := (hq.after hexclusive htextual).rows
  have hsession := session_after_of_stepOf hstep
  have hrows : ((q.after e).session.store.entities kind).get? (.value row.id) = some row := by
    rw [hsession] at hwell ⊢
    apply Store.get?_of_create_eq_ok hwell
    have hanswer : (q.take (.call scope (.request (.create kind input)))).1.outcome =
        (q.session.store.answer q.session.clock (.create kind input)).answer.map
          (.answer (.request (.create kind input))) := rfl
    rw [hanswer] at houtcome
    cases hrow : (q.session.store.answer q.session.clock (.create kind input)).answer with
    | error failure =>
        rw [hrow] at houtcome
        cases houtcome
    | ok other =>
        rw [hrow] at houtcome
        cases houtcome
        rfl
  refine ⟨hrows, ?_⟩
  cases q.turn e with
  | settle _ noStep => cases hstep.symm.trans noStep
  | effect effect hrunning =>
      cases hopen : q.running with
      | some running =>
          left
          rw [hopen] at hrunning
          exact ⟨rfl, hrunning rfl⟩
      | none =>
          have hother (taken : Step) (htaken : taken ∈ q.stepOf e) : q.owns taken = false := by
            by_contra howns
            have hsome := isSome_running_of_owns (Bool.not_eq_false _ ▸ howns)
            rw [hopen] at hsome
            cases hsome
          right
          rw [effect.journal_eq hother, hq.idle hopen]
          exact hrows

/-- After every serial run the reads of each kind agree. What was created is what they show, as long as it is not
deleted or cleared and the transaction that created it is not taken back. -/
theorem identity_reads_of_serially (now : Instant) (quiet : Bool) (events : List Event)
    (h : (make now quiet).Serially events) (journaled : Bool) (kind : EntityKind) :
    (∃ rows : List (Entity kind), ((make now quiet).run events).session.ReadsAgree journaled rows) ∧
      ∀ (before : List Event) (e : Event) (rest : List Event) (input : Given) (row : Entity kind),
        events = before ++ e :: rest →
        let q := (make now quiet).run before
        q.Creates input row e → (q.after e).Along (Spares kind row.id (q.running.map (·.ticket))) rest →
          ((make now quiet).run events).session.ShowsRow journaled row := by
  have hsound := sound_run (make_sound now quiet) h
  refine ⟨hsound.rows.exists_readsAgree journaled kind, ?_⟩
  rintro before e rest input row rfl q hcreates hspares
  obtain ⟨hbefore, hallowed, hrest⟩ := along_append.1 h
  have hq : q.Sound := sound_run (make_sound now quiet) hbefore
  have hkeeps := hq.keeps hallowed.1 hallowed.2 hcreates
  have hstep (p : Queue) (e : Event) (hp : p.Sound ∧ p.Keeps row (q.running.map (·.ticket)))
      (hallowed : (p.Exclusive e ∧ p.Textual e) ∧ p.Spares kind row.id (q.running.map (·.ticket)) e) :
      (p.after e).Sound ∧ (p.after e).Keeps row (q.running.map (·.ticket)) :=
    ⟨hp.1.after hallowed.1.1 hallowed.1.2, hp.2.after hp.1.idle hallowed.1.1 hallowed.2⟩
  have hlast := run_invariant hstep ⟨hq.after hallowed.1 hallowed.2, hkeeps⟩ (hrest.and hspares)
  rw [run_append, run_cons]
  exact hlast.1.rows.showsRow journaled hlast.2.rows

def shownLater : List Event :=
  [.call ⟨[.call .current (creating .group "g" "web")], ⟨none, false, none, none⟩⟩, .move, .move, .move,
    .call ⟨[.call .current (.request (.get .group "g"))], failing.ending⟩, .move, .move, .move]

def shownGroup : Group :=
  ⟨some "g", some "web", none, ⟨some (.fields [])⟩, "1970-01-01T00:00:00.000Z", none, "1970-01-01T00:00:00.000Z", none⟩

theorem creates_shownGroup : ((make 0 true).run (shownLater.take 2)).Creates
    (some (.fields [("id", .text "g"), ("name", .text "web")])) shownGroup .move :=
  ⟨.current, rfl, rfl⟩

theorem identity_reads_of_serially_shownLater :
    let q := (make 0 true).run (shownLater.take 2)
    let last := (make 0 true).run shownLater
    let input : Given := some (.fields [("id", .text "g"), ("name", .text "web")])
    (make 0 true).Serially shownLater ∧ (∃ rows : List Group, last.session.ReadsAgree true rows) ∧
      q.Creates input shownGroup .move ∧
      (q.after .move).Along (Spares .group shownGroup.id (q.running.map (·.ticket))) (shownLater.drop 3) ∧
      last.session.ShowsRow true shownGroup := by
  intro q last input
  have hserially : (make 0 true).Serially shownLater := by decide
  obtain ⟨hreads, hshows⟩ := identity_reads_of_serially 0 true shownLater hserially true .group
  have hspares : (q.after .move).Along (Spares .group shownGroup.id (q.running.map (·.ticket)))
      (shownLater.drop 3) := by decide
  exact ⟨hserially, hreads, creates_shownGroup, hspares,
    hshows (shownLater.take 2) .move (shownLater.drop 3) input shownGroup rfl creates_shownGroup hspares⟩

end Queue

end SecretAccess
