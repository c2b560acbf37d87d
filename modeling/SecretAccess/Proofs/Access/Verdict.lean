import SecretAccess.Proofs.Transaction.Standing

namespace SecretAccess

namespace Identifier

def Valid (value : Given) : Prop :=
  ∃ id, value = some (.text id) ∧ 1 ≤ Text.unitCount id ∧ Text.unitCount id ≤ 255

theorem check_eq_ok_iff {value : Given} {id : String} :
    check value = .ok id ↔ value = some (.text id) ∧ 1 ≤ Text.unitCount id ∧ Text.unitCount id ≤ 255 := by
  have hmax : maxLength = 255 := rfl
  cases value with
  | none => simp [check]
  | some document =>
      cases document with
      | text text =>
          rw [check]
          constructor
          · intro h
            split at h
            · cases h
            · split at h
              · cases h
              · cases h
                exact ⟨rfl, by omega, by omega⟩
          · rintro ⟨htext, hpos, hle⟩
            cases htext
            rw [if_neg (by omega), if_neg (by omega)]
      | null | flag | number | list | fields => simp [check]

theorem valid_iff {value : Given} : Valid value ↔ ∃ id, check value = .ok id :=
  exists_congr fun _ => check_eq_ok_iff.symm

theorem not_valid_of_error {value : Given} {issue : Issue} (h : check value = .error issue) : ¬Valid value := by
  rw [valid_iff]
  rintro ⟨id, hok⟩
  cases h.symm.trans hok

theorem require_of_ok {value : Given} {id : String} (h : check value = .ok id) (field : String) :
    require field value = .ok id := by
  rw [require, h]

theorem require_of_error {value : Given} {issue : Issue} (h : check value = .error issue) (field : String) :
    require field value = .error (.invalidIdentifier field issue.message) := by
  rw [require, h]

end Identifier

def Edge.joins (endpoint group : Given) (row : Edge) : Bool :=
  decide (row.endpoint = endpoint ∧ row.group = group)

namespace Store

/-- A pair is left with one edge, or with none, and every other row as it was. Where the pair was so before, all rows
are. -/
structure Settles (edge : EdgeKind) (joined : Bool) (endpoint group : Given) (s u : Store) : Prop where
  pair : ((u.edges edge).values.filter (Edge.joins endpoint group)).length = joined.toNat
  pairs : ((u.edges edge).values.filter fun row => !row.joins endpoint group) =
    (s.edges edge).values.filter fun row => !row.joins endpoint group
  edges : ∀ other, other ≠ edge → u.edges other = s.edges other
  entities : ∀ kind, u.entities kind = s.entities kind
  issued : u.issued = s.issued
  kept : s.linked edge endpoint group = joined → u = s

variable {s : Store} {now : Instant} {edge : EdgeKind} {endpoint group : Given}

theorem settles_withEdges {joined : Bool} {edges : Table String Edge}
    (hpair : (edges.values.filter (Edge.joins endpoint group)).length = joined.toNat)
    (hpairs : (edges.values.filter fun row => !row.joins endpoint group) =
      (s.edges edge).values.filter fun row => !row.joins endpoint group)
    (hbefore : s.linked edge endpoint group ≠ joined) :
    Settles edge joined endpoint group s (s.withEdges edge edges) where
  pair := by rw [edges_withEdges, hpair]
  pairs := by rw [edges_withEdges, hpairs]
  edges _ hother := edges_withEdges_of_ne s hother.symm _
  entities := entities_withEdges s edge _
  issued := issued_withEdges s edge _
  kept hstood := absurd hstood hbefore

section

variable (h : s.Keyed) (hendpoint : endpoint.IsText) (hgroup : group.IsText)

include h hendpoint hgroup

theorem Keyed.joins_eq : ∀ row ∈ (s.edges edge).rows,
    row.2.joins endpoint group = decide (row.1 = pairKey endpoint group) := by
  intro row hrow
  rw [Edge.joins, decide_eq_decide]
  exact h.pair_iff_key (Table.get?_eq_some_iff.2 hrow) hendpoint hgroup

theorem Keyed.filter_joins : (s.edges edge).values.filter (Edge.joins endpoint group) =
    ((s.edges edge).get? (pairKey endpoint group)).toList :=
  Table.filter_values _ (h.joins_eq hendpoint hgroup)

theorem Keyed.length_filter_joins : ((s.edges edge).values.filter (Edge.joins endpoint group)).length =
    (s.linked edge endpoint group).toNat := by
  rw [h.filter_joins hendpoint hgroup, linked, Table.contains]
  cases (s.edges edge).get? (pairKey endpoint group) <;> rfl

theorem Keyed.settles_self {joined : Bool} (hlinked : s.linked edge endpoint group = joined) :
    Settles edge joined endpoint group s s where
  pair := by rw [h.length_filter_joins hendpoint hgroup, hlinked]
  pairs := rfl
  edges _ _ := rfl
  entities _ := rfl
  issued := rfl
  kept _ := rfl

theorem Keyed.settles_link (hok : (s.link now edge endpoint group).answer = .ok ()) :
    Settles edge true endpoint group s (s.link now edge endpoint group).store := by
  have hlinked := linked_of_link_eq_ok hok
  rcases link_cases s now edge endpoint group with ⟨_, hl⟩ | ⟨stamp, _, hfree, _, hl⟩
  · rw [hl] at hlinked ⊢
    exact h.settles_self hendpoint hgroup hlinked
  · rw [hl]
    have hnone : s.linked edge endpoint group = false := by rw [linked, Table.contains, hfree]; rfl
    have hjoins : Edge.joins endpoint group ⟨endpoint, group, stamp⟩ = true := decide_eq_true ⟨rfl, rfl⟩
    apply settles_withEdges
    · rw [Table.values_put hfree, List.filter_append, List.length_append,
        h.length_filter_joins hendpoint hgroup, hnone, List.filter_cons_of_pos hjoins]
      rfl
    · rw [Table.values_put hfree, List.filter_append, List.filter_cons_of_neg (by simp [hjoins]),
        List.filter_nil, List.append_nil]
    · rw [hnone]
      exact Bool.false_ne_true

theorem Keyed.settles_unlink :
    Settles edge false endpoint group s (s.unlink edge endpoint group).store := by
  rcases unlink_cases s edge endpoint group with ⟨hfree, hu⟩ | ⟨row, hrow, hu⟩
  · rw [hu, Outcome.store_unchanged]
    exact h.settles_self hendpoint hgroup (by rw [linked, Table.contains, hfree]; rfl)
  · rw [hu]
    have herased := Table.values_erase (t := s.edges edge) _ (h.joins_eq hendpoint hgroup)
    apply settles_withEdges
    · rw [herased, List.filter_filter]
      simp
    · rw [herased, List.filter_filter]
      simp
    · rw [linked, Table.contains, hrow]
      exact Bool.false_ne_true.symm

end

theorem WellFormed.settles_answer (h : s.WellFormed) {change : Mutation} {endpoint group : String}
    {reply : (change.request endpoint group).Answer}
    (hok : (s.answer now (change.request endpoint group)).answer = .ok reply) :
    Settles change.edge change.links (some endpoint) (some group) s
      (s.answer now (change.request endpoint group)).store := by
  cases change with
  | allowAccess | enrollClient => exact h.keyed.settles_link ⟨_, rfl⟩ ⟨_, rfl⟩ hok
  | revokeAccess | evictClient => exact h.keyed.settles_unlink ⟨_, rfl⟩ ⟨_, rfl⟩

theorem contains_of_link_eq_ok (hok : (s.link now edge endpoint group).answer = .ok ()) :
    s.contains edge.endpoint endpoint = true ∧ s.contains .group group = true := by
  have hnever {failure : Failure} : ¬s.LinkFails now edge endpoint group failure := by
    rw [← link_eq_error_iff, hok]
    exact fun h => nomatch h
  cases hend : s.contains edge.endpoint endpoint with
  | false => exact absurd (.endpoint hend) hnever
  | true =>
      cases hgroup : s.contains .group group with
      | false => exact absurd (.group hend hgroup) hnever
      | true => exact ⟨rfl, rfl⟩

theorem answer_change_cases (s : Store) (now : Instant) (change : Mutation) (endpoint group : String) :
    (change.links = true ∧ ∃ failure, s.LinkFails now change.edge (some endpoint) (some group) failure ∧
        (s.answer now (change.request endpoint group)).answer = .error failure) ∨
      (change.links = true →
          s.contains change.edge.endpoint (some endpoint) = true ∧ s.contains .group (some group) = true) ∧
        ∃ reply, (s.answer now (change.request endpoint group)).answer = .ok reply := by
  cases change with
  | allowAccess | enrollClient =>
      cases hanswer : (s.link now _ (some endpoint) (some group)).answer with
      | error failure => exact .inl ⟨rfl, failure, link_eq_error_iff.1 hanswer, hanswer⟩
      | ok => exact .inr ⟨fun _ => contains_of_link_eq_ok hanswer, (), hanswer⟩
  | revokeAccess | evictClient =>
      exact .inr ⟨fun hlinks => absurd hlinks Bool.false_ne_true, s.answer_of_parts now ⟨rfl, rfl, rfl⟩⟩

end Store

/-- A change succeeded: its pair is joined or parted, and one entry tells so. -/
structure Mutation.Done (change : Mutation) (endpoint group : String) (s s' : Session) : Prop where
  rows : Store.Settles change.edge change.links (some endpoint) (some group) s.store s'.store
  clock : s'.clock = s.clock
  log : s'.log = s.log ++ if s.quiet then [] else [change.entry endpoint group]

/-- What a change comes to, and the session after it. Each reason to fail stands only where those before it do not. -/
inductive Mutation.Verdict (change : Mutation) (verify : Bool) (endpoint group : Given) (s : Session) :
    Except Failure Unit → Session → Prop
  | invalidEndpoint (invalid : ¬Identifier.Valid endpoint) {issue : Identifier.Issue}
      (reason : Identifier.check endpoint = .error issue) :
      Verdict change verify endpoint group s (.error (.invalidIdentifier change.edge.endpointField issue.message)) s
  | invalidGroup (valid : Identifier.Valid endpoint) (invalid : ¬Identifier.Valid group) {issue : Identifier.Issue}
      (reason : Identifier.check group = .error issue) :
      Verdict change verify endpoint group s (.error (.invalidIdentifier "groupId" issue.message)) s
  | endpointNotFound (valid : Identifier.Valid endpoint ∧ Identifier.Valid group) (verifies : verify = true)
      (missing : s.store.contains change.edge.endpoint endpoint = false) :
      Verdict change verify endpoint group s (.error (.notFound change.edge.endpoint endpoint)) s
  | groupNotFound (valid : Identifier.Valid endpoint ∧ Identifier.Valid group) (verifies : verify = true)
      (stored : s.store.contains change.edge.endpoint endpoint = true)
      (missing : s.store.contains .group group = false) :
      Verdict change verify endpoint group s (.error (.notFound .group group)) s
  | danglingEndpoint (valid : Identifier.Valid endpoint ∧ Identifier.Valid group) (trusts : verify = false)
      (links : change.links = true) (missing : s.store.contains change.edge.endpoint endpoint = false) :
      Verdict change verify endpoint group s (.error (Store.danglingEndpoint change.edge)) s
  | danglingGroup (valid : Identifier.Valid endpoint ∧ Identifier.Valid group) (trusts : verify = false)
      (links : change.links = true) (stored : s.store.contains change.edge.endpoint endpoint = true)
      (missing : s.store.contains .group group = false) :
      Verdict change verify endpoint group s (.error (Store.danglingGroup change.edge)) s
  | done (valid : Identifier.Valid endpoint ∧ Identifier.Valid group)
      (stored : verify = true ∨ change.links = true →
        s.store.contains change.edge.endpoint endpoint = true ∧ s.store.contains .group group = true)
      {e g : String} (endpointIs : endpoint = some (.text e)) (groupIs : group = some (.text g)) {s' : Session}
      (done : change.Done e g s s') : Verdict change verify endpoint group s (.ok ()) s'

theorem Mutation.Verdict.ne_foreignKeyViolation {change : Mutation} {endpoint group : Given} {s s' : Session}
    {answer : Except Failure Unit} (h : change.Verdict true endpoint group s answer s') (constraint message : Given) :
    answer ≠ .error (.foreignKeyViolation constraint message) := by
  cases h with
  | invalidEndpoint | invalidGroup => exact fun heq => nomatch heq
  | endpointNotFound => cases change <;> exact fun heq => nomatch heq
  | groupNotFound => exact fun heq => nomatch heq
  | danglingEndpoint _ trusts | danglingGroup _ trusts => cases trusts
  | done => exact fun heq => nomatch heq

section

variable {σ : Type} {s : σ} {verify : Bool} {change : Mutation} {endpoint group : Given}
  (gateway : Gateway (ExceptT Failure (StateM σ)))

theorem mutate_of_endpoint_error {issue : Identifier.Issue} (h : Identifier.check endpoint = .error issue) :
    mutate gateway verify change endpoint group s =
      (.error (.invalidIdentifier change.edge.endpointField issue.message), s) := by
  rw [mutate, bind_apply, ofExcept_apply, Identifier.require_of_error h]

theorem mutate_of_group_error {e : String} (he : Identifier.check endpoint = .ok e) {issue : Identifier.Issue}
    (hg : Identifier.check group = .error issue) :
    mutate gateway verify change endpoint group s = (.error (.invalidIdentifier "groupId" issue.message), s) := by
  rw [mutate, bind_apply, ofExcept_apply, Identifier.require_of_ok he]
  change ((ofExcept (Identifier.require "groupId" group) : ExceptT Failure (StateM σ) String) >>= _) s = _
  rw [bind_apply, ofExcept_apply, Identifier.require_of_error hg]

def carryOut (change : Mutation) (e g : String) : ExceptT Failure (StateM σ) Unit := do
  let _ ← gateway.ask (change.request e g)
  gateway.record (change.entry e g)

theorem mutate_false_eq {e g : String} (he : Identifier.check endpoint = .ok e) (hg : Identifier.check group = .ok g) :
    mutate gateway false change endpoint group = carryOut gateway change e g := by
  rw [mutate, Identifier.require_of_ok he, Identifier.require_of_ok hg]
  rfl

theorem mutate_true_eq {e g : String} (he : Identifier.check endpoint = .ok e) (hg : Identifier.check group = .ok g) :
    mutate gateway true change endpoint group = (requireStored gateway change.edge.endpoint e >>= fun _ =>
      requireStored gateway .group g >>= fun _ => carryOut gateway change e g) := by
  rw [mutate, Identifier.require_of_ok he, Identifier.require_of_ok hg]
  rfl

end

namespace Session

open SessionM

variable {s : Session} {journaled verify : Bool} {change : Mutation} {endpoint group : Given} {e g : String}

theorem requireStored_apply (s : Session) (journaled : Bool) (kind : EntityKind) (id : String) :
    requireStored (gateway journaled) kind id s =
      (if s.store.contains kind (some id) then .ok () else .error (.notFound kind (some id)), s) := by
  rw [requireStored, bind_eq_of_ok (ask_apply s journaled rfl rfl), Store.contains, Table.contains]
  rw [Store.get?]
  cases (s.store.entities kind).get? (s.store.key (some id)) <;> rfl

theorem mutate_true_of_ok (he : Identifier.check endpoint = .ok e) (hg : Identifier.check group = .ok g) :
    mutate (gateway journaled) true change endpoint group s =
      if s.store.contains change.edge.endpoint (some e) = false then (.error (.notFound change.edge.endpoint (some e)), s)
      else if s.store.contains .group (some g) = false then (.error (.notFound .group (some g)), s)
      else carryOut (gateway journaled) change e g s := by
  rw [mutate_true_eq (gateway journaled) he hg, bind_apply, requireStored_apply]
  cases s.store.contains change.edge.endpoint (some e) with
  | false => rfl
  | true =>
      change (requireStored (gateway journaled) .group g >>= fun _ => carryOut (gateway journaled) change e g) s = _
      rw [bind_apply, requireStored_apply]
      cases s.store.contains .group (some g) <;> rfl

theorem carryOut_of_error {failure : Failure}
    (h : (s.store.answer s.clock (change.request e g)).answer = .error failure) :
    carryOut (gateway journaled) change e g s = (.error failure, s) := by
  have hdraws : (change.request e g).draws = false := by cases change <;> rfl
  have hunchanged := Store.answer_of_error h
  rw [hdraws, Store.drawing_false] at hunchanged
  rw [carryOut, bind_apply]
  simp [gateway, hunchanged, Outcome.unchanged]

theorem carryOut_of_ok {reply : (change.request e g).Answer}
    (h : (s.store.answer s.clock (change.request e g)).answer = .ok reply) :
    carryOut (gateway journaled) change e g s =
      (.ok (), ((gateway journaled).ask (change.request e g) s).2.noting [change.entry e g]) := by
  have hask : (gateway journaled).ask (change.request e g) s =
      (.ok reply, ((gateway journaled).ask (change.request e g) s).2) := Prod.ext h rfl
  rw [carryOut, bind_eq_of_ok hask]
  exact record_apply _ journaled _

theorem done_of_ok (hwell : s.store.WellFormed) (journaled : Bool) {reply : (change.request e g).Answer}
    (h : (s.store.answer s.clock (change.request e g)).answer = .ok reply) :
    change.Done e g s (carryOut (gateway journaled) change e g s).2 := by
  have hrows := hwell.settles_answer h
  rw [carryOut_of_ok h, noting]
  change change.Done e g s (if s.quiet then _ else _)
  cases hquiet : s.quiet with
  | true => exact ⟨hrows, rfl, by simp [gateway, hquiet]⟩
  | false => exact ⟨hrows, rfl, by simp [gateway, hquiet]⟩

theorem verdict_carryOut (hwell : s.store.WellFormed) (hclock : s.clock.inRange = true)
    (hvalid : Identifier.Valid (some e) ∧ Identifier.Valid (some g))
    (hstored : verify = true → s.store.contains change.edge.endpoint (some e) = true ∧
      s.store.contains .group (some g) = true) :
    change.Verdict verify (some e) (some g) s (carryOut (gateway journaled) change e g s).1
      (carryOut (gateway journaled) change e g s).2 := by
  rcases s.store.answer_change_cases s.clock change e g with ⟨hlinks, failure, hfails, hanswer⟩ | ⟨hends, reply, hanswer⟩
  · rw [carryOut_of_error hanswer]
    cases hfails with
    | endpoint missing =>
        cases verify with
        | false => exact .danglingEndpoint hvalid rfl hlinks missing
        | true => cases missing.symm.trans (hstored rfl).1
    | group stored missing =>
        cases verify with
        | false => exact .danglingGroup hvalid rfl hlinks stored missing
        | true => cases missing.symm.trans (hstored rfl).2
    | timeless _ _ _ late => cases hclock.symm.trans late
  · have hdone := done_of_ok hwell journaled hanswer
    have hok : (carryOut (gateway journaled) change e g s).1 = .ok () := by rw [carryOut_of_ok hanswer]
    rw [hok]
    exact .done hvalid (fun h => h.elim hstored hends) rfl rfl hdone

theorem verdict_of_run (hwell : s.store.WellFormed) (hclock : s.clock.inRange = true) (journaled verify : Bool)
    (change : Mutation) (endpoint group : Given) :
    change.Verdict verify endpoint group s (mutate (gateway journaled) verify change endpoint group s).1
      (mutate (gateway journaled) verify change endpoint group s).2 := by
  cases hendpoint : Identifier.check endpoint with
  | error issue =>
      rw [mutate_of_endpoint_error _ hendpoint]
      exact .invalidEndpoint (Identifier.not_valid_of_error hendpoint) hendpoint
  | ok e =>
      cases hgroup : Identifier.check group with
      | error issue =>
          rw [mutate_of_group_error _ hendpoint hgroup]
          exact .invalidGroup (Identifier.valid_iff.2 ⟨e, hendpoint⟩) (Identifier.not_valid_of_error hgroup) hgroup
      | ok g =>
          have hvalid : Identifier.Valid endpoint ∧ Identifier.Valid group :=
            ⟨Identifier.valid_iff.2 ⟨e, hendpoint⟩, Identifier.valid_iff.2 ⟨g, hgroup⟩⟩
          obtain ⟨rfl, _⟩ := Identifier.check_eq_ok_iff.1 hendpoint
          obtain ⟨rfl, _⟩ := Identifier.check_eq_ok_iff.1 hgroup
          cases verify with
          | false =>
              rw [mutate_false_eq _ hendpoint hgroup]
              exact verdict_carryOut hwell hclock hvalid fun h => nomatch h
          | true =>
              rw [mutate_true_of_ok hendpoint hgroup]
              cases hend : s.store.contains change.edge.endpoint (some e) with
              | false => exact .endpointNotFound hvalid rfl hend
              | true =>
                  cases hgroup : s.store.contains .group (some g) with
                  | false => exact .groupNotFound hvalid rfl hend hgroup
                  | true => exact verdict_carryOut hwell hclock hvalid fun _ => ⟨hend, hgroup⟩

theorem mutate_of_not_valid (h : ¬(Identifier.Valid endpoint ∧ Identifier.Valid group)) (one other : Gateway SessionM) :
    mutate one verify change endpoint group s = mutate other verify change endpoint group s := by
  cases hendpoint : Identifier.check endpoint with
  | error issue => rw [mutate_of_endpoint_error _ hendpoint, mutate_of_endpoint_error _ hendpoint]
  | ok e =>
      cases hgroup : Identifier.check group with
      | error issue => rw [mutate_of_group_error _ hendpoint hgroup, mutate_of_group_error _ hendpoint hgroup]
      | ok g => exact absurd ⟨Identifier.valid_iff.2 ⟨e, hendpoint⟩, Identifier.valid_iff.2 ⟨g, hgroup⟩⟩ h

theorem mutate_true_of_stored (hend : s.store.contains change.edge.endpoint endpoint = true)
    (hgroup : s.store.contains .group group = true) :
    mutate (gateway journaled) true change endpoint group s = mutate (gateway journaled) false change endpoint group s := by
  cases hendpoint : Identifier.check endpoint with
  | error issue => rw [mutate_of_endpoint_error _ hendpoint, mutate_of_endpoint_error _ hendpoint]
  | ok e =>
      cases hcheck : Identifier.check group with
      | error issue => rw [mutate_of_group_error _ hendpoint hcheck, mutate_of_group_error _ hendpoint hcheck]
      | ok g =>
          obtain ⟨rfl, _⟩ := Identifier.check_eq_ok_iff.1 hendpoint
          obtain ⟨rfl, _⟩ := Identifier.check_eq_ok_iff.1 hcheck
          rw [mutate_true_of_ok hendpoint hcheck, mutate_false_eq _ hendpoint hcheck, hend, hgroup]
          rfl

end Session

namespace Queue

/-- In every state of a serial run, and through whatever context, a change to the graph comes to what `Verdict` says.
Values that are no identifiers are found out before the store is asked anything. No violation of a foreign key comes
of a change that verifies its ends, and where both are stored it is no matter whether they are verified. -/
theorem verdict_of_serially (now : Instant) (quiet : Bool) {events : List Event}
    (h : (make now quiet).Serially events) (hclock : ((make now quiet).run events).session.clock.inRange = true)
    (journaled : Bool) (change : Mutation) (endpoint group : Given) :
    let s := ((make now quiet).run events).session
    let changed (verify : Bool) := s.run journaled (.mutate verify change endpoint group)
    (∀ verify, change.Verdict verify endpoint group s (changed verify).1 (changed verify).2) ∧
    (∀ verify, ¬(Identifier.Valid endpoint ∧ Identifier.Valid group) → ∀ gateway : Gateway SessionM,
      mutate gateway verify change endpoint group s = changed verify) ∧
    (∀ constraint message, (changed true).1 ≠ .error (.foreignKeyViolation constraint message)) ∧
    (s.store.contains change.edge.endpoint endpoint = true → s.store.contains .group group = true →
      changed true = changed false) := by
  intro s changed
  have hwell : s.store.WellFormed := (sound_run (make_sound now quiet) h).rows
  have hverdict (verify : Bool) :
      change.Verdict verify endpoint group s (changed verify).1 (changed verify).2 :=
    Session.verdict_of_run hwell hclock journaled verify change endpoint group
  refine ⟨hverdict, fun verify hinvalid gateway => ?_, (hverdict true).ne_foreignKeyViolation, fun hend hgroup => ?_⟩
  · exact Session.mutate_of_not_valid hinvalid gateway (Session.gateway journaled)
  · exact Session.mutate_true_of_stored hend hgroup

def withClient : List Event :=
  [.step (.call .autocommit (creating .client "c" "ci")), .step (.call .autocommit (creating .group "g" "web"))]

theorem verdict_of_serially_withClient :
    (make 0 false).Serially withClient ∧ ((make 0 false).run withClient).session.clock.inRange = true ∧
      Mutation.Verdict .enrollClient true (some "c") (some "g") ((make 0 false).run withClient).session
        (((make 0 false).run withClient).session.run true (.mutate true .enrollClient (some "c") (some "g"))).1
        (((make 0 false).run withClient).session.run true (.mutate true .enrollClient (some "c") (some "g"))).2 ∧
      ((make 0 false).run withClient).session.run true (.mutate true .enrollClient (some "c") (some "g")) =
        ((make 0 false).run withClient).session.run true (.mutate false .enrollClient (some "c") (some "g")) := by
  have hserially : (make 0 false).Serially withClient := by decide
  have hclock : ((make 0 false).run withClient).session.clock.inRange = true := by decide
  obtain ⟨hverdict, _, _, hsame⟩ :=
    verdict_of_serially 0 false hserially hclock true .enrollClient (some "c") (some "g")
  exact ⟨hserially, hclock, hverdict true, hsame (by decide) (by decide)⟩

end Queue

end SecretAccess
