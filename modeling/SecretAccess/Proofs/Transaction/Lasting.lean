import SecretAccess.Proofs.Transaction.Interleaved

namespace SecretAccess

def Mutation.links : Mutation → Bool
  | allowAccess | enrollClient => true
  | revokeAccess | evictClient => false

def Step.asks : Step → Option Request
  | .call _ c => c.asks
  | _ => none

theorem Step.textual_of_asks {step : Step} {request : Request} (h : step.asks = some request) (ht : step.Textual) :
    request.Textual := by
  cases step with
  | call => exact Call.textual_of_asks h ht
  | clock | clear | dump | spawn => cases h

theorem Store.linked_of_answer_eq_ok {s : Store} {now : Instant} {change : Mutation} {endpoint group : String}
    {reply : (change.request endpoint group).Answer}
    (hok : (s.answer now (change.request endpoint group)).answer = .ok reply) :
    (s.answer now (change.request endpoint group)).store.linked change.edge (some endpoint) (some group) =
      change.links := by
  cases change with
  | allowAccess | enrollClient => exact linked_of_link_eq_ok hok
  | revokeAccess | evictClient => exact linked_unlink _ _ _

namespace Queue

variable {q : Queue} {e : Event} {events : List Event} {running : Running} {edge : EdgeKind}
  {endpoint group : Given}

def SucceedsElsewhere (request : Request) (q : Queue) (e : Event) : Prop :=
  ∃ step reply, q.stepOf e = some step ∧ q.owns step = false ∧ step.asks = some request ∧
    (q.take step).1.outcome = .ok reply

/-- In an event, nobody but the open transaction joins or parts a pair. -/
def LeftAlone (edge : EdgeKind) (endpoint group : Given) (q : Queue) (e : Event) : Prop :=
  ∀ step ∈ q.stepOf e, q.owns step = false → ∀ request ∈ step.asks, ¬request.Concerns edge endpoint group

def HasEndsAfter (edge : EdgeKind) (endpoint group : Given) (q : Queue) (e : Event) : Prop :=
  (q.after e).session.store.HasEnds edge endpoint group

instance (edge : EdgeKind) (endpoint group : Given) (q : Queue) (e : Event) :
    Decidable (q.LeftAlone edge endpoint group e) :=
  inferInstanceAs (Decidable (∀ step ∈ _, _ → ∀ request ∈ _, _))

instance (edge : EdgeKind) (endpoint group : Given) (q : Queue) (e : Event) :
    Decidable (q.HasEndsAfter edge endpoint group e) :=
  inferInstanceAs (Decidable (Store.HasEnds _ edge endpoint group))

theorem take_cases (q : Queue) (step : Step) :
    (q.take step).2.session.store = q.session.store ∧
        (step.asks.isSome = true → ∃ failure, (q.take step).1.outcome = .error failure) ∨
      step = .clear ∧ (q.take step).2.session.store = q.session.store.cleared ∨
      ∃ request, step.asks = some request ∧
        (q.take step).2.session.store = (q.session.store.answer q.session.clock request).store ∧
        ∀ reply, (q.take step).1.outcome = .ok reply →
          ∃ answer, (q.session.store.answer q.session.clock request).answer = .ok answer := by
  cases step with
  | clock | dump | spawn => exact .inl ⟨rfl, fun h => nomatch h⟩
  | clear => exact .inr (.inl ⟨rfl, rfl⟩)
  | call scope call =>
      rcases Session.run_asks { q.session with log := [] } (q.journaled scope) call with
        ⟨huntouched, hfails⟩ | ⟨request, hasks, hasked, hok⟩
      · refine .inl ⟨huntouched.store, fun hasks => ?_⟩
        obtain ⟨failure, hfailure⟩ := hfails hasks
        refine ⟨failure, ?_⟩
        rw [outcome_take_call, hfailure]
        rfl
      · refine .inr (.inr ⟨request, hasks, hasked.store, fun reply hreply => ?_⟩)
        cases hrun : (Session.run { q.session with log := [] } (q.journaled scope) call).1 with
        | error failure =>
            rw [outcome_take_call, hrun] at hreply
            cases hreply
        | ok answer => exact hok answer hrun

theorem linked_after_of_succeeds {change : Mutation} {endpoint group : String}
    (h : q.SucceedsElsewhere (change.request endpoint group) e) :
    (q.after e).session.store.linked change.edge (some endpoint) (some group) = change.links := by
  obtain ⟨step, reply, hstep, _, hasks, hreply⟩ := h
  rw [session_after_of_stepOf hstep]
  rcases q.take_cases step with ⟨_, hfails⟩ | ⟨rfl, _⟩ | ⟨request, hasks', hstore, hok⟩
  · obtain ⟨failure, hfailure⟩ := hfails (Option.isSome_of_eq_some hasks)
    rw [hreply] at hfailure
    cases hfailure
  · cases hasks
  · cases Option.some.inj (hasks.symm.trans hasks')
    obtain ⟨answer, hanswer⟩ := hok reply hreply
    rw [hstore]
    exact Store.linked_of_answer_eq_ok hanswer

theorem linked_after_of_leftAlone (h : q.session.store.WellFormed) (htextual : q.Textual e)
    (hendpoint : endpoint.IsText) (hgroup : group.IsText) (helse : q.Elsewhere e)
    (hends : q.HasEndsAfter edge endpoint group e) (halone : q.LeftAlone edge endpoint group e) :
    (q.after e).session.store.linked edge endpoint group = q.session.store.linked edge endpoint group := by
  obtain ⟨step, hstep, howns⟩ := helse
  rw [HasEndsAfter, session_after_of_stepOf hstep] at hends
  rw [session_after_of_stepOf hstep]
  rcases q.take_cases step with ⟨hstore, _⟩ | ⟨_, hcleared⟩ | ⟨request, hasks, hstore, _⟩
  · rw [hstore]
  · rw [hcleared] at hends
    exact absurd hends (Store.not_hasEnds_cleared _ _ _)
  · rw [hstore] at hends ⊢
    have ht : request.Textual := Step.textual_of_asks hasks (htextual _ hstep)
    exact h.linked_answer _ ht hendpoint hgroup hends (halone step hstep howns request hasks)

theorem isSome_backValue_after (h : q.session.store.WellFormed) (htextual : q.Textual e)
    (hopen : (q.after e).running.isSome = true) (hendpoint : endpoint.IsText) (hgroup : group.IsText)
    (hends : q.HasEndsAfter edge endpoint group e) (halone : q.LeftAlone edge endpoint group e) :
    ((q.after e).backValue (.edges edge) (pairKey endpoint group)).isSome =
      (q.backValue (.edges edge) (pairKey endpoint group)).isSome := by
  by_cases helse : q.Elsewhere e
  · rw [backValue_after_of_elsewhere _ _ hopen helse, backValue]
    cases q.journaledValue (.edges edge) (pairKey endpoint group) with
    | some before => rfl -- the journal decides, and nobody else writes to it
    | none => exact linked_after_of_leftAlone h htextual hendpoint hgroup helse hends halone
  · rw [backValue_after_of_not_elsewhere _ _ hopen helse]

theorem isSome_backValue_run (h : q.session.store.WellFormed) (htextual : q.Along Textual events)
    (hopen : q.StaysOpen events) (hendpoint : endpoint.IsText) (hgroup : group.IsText)
    (hends : q.Along (HasEndsAfter edge endpoint group) events)
    (halone : q.Along (LeftAlone edge endpoint group) events) :
    ((q.run events).backValue (.edges edge) (pairKey endpoint group)).isSome =
      (q.backValue (.edges edge) (pairKey endpoint group)).isSome := by
  induction events generalizing q with
  | nil => rfl
  | cons e events ih =>
      rw [run_cons, ih (wellFormed_after h htextual.1 hopen.1) htextual.2 hopen.2 hends.2 halone.2]
      exact isSome_backValue_after h htextual.1 hopen.1 hendpoint hgroup hends.1 halone.1

/-- While a transaction is open, somebody else joins or parts a pair with success. From then on nobody but the
transaction joins or parts it, and its ends stay. Then the transaction is taken back, and the edge is as it was
left unless the transaction had written the pair before and found it the other way there. -/
theorem edge_lasts_iff (hq : q.InUse) (hwell : q.session.store.WellFormed) (hbegins : q.Begins running)
    {before rest : List Event} (hopen : (q.after .move).StaysOpen (before ++ e :: rest))
    (htextual : (q.after .move).Along Textual (before ++ e :: rest)) {change : Mutation} {endpoint group : String}
    (hsucceeds : ((q.after .move).run before).SucceedsElsewhere (change.request endpoint group) e)
    (hends : (((q.after .move).run before).after e).Along
      (HasEndsAfter change.edge (some endpoint) (some group)) rest)
    (halone : (((q.after .move).run before).after e).Along
      (LeftAlone change.edge (some endpoint) (some group)) rest)
    (hfails : ((q.after .move).run (before ++ e :: rest)).Fails) :
    (((q.after .move).run (before ++ e :: rest)).after .move).session.store.linked change.edge
        (some endpoint) (some group) = change.links ↔
      ∀ found, (q.after .move).found (.edges change.edge) (pairKey (some endpoint) (some group)) before =
        some found → found.isSome = change.links := by
  obtain ⟨hopen, hstays, hlater⟩ := along_append.1 hopen
  obtain ⟨htextual, ht, htlater⟩ := along_append.1 htextual
  have hmid := wellFormed_after (wellFormed_run (hbegins.wellFormed hwell) hopen htextual) ht hstays
  have helse : ((q.after .move).run before).Elsewhere e := by
    obtain ⟨step, _, hstep, howns, _⟩ := hsucceeds
    exact ⟨step, hstep, howns⟩
  -- from the change on, what would be left of the edge stays the same up to the end
  have hlast : (((q.after .move).run (before ++ e :: rest)).after .move).session.store.linked change.edge
      (some endpoint) (some group) =
        (((q.after .move).found (.edges change.edge) (pairKey (some endpoint) (some group)) before).getD
          ((((q.after .move).run before).after e).value (.edges change.edge)
            (pairKey (some endpoint) (some group)))).isSome := by
    have hback := isSome_backValue_run hmid htlater hlater ⟨_, rfl⟩ ⟨_, rfl⟩ hends halone
    rw [backValue_after_of_elsewhere _ _ hstays helse, hq.journaledValue_run hbegins hopen] at hback
    rw [run_append (q.after .move), run_cons ((q.after .move).run before)] at hfails ⊢
    rw [← hback, backValue, ← value_after_of_fails hfails]
    rfl
  rw [hlast]
  cases (q.after .move).found (.edges change.edge) (pairKey (some endpoint) (some group)) before with
  | none => exact iff_of_true (linked_after_of_succeeds hsucceeds) (by simp)
  | some found => simp

def beforeEnrolled : List Event :=
  [.step (.call .autocommit (creating .client "c" "ci")), .step (.call .autocommit (creating .group "g" "web")),
    .call failing]

def changing (scope : Scope) (change : Mutation) : Event := .step (.call scope (.mutate false change "c" "g"))

theorem edge_lasts_iff_enrolled :
    let q := (make 0 true).run beforeEnrolled
    let before := [changing .current .evictClient]
    let enrolled := changing .autocommit .enrollClient
    let rest := [changing .current .evictClient]
    let p := (q.after .move).run before
    let r := (q.after .move).run (before ++ enrolled :: rest)
    q.InUse ∧ q.session.store.WellFormed ∧ (q.after .move).StaysOpen (before ++ enrolled :: rest) ∧
      (q.after .move).Along Textual (before ++ enrolled :: rest) ∧
      p.SucceedsElsewhere (Mutation.enrollClient.request "c" "g") enrolled ∧
      (p.after enrolled).Along (HasEndsAfter .membership (some "c") (some "g")) rest ∧
      (p.after enrolled).Along (LeftAlone .membership (some "c") (some "g")) rest ∧ r.Fails ∧
      ((r.after .move).session.store.linked .membership (some "c") (some "g") = true ↔
        ∀ found, (q.after .move).found (.edges .membership) (pairKey (some "c") (some "g")) before = some found →
          found.isSome = true) := by
  intro q before enrolled rest p r
  have hq : q.InUse := make_inUse 0 true beforeEnrolled
  have hwell : q.session.store.WellFormed := (sound_run (make_sound 0 true) (by decide)).rows
  have hbegins : q.Begins ⟨0, 1, [], failing.ending, [], none⟩ := ⟨rfl, rfl⟩
  have hopen : (q.after .move).StaysOpen (before ++ enrolled :: rest) := by decide
  have htextual : (q.after .move).Along Textual (before ++ enrolled :: rest) := by decide
  have hsucceeds : p.SucceedsElsewhere (Mutation.enrollClient.request "c" "g") enrolled :=
    ⟨_, _, rfl, rfl, rfl, rfl⟩
  have hends : (p.after enrolled).Along (HasEndsAfter .membership (some "c") (some "g")) rest := by decide
  have halone : (p.after enrolled).Along (LeftAlone .membership (some "c") (some "g")) rest := by decide
  have hfails : r.Fails := ⟨_, _, rfl, rfl, rfl⟩
  have hlasts := edge_lasts_iff hq hwell hbegins hopen htextual hsucceeds hends halone hfails
  exact ⟨hq, hwell, hopen, htextual, hsucceeds, hends, halone, hfails, hlasts⟩

/-- The open transaction makes a change and the opposite one. Somebody else makes the change after that, with
success, and it is gone once the transaction is taken back. -/
def TakesBack (past : List Event) (change opposite : Mutation) : Prop :=
  let q := (make 0 true).run past
  let before := [changing .current change, changing .current opposite]
  let changed := changing .autocommit change
  let r := (q.after .move).run (before ++ [changed])
  q.session.store.WellFormed ∧ q.session.store.HasEnds change.edge (some "c") (some "g") ∧
    (q.after .move).StaysOpen (before ++ [changed]) ∧ (q.after .move).Along Textual (before ++ [changed]) ∧
    (q.after .move).Along (HasEndsAfter change.edge (some "c") (some "g")) (before ++ [changed]) ∧
    ((q.after .move).run before).SucceedsElsewhere (change.request "c" "g") changed ∧ r.Fails ∧
    r.session.store.linked change.edge (some "c") (some "g") = change.links ∧
    (r.after .move).session.store.linked change.edge (some "c") (some "g") ≠ change.links

theorem edge_restored :
    TakesBack beforeEvicted .evictClient .enrollClient ∧ TakesBack beforeEnrolled .enrollClient .evictClient := by
  constructor
  · refine ⟨?_, by decide, by decide, by decide, by decide, ⟨_, _, rfl, rfl, rfl, rfl⟩, ⟨_, _, rfl, rfl, rfl⟩,
      by decide, by decide⟩
    exact (sound_run (make_sound 0 true) (by decide)).rows
  · refine ⟨?_, by decide, by decide, by decide, by decide, ⟨_, _, rfl, rfl, rfl, rfl⟩, ⟨_, _, rfl, rfl, rfl⟩,
      by decide, by decide⟩
    exact (sound_run (make_sound 0 true) (by decide)).rows

end Queue

end SecretAccess
