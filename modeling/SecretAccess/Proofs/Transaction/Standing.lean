import Mathlib.Data.List.Induction
import SecretAccess.Proofs.Store.EdgeRows
import SecretAccess.Proofs.Transaction.Lasting
import SecretAccess.Proofs.Transaction.Refused

namespace SecretAccess

namespace Queue

variable {q : Queue} {steps : List Step} {step : Step} {edge : EdgeKind} {endpoint group : Given} {n : Nat}

def Joins (edge : EdgeKind) (endpoint group : Given) (q : Queue) (step : Step) : Prop :=
  step.asks = some (.link edge endpoint group) ∧ (q.take step).1.outcome.toBool = true

def Parts (edge : EdgeKind) (endpoint group : Given) (q : Queue) (step : Step) : Prop :=
  step = .clear ∨
    ∃ request ∈ step.asks, request.Parts edge endpoint group ∧ (q.take step).1.outcome.toBool = true

theorem parts_of_request {request : Request} (h : request.Parts edge endpoint group) (scope : Scope) :
    q.Parts edge endpoint group (.call scope (.request request)) := by
  obtain ⟨answer, hanswer⟩ := q.session.store.answer_of_parts q.session.clock h
  refine .inr ⟨request, rfl, h, ?_⟩
  change ((q.session.store.answer q.session.clock request).answer.map (Reply.answer (.request request))).toBool = true
  rw [hanswer]
  rfl

def Happens (what : Queue → Step → Prop) (q : Queue) (steps : List Step) (n : Nat) : Prop :=
  ∃ step, steps[n]? = some step ∧ what (q.run ((steps.take n).map .step)) step

def Stands (edge : EdgeKind) (endpoint group : Given) (q : Queue) (steps : List Step) (n : Nat) : Prop :=
  q.Happens (Joins edge endpoint group) steps n ∧
    ∀ m, n < m → ¬q.Happens (Parts edge endpoint group) steps m

/-- The pair was joined, not parted since, and parted before if it was ever joined before. -/
structure StandsSince (edge : EdgeKind) (endpoint group : Given) (q : Queue) (steps : List Step) (n : Nat) : Prop where
  stands : q.Stands edge endpoint group steps n
  first : ∀ m, m < n → q.Happens (Joins edge endpoint group) steps m →
    ∃ k, m < k ∧ k < n ∧ q.Happens (Parts edge endpoint group) steps k

theorem Happens.lt {what : Queue → Step → Prop} (h : q.Happens what steps n) : n < steps.length := by
  obtain ⟨step, hstep, _⟩ := h
  exact (List.getElem?_eq_some_iff.1 hstep).1

theorem happens_concat {what : Queue → Step → Prop} :
    q.Happens what (steps ++ [step]) n ↔
      q.Happens what steps n ∨ n = steps.length ∧ what (q.run (steps.map .step)) step := by
  rcases Nat.lt_trichotomy n steps.length with hn | rfl | hn
  · rw [Happens, Happens, List.getElem?_append_left hn, List.take_append_of_le_length (Nat.le_of_lt hn)]
    simp [Nat.ne_of_lt hn]
  · simp [Happens]
  · constructor
    · intro h
      have hlt := h.lt
      rw [List.length_append, List.length_singleton] at hlt
      omega
    · rintro (h | ⟨rfl, _⟩)
      · exact absurd h.lt (by omega)
      · exact absurd hn (Nat.lt_irrefl _)

theorem not_parts_of_joins (h : q.Joins edge endpoint group step) : ¬q.Parts edge endpoint group step := by
  rintro (rfl | ⟨request, hasks, hparts, _⟩)
  · cases h.1
  · cases h.1.symm.trans hasks
    exact hparts

/-- What a step does to the edge of a pair. -/
inductive EdgeTurn (edge : EdgeKind) (endpoint group : Given) (q : Queue) (step : Step) : Prop
  | parted (parts : q.Parts edge endpoint group step)
      (after : (q.take step).2.session.store.edge? edge endpoint group = none)
  | joined (joins : q.Joins edge endpoint group step) (before : q.session.store.edge? edge endpoint group = none)
      {stamp : Timestamp} (hstamp : q.session.clock.toText? = some stamp)
      (after : (q.take step).2.session.store.edge? edge endpoint group = some ⟨endpoint, group, stamp⟩)
  | kept (stays : ¬q.Parts edge endpoint group step)
      (stood : q.Joins edge endpoint group step → (q.session.store.edge? edge endpoint group).isSome = true)
      (after : (q.take step).2.session.store.edge? edge endpoint group = q.session.store.edge? edge endpoint group)

theorem edges_take_of_error {failure : Failure} (h : (q.take step).1.outcome = .error failure) (edge : EdgeKind) :
    (q.take step).2.session.store.edges edge = q.session.store.edges edge := by
  cases step with
  | clock | clear | dump | spawn => cases h
  | call scope call =>
      cases hrun : (Session.run { q.session with log := [] } (q.journaled scope) call).1 with
      | ok answer =>
          rw [outcome_take_call, hrun] at h
          cases h
      | error other =>
          simp only [take, Session.take, owns, Session.run_of_error hrun]
          cases edge <;> rfl

theorem edgeTurn_of_error {failure : Failure} (h : (q.take step).1.outcome = .error failure) :
    EdgeTurn edge endpoint group q step := by
  have hfails : (q.take step).1.outcome.toBool ≠ true := by
    rw [h]
    exact Bool.false_ne_true
  refine .kept ?_ (fun hjoins => absurd hjoins.2 hfails) ?_
  · rintro (rfl | ⟨_, _, _, hok⟩)
    · cases h
    · exact hfails hok
  · rw [Store.edge?, edges_take_of_error h, Store.edge?]

theorem edgeTurn_of_asks (h : q.session.store.WellFormed) (hendpoint : endpoint.IsText) (hgroup : group.IsText)
    {request : Request} (hasks : step.asks = some request) (ht : request.Textual)
    (hok : (q.take step).1.outcome.toBool = true)
    (hstore : (q.take step).2.session.store = (q.session.store.answer q.session.clock request).store)
    {answer : request.Answer} (hanswer : (q.session.store.answer q.session.clock request).answer = .ok answer) :
    EdgeTurn edge endpoint group q step := by
  by_cases hparts : request.Parts edge endpoint group
  · exact .parted (.inr ⟨request, hasks, hparts, hok⟩)
      (by rw [hstore, h.edge?_answer_of_parts _ ht hendpoint hgroup hparts])
  have hstays : ¬q.Parts edge endpoint group step := by
    rintro (rfl | ⟨other, hother, hparts', _⟩)
    · cases hasks
    · cases hasks.symm.trans hother
      exact hparts hparts'
  by_cases hlink : request = .link edge endpoint group
  · subst hlink
    rcases Store.edge?_link_self hanswer with ⟨hsame, hstood⟩ | ⟨hfree, stamp, hstamp, hnew⟩
    · exact .kept hstays (fun _ => hstood) (by rw [hstore]; exact hsame)
    · exact .joined ⟨hasks, hok⟩ hfree hstamp (by rw [hstore]; exact hnew)
  · refine .kept hstays ?_ (by rw [hstore, h.edge?_answer_of_ne _ ht hendpoint hgroup hparts hlink])
    intro hjoins
    exact absurd (Option.some.inj (hasks.symm.trans hjoins.1)) hlink

theorem edgeTurn (h : q.session.store.WellFormed) (ht : step.Textual) (hendpoint : endpoint.IsText)
    (hgroup : group.IsText) : EdgeTurn edge endpoint group q step := by
  by_cases hclear : step = .clear
  · subst hclear
    exact .parted (.inl rfl) (by cases edge <;> rfl)
  cases houtcome : (q.take step).1.outcome with
  | error failure => exact edgeTurn_of_error houtcome
  | ok reply =>
      have hok : (q.take step).1.outcome.toBool = true := by
        rw [houtcome]
        rfl
      rcases q.take_cases step with ⟨hstore, hfails⟩ | ⟨hcleared, _⟩ | ⟨request, hasks, hstore, hanswers⟩
      · have hnone : step.asks = none := by
          rw [← Option.not_isSome_iff_eq_none]
          intro hasks
          obtain ⟨failure, hfailure⟩ := hfails hasks
          cases houtcome.symm.trans hfailure
        refine .kept ?_ ?_ (by rw [hstore])
        · rintro (hcleared | ⟨request, hasks, _⟩)
          · exact hclear hcleared
          · cases hnone.symm.trans hasks
        · rintro ⟨hasks, _⟩
          cases hnone.symm.trans hasks
      · exact absurd hcleared hclear
      · obtain ⟨answer, hanswer⟩ := hanswers reply houtcome
        exact edgeTurn_of_asks h hendpoint hgroup hasks (step.textual_of_asks hasks ht) hok hstore hanswer

theorem Stands.isText (hstands : q.Stands edge endpoint group steps n) (h : ∀ step ∈ steps, step.Textual) :
    endpoint.IsText ∧ group.IsText := by
  obtain ⟨⟨step, hstep, hasks, _⟩, _⟩ := hstands
  exact Step.textual_of_asks hasks (h step (List.mem_of_getElem? hstep))

theorem stands_concat : q.Stands edge endpoint group (steps ++ [step]) n ↔
    q.Stands edge endpoint group steps n ∧ ¬(q.run (steps.map .step)).Parts edge endpoint group step ∨
      n = steps.length ∧ (q.run (steps.map .step)).Joins edge endpoint group step := by
  simp only [Stands, happens_concat]
  constructor
  · rintro ⟨hjoins | hlast, hlasts⟩
    · refine .inl ⟨⟨hjoins, fun m hm hparts => hlasts m hm (.inl hparts)⟩, fun hparts => ?_⟩
      exact hlasts steps.length hjoins.lt (.inr ⟨rfl, hparts⟩)
    · exact .inr hlast
  · rintro (⟨⟨hjoins, hlasts⟩, hstays⟩ | ⟨rfl, hjoins⟩)
    · refine ⟨.inl hjoins, fun m hm => ?_⟩
      rintro (hparts | ⟨_, hparts⟩)
      · exact hlasts m hm hparts
      · exact hstays hparts
    · refine ⟨.inr ⟨rfl, hjoins⟩, fun m hm => ?_⟩
      rintro (hparts | ⟨rfl, _⟩)
      · exact absurd hparts.lt (Nat.lt_asymm hm)
      · exact absurd hm (Nat.lt_irrefl _)

theorem StandsSince.concat (h : q.StandsSince edge endpoint group steps n)
    (hstays : ¬(q.run (steps.map .step)).Parts edge endpoint group step) :
    q.StandsSince edge endpoint group (steps ++ [step]) n := by
  refine ⟨stands_concat.2 (.inl ⟨h.stands, hstays⟩), fun m hm hjoins => ?_⟩
  rcases happens_concat.1 hjoins with hjoins | ⟨rfl, _⟩
  · obtain ⟨k, hmk, hkn, hparts⟩ := h.first m hm hjoins
    exact ⟨k, hmk, hkn, happens_concat.2 (.inl hparts)⟩
  · exact absurd h.stands.1.lt (Nat.lt_asymm hm)

theorem standsSince_last (hnone : ∀ m, ¬q.Stands edge endpoint group steps m)
    (hjoins : (q.run (steps.map .step)).Joins edge endpoint group step) :
    q.StandsSince edge endpoint group (steps ++ [step]) steps.length := by
  refine ⟨stands_concat.2 (.inr ⟨rfl, hjoins⟩), fun m hm hearlier => ?_⟩
  rcases happens_concat.1 hearlier with hearlier | ⟨rfl, _⟩
  · have hparted := hnone m
    simp only [Stands, not_and, not_forall, not_not] at hparted
    obtain ⟨k, hmk, hparts⟩ := hparted hearlier
    exact ⟨k, hmk, hparts.lt, happens_concat.2 (.inl hparts)⟩
  · exact absurd hm (Nat.lt_irrefl _)

def Tells (edge : EdgeKind) (endpoint group : Given) (q : Queue) (steps : List Step) : Option Edge → Prop
  | none => ∀ n, ¬q.Stands edge endpoint group steps n
  | some row => row.endpoint = endpoint ∧ row.group = group ∧ ∃ n, q.StandsSince edge endpoint group steps n ∧
      q.Happens (fun p _ => p.session.clock.toText? = some row.createdAt) steps n

theorem tells_concat (hturn : EdgeTurn edge endpoint group (q.run (steps.map .step)) step)
    (h : q.Tells edge endpoint group steps ((q.run (steps.map .step)).session.store.edge? edge endpoint group)) :
    q.Tells edge endpoint group (steps ++ [step])
      (((q.run (steps.map .step)).take step).2.session.store.edge? edge endpoint group) := by
  cases hturn with
  | parted parts after =>
      rw [after]
      intro n hstands
      rcases stands_concat.1 hstands with ⟨_, hstays⟩ | ⟨_, hjoins⟩
      · exact hstays parts
      · exact not_parts_of_joins hjoins parts
  | joined joins before hstamp after =>
      rw [before] at h
      rw [after]
      exact ⟨rfl, rfl, _, standsSince_last h joins, happens_concat.2 (.inr ⟨rfl, hstamp⟩)⟩
  | kept stays stood after =>
      rw [after]
      cases hrow : (q.run (steps.map .step)).session.store.edge? edge endpoint group with
      | none =>
          rw [hrow] at h stood
          intro n hstands
          rcases stands_concat.1 hstands with ⟨hstands, _⟩ | ⟨_, hjoins⟩
          · exact h n hstands
          · cases stood hjoins
      | some row =>
          rw [hrow] at h
          obtain ⟨hendpoint, hgroup, n, hstands, hclock⟩ := h
          exact ⟨hendpoint, hgroup, n, hstands.concat stays, happens_concat.2 (.inl hclock)⟩

theorem wellFormed_take (h : q.session.store.WellFormed) (ht : step.Textual) :
    (q.take step).2.session.store.WellFormed := by
  cases q.take_effect step with
  | still store => exact store ▸ h
  | clear _ store => exact store ▸ Store.cleared_wellFormed _
  | request takes _ _ textual asked =>
      cases takes
      exact asked.store ▸ h.answer _ (textual ht)

theorem run_steps_concat : q.run ((steps ++ [step]).map .step) = ((q.run (steps.map .step)).take step).2 := by
  rw [List.map_append, run_append]
  rfl

theorem wellFormed_run_steps (now : Instant) (quiet : Bool) (h : ∀ step ∈ steps, step.Textual) :
    ((make now quiet).run (steps.map .step)).session.store.WellFormed := by
  induction steps using List.reverseRecOn with
  | nil => exact Store.empty_wellFormed
  | append_singleton steps step ih =>
      rw [run_steps_concat]
      exact wellFormed_take (ih fun other hother => h other (List.mem_append_left _ hother))
        (h step (List.mem_append_right _ List.mem_cons_self))

theorem tells_run (now : Instant) (quiet : Bool) (h : ∀ step ∈ steps, step.Textual) (edge : EdgeKind)
    (hendpoint : endpoint.IsText) (hgroup : group.IsText) : (make now quiet).Tells edge endpoint group steps
      (((make now quiet).run (steps.map .step)).session.store.edge? edge endpoint group) := by
  induction steps using List.reverseRecOn with
  | nil =>
      have hnone : ((make now quiet).run ([].map .step)).session.store.edge? edge endpoint group = none := by
        cases edge <;> rfl
      rw [hnone]
      rintro n ⟨hjoins, _⟩
      exact absurd hjoins.lt (Nat.not_lt_zero n)
  | append_singleton steps step ih =>
      have hbefore : ∀ other ∈ steps, other.Textual := fun other hother => h other (List.mem_append_left _ hother)
      have hstep : step.Textual := h step (List.mem_append_right _ List.mem_cons_self)
      rw [run_steps_concat]
      exact tells_concat (edgeTurn (wellFormed_run_steps now quiet hbefore) hstep hendpoint hgroup) (ih hbefore)

theorem linked_run_steps_iff (now : Instant) (quiet : Bool) (h : ∀ step ∈ steps, step.Textual)
    (hendpoint : endpoint.IsText) (hgroup : group.IsText) :
    ((make now quiet).run (steps.map .step)).session.store.linked edge endpoint group = true ↔
      ∃ n, (make now quiet).Stands edge endpoint group steps n := by
  have htells := tells_run now quiet h edge hendpoint hgroup
  rw [Store.linked_eq_isSome]
  cases hrow : ((make now quiet).run (steps.map .step)).session.store.edge? edge endpoint group with
  | none =>
      rw [hrow] at htells
      exact iff_of_false Bool.false_ne_true fun ⟨n, hstands⟩ => htells n hstands
  | some row =>
      rw [hrow] at htells
      obtain ⟨_, _, n, hsince, _⟩ := htells
      exact iff_of_true rfl ⟨n, hsince.stands⟩

/-- After any steps on an empty store outside of transactions, an edge is there exactly if its pair was joined in some
step and not parted since. It has the time at which it was joined first since it was parted, and as many edges are
counted as there are such pairs. -/
theorem edges_of_history (now : Instant) (quiet : Bool) {steps : List Step} (h : ∀ step ∈ steps, step.Textual)
    (edge : EdgeKind) :
    let q := make now quiet
    let last := (q.run (steps.map .step)).session
    (∀ endpoint group : Given, endpoint.IsText → group.IsText →
      ((last.run false (.request (.linked edge endpoint group))).1 = .ok true ↔
        ∃ n, q.Stands edge endpoint group steps n)) ∧
    (∀ row ∈ (last.store.edges edge).values, ∃ n, q.StandsSince edge row.endpoint row.group steps n ∧
      q.Happens (fun p _ => p.session.clock.toText? = some row.createdAt) steps n) ∧
    ∃ pairs : List (Given × Given), pairs.Nodup ∧
      (∀ endpoint group, (endpoint, group) ∈ pairs ↔ ∃ n, q.Stands edge endpoint group steps n) ∧
      (last.run false (.request (.count edge))).1 = .ok (.ofNat pairs.length) := by
  intro q last
  have hwell : last.store.WellFormed := wellFormed_run_steps now quiet h
  refine ⟨fun endpoint group hendpoint hgroup => ?_, fun row hrow => ?_, last.store.pairs edge,
    hwell.nodup_pairs edge, fun endpoint group => ?_, ?_⟩
  · rw [← linked_run_steps_iff now quiet h hendpoint hgroup]
    exact ⟨Except.ok.inj, congrArg Except.ok⟩
  · obtain ⟨key, hget⟩ := Table.mem_values_iff.1 hrow
    obtain ⟨hendpoint, hgroup⟩ := hwell.ends_isText edge hrow
    have htells := tells_run now quiet h edge hendpoint hgroup
    have hkey : key = pairKey row.endpoint row.group := (hwell.edges edge).key hget
    rw [hkey] at hget
    rw [show ((make now quiet).run (steps.map .step)).session.store.edge? edge row.endpoint row.group = some row
      from hget] at htells
    exact htells.2.2
  · rw [Store.mem_pairs_iff]
    constructor
    · intro hjoined
      obtain ⟨hendpoint, hgroup⟩ := hwell.isText_of_joined hjoined
      exact (linked_run_steps_iff now quiet h hendpoint hgroup).1 ((hwell.keyed.joined_iff hendpoint hgroup).1 hjoined)
    · rintro ⟨n, hstands⟩
      obtain ⟨hendpoint, hgroup⟩ := hstands.isText h
      have hlinked := (linked_run_steps_iff now quiet h hendpoint hgroup).2 ⟨n, hstands⟩
      exact (hwell.keyed.joined_iff hendpoint hgroup).2 hlinked
  · rw [Store.length_pairs]
    rfl

/-- A secret is deleted and comes back without its grant, which is then made twice. -/
def grantedTwice : List Step :=
  let granting : Step := .call .autocommit (.mutate true .allowAccess "s" "g")
  let secret : Step := .call .autocommit (creating .secret "s" "token")
  [.call .autocommit (creating .group "g" "web"), secret, granting, .call .autocommit (.request (.delete .secret "s")),
    secret, .clock 5, granting, .clock 9, granting]

theorem edges_of_history_grantedTwice :
    (∀ step ∈ grantedTwice, step.Textual) ∧
      (((make 0 true).run (grantedTwice.map .step)).session.store.edges .grant).values =
        [⟨some "s", some "g", "1970-01-01T00:00:00.005Z"⟩] ∧
      (((make 0 true).run (grantedTwice.map .step)).session.run false
        (.request (.linked .grant (some "s") (some "g")))).1 = .ok true ∧
      ∃ n, (make 0 true).StandsSince .grant (some "s") (some "g") grantedTwice n ∧
        (make 0 true).Happens (fun p _ => p.session.clock.toText? = some "1970-01-01T00:00:00.005Z")
          grantedTwice n := by
  have hsteps : ∀ step ∈ grantedTwice, step.Textual := by decide
  have hrows : (((make 0 true).run (grantedTwice.map .step)).session.store.edges .grant).values =
      [⟨some "s", some "g", "1970-01-01T00:00:00.005Z"⟩] := by decide +kernel
  obtain ⟨hlinked, hsince, _⟩ := edges_of_history 0 true hsteps .grant
  rw [hrows] at hsince
  obtain ⟨n, hn, hclock⟩ := hsince _ List.mem_cons_self
  exact ⟨hsteps, hrows, (hlinked (some "s") (some "g") ⟨_, rfl⟩ ⟨_, rfl⟩).2 ⟨n, hn.stands⟩, n, hn, hclock⟩

end Queue

end SecretAccess
