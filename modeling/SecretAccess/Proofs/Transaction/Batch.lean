import Mathlib.Data.List.Forall2
import SecretAccess.Proofs.Transaction.Abreast
import SecretAccess.Proofs.Transaction.History

namespace SecretAccess

namespace Session

theorem clock_run (s : Session) (journaled : Bool) (call : Call) : (s.run journaled call).2.clock = s.clock := by
  rcases s.run_asks journaled call with ⟨huntouched, _⟩ | ⟨_, _, hasked, _⟩
  · exact huntouched.clock
  · exact hasked.clock

theorem issued_run (s : Session) (journaled : Bool) (call : Call) :
    (s.run journaled call).2.store.issued = s.store.issued + call.draws.toNat := by
  cases call with
  | request request => exact s.store.issued_answer s.clock request
  | query query => exact congrArg Store.issued (looks_runQuery journaled query s).store
  | mutate verify change endpoint group =>
      rcases s.run_asks journaled (.mutate verify change endpoint group) with ⟨huntouched, _⟩ | ⟨_, hasks, hasked, _⟩
      · rw [huntouched.store]
        rfl
      · rw [hasked.store, Store.issued_answer]
        simp only [Call.asks, Option.bind_eq_bind, Option.bind_eq_some_iff, Option.pure_def, Option.some.injEq] at hasks
        obtain ⟨_, _, _, _, rfl⟩ := hasks
        cases change <;> rfl

end Session

namespace Step

def Inside : Step → Prop
  | .call .current c => c.Textual
  | .clock _ => True
  | _ => False

instance : (step : Step) → Decidable step.Inside
  | .call .current c => inferInstanceAs (Decidable c.Textual)
  | .clock _ => inferInstanceAs (Decidable True)
  | .call .autocommit _ | .call (.kept _) _ | .clear | .dump | .spawn .. => inferInstanceAs (Decidable False)

def outside : Step → Step
  | .call _ c => .call .autocommit c
  | step => step

def draws : Step → Bool
  | .call _ c => c.draws
  | _ => false

def clockAfter (now : Instant) : Step → Instant
  | .clock later => later
  | _ => now

end Step

inductive Reply.Alike : Reply → Reply → Prop
  | done : Reply.Alike .done .done
  | answer (call : Call) {answer twin : call.Answer} (same : call.SameAnswer answer twin) :
      Reply.Alike (.answer call answer) (.answer call twin)

structure StepRecord.Alike (record again : StepRecord) : Prop where
  outcome : SecretAccess.Alike Reply.Alike record.outcome again.outcome
  log : record.log = again.log
  sizes : record.sizes = again.sizes

namespace Queue

def takeEach (q : Queue) : List Step → List StepRecord × Queue
  | [] => ([], q)
  | step :: steps =>
      let (record, q) := q.take step
      let (records, q) := q.takeEach steps
      (record :: records, q)

/-- Leaves out some steps: only the ids that they draw are drawn, and the time that they take goes by. -/
def skip (q : Queue) (steps : List Step) : Queue :=
  { q with
    session := { q.session with
      store := { q.session.store with issued := q.session.store.issued + steps.countP Step.draws }
      clock := steps.foldl Step.clockAfter q.session.clock } }

/-- Does again what a transaction did, in no transaction. If it was committed its steps are taken, and else those
that it took are left out. -/
def redo (q : Queue) (job : Job) (told : Settled) : List StepRecord × Queue :=
  if told.outcome.toBool then q.takeEach (job.steps.map Step.outside)
  else ([], q.skip (job.steps.take told.records.length))

def replay (q : Queue) : List (Job × Settled) → List (List StepRecord) × Queue
  | [] => ([], q)
  | (job, told) :: others =>
      let (records, q) := q.redo job told
      let (rest, q) := q.replay others
      (records :: rest, q)

variable {q r : Queue} {step : Step}

theorem take_alike (h : q.session.Abreast r.session) (hstep : step.Inside) :
    (q.take step).1.Alike (r.take step.outside).1 ∧
      (q.take step).2.session.Abreast (r.take step.outside).2.session ∧
      (q.take step).2.session.quiet = q.session.quiet := by
  have hcleared : Session.Abreast { q.session with log := [] } { r.session with log := [] } :=
    ⟨h.rows, h.same, h.issued, h.clock, h.quiet⟩
  cases step with
  | clear | dump | spawn => cases hstep
  | clock now => exact ⟨⟨.ok .done, rfl, h.same.sizes⟩, ⟨h.rows, h.same, h.issued, rfl, h.quiet⟩, rfl⟩
  | call scope call =>
      cases scope with
      | autocommit | kept => cases hstep
      | current =>
          obtain ⟨halike, habreast, hlog, hquiet⟩ := hcleared.run rfl (q.journaled .current) (r.journaled .autocommit) hstep
          exact ⟨⟨halike.map fun _ _ hsame => .answer call hsame, hlog, habreast.same.sizes⟩, habreast, hquiet⟩

theorem back_take (hrunning : q.running.isSome = true) (hstep : step.Inside) :
    ((q.take step).2.session.store.rollBack (q.take step).2.session.journal).Same
      (q.session.store.rollBack q.session.journal) := by
  cases step with
  | clear | dump | spawn => cases hstep
  | clock now => exact fun _ _ => rfl
  | call scope call =>
      cases scope with
      | autocommit | kept => cases hstep
      | current =>
          cases q.take_effect (.call .current call) with
          | still store journal =>
              rw [store, journal]
              exact fun _ _ => rfl
          | clear clears => cases clears
          | request takes _ request _ asked =>
              cases takes
              have howns : q.owns (.call .current call) = true := hrunning
              rw [asked.store, asked.journal, howns, if_pos rfl]
              exact (q.session.store.answer_changes _ request).same_rollBack _

theorem issued_take (q : Queue) (hstep : step.Inside) :
    (q.take step).2.session.store.issued = q.session.store.issued + step.draws.toNat := by
  cases step with
  | clear | dump | spawn => cases hstep
  | clock => rfl
  | call scope call => exact Session.issued_run _ _ call

theorem clock_take (q : Queue) (step : Step) : (q.take step).2.session.clock = step.clockAfter q.session.clock := by
  cases step with
  | clear | dump | spawn | clock => rfl
  | call scope call => exact Session.clock_run _ _ call

/-- What an open transaction did with some steps, beside the same ones in no transaction. -/
structure Played (s : Session) (r : Queue) (steps : List Step) (records : List StepRecord) (last : Session) : Prop where
  alike : List.Forall₂ StepRecord.Alike records (r.takeEach (steps.map Step.outside)).1
  abreast : last.Abreast (r.takeEach (steps.map Step.outside)).2.session
  back : (last.store.rollBack last.journal).Same (s.store.rollBack s.journal)
  issued : last.store.issued = s.store.issued + steps.countP Step.draws
  clock : last.clock = steps.foldl Step.clockAfter s.clock
  quiet : last.quiet = s.quiet
  counted : records.length = steps.length

theorem played_nil {s : Session} (h : s.Abreast r.session) : Played s r [] [] s :=
  ⟨.nil, h, fun _ _ => rfl, rfl, rfl, rfl, rfl⟩

section

variable {steps : List Step} {records : List StepRecord} {last : Session}

theorem Played.cons (hrunning : q.running.isSome = true) (hstep : step.Inside) (h : q.session.Abreast r.session)
    (hrest : Played (q.take step).2.session (r.take step.outside).2 steps records last) :
    Played q.session r (step :: steps) ((q.take step).1 :: records) last := by
  obtain ⟨halike, _, hquiet⟩ := take_alike h hstep
  constructor
  · exact .cons halike hrest.alike
  · exact hrest.abreast
  · exact hrest.back.trans (back_take hrunning hstep)
  · rw [hrest.issued, issued_take q hstep, List.countP_cons]
    cases step.draws with
    | true => exact Nat.add_right_comm _ 1 _
    | false => rfl
  · rw [hrest.clock, clock_take, List.foldl_cons]
  · exact hrest.quiet.trans hquiet
  · rw [List.length_cons, hrest.counted, List.length_cons]

theorem Played.skipped {s : Session} (h : Played s r steps records last) (hstart : s.Abreast r.session)
    (hjournal : s.journal = []) : (last.close true).Abreast (r.skip steps).session := by
  have hback : (last.store.rollBack last.journal).Same s.store := by
    have hsame := h.back
    rwa [hjournal] at hsame
  have htable (t : TableKind) : (r.skip steps).session.store.table t = r.session.store.table t := by
    cases t with
    | entities kind => cases kind <;> rfl
    | edges edge => cases edge <;> rfl
  constructor
  · exact hstart.rows.of_same hback
  · intro t key
    rw [htable]
    exact (hback t key).trans (hstart.same t key)
  · change (last.store.rollBack last.journal).issued = r.session.store.issued + steps.countP Step.draws
    rw [Store.issued_rollBack, h.issued, hstart.issued]
  · change last.clock = steps.foldl Step.clockAfter r.session.clock
    rw [h.clock, hstart.clock]
  · exact h.quiet.trans hstart.quiet

theorem Played.closed {s : Session} (h : Played s r steps records last) :
    (last.close false).Abreast (r.takeEach (steps.map Step.outside)).2.session :=
  ⟨h.abreast.rows, h.abreast.same, h.abreast.issued, h.abreast.clock, h.abreast.quiet⟩

end

theorem advance_inside (hstep : step.Inside) (q : Queue) (running : Running) (rest : List Step) :
    q.advance running step rest = { q with
      session := (q.take step).2.session
      running := some (running.took (q.take step).1 rest) } := by
  cases step with
  | call | clock => rfl
  | clear | dump | spawn => cases hstep

theorem took_cases (running : Running) (record : StepRecord) (rest : List Step) :
    (∃ failure, running.took record rest =
        { running with rest := [], records := running.records ++ [record], failure := some failure }) ∨
      running.took record rest = { running with rest := rest, records := running.records ++ [record] } := by
  unfold Running.took
  split
  · exact .inl ⟨_, rfl⟩
  · exact .inr rfl

theorem drain_of_next {next : Queue} (h : q.next = some next) : q.drain = next.drain := by
  rw [drain, h]

def ended (q : Queue) (last : Session) (told : Settled) : Queue :=
  { q with
    session := last.close told.outcome.toBool.not
    running := none
    settled := q.settled ++ [told] }

theorem exists_played {running : Running} (hrunning : q.running = some running) (hnone : running.failure = none)
    (hsteps : ∀ step ∈ running.rest, step.Inside) (h : q.session.Abreast r.session) :
    ∃ steps records failure last, Played q.session r steps records last ∧ steps <+: running.rest ∧
      (failure = none → steps = running.rest) ∧
      q.drain = (q.ended last ⟨running.ticket, running.start, running.records ++ records,
        running.ending.outcome failure⟩).drain := by
  generalize hrest : running.rest = rest at hsteps
  induction rest generalizing q r running with
  | nil =>
      have hnext : q.next = some (q.settle running) := by simp [next, hrunning, hrest]
      refine ⟨[], [], none, q.session, played_nil h, List.prefix_rfl, fun _ => rfl, ?_⟩
      rw [drain_of_next hnext, List.append_nil, ← hnone]
      rfl
  | cons step rest ih =>
      have hstep := hsteps step List.mem_cons_self
      have hsome : q.running.isSome = true := by rw [hrunning]; rfl
      have hnext : q.next = some (q.advance running step rest) := by simp [next, hrunning, hrest]
      obtain ⟨_, habreast, _⟩ := take_alike h hstep
      rw [drain_of_next hnext, advance_inside hstep]
      rcases took_cases running (q.take step).1 rest with ⟨failure, htook⟩ | htook
      · rw [htook]
        exact ⟨[step], [(q.take step).1], some failure, (q.take step).2.session, .cons hsome hstep h (played_nil habreast),
          ⟨rest, rfl⟩, fun hcaught => absurd hcaught (Option.some_ne_none failure), drain_of_next rfl⟩
      · rw [htook]
        obtain ⟨steps, records, failure, last, hplayed, hprefix, hall, hdrain⟩ :=
          ih (q := { q with
            session := (q.take step).2.session
            running := some { running with rest := rest, records := running.records ++ [(q.take step).1] } })
            rfl hnone habreast rfl fun other hother => hsteps other (List.mem_cons_of_mem _ hother)
        have hrecords : running.records ++ (q.take step).1 :: records =
            running.records ++ [(q.take step).1] ++ records := List.append_cons _ _ _
        refine ⟨step :: steps, (q.take step).1 :: records, failure, last, .cons hsome hstep h hplayed,
          List.cons_prefix_cons.2 ⟨rfl, hprefix⟩, fun hfailure => congrArg _ (hall hfailure), ?_⟩
        rw [hdrain, hrecords]
        rfl

theorem failure_eq_none_of_toBool {ending : Ending} {failure : Option Failure}
    (h : (ending.outcome failure).toBool = true) : failure = none := by
  cases failure with
  | none => rfl
  | some failure => cases h

theorem exists_redone {first : Waiting} {others : List Waiting} (hidle : q.running = none)
    (hjournal : q.session.journal = []) (hwaiting : q.waiting = first :: others)
    (hsteps : ∀ step ∈ first.job.steps, step.Inside) (h : q.session.Abreast r.session) :
    ∃ last told, q.drain = ((q.begin first others).ended last told).drain ∧ told.ticket = first.ticket ∧
      (told.outcome.toBool = true → List.Forall₂ StepRecord.Alike told.records (r.redo first.job told).1) ∧
      (last.close told.outcome.toBool.not).Abreast (r.redo first.job told).2.session := by
  have hnext : q.next = some (q.begin first others) := by simp [next, hidle, hwaiting]
  obtain ⟨steps, records, failure, last, hplayed, hprefix, hall, hdrain⟩ :=
    exists_played (q := q.begin first others) (r := r) rfl rfl hsteps h
  refine ⟨last, _, (drain_of_next hnext).trans hdrain, rfl, ?_⟩
  simp only [redo, List.nil_append]
  cases houtcome : (first.job.ending.outcome failure).toBool with
  | true =>
      obtain rfl : steps = first.job.steps := hall (failure_eq_none_of_toBool houtcome)
      exact ⟨fun _ => hplayed.alike, hplayed.closed⟩
  | false =>
      have htaken : steps = first.job.steps.take records.length := by
        rw [hplayed.counted]
        exact List.prefix_iff_eq_take.1 hprefix
      rw [← htaken]
      exact ⟨fun hcommitted => absurd hcommitted Bool.false_ne_true, hplayed.skipped h hjournal⟩

def RecordsAlike (settled : List Settled) (records : List (List StepRecord)) : Prop :=
  List.Forall₂ (fun told again => told.outcome.toBool = true → List.Forall₂ StepRecord.Alike told.records again) settled
    records

theorem drain_replayed (hidle : q.running = none) (hjournal : q.session.journal = [])
    (hsteps : ∀ next ∈ q.waiting, ∀ step ∈ next.job.steps, step.Inside) (h : q.session.Abreast r.session) :
    ∃ settled, q.drain.settled = q.settled ++ settled ∧ settled.map (·.ticket) = q.waiting.map (·.ticket) ∧
      RecordsAlike settled (r.replay ((q.waiting.map (·.job)).zip settled)).1 ∧
      q.drain.session.Abreast (r.replay ((q.waiting.map (·.job)).zip settled)).2.session := by
  generalize hwaiting : q.waiting = waiting at hsteps
  induction waiting generalizing q r with
  | nil =>
      have hdrain : q.drain = q := by rw [drain, next, hidle, hwaiting]
      rw [hdrain]
      exact ⟨[], (List.append_nil _).symm, rfl, .nil, h⟩
  | cons first others ih =>
      obtain ⟨last, told, hdrain, hticket, hrecords, habreast⟩ :=
        exists_redone hidle hjournal hwaiting (hsteps first List.mem_cons_self) h
      obtain ⟨settled, hsettled, htickets, halike, hlast⟩ :=
        ih (q := (q.begin first others).ended last told) rfl rfl habreast rfl
          fun next hnext => hsteps next (List.mem_cons_of_mem _ hnext)
      refine ⟨told :: settled, ?_, ?_, .cons hrecords halike, hdrain ▸ hlast⟩
      · rw [hdrain, hsettled, List.append_cons]
        rfl
      · rw [List.map_cons, htickets, hticket]
        rfl

structure Called (q : Queue) (jobs : List Job) (called : Queue) : Prop where
  session : called.session = q.session
  running : called.running = q.running
  settled : called.settled = q.settled
  tickets : called.waiting.map (·.ticket) = q.waiting.map (·.ticket) ++ List.range' q.called jobs.length
  jobs : called.waiting.map (·.job) = q.waiting.map (·.job) ++ jobs

theorem called_foldl (q : Queue) (jobs : List Job) : q.Called jobs (jobs.foldl call q) := by
  induction jobs generalizing q with
  | nil => exact ⟨rfl, rfl, rfl, (List.append_nil _).symm, (List.append_nil _).symm⟩
  | cons job jobs ih =>
      have h := ih (q.call job)
      refine ⟨h.session, h.running, h.settled, h.tickets.trans ?_, h.jobs.trans ?_⟩
      · simp [call, List.range'_succ]
      · simp [call]

/-- Transactions are called at once on well-formed rows, each with calls in its own context. They end in the order of
the calls, and the rows are those that come of taking the steps of the committed ones in no transaction, in this
order and at the same times, with as many ids drawn in between as the other ones drew. Each step of a committed one
comes out the same there. -/
theorem batch_replayed {s : Store} (hs : s.WellFormed) (now : Instant) (quiet : Bool) {jobs : List Job}
    (hjobs : ∀ job ∈ jobs, ∀ step ∈ job.steps, step.Inside) :
    let batch := (ofStore s now quiet).runJobs jobs
    let again := (ofStore s now quiet).replay (jobs.zip batch.1)
    batch.1.map (·.ticket) = List.range jobs.length ∧
      batch.2.session.store.Same again.2.session.store ∧
      batch.2.session.store.issued = again.2.session.store.issued ∧
      batch.2.session.clock = again.2.session.clock ∧
      RecordsAlike batch.1 again.1 := by
  have hcalled := called_foldl (ofStore s now quiet) jobs
  have hstart : ((jobs.foldl call (ofStore s now quiet)).session).Abreast (ofStore s now quiet).session := by
    rw [hcalled.session]
    exact ⟨hs, fun _ _ => rfl, rfl, rfl, rfl⟩
  have hsteps : ∀ next ∈ (jobs.foldl call (ofStore s now quiet)).waiting, ∀ step ∈ next.job.steps, step.Inside := by
    intro next hnext
    have hjob := List.mem_map_of_mem (f := Waiting.job) hnext
    rw [hcalled.jobs] at hjob
    exact hjobs next.job hjob
  obtain ⟨settled, hsettled, htickets, halike, habreast⟩ :=
    drain_replayed hcalled.running (by rw [hcalled.session]; rfl) hsteps hstart
  obtain rfl : (jobs.foldl call (ofStore s now quiet)).drain.settled = settled := by
    rw [hsettled, hcalled.settled]
    rfl
  rw [hcalled.jobs] at halike habreast
  refine ⟨?_, habreast.same, habreast.issued, habreast.clock, halike⟩
  rw [List.range_eq_range']
  exact htickets.trans hcalled.tickets

theorem drain_eq_run_of_idle {q : Queue} (n : Nat) (h : (q.run (List.replicate n .move)).next.isNone = true) :
    q.drain = q.run (List.replicate n .move) := by
  induction n generalizing q with
  | zero =>
      have hnone : q.next = none := Option.isNone_iff_eq_none.1 h
      rw [drain, hnone]
      rfl
  | succ n ih =>
      rw [List.replicate_succ, run_cons] at h ⊢
      rw [← ih h]
      cases hnext : q.next with
      | none => rw [after, hnext, Option.getD_none]
      | some moved => rw [drain_of_next hnext, after, hnext, Option.getD_some]

def everySecond : List Job :=
  let call (c : Call) : Step := .call .current c
  let named (kind : EntityKind) (name : String) : Call :=
    .request (.create kind (some (.fields [("name", .text name)])))
  let committed (catches : Bool) : Ending := ⟨none, catches, none, none⟩
  [⟨[call (named .group "new"), call (.request (.delete .group "g"))], ⟨some (.text "no"), false, none, none⟩⟩,
    ⟨[.clock 5, call (named .client "dev"), call (named .client "ci"), call (.mutate true .enrollClient "client-2" "g")],
      committed true⟩,
    ⟨[call (named .client "dev"), call (named .client "other")], committed false⟩,
    ⟨[call (.query (.sanitizedForClient "c")), call (.request (.delete .group "h"))], committed false⟩]

theorem batch_replayed_everySecond :
    let s := ((make 0 true).run twoGroups).session.store
    let batch := (ofStore s 0 true).runJobs everySecond
    let again := (ofStore s 0 true).replay (everySecond.zip batch.1)
    s.WellFormed ∧ (∀ job ∈ everySecond, ∀ step ∈ job.steps, step.Inside) ∧
      batch.1.map (·.outcome.toBool) = [false, true, false, true] ∧
      batch.2.session.store.issued = 4 ∧
      batch.1.map (·.ticket) = List.range 4 ∧
      batch.2.session.store.Same again.2.session.store ∧
      batch.2.session.store.issued = again.2.session.store.issued ∧
      batch.2.session.clock = again.2.session.clock ∧
      RecordsAlike batch.1 again.1 := by
  intro s batch again
  have hs : s.WellFormed := (sound_run (make_sound 0 true) (by decide : Serially _ twoGroups)).rows
  have hjobs : ∀ job ∈ everySecond, ∀ step ∈ job.steps, step.Inside := by decide
  have hmoves := drain_eq_run_of_idle (q := everySecond.foldl call (ofStore s 0 true)) 17 (by decide +kernel)
  have hlast : batch.2 = (everySecond.foldl call (ofStore s 0 true)).run (List.replicate 17 .move) := hmoves
  have hends : batch.1.map (·.outcome.toBool) = [false, true, false, true] := by
    change batch.2.settled.map (·.outcome.toBool) = _
    rw [hlast]
    decide +kernel
  exact ⟨hs, hjobs, hends, by rw [hlast]; decide +kernel, batch_replayed hs 0 true hjobs⟩

end Queue

end SecretAccess
