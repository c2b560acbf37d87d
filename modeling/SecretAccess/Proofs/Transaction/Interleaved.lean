import SecretAccess.Proofs.Store.Edges
import SecretAccess.Proofs.Transaction.Found
import SecretAccess.Proofs.Transaction.Serial

namespace SecretAccess.Queue

variable {q : Queue} {e : Event} {events : List Event} {running : Running} {edge : EdgeKind}
  {kind : EntityKind} {id : Given}

/-- If the open transaction was taken back now, an edge under a key would not lack a certain end. -/
def KeepsEnd (edge : EdgeKind) (key : String) (kind : EntityKind) (id : Given) (q : Queue) : Prop :=
  ∀ row, q.backValue (.edges edge) key = some row → Store.IsEnd edge kind id row.endpoint row.group →
    q.backValue (.entities kind) (.value id) ≠ none

def CutsEnd (edge : EdgeKind) (key : String) (kind : EntityKind) (id : Given) (q : Queue) (e : Event) : Prop :=
  q.journaledValue (.entities kind) (.value id) = some none ∧ q.AddsElsewhere (.edges edge) key e ∨
    (∃ row, q.journaledValue (.edges edge) key = some (some row)) ∧
      q.RemovesElsewhere (.entities kind) (.value id) e

theorem value_ne_none_of_isEnd (h : q.session.store.WellFormed) {key : String} {row : Edge}
    (hrow : q.value (.edges edge) key = some row) (hend : Store.IsEnd edge kind id row.endpoint row.group) :
    q.value (.entities kind) (.value id) ≠ none := by
  have hjoined := Store.joined_iff_get?.2 ⟨key, row, hrow, rfl, rfl⟩
  exact Option.isSome_iff_ne_none.1 (h.contains_of_isEnd hjoined hend)

theorem ends_eq_of_key {s u : Store} (hs : s.WellFormed) (hu : u.WellFormed) {key : String}
    {row other : Edge} (hrow : (s.edges edge).get? key = some row) (hother : (u.edges edge).get? key = some other) :
    row.endpoint = other.endpoint ∧ row.group = other.group := by
  obtain ⟨he, hg⟩ := hs.ends_isText edge (Table.mem_values_iff.2 ⟨key, hrow⟩)
  obtain ⟨he', hg'⟩ := hu.ends_isText edge (Table.mem_values_iff.2 ⟨key, hother⟩)
  apply pairKey_inj he hg he' hg'
  exact ((hs.edges edge).key hrow).symm.trans ((hu.edges edge).key hother)

theorem KeepsEnd.removesElsewhere {key : String} (h : q.KeepsEnd edge key kind id) (helse : q.Elsewhere e)
    {row : Edge} (hedge : q.journaledValue (.edges edge) key = some (some row))
    (hend : Store.IsEnd edge kind id row.endpoint row.group)
    (hnone : (q.journaledValue (.entities kind) (.value id)).getD
      ((q.after e).value (.entities kind) (.value id)) = none) :
    q.RemovesElsewhere (.entities kind) (.value id) e := by
  have hback := h row (by rw [backValue, hedge, Option.getD_some]) hend
  rw [backValue] at hback
  cases hentity : q.journaledValue (.entities kind) (.value id) with
  | some before =>
      rw [hentity] at hback hnone
      exact absurd hnone hback
  | none =>
      rw [hentity, Option.getD_none] at hback hnone
      exact ⟨helse, hback, hnone⟩

theorem KeepsEnd.addsElsewhere {key : String} (h : q.KeepsEnd edge key kind id)
    (hwell : q.session.store.WellFormed) (hnext : (q.after e).session.store.WellFormed) (helse : q.Elsewhere e)
    (hedge : q.journaledValue (.edges edge) key = none) {row : Edge}
    (hrow : (q.after e).value (.edges edge) key = some row)
    (hend : Store.IsEnd edge kind id row.endpoint row.group)
    (hnone : (q.journaledValue (.entities kind) (.value id)).getD
      ((q.after e).value (.entities kind) (.value id)) = none) :
    q.journaledValue (.entities kind) (.value id) = some none ∧ q.AddsElsewhere (.edges edge) key e := by
  cases hentity : q.journaledValue (.entities kind) (.value id) with
  | none =>
      rw [hentity, Option.getD_none] at hnone
      exact absurd hnone (value_ne_none_of_isEnd hnext hrow hend)
  | some before =>
      rw [hentity, Option.getD_some] at hnone
      subst hnone
      -- the end goes with the transaction, so an edge that was there before would have lacked it already
      refine ⟨rfl, helse, ?_, by simp [hrow]⟩
      cases hold : q.value (.edges edge) key with
      | none => rfl
      | some old =>
          obtain ⟨hendpoint, hgroup⟩ := ends_eq_of_key hwell hnext hold hrow
          rw [← hendpoint, ← hgroup] at hend
          have hback := h old (by rw [backValue, hedge, Option.getD_none, hold]) hend
          rw [backValue, hentity] at hback
          exact absurd rfl hback

theorem KeepsEnd.after {key : String} (h : q.KeepsEnd edge key kind id) (hwell : q.session.store.WellFormed)
    (hnext : (q.after e).session.store.WellFormed) (hopen : (q.after e).running.isSome = true) :
    (q.after e).KeepsEnd edge key kind id ∨ q.CutsEnd edge key kind id e := by
  by_cases helse : q.Elsewhere e
  · by_cases hcut : q.CutsEnd edge key kind id e
    · exact .inr hcut
    refine .inl fun row hrow hend hnone => hcut ?_
    rw [backValue_after_of_elsewhere _ _ hopen helse] at hrow hnone
    cases hedge : q.journaledValue (.edges edge) key with
    | some before =>
        rw [hedge, Option.getD_some] at hrow
        subst hrow
        exact .inr ⟨⟨row, hedge⟩, h.removesElsewhere helse hedge hend hnone⟩
    | none =>
        rw [hedge, Option.getD_none] at hrow
        exact .inl (h.addsElsewhere hwell hnext helse hedge hrow hend hnone)
  · refine .inl fun row hrow hend => ?_
    rw [backValue_after_of_not_elsewhere _ _ hopen helse] at hrow ⊢
    exact h row hrow hend

def KeepsNames (kind : EntityKind) (key other : Identity) (q : Queue) : Prop :=
  ∀ row twin, q.backValue (.entities kind) key = some row → q.backValue (.entities kind) other = some twin →
    row.name = twin.name → key = other

def TakesName (kind : EntityKind) (key other : Identity) (q : Queue) (e : Event) : Prop :=
  ∃ deleted made : Entity kind, q.journaledValue (.entities kind) key = some (some deleted) ∧
    q.AddsElsewhere (.entities kind) other e ∧ (q.after e).value (.entities kind) other = some made ∧
    made.name = deleted.name

theorem KeepsNames.eq_of_journaled {key other : Identity}
    (h : q.KeepsNames kind key other) (hopen : (q.after e).running.isSome = true) (helse : q.Elsewhere e)
    {row twin : Entity kind} (hrow : q.journaledValue (.entities kind) key = some (some row))
    (hother : q.journaledValue (.entities kind) other = none)
    (htwin : (q.after e).value (.entities kind) other = some twin) (hname : row.name = twin.name) :
    key = other ∨ q.TakesName kind key other e := by
  rcases value_after_cases (.entities kind) other hopen with hsame | hfree | hgone
  · refine .inl (h row twin ?_ ?_ hname)
    · rw [backValue, hrow]; rfl
    · rw [backValue, hother, Option.getD_none, ← hsame, htwin]
  · exact .inr ⟨row, twin, hrow, ⟨helse, hfree, by simp [htwin]⟩, htwin, hname.symm⟩
  · rw [hgone] at htwin
    cases htwin

theorem KeepsNames.symm {key other : Identity} (h : q.KeepsNames kind key other) :
    q.KeepsNames kind other key :=
  fun row twin hrow htwin hname => (h twin row htwin hrow hname.symm).symm

theorem KeepsNames.after {key other : Identity} (h : q.KeepsNames kind key other)
    (hnext : (q.after e).session.store.WellFormed) (hopen : (q.after e).running.isSome = true) :
    (q.after e).KeepsNames kind key other ∨ q.TakesName kind key other e ∨ q.TakesName kind other key e := by
  by_cases helse : q.Elsewhere e
  · by_cases htakes : q.TakesName kind key other e ∨ q.TakesName kind other key e
    · exact .inr htakes
    rw [not_or] at htakes
    refine .inl fun row twin hrow htwin hname => ?_
    rw [backValue_after_of_elsewhere _ _ hopen helse] at hrow htwin
    cases hkey : q.journaledValue (.entities kind) key with
    | some before =>
        rw [hkey, Option.getD_some] at hrow
        subst hrow
        cases hother : q.journaledValue (.entities kind) other with
        | some before =>
            rw [hother, Option.getD_some] at htwin
            subst htwin
            exact h row twin (by rw [backValue, hkey]; rfl) (by rw [backValue, hother]; rfl) hname
        | none =>
            rw [hother, Option.getD_none] at htwin
            exact (h.eq_of_journaled hopen helse hkey hother htwin hname).resolve_right htakes.1
    | none =>
        rw [hkey, Option.getD_none] at hrow
        cases hother : q.journaledValue (.entities kind) other with
        | some before =>
            rw [hother, Option.getD_some] at htwin
            subst htwin
            exact ((h.symm.eq_of_journaled hopen helse hother hkey hrow hname.symm).resolve_right htakes.2).symm
        | none =>
            rw [hother, Option.getD_none] at htwin
            exact (hnext.entities kind).unique hrow htwin hname
  · refine .inl fun row twin hrow htwin hname => ?_
    rw [backValue_after_of_not_elsewhere _ _ hopen helse] at hrow htwin
    exact h row twin hrow htwin hname

theorem Begins.wellFormed (h : q.Begins running) (hwell : q.session.store.WellFormed) :
    (q.after .move).session.store.WellFormed := by
  rwa [session_after_of_begins h]

theorem wellFormed_run (h : q.session.store.WellFormed) (hopen : q.StaysOpen events)
    (htextual : q.Along Textual events) : (q.run events).session.store.WellFormed := by
  have hstep (q : Queue) (e : Event) (h : q.session.store.WellFormed)
      (hallowed : (q.after e).running.isSome = true ∧ q.Textual e) : (q.after e).session.store.WellFormed :=
    wellFormed_after h hallowed.2 hallowed.1
  exact run_invariant hstep h (hopen.and htextual)

theorem fails_or_wellFormed (hwell : q.session.store.WellFormed) (hbegins : q.Begins running)
    (hopen : (q.after .move).StaysOpen events) (htextual : (q.after .move).Along Textual events)
    (hended : (((q.after .move).run events).after .move).running = none) :
    ((q.after .move).run events).Fails ∨
      (((q.after .move).run events).after .move).session.store.WellFormed := by
  have hrunning := isSome_running_run (by rw [hbegins.2]; rfl) hopen
  rcases settled_cases hrunning hended with hfails | hstays
  · exact .inl hfails
  · rw [hstays]
    exact .inr (wellFormed_run (hbegins.wellFormed hwell) hopen htextual)

theorem KeepsEnd.run {key : String}
    (h : q.KeepsEnd edge key kind id) (hwell : q.session.store.WellFormed) (hopen : q.StaysOpen events)
    (htextual : q.Along Textual events) :
    (q.run events).KeepsEnd edge key kind id ∨
      ∃ before e rest, events = before ++ e :: rest ∧ (q.run before).CutsEnd edge key kind id e := by
  have hstep (q : Queue) (e : Event) (h : q.session.store.WellFormed ∧ q.KeepsEnd edge key kind id)
      (hallowed : (q.after e).running.isSome = true ∧ q.Textual e) :
      ((q.after e).session.store.WellFormed ∧ (q.after e).KeepsEnd edge key kind id) ∨
        q.CutsEnd edge key kind id e := by
    have hnext := wellFormed_after h.1 hallowed.2 hallowed.1
    exact (h.2.after h.1 hnext hallowed.1).imp_left fun hkeeps => ⟨hnext, hkeeps⟩
  exact (run_invariant_or hstep ⟨hwell, h⟩ (hopen.and htextual)).imp_left And.right

theorem KeepsNames.run {key other : Identity} (h : q.KeepsNames kind key other)
    (hwell : q.session.store.WellFormed) (hopen : q.StaysOpen events) (htextual : q.Along Textual events) :
    (q.run events).KeepsNames kind key other ∨ ∃ before e rest, events = before ++ e :: rest ∧
      ((q.run before).TakesName kind key other e ∨ (q.run before).TakesName kind other key e) := by
  have hstep (q : Queue) (e : Event) (h : q.session.store.WellFormed ∧ q.KeepsNames kind key other)
      (hallowed : (q.after e).running.isSome = true ∧ q.Textual e) :
      ((q.after e).session.store.WellFormed ∧ (q.after e).KeepsNames kind key other) ∨
        (q.TakesName kind key other e ∨ q.TakesName kind other key e) := by
    have hnext := wellFormed_after h.1 hallowed.2 hallowed.1
    exact (h.2.after hnext hallowed.1).imp_left fun hkeeps => ⟨hnext, hkeeps⟩
  exact (run_invariant_or hstep ⟨hwell, h⟩ (hopen.and htextual)).imp_left And.right

/-- How an edge comes to lack an end when the transaction is taken back. -/
inductive EndLost (edge : EdgeKind) (key : String) (row : Edge) (kind : EntityKind) (id : Given) (q : Queue)
    (before : List Event) (e : Event) : Prop
  | made (found : q.found (.entities kind) (.value id) before = some none)
      (joined : (q.run before).AddsElsewhere (.edges edge) key e)
  | takenAway (found : q.found (.edges edge) key before = some (some row))
      (deleted : (q.run before).RemovesElsewhere (.entities kind) (.value id) e)

/-- The transaction had deleted an entity, and in an event somebody else makes another one with its name. -/
structure NameReused {kind : EntityKind} (deleted : Entity kind) (key other : Identity) (q : Queue)
    (before : List Event) (e : Event) : Prop where
  found : q.found (.entities kind) key before = some (some deleted)
  made : (q.run before).AddsElsewhere (.entities kind) other e
  name : ∃ made, ((q.run before).after e).value (.entities kind) other = some made ∧ made.name = deleted.name

/-- A transaction ends while others wrote as well, and an edge is stored then. Its ends are stored too, unless
the transaction was taken back and somebody else had cut one of them off. -/
theorem end_stored_or_lost (hq : q.InUse) (hwell : q.session.store.WellFormed) (hbegins : q.Begins running)
    (hopen : (q.after .move).StaysOpen events) (htextual : (q.after .move).Along Textual events)
    (hended : (((q.after .move).run events).after .move).running = none) {edge : EdgeKind} {key : String} {row : Edge}
    (hrow : (((q.after .move).run events).after .move).value (.edges edge) key = some row) {kind : EntityKind}
    {id : Given} (hend : Store.IsEnd edge kind id row.endpoint row.group) :
    (((q.after .move).run events).after .move).value (.entities kind) (.value id) ≠ none ∨
      ((q.after .move).run events).Fails ∧ ∃ before e rest, events = before ++ e :: rest ∧
        (q.after .move).EndLost edge key row kind id before e := by
  have hstart := hbegins.wellFormed hwell
  rcases fails_or_wellFormed hwell hbegins hopen htextual hended with hfails | hkept
  · have hkeeps : (q.after .move).KeepsEnd edge key kind id := by
      intro row hrow hend
      rw [hq.backValue_of_begins hbegins] at hrow ⊢
      exact value_ne_none_of_isEnd hstart hrow hend
    rw [value_after_of_fails hfails] at hrow ⊢
    rcases hkeeps.run hstart hopen htextual with hkept | ⟨before, e, rest, rfl, hcut⟩
    · exact .inl (hkept row hrow hend)
    · refine .inr ⟨hfails, before, e, rest, rfl, ?_⟩
      have hbefore := (along_append.1 hopen).1
      rcases hcut with ⟨hmade, hjoined⟩ | ⟨⟨old, htaken⟩, hdeleted⟩
      · rw [hq.journaledValue_run hbegins hbefore] at hmade
        exact .made hmade hjoined
      · rw [hq.journaledValue_run hbegins hbefore] at htaken
        rw [hq.journaledValue_run hbegins hopen, found_append, htaken] at hrow
        cases Option.some.inj hrow
        exact .takenAway htaken hdeleted
  · exact .inl (value_ne_none_of_isEnd hkept hrow hend)

def creating (kind : EntityKind) (id name : String) : Call :=
  .request (.create kind (some (.fields [("id", .text id), ("name", .text name)])))

def failing : Job := ⟨[], ⟨some (.text "no"), false, none, none⟩⟩

def beforeUncommitted : List Event := [.step (.call .autocommit (creating .client "c" "ci")), .call failing]

def uncommitted : List Event :=
  [.step (.call .current (creating .group "g" "web")),
    .step (.call .autocommit (.mutate false .enrollClient "c" "g"))]

def beforeEvicted : List Event :=
  [.step (.call .autocommit (creating .client "c" "ci")), .step (.call .autocommit (creating .group "g" "web")),
    .step (.call .autocommit (.mutate false .enrollClient "c" "g")), .call failing]

def evicted : List Event :=
  [.step (.call .current (.mutate false .evictClient "c" "g")),
    .step (.call .autocommit (.request (.delete .group (some "g"))))]

theorem make_inUse (now : Instant) (quiet : Bool) (past : List Event) : ((make now quiet).run past).InUse :=
  ⟨.empty, now, quiet, past, rfl⟩

theorem end_stored_or_lost_evicted :
    let q := (make 0 true).run beforeEvicted
    let r := (q.after .move).run evicted
    q.InUse ∧ q.session.store.WellFormed ∧ (q.after .move).StaysOpen evicted ∧
      (q.after .move).Along Textual evicted ∧ (r.after .move).running = none ∧
      (r.after .move).value (.edges .membership) (pairKey (some "c") (some "g")) =
        some ⟨some "c", some "g", "1970-01-01T00:00:00.000Z"⟩ ∧
      ((r.after .move).value (.entities .group) (.value (some "g")) ≠ none ∨
        r.Fails ∧ ∃ before e rest, evicted = before ++ e :: rest ∧
          (q.after .move).EndLost .membership (pairKey (some "c") (some "g"))
            ⟨some "c", some "g", "1970-01-01T00:00:00.000Z"⟩ .group (some "g") before e) := by
  intro q r
  have hq : q.InUse := make_inUse 0 true beforeEvicted
  have hwell : q.session.store.WellFormed := (sound_run (make_sound 0 true) (by decide)).rows
  have hbegins : q.Begins ⟨0, 1, [], failing.ending, [], none⟩ := ⟨rfl, rfl⟩
  have hopen : (q.after .move).StaysOpen evicted := by decide
  have htextual : (q.after .move).Along Textual evicted := by decide
  have hended : (r.after .move).running = none := rfl
  have hrow : (r.after .move).value (.edges .membership) (pairKey (some "c") (some "g")) =
      some ⟨some "c", some "g", "1970-01-01T00:00:00.000Z"⟩ := by decide
  exact ⟨hq, hwell, hopen, htextual, hended, hrow,
    end_stored_or_lost hq hwell hbegins hopen htextual hended hrow (.inr ⟨rfl, rfl⟩)⟩

/-- Neither case can be left out: both times the client is in the group afterwards, which is not there. -/
theorem membership_dangles :
    (let q := (make 0 true).run beforeUncommitted
      let r := (q.after .move).run uncommitted
      q.session.store.WellFormed ∧ (q.after .move).StaysOpen uncommitted ∧
        (q.after .move).Along Textual uncommitted ∧ r.Fails ∧ ¬(r.after .move).session.store.Tied .membership) ∧
    (let q := (make 0 true).run beforeEvicted
      let r := (q.after .move).run evicted
      q.session.store.WellFormed ∧ (q.after .move).StaysOpen evicted ∧
        (q.after .move).Along Textual evicted ∧ r.Fails ∧ ¬(r.after .move).session.store.Tied .membership) := by
  have hdangles (s : Store) (hrow : (s.edges .membership).get? (pairKey (some "c") (some "g")) =
        some ⟨some "c", some "g", "1970-01-01T00:00:00.000Z"⟩)
      (hgroup : (s.entities .group).contains (.value (some "g")) = false) : ¬s.Tied .membership := by
    intro htied
    have hstored := htied.group hrow
    rw [hgroup] at hstored
    cases hstored
  refine ⟨⟨?_, by decide, by decide, ⟨_, _, rfl, rfl, rfl⟩, hdangles _ (by decide) (by decide)⟩,
    ?_, by decide, by decide, ⟨_, _, rfl, rfl, rfl⟩, hdangles _ (by decide) (by decide)⟩
  · exact (sound_run (make_sound 0 true) (by decide)).rows
  · exact (sound_run (make_sound 0 true) (by decide)).rows

/-- A transaction ends while others wrote as well, and two entities have one name then. The transaction was
taken back, it had deleted one of them, and somebody else had made another one with its name. -/
theorem name_reused_of_eq (hq : q.InUse) (hwell : q.session.store.WellFormed) (hbegins : q.Begins running)
    (hopen : (q.after .move).StaysOpen events) (htextual : (q.after .move).Along Textual events)
    (hended : (((q.after .move).run events).after .move).running = none) {kind : EntityKind} {key other : Identity}
    (hne : key ≠ other) {row twin : Entity kind}
    (hrow : (((q.after .move).run events).after .move).value (.entities kind) key = some row)
    (htwin : (((q.after .move).run events).after .move).value (.entities kind) other = some twin)
    (hname : row.name = twin.name) :
    ((q.after .move).run events).Fails ∧ ∃ before e rest, events = before ++ e :: rest ∧
      ((q.after .move).NameReused row key other before e ∨ (q.after .move).NameReused twin other key before e) := by
  have hstart := hbegins.wellFormed hwell
  rcases fails_or_wellFormed hwell hbegins hopen htextual hended with hfails | hkept
  · have hkeeps : (q.after .move).KeepsNames kind key other := by
      intro row twin hrow htwin hname
      rw [hq.backValue_of_begins hbegins] at hrow htwin
      exact (hstart.entities kind).unique hrow htwin hname
    rw [value_after_of_fails hfails] at hrow htwin
    rcases hkeeps.run hstart hopen htextual with hkept | ⟨before, e, rest, rfl, htaken⟩
    · exact absurd (hkept row twin hrow htwin hname) hne
    · refine ⟨hfails, before, e, rest, rfl, ?_⟩
      have hbefore := (along_append.1 hopen).1
      -- the row that was deleted first is the one that is back at the end
      have hreused {key other : Identity} {row : Entity kind}
          (hrow : (((q.after .move).run (before ++ e :: rest)).journaledValue (.entities kind) key).getD
            (((q.after .move).run (before ++ e :: rest)).value (.entities kind) key) = some row)
          (htaken : ((q.after .move).run before).TakesName kind key other e) :
          (q.after .move).NameReused row key other before e := by
        obtain ⟨deleted, made, hdeleted, hadds, hmade, hname⟩ := htaken
        rw [hq.journaledValue_run hbegins hbefore] at hdeleted
        rw [hq.journaledValue_run hbegins hopen, found_append, hdeleted] at hrow
        cases Option.some.inj hrow
        exact ⟨hdeleted, hadds, made, hmade, hname⟩
      exact htaken.imp (hreused hrow) (hreused htwin)
  · exact absurd ((hkept.entities kind).unique hrow htwin hname) hne

def beforeReused : List Event := [.step (.call .autocommit (creating .group "g" "web")), .call failing]

def reused : List Event :=
  [.step (.call .current (.request (.delete .group (some "g")))),
    .step (.call .autocommit (creating .group "h" "web"))]

theorem name_reused_of_eq_deleted :
    let q := (make 0 true).run beforeReused
    let r := (q.after .move).run reused
    q.InUse ∧ q.session.store.WellFormed ∧ (q.after .move).StaysOpen reused ∧
      (q.after .move).Along Textual reused ∧ (r.after .move).running = none ∧
      ∃ row twin : Entity .group,
        (r.after .move).value (.entities .group) (.value (some "g")) = some row ∧
        (r.after .move).value (.entities .group) (.value (some "h")) = some twin ∧ row.name = twin.name ∧
        r.Fails ∧ ∃ before e rest, reused = before ++ e :: rest ∧
          ((q.after .move).NameReused row (.value (some "g")) (.value (some "h")) before e ∨
            (q.after .move).NameReused twin (.value (some "h")) (.value (some "g")) before e) := by
  intro q r
  have hq : q.InUse := make_inUse 0 true beforeReused
  have hwell : q.session.store.WellFormed := (sound_run (make_sound 0 true) (by decide)).rows
  have hbegins : q.Begins ⟨0, 1, [], failing.ending, [], none⟩ := ⟨rfl, rfl⟩
  have hopen : (q.after .move).StaysOpen reused := by decide
  have htextual : (q.after .move).Along Textual reused := by decide
  have hended : (r.after .move).running = none := rfl
  refine ⟨hq, hwell, hopen, htextual, hended, _, _, rfl, rfl, rfl, ?_⟩
  exact name_reused_of_eq hq hwell hbegins hopen htextual hended (by decide) rfl rfl rfl

/-- The rows were well-formed before, and two groups have one name afterwards. -/
theorem names_collide :
    let q := (make 0 true).run beforeReused
    let r := (q.after .move).run reused
    q.session.store.WellFormed ∧ (q.after .move).StaysOpen reused ∧ (q.after .move).Along Textual reused ∧
      r.Fails ∧ ∃ row twin : Entity .group,
        (r.after .move).value (.entities .group) (.value (some "g")) = some row ∧
        (r.after .move).value (.entities .group) (.value (some "h")) = some twin ∧ row.name = twin.name := by
  refine ⟨?_, by decide, by decide, ⟨_, _, rfl, rfl, rfl⟩, _, _, rfl, rfl, rfl⟩
  exact (sound_run (make_sound 0 true) (by decide)).rows

end SecretAccess.Queue
