import Mathlib.Algebra.GroupWithZero.Nat
import SecretAccess.Proofs.Access.RowOrder
import SecretAccess.Proofs.Store.EdgeRows

namespace SecretAccess

theorem length_eq_sum {kind other : EntityKind} {rows : List (Entity kind)} {listed : Given → List (Entity other)}
    {pairs : List (Given × Given)} (hrows : (rows.map (·.id)).Nodup) (hlisted : ∀ id, ((listed id).map (·.id)).Nodup)
    (hpairs : pairs.Nodup)
    (hmem : ∀ a b, (a, b) ∈ pairs ↔ ∃ row ∈ rows, ∃ item ∈ listed row.id, item.id = a ∧ row.id = b) :
    pairs.length = (rows.map fun row => (listed row.id).length).sum := by
  have hswapped := Order.length_eq_sum (hpairs.map Prod.swap_injective) hrows hlisted fun b a => by
    have hswap : (b, a) ∈ pairs.map Prod.swap ↔ (a, b) ∈ pairs := by simp
    rw [hswap, hmem]
    constructor
    · rintro ⟨row, hrow, item, hitem, rfl, rfl⟩
      exact ⟨List.mem_map_of_mem hrow, List.mem_map_of_mem hitem⟩
    · rintro ⟨hb, ha⟩
      obtain ⟨row, hrow, rfl⟩ := List.mem_map.1 hb
      obtain ⟨item, hitem, rfl⟩ := List.mem_map.1 ha
      exact ⟨row, hrow, item, hitem, rfl, rfl⟩
  rw [List.length_map, List.map_map] at hswapped
  simpa only [Function.comp_def, List.length_map] using hswapped

namespace Store

variable {s : Store}

structure Ordered (s : Store) {kind : EntityKind} (rows : List (Entity kind)) : Prop where
  stored : rows ⊆ (s.entities kind).values
  once : (rows.map (·.id)).Nodup
  ascend : rows.Pairwise fun a b => a.name.Below b.name

theorem WellFormed.ordered (h : s.WellFormed) {kind : EntityKind} {rows : List (Entity kind)}
    (hstored : rows ⊆ (s.entities kind).values) (hascend : rows.Pairwise fun a b => a.name.Below b.name) :
    s.Ordered rows := by
  refine ⟨hstored, List.pairwise_map.2 (hascend.imp_of_mem ?_), hascend⟩
  intro row twin hrow htwin hbelow hid
  rw [h.eq_of_id (hstored hrow) (hstored htwin) hid] at hbelow
  exact Given.Below.irrefl _ hbelow

variable {edge : EdgeKind} {groups : List Group} {endpoints : List (Entity edge.endpoint)}
  {groupsAt : Given → List Group} {endpointsAt : Given → List (Entity edge.endpoint)}

theorem WellFormed.count_eq_sum_groups (h : s.WellFormed) (honce : (groups.map (·.id)).Nodup)
    (hall : ∀ group, group ∈ groups ↔ group ∈ (s.entities .group).values)
    (hordered : ∀ id, s.Ordered (endpointsAt id))
    (hlisted : ∀ id row, row ∈ endpointsAt id ↔ row ∈ s.endpointsOf edge id) :
    s.count edge = (groups.map fun group => (endpointsAt group.id).length).sum := by
  rw [← length_pairs]
  apply length_eq_sum honce (fun id => (hordered id).once) (h.nodup_pairs edge)
  intro endpoint group
  rw [mem_pairs_iff]
  constructor
  · intro hjoined
    obtain ⟨group, hgroup, rfl⟩ := h.exists_row hjoined (.inr ⟨rfl, rfl⟩)
    obtain ⟨row, hrow, rfl⟩ := h.exists_row hjoined (.inl ⟨rfl, rfl⟩)
    exact ⟨group, (hall group).2 hgroup, row, (hlisted _ _).2 (h.mem_endpointsOf.2 ⟨hrow, hjoined⟩), rfl, rfl⟩
  · rintro ⟨group, _, row, hrow, rfl, rfl⟩
    exact (h.mem_endpointsOf.1 ((hlisted _ _).1 hrow)).2

theorem WellFormed.count_eq_sum_endpoints (h : s.WellFormed) (honce : (endpoints.map (·.id)).Nodup)
    (hall : ∀ row, row ∈ endpoints ↔ row ∈ (s.entities edge.endpoint).values)
    (hordered : ∀ id, s.Ordered (groupsAt id))
    (hlisted : ∀ id group, group ∈ groupsAt id ↔ group ∈ s.groupsOf edge id) :
    s.count edge = (endpoints.map fun row => (groupsAt row.id).length).sum := by
  rw [← length_pairs, ← List.length_map Prod.swap]
  apply length_eq_sum honce (fun id => (hordered id).once) ((h.nodup_pairs edge).map Prod.swap_injective)
  intro group endpoint
  have hswap : (group, endpoint) ∈ (s.pairs edge).map Prod.swap ↔ (endpoint, group) ∈ s.pairs edge := by simp
  rw [hswap, mem_pairs_iff]
  constructor
  · intro hjoined
    obtain ⟨group, hgroup, rfl⟩ := h.exists_row hjoined (.inr ⟨rfl, rfl⟩)
    obtain ⟨row, hrow, rfl⟩ := h.exists_row hjoined (.inl ⟨rfl, rfl⟩)
    exact ⟨row, (hall row).2 hrow, group, (hlisted _ _).2 (h.mem_groupsOf.2 ⟨hgroup, hjoined⟩), rfl, rfl⟩
  · rintro ⟨row, _, group, hgroup, rfl, rfl⟩
    exact (h.mem_groupsOf.1 ((hlisted _ _).1 hgroup)).2

end Store

namespace Session

def AnswersGroups (s : Session) (journaled : Bool) : EdgeKind → Given → List Group → Prop
  | .grant, secret, groups => s.Answers journaled (.groupsForSecret secret) groups []
  | .membership, client, groups => s.Answers journaled (.groupsForClient client) groups []

def AnswersEndpoints (s : Session) (journaled : Bool) :
    (edge : EdgeKind) → Given → List (Entity edge.endpoint) → Prop
  | .grant, group, secrets => s.Answers journaled (.sanitizedForGroup group) (secrets.map (⟨·, []⟩)) []
  | .membership, group, clients => s.Answers journaled (.clientsForGroup group) clients []

/-- All ways to see the edges of a kind, as they are asked for through one context. -/
structure SeesEdges (s : Session) (journaled : Bool) (edge : EdgeKind) (groupsAt : Given → List Group)
    (endpointsAt : Given → List (Entity edge.endpoint)) (groups : List Group)
    (endpoints : List (Entity edge.endpoint)) : Prop where
  groupsOf : ∀ id, s.AnswersGroups journaled edge id (groupsAt id) ∧ s.store.Ordered (groupsAt id)
  endpointsOf : ∀ id, s.AnswersEndpoints journaled edge id (endpointsAt id) ∧ s.store.Ordered (endpointsAt id)
  agree : ∀ row ∈ (s.store.entities edge.endpoint).values, ∀ group ∈ (s.store.entities .group).values,
    (group ∈ groupsAt row.id ↔ row ∈ endpointsAt group.id) ∧
      (row ∈ endpointsAt group.id ↔ (s.run journaled (.request (.linked edge row.id group.id))).1 = .ok true)
  allGroups : (s.run journaled (.request (.list .group))).1 = .ok groups
  allEndpoints : (s.run journaled (.request (.list edge.endpoint))).1 = .ok endpoints
  countByGroup : (s.run journaled (.request (.count edge))).1 =
    .ok (.ofNat (groups.map fun group => (endpointsAt group.id).length).sum)
  countByEndpoint : (s.run journaled (.request (.count edge))).1 =
    .ok (.ofNat (endpoints.map fun row => (groupsAt row.id).length).sum)

variable {s : Session}

theorem exists_answersGroups (hs : s.store.WellFormed) (journaled : Bool) (edge : EdgeKind) (id : Given) :
    ∃ groups, s.AnswersGroups journaled edge id groups ∧ s.store.Ordered groups ∧
      ∀ group, group ∈ groups ↔ group ∈ s.store.groupsOf edge id := by
  have hstored : s.store.groupsOf edge id ⊆ (s.store.entities .group).values :=
    fun row hrow => (hs.mem_groupsOf.1 hrow).1
  obtain ⟨groups, hgroups, hmem, hascend⟩ := hs.exists_distinct hstored
  refine ⟨groups, ?_, hs.ordered (fun row hrow => hstored ((hmem row).1 hrow)) hascend, hmem⟩
  cases edge with
  | grant => exact answers_groupsForSecret hgroups
  | membership => exact answers_groupsForClient hgroups

theorem exists_answersEndpoints (hs : s.store.WellFormed) (journaled : Bool) (edge : EdgeKind) (id : Given) :
    ∃ endpoints, s.AnswersEndpoints journaled edge id endpoints ∧ s.store.Ordered endpoints ∧
      ∀ row, row ∈ endpoints ↔ row ∈ s.store.endpointsOf edge id := by
  have hstored : s.store.endpointsOf edge id ⊆ (s.store.entities edge.endpoint).values :=
    fun row hrow => (hs.mem_endpointsOf.1 hrow).1
  obtain ⟨endpoints, hendpoints, hmem, hascend⟩ := hs.exists_distinct hstored
  have hsub : endpoints ⊆ (s.store.entities edge.endpoint).values := fun row hrow => hstored ((hmem row).1 hrow)
  refine ⟨endpoints, ?_, hs.ordered hsub hascend, hmem⟩
  cases edge with
  | membership => exact answers_of_reduce rfl hendpoints
  | grant =>
      have hshown : endpoints.mapM (fun secret : Secret => sanitize secret.copy []) =
          .ok (endpoints.map (⟨·, []⟩)) := by
        apply mapM_eq_ok_map
        intro secret hsecret
        rw [hs.copy_eq (hsub hsecret), sanitize_of_texts _ (by simp), ascending_nil]
      refine answers_of_reduce rfl ?_
      rw [← hshown]
      exact congrArg (· >>= fun rows => rows.mapM fun secret : Secret => sanitize secret.copy []) hendpoints

theorem exists_seesEdges (hs : s.store.WellFormed) (journaled : Bool) (edge : EdgeKind) :
    ∃ groupsAt endpointsAt groups endpoints,
      s.SeesEdges journaled edge groupsAt endpointsAt groups endpoints := by
  choose groupsAt hgroupsAt hgroups hmemGroups using exists_answersGroups hs journaled edge
  choose endpointsAt hendpointsAt hendpoints hmemEndpoints using exists_answersEndpoints hs journaled edge
  obtain ⟨groups, hlistGroups, hpermGroups, hascendGroups⟩ := hs.exists_list .group
  obtain ⟨endpoints, hlistEndpoints, hpermEndpoints, hascendEndpoints⟩ := hs.exists_list edge.endpoint
  have honceGroups := (hs.ordered hpermGroups.subset hascendGroups).once
  have honceEndpoints := (hs.ordered hpermEndpoints.subset hascendEndpoints).once
  refine ⟨groupsAt, endpointsAt, groups, endpoints, fun id => ⟨hgroupsAt id, hgroups id⟩,
    fun id => ⟨hendpointsAt id, hendpoints id⟩, ?_, hlistGroups, hlistEndpoints, ?_, ?_⟩
  · intro row hrow group hgroup
    have hlinked : (s.run journaled (.request (.linked edge row.id group.id))).1 = .ok true ↔
        s.store.Joined edge row.id group.id := by
      rw [hs.keyed.joined_iff (hs.isText hrow).1 (hs.isText hgroup).1]
      exact ⟨Except.ok.inj, congrArg Except.ok⟩
    rw [hmemGroups, hmemEndpoints, hs.mem_groupsOf, hs.mem_endpointsOf, hlinked]
    simp only [hrow, hgroup, true_and, and_self]
  · rw [← hs.count_eq_sum_groups honceGroups (fun _ => hpermGroups.mem_iff) hendpoints hmemEndpoints]
    rfl
  · rw [← hs.count_eq_sum_endpoints honceEndpoints (fun _ => hpermEndpoints.mem_iff) hgroups hmemGroups]
    rfl

end Session

namespace Queue

/-- After every serial run the lists of either side, the tests and the counts tell of the same edges. -/
theorem edges_of_serially (now : Instant) (quiet : Bool) (events : List Event)
    (h : (make now quiet).Serially events) (journaled : Bool) (edge : EdgeKind) :
    ∃ groupsAt endpointsAt groups endpoints,
      ((make now quiet).run events).session.SeesEdges journaled edge groupsAt endpointsAt groups endpoints :=
  Session.exists_seesEdges (sound_run (make_sound now quiet) h).rows journaled edge

theorem edges_of_serially_twoGroups :
    let s := ((make 0 true).run twoGroups).session
    (make 0 true).Serially twoGroups ∧ s.store.count .grant = 4 ∧ ∃ groupsAt endpointsAt groups endpoints,
      s.SeesEdges false .grant groupsAt endpointsAt groups endpoints :=
  ⟨by decide, by decide, edges_of_serially 0 true twoGroups (by decide) false .grant⟩

end Queue

end SecretAccess
