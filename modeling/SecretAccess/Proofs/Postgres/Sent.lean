import SecretAccess.Proofs.Access.Verdict
import SecretAccess.Proofs.Postgres.Reads

namespace SecretAccess

open Sql

/-- What goes over the wire for a statement: its text, and the values of its parameters in their order. -/
def Sql.Statement.wire (statement : Statement) : String × List Document := (statement.text, statement.params)

def EntityKind.lookup : EntityKind → String
  | .client => "select \"id\", \"name\", \"description\", \"enabled\", \"created_at\", \"created_by\", \"updated_at\", " ++
      "\"updated_by\" from \"clients\" where \"clients\".\"id\" = $1"
  | .group => "select \"id\", \"name\", \"description\", \"metadata\", \"created_at\", \"created_by\", " ++
      "\"updated_at\", \"updated_by\" from \"groups\" where \"groups\".\"id\" = $1"
  | .secret => "select \"id\", \"name\", \"description\", \"type\", \"metadata\", \"created_at\", \"created_by\", " ++
      "\"updated_at\", \"updated_by\" from \"secrets\" where \"secrets\".\"id\" = $1"

namespace Mutation

def command : Mutation → String
  | allowAccess => "insert into \"access_grants\" (\"secret_id\", \"group_id\", \"created_at\") " ++
      "values ($1, $2, default) on conflict (\"secret_id\",\"group_id\") do nothing"
  | revokeAccess => "delete from \"access_grants\" " ++
      "where (\"access_grants\".\"secret_id\" = $1 and \"access_grants\".\"group_id\" = $2)"
  | enrollClient => "insert into \"memberships\" (\"client_id\", \"group_id\", \"created_at\") " ++
      "values ($1, $2, default) on conflict (\"client_id\",\"group_id\") do nothing"
  | evictClient => "delete from \"memberships\" " ++
      "where (\"memberships\".\"client_id\" = $1 and \"memberships\".\"group_id\" = $2)"

def statement (change : Mutation) (endpoint group : String) : Statement :=
  match change with
  | allowAccess | enrollClient => Postgres.insertEdge change.edge (some endpoint) (some group)
  | revokeAccess | evictClient => Postgres.deleteEdge change.edge (some endpoint) (some group)

theorem wire_statement (change : Mutation) (endpoint group : String) :
    (change.statement endpoint group).wire = (change.command, [.text endpoint, .text group]) := by
  -- the text is that of the same change between two empty ids
  have htext : (change.statement endpoint group).text = (change.statement "" "").text := by cases change <;> rfl
  have hcommand : (change.statement "" "").text = change.command := by cases change <;> decide +kernel
  rw [Statement.wire, htext, hcommand]
  cases change <;> rfl

end Mutation

namespace AccessQuery

def columns : EntityKind → String
  | .client => "\"clients\".\"id\", \"clients\".\"name\", \"clients\".\"description\", \"clients\".\"enabled\", " ++
      "\"clients\".\"created_at\", \"clients\".\"created_by\", \"clients\".\"updated_at\", \"clients\".\"updated_by\""
  | .group => "\"groups\".\"id\", \"groups\".\"name\", \"groups\".\"description\", \"groups\".\"metadata\", " ++
      "\"groups\".\"created_at\", \"groups\".\"created_by\", \"groups\".\"updated_at\", \"groups\".\"updated_by\""
  | .secret => "\"secrets\".\"id\", \"secrets\".\"name\", \"secrets\".\"description\", \"secrets\".\"type\", " ++
      "\"secrets\".\"metadata\", \"secrets\".\"created_at\", \"secrets\".\"created_by\", \"secrets\".\"updated_at\", " ++
      "\"secrets\".\"updated_by\""

def pathsCommand (named : Bool) : String :=
  "select " ++ columns .secret ++ ", \"groups\".\"id\", \"groups\".\"name\" from \"memberships\" " ++
    "inner join \"groups\" on \"groups\".\"id\" = \"memberships\".\"group_id\" " ++
    "inner join \"access_grants\" on \"access_grants\".\"group_id\" = \"memberships\".\"group_id\" " ++
    "inner join \"secrets\" on \"secrets\".\"id\" = \"access_grants\".\"secret_id\" where " ++
    if named then "(\"memberships\".\"client_id\" = $1 and \"secrets\".\"name\" = $2)"
    else "\"memberships\".\"client_id\" = $1"

def command : AccessQuery → String
  | groupsForSecret _ => "select " ++ columns .group ++ " from \"access_grants\" " ++
      "inner join \"groups\" on \"groups\".\"id\" = \"access_grants\".\"group_id\" " ++
      "where \"access_grants\".\"secret_id\" = $1"
  | groupsForClient _ => "select " ++ columns .group ++ " from \"memberships\" " ++
      "inner join \"groups\" on \"groups\".\"id\" = \"memberships\".\"group_id\" " ++
      "where \"memberships\".\"client_id\" = $1"
  | clientsForGroup _ => "select " ++ columns .client ++ " from \"memberships\" " ++
      "inner join \"clients\" on \"clients\".\"id\" = \"memberships\".\"client_id\" " ++
      "where \"memberships\".\"group_id\" = $1"
  | clientsForSecret _ => "select " ++ columns .client ++ " from \"access_grants\" " ++
      "inner join \"memberships\" on \"memberships\".\"group_id\" = \"access_grants\".\"group_id\" " ++
      "inner join \"clients\" on \"clients\".\"id\" = \"memberships\".\"client_id\" " ++
      "where \"access_grants\".\"secret_id\" = $1"
  | sanitizedForGroup _ => "select " ++ columns .secret ++ " from \"access_grants\" " ++
      "inner join \"secrets\" on \"secrets\".\"id\" = \"access_grants\".\"secret_id\" " ++
      "where \"access_grants\".\"group_id\" = $1"
  | sanitizedForClient _ => pathsCommand false
  | secretFor _ name | sanitizedFor _ name => pathsCommand name.isSome

def values : AccessQuery → List Document
  | groupsForSecret id | groupsForClient id | clientsForGroup id | clientsForSecret id | sanitizedForGroup id
  | sanitizedForClient id => [Postgres.comparand id]
  | secretFor client name | sanitizedFor client name => Postgres.comparand client :: name.toList

def statement : AccessQuery → Statement
  | groupsForSecret secret => Postgres.selectGroupsOf .grant secret
  | groupsForClient client => Postgres.selectGroupsOf .membership client
  | clientsForGroup group => Postgres.selectEndpointsOf .membership group
  | clientsForSecret secret => Postgres.selectClientsForSecret secret
  | sanitizedForGroup group => Postgres.selectEndpointsOf .grant group
  | sanitizedForClient client => Postgres.selectSecretPaths client none
  | secretFor client name | sanitizedFor client name => Postgres.selectSecretPaths client name

theorem text_selectSecretPaths (client name : Given) :
    (Postgres.selectSecretPaths client name).text = pathsCommand name.isSome := by
  have hwithout : (Postgres.selectSecretPaths none none).text = pathsCommand false := by decide +kernel
  have hwith : (Postgres.selectSecretPaths none (some .null)).text = pathsCommand true := by decide +kernel
  cases name with
  | none => exact hwithout
  | some => exact hwith

theorem wire_statement (query : AccessQuery) : query.statement.wire = (query.command, query.values) := by
  have htext : query.statement.text = query.command := by
    cases query with
    | groupsForSecret secret =>
        have hclosed : (Postgres.selectGroupsOf .grant none).text = command (.groupsForSecret none) := by decide +kernel
        exact hclosed
    | groupsForClient client =>
        have hclosed : (Postgres.selectGroupsOf .membership none).text = command (.groupsForClient none) := by
          decide +kernel
        exact hclosed
    | clientsForGroup group =>
        have hclosed : (Postgres.selectEndpointsOf .membership none).text = command (.clientsForGroup none) := by
          decide +kernel
        exact hclosed
    | clientsForSecret secret =>
        have hclosed : (Postgres.selectClientsForSecret none).text = command (.clientsForSecret none) := by
          decide +kernel
        exact hclosed
    | sanitizedForGroup group =>
        have hclosed : (Postgres.selectEndpointsOf .grant none).text = command (.sanitizedForGroup none) := by
          decide +kernel
        exact hclosed
    | sanitizedForClient client => exact text_selectSecretPaths client none
    | secretFor client name | sanitizedFor client name => exact text_selectSecretPaths client name
  rw [Statement.wire, htext]
  cases query with
  | secretFor client name | sanitizedFor client name => cases name <;> rfl
  | groupsForSecret | groupsForClient | clientsForGroup | clientsForSecret | sanitizedForGroup | sanitizedForClient =>
      rfl

end AccessQuery

namespace Postgres

variable {α β : Type} {c : Connection} {statements : List Statement}

/-- An action that sends these statements, however they are answered. -/
def Sends (statements : List Statement) (x : ConnectionM α) : Prop :=
  ∀ c, (x c).2.sent = c.sent ++ statements

theorem sends_nil_of_eq {x : ConnectionM α} (h : ∀ c, (x c).2 = c) : Sends [] x := fun c => by
  rw [h, List.append_nil]

theorem sends_ofExcept (answer : Except Failure α) : Sends [] (ofExcept answer : ConnectionM α) :=
  sends_nil_of_eq fun c => by cases answer <;> rfl

theorem sends_read (decode : Row → Except Failure α) (rows : List Row) : Sends [] (read decode rows) :=
  sends_nil_of_eq fun _ => rfl

theorem sends_send (statement : Statement) : Sends [statement] (send statement) := fun c => by
  unfold send
  split <;> rfl

theorem sends_record (entry : LogEntry) : Sends [] (record entry) := fun c => by
  unfold record
  rw [List.append_nil]
  split
  · rfl
  · rfl
  · split <;> rfl

theorem Sends.bind {x : ConnectionM α} (h : Sends statements x) {f : α → ConnectionM β} (hf : ∀ a, Sends [] (f a)) :
    Sends statements (x >>= f) := fun c => by
  have hx := h c
  rw [bind_apply]
  cases hrun : x c with
  | mk answer c' =>
      rw [hrun] at hx
      cases answer with
      | error => exact hx
      | ok a =>
          have hrest := hf a c'
          rw [List.append_nil] at hrest
          exact hrest.trans hx

theorem sends_distinct {kind : EntityKind} {x : ConnectionM (List (Entity kind))} (h : Sends statements x) :
    Sends statements (x >>= fun rows => ofExcept (distinctByName rows)) :=
  h.bind fun _ => sends_ofExcept _

theorem sends_secretPaths (client name : Given) :
    Sends [selectSecretPaths client name] (answer (.secretPaths client (.ok name))) :=
  (sends_send _).bind (sends_read pathOf)

theorem sends_authorized (client name : Given) :
    Sends [selectSecretPaths client name] (authorized gateway client name) := by
  refine (sends_secretPaths client name).bind fun paths => ?_
  split
  · exact (sends_record _).bind fun _ => sends_ofExcept _
  · exact sends_ofExcept _

theorem sends_runQuery (query : AccessQuery) : Sends [query.statement] (runQuery gateway query) := by
  cases query with
  | groupsForSecret secret => exact sends_distinct ((sends_send _).bind (sends_read _))
  | groupsForClient client => exact sends_distinct ((sends_send _).bind (sends_read _))
  | clientsForGroup group => exact sends_distinct ((sends_send _).bind (sends_read _))
  | clientsForSecret secret => exact sends_distinct ((sends_send _).bind (sends_read _))
  | sanitizedForGroup group =>
      exact ((sends_send _).bind (sends_read _)).bind fun _ => (sends_ofExcept _).bind fun _ => sends_ofExcept _
  | sanitizedForClient client =>
      exact (sends_secretPaths client none).bind fun _ => (sends_ofExcept _).bind fun _ => sends_ofExcept _
  | secretFor client name => exact (sends_authorized client name).bind fun _ => sends_nil_of_eq fun _ => rfl
  | sanitizedFor client name => exact (sends_authorized client name).bind fun _ => sends_ofExcept _

def lookUp (kind : EntityKind) (id : String) : Statement :=
  selectEntity kind [⟨entityColumn kind "id", .text id⟩] none

theorem wire_lookUp (kind : EntityKind) (id : String) : (lookUp kind id).wire = (kind.lookup, [.text id]) := by
  have htext : (lookUp kind id).text = (lookUp kind "").text := rfl
  have hlookup : (lookUp kind "").text = kind.lookup := by cases kind <;> decide +kernel
  rw [Statement.wire, htext, hlookup]
  rfl

def answered : Option Response → Except Failure (List Row)
  | none => .ok []
  | some (.rows rows) => .ok rows
  | some (.failure name code message) => .error (.connection name code message)

theorem send_eq (statement : Statement) (c : Connection) :
    send statement c = (answered c.responses.head?, c.asked statement) := by
  rw [send]
  rcases c.responses.head? with _ | _ | _ <;> rfl

inductive Finds (kind : EntityKind) : Option Response → Prop
  | row {row : Row} {rest : List Row} {entity : Entity kind} (reads : entityOf kind row = .ok entity) :
      Finds kind (some (.rows (row :: rest)))

theorem ask_get (kind : EntityKind) (id : String) (c : Connection) :
    gateway.ask (.get kind (some id)) c =
      ((answered c.responses.head?).bind fun rows => rows.head?.mapM (entityOf kind), c.asked (lookUp kind id)) := by
  change (send (lookUp kind id) >>= readFirst (entityOf kind)) c = _
  rw [bind_apply, send_eq]
  cases answered c.responses.head? <;> rfl

theorem requireStored_cases (kind : EntityKind) (id : String) (c : Connection) :
    Finds kind c.responses.head? ∧ requireStored gateway kind id c = (.ok (), c.asked (lookUp kind id)) ∨
      ¬Finds kind c.responses.head? ∧
        ∃ failure, requireStored gateway kind id c = (.error failure, c.asked (lookUp kind id)) := by
  rw [requireStored, bind_apply, ask_get]
  cases c.responses.head? with
  | none => exact .inr ⟨by rintro ⟨⟩, _, rfl⟩
  | some response =>
      cases response with
      | failure name code message => exact .inr ⟨by rintro ⟨⟩, _, rfl⟩
      | rows rows =>
          cases rows with
          | nil => exact .inr ⟨by rintro ⟨⟩, _, rfl⟩
          | cons row rest =>
              cases hreads : entityOf kind row with
              | error failure =>
                  refine .inr ⟨?_, failure, ?_⟩
                  · rintro ⟨hok⟩
                    cases hreads.symm.trans hok
                  · simp [answered, Except.bind, hreads]
              | ok entity =>
                  refine .inl ⟨.row hreads, ?_⟩
                  simp only [answered, Except.bind, List.head?_cons, Option.mapM_some, hreads]
                  rfl

theorem sends_carryOut (change : Mutation) (endpoint group : String) :
    Sends [change.statement endpoint group] (carryOut gateway change endpoint group) := by
  have hask : Sends [change.statement endpoint group] (gateway.ask (change.request endpoint group)) := by
    cases change <;> exact (sends_send _).bind fun _ => sends_nil_of_eq fun _ => rfl
  exact hask.bind fun _ => sends_record _

end Postgres

open Postgres

/-- What a change sends, by the responses that are to come. Each step stands only where those before it succeeded. -/
inductive Mutation.Trace (change : Mutation) (verify : Bool) (endpoint group : Given) (responses : List Response) :
    List (String × List Document) → Prop
  | refused (invalid : ¬(Identifier.Valid endpoint ∧ Identifier.Valid group)) :
      Trace change verify endpoint group responses []
  | trusted {e g : String} (valid : Identifier.Valid endpoint ∧ Identifier.Valid group)
      (ends : endpoint = some e ∧ group = some g) (trusts : verify = false) :
      Trace change verify endpoint group responses [(change.command, [.text e, .text g])]
  | endpointMissing {e g : String} (valid : Identifier.Valid endpoint ∧ Identifier.Valid group)
      (ends : endpoint = some e ∧ group = some g) (verifies : verify = true)
      (missing : ¬Finds change.edge.endpoint responses.head?) :
      Trace change verify endpoint group responses [(change.edge.endpoint.lookup, [.text e])]
  | groupMissing {e g : String} (valid : Identifier.Valid endpoint ∧ Identifier.Valid group)
      (ends : endpoint = some e ∧ group = some g) (verifies : verify = true)
      (found : Finds change.edge.endpoint responses.head?) (missing : ¬Finds .group responses.tail.head?) :
      Trace change verify endpoint group responses
        [(change.edge.endpoint.lookup, [.text e]), (EntityKind.lookup .group, [.text g])]
  | verified {e g : String} (valid : Identifier.Valid endpoint ∧ Identifier.Valid group)
      (ends : endpoint = some e ∧ group = some g) (verifies : verify = true)
      (found : Finds change.edge.endpoint responses.head?) (foundGroup : Finds .group responses.tail.head?) :
      Trace change verify endpoint group responses
        [(change.edge.endpoint.lookup, [.text e]), (EntityKind.lookup .group, [.text g]),
          (change.command, [.text e, .text g])]

namespace Postgres

theorem trace_of_verified {change : Mutation} {endpoint group : Given} {e g : String}
    (valid : Identifier.Valid endpoint ∧ Identifier.Valid group) (ends : endpoint = some e ∧ group = some g)
    (c : Connection) :
    ∃ sent, ((requireStored gateway change.edge.endpoint e >>= fun _ => requireStored gateway .group g >>= fun _ =>
        carryOut gateway change e g) c).2.sent = c.sent ++ sent ∧
      change.Trace true endpoint group c.responses (sent.map Statement.wire) := by
  rw [bind_apply]
  rcases requireStored_cases change.edge.endpoint e c with ⟨found, hrun⟩ | ⟨missing, _, hrun⟩
  · rw [hrun]
    change ∃ sent, ((requireStored gateway .group g >>= fun _ => carryOut gateway change e g) _).2.sent = _ ∧ _
    rw [bind_apply]
    rcases requireStored_cases .group g (c.asked (lookUp change.edge.endpoint e)) with
      ⟨foundGroup, hrunGroup⟩ | ⟨missing, _, hrunGroup⟩
    · rw [hrunGroup]
      refine ⟨[lookUp change.edge.endpoint e, lookUp .group g, change.statement e g], ?_, ?_⟩
      · refine (sends_carryOut change e g _).trans ?_
        simp [Connection.asked]
      · simp only [List.map_cons, List.map_nil, wire_lookUp, change.wire_statement]
        exact .verified valid ends rfl found foundGroup
    · rw [hrunGroup]
      refine ⟨[lookUp change.edge.endpoint e, lookUp .group g], ?_, ?_⟩
      · simp [Connection.asked]
      · simp only [List.map_cons, List.map_nil, wire_lookUp]
        exact .groupMissing valid ends rfl found missing
  · rw [hrun]
    refine ⟨[lookUp change.edge.endpoint e], rfl, ?_⟩
    rw [List.map_singleton, wire_lookUp]
    exact .endpointMissing valid ends rfl missing

theorem trace_of_mutate (c : Connection) (verify : Bool) (change : Mutation) (endpoint group : Given) :
    ∃ sent, (mutate gateway verify change endpoint group c).2.sent = c.sent ++ sent ∧
      change.Trace verify endpoint group c.responses (sent.map Statement.wire) := by
  cases hendpoint : Identifier.check endpoint with
  | error issue =>
      rw [mutate_of_endpoint_error _ hendpoint]
      exact ⟨[], (List.append_nil _).symm, .refused fun h => Identifier.not_valid_of_error hendpoint h.1⟩
  | ok e =>
      cases hgroup : Identifier.check group with
      | error issue =>
          rw [mutate_of_group_error _ hendpoint hgroup]
          exact ⟨[], (List.append_nil _).symm, .refused fun h => Identifier.not_valid_of_error hgroup h.2⟩
      | ok g =>
          have valid : Identifier.Valid endpoint ∧ Identifier.Valid group :=
            ⟨Identifier.valid_iff.2 ⟨e, hendpoint⟩, Identifier.valid_iff.2 ⟨g, hgroup⟩⟩
          have ends : endpoint = some e ∧ group = some g :=
            ⟨(Identifier.check_eq_ok_iff.1 hendpoint).1, (Identifier.check_eq_ok_iff.1 hgroup).1⟩
          cases verify with
          | false =>
              rw [mutate_false_eq gateway hendpoint hgroup]
              refine ⟨[change.statement e g], sends_carryOut change e g c, ?_⟩
              rw [List.map_singleton, change.wire_statement]
              exact .trusted valid ends rfl
          | true =>
              rw [mutate_true_eq gateway hendpoint hgroup]
              exact trace_of_verified valid ends c

/-- Over any connection, and whatever it answers, a change of the graph sends what `Mutation.Trace` says, and a query
sends one statement. Both texts are told by the kind of change or query, and by whether a name is asked for. -/
theorem statements_sent (c : Connection) :
    (∀ (verify : Bool) (change : Mutation) (endpoint group : Given), ∃ sent,
      (mutate gateway verify change endpoint group c).2.sent = c.sent ++ sent ∧
      change.Trace verify endpoint group c.responses (sent.map Statement.wire)) ∧
    ∀ query : AccessQuery, ∃ statement, (runQuery gateway query c).2.sent = c.sent ++ [statement] ∧
      statement.wire = (query.command, query.values) :=
  ⟨trace_of_mutate c, fun query => ⟨query.statement, sends_runQuery query c, query.wire_statement⟩⟩

end Postgres

end SecretAccess
