import FluxComposer.Grafana.Client
import FluxComposer.Proofs.Json.Sorted
/-
What is said to the dashboard server and what it says. A request says it
by its path (`IsRequest`) and by members of its body (`Shows`,
`OnBehalfOf`). An answer says it by the fields of a record, which is an
object or an array: a datasource has an integer as its id, a string as its
uid and a string as its name, a dashboard two strings as its uid and its
address.

The answer to a lookup is read as it comes, so nothing in it may be given
twice (`Datasource.decode?_eq_some_iff`). The answer to a creation is held
as a value first, in which the last of several members counts, and the
datasource stands in it under a key of its own or is the whole of it
(`Client.createdDatasource_eq_ok_iff`).
-/
namespace FluxComposer.Grafana

open Http Json Json.Decode

-- ============================================================ requests

/-- A request of a client goes to a path of the server, by a method and
with the authorization of the client. -/
structure IsRequest (client : Client) (method path : String)
    (r : Http.Request) : Prop where
  method : r.method = method
  url : r.url = client.baseUrl ++ path
  authorization : r.authorization = some client.authorization

/-- The client makes its requests so. -/
theorem isRequest_request (client : Client) (method path : String)
    (body : Option Json) :
    IsRequest client method path (client.request method path body) :=
  ⟨rfl, rfl, rfl⟩

/-- A dashboard has one panel with one target, both on the datasource with
an id, and the target carries a query. -/
inductive Shows (uid query : String) (body : Json) : Prop where
  | intro {board panel target : Json}
      (dashboard : body.get? "dashboard" = some board)
      (panels : board.get? "panels" = some (.array [panel]))
      (panelSource : (panel.get? "datasource").bind (·.get? "uid")
        = some (.string uid))
      (targets : panel.get? "targets" = some (.array [target]))
      (targetSource : (target.get? "datasource").bind (·.get? "uid")
        = some (.string uid))
      (carries : target.get? "query" = some (.string query))

/-- The payload of a dashboard shows its query on its datasource. -/
theorem shows_payload (d : Dashboard) :
    Shows d.datasourceUid d.fluxQuery d.payload :=
  .intro rfl rfl rfl rfl rfl rfl

/-- A datasource is created for an organization, with a token of it. -/
structure OnBehalfOf (organization token : String) (body : Json) : Prop where
  organization : (body.get? "jsonData").bind (·.get? "organization")
    = some (.string organization)
  token : (body.get? "secureJsonData").bind (·.get? "token")
    = some (.string token)

/-- The payload of a datasource is on behalf of the organization that the
client is told, with the token that it is told. -/
theorem onBehalfOf_payload (p : DatasourceParams) :
    OnBehalfOf p.organization p.token p.payload := ⟨rfl, rfl⟩

-- ============================================================= answers

/-- The fields of a datasource. Its id fits 64 bits, and its type may be
missing. -/
structure Datasource.Given (d : Datasource)
    (given : String → Option Reading) : Prop where
  id : given "id" = some (.number (some (.integer d.id)))
  fits : d.id < Nat.pow 2 63
  uid : given "uid" = some (.string (some d.uid))
  name : given "name" = some (.string (some d.name))
  kind : given "type" = some (.string (some d.kind))
    ∨ given "type" = none ∧ d.kind = ""

/-- The keys of a datasource, in the order of an array. -/
def Datasource.keys : List String := ["id", "uid", "name", "type"]

/-- A text is a datasource. -/
def Datasource.IsText (d : Datasource) (text : String) : Prop :=
  ∃ r given, ReadsAs text r ∧ r.Gives keys given ∧ d.Given given

/-- A value is a datasource. -/
def Datasource.IsValue (d : Datasource) (j : Json) : Prop :=
  ∃ value, j.Gives keys value ∧ d.Given (readings value)

/-- A text tells of a datasource: under a key of its own, or as a whole
where nothing stands under that key. -/
inductive Datasource.IsTold (d : Datasource) (text : String) : Prop where
  | inside {j inner : Json} (parsed : parse? text = some j)
      (own : j.get? "datasource" = some inner) (value : d.IsValue inner)
  | whole {j : Json} (parsed : parse? text = some j)
      (other : j.get? "datasource" = none) (value : d.IsValue j)

/-- The fields of a dashboard that was created. -/
structure Created.Given (c : Created) (given : String → Option Reading) :
    Prop where
  uid : given "uid" = some (.string (some c.uid))
  url : given "url" = some (.string (some c.url))

/-- A text is a dashboard that was created. -/
def Created.IsText (c : Created) (text : String) : Prop :=
  ∃ r given, ReadsAs text r ∧ r.Gives ["uid", "url"] given ∧ c.Given given

-- ============================================================ decoders

/-- The fields of a datasource may come in any order. -/
theorem Datasource.independent_fields : Independent fields := by
  refine independent_of_swaps (by decide) ?_
  simp only [fields, List.pairwise_cons, List.forall_mem_cons,
    List.not_mem_nil, false_imp_iff, implies_true, List.Pairwise.nil,
    and_true]
  and_intros
  all_goals exact field_swaps fun _ _ _ => rfl

/-- What the fields of a datasource come to is said by what they are
given. -/
theorem Datasource.comesTo_iff {d : Datasource}
    {given : String → Option Reading} :
    ComesTo given fields ⟨0, "", "", ""⟩ d ↔ d.Given given := by
  unfold fields
  simp only [comesTo_cons_required, comesTo_cons_optional, comesTo_nil,
    string_eq_ok_iff, int64_eq_ok_iff]
  -- the type comes last and may be missing, so it alone has two cases
  constructor
  · intro h
    obtain ⟨_, id, hid, ⟨rfl, hfits⟩, _, uid, huid, rfl, _, name, hname, rfl,
      ⟨_, kind, hkind, rfl, rfl⟩ | ⟨hkind, rfl⟩⟩ := h
    · exact ⟨hid, hfits, huid, hname, .inl hkind⟩
    · exact ⟨hid, hfits, huid, hname, .inr ⟨hkind, rfl⟩⟩
  · intro h
    obtain ⟨id, uid, name, kind⟩ := d
    refine ⟨_, id, h.id, ⟨rfl, h.fits⟩, _, uid, h.uid, rfl, _, name, h.name,
      rfl, ?_⟩
    obtain hkind | ⟨hkind, rfl⟩ := h.kind
    · exact .inl ⟨_, kind, hkind, rfl, rfl⟩
    · exact .inr ⟨hkind, rfl⟩

/-- An answer is decoded where its whole text is. -/
theorem decode?_eq_some {α : Type} {decode : Decoder α} {r : Reply}
    {a : α} :
    r.decode? decode = some a ↔ whole decode r.body.toList = .ok a := by
  unfold Reply.decode?
  cases whole decode r.body.toList <;> simp [Except.toOption]

/-- The answer to a lookup is decoded to the datasource that it is. -/
theorem Datasource.decode?_eq_some_iff {r : Reply} {d : Datasource} :
    r.decode? decode = some d ↔ d.IsText r.body := by
  unfold decode
  rw [decode?_eq_some, whole_record_eq_ok_iff independent_fields]
  simp only [comesTo_iff]
  rfl

/-- Sorting a value does not change what its fields say of a datasource. -/
theorem Datasource.given_sortedReadings {d : Datasource}
    {value : String → Option Json} :
    d.Given (sortedReadings value) ↔ d.Given (readings value) := by
  constructor
  · intro h
    exact ⟨sortedReadings_eq_number.1 h.id, h.fits,
      sortedReadings_eq_string.1 h.uid, sortedReadings_eq_string.1 h.name,
      h.kind.imp sortedReadings_eq_string.1
        (And.imp_left sortedReadings_eq_none.1)⟩
  · intro h
    exact ⟨sortedReadings_eq_number.2 h.id, h.fits,
      sortedReadings_eq_string.2 h.uid, sortedReadings_eq_string.2 h.name,
      h.kind.imp sortedReadings_eq_string.2
        (And.imp_left sortedReadings_eq_none.2)⟩

/-- A value whose members are sorted is decoded to the datasource that the
value is. -/
theorem Datasource.decode_sorted_iff {j : Json} {d : Datasource} :
    decode (.ofJson j.sorted) = .ok d ↔ d.IsValue j := by
  unfold decode IsValue
  rw [record_sorted_eq_ok_iff independent_fields]
  refine exists_congr fun value => and_congr_right' ?_
  rw [comesTo_iff, given_sortedReadings]

/-- What the answer to a creation is searched for stays in its place when
the answer is sorted. -/
theorem Client.createdDatasource_eq_ok {r : Reply} {d : Datasource} :
    createdDatasource r = .ok d ↔ ∃ j, parse? r.body = some j
      ∧ d.IsValue ((j.get? "datasource").getD j) := by
  unfold createdDatasource
  cases parse? r.body with
  | none => simp
  | some j =>
      -- sorting goes into the members, so it does not matter whether the
      -- value under the key is sorted or the whole is
      have hvalue : (j.sorted.get? "datasource").getD j.sorted
          = ((j.get? "datasource").getD j).sorted := by
        rw [get?_sorted]
        cases j.get? "datasource" <;> rfl
      simp only [Option.some.injEq, exists_eq_left', hvalue,
        ← Datasource.decode_sorted_iff]
      cases Datasource.decode _ <;> simp [pure, Except.pure]

/-- The answer to a creation gives the datasource that it tells of. -/
theorem Client.createdDatasource_eq_ok_iff {r : Reply} {d : Datasource} :
    createdDatasource r = .ok d ↔ d.IsTold r.body := by
  rw [createdDatasource_eq_ok]
  constructor
  · intro h
    obtain ⟨j, hparse, hvalue⟩ := h
    cases hown : j.get? "datasource" with
    | none =>
        rw [hown] at hvalue
        exact .whole hparse hown hvalue
    | some inner =>
        rw [hown] at hvalue
        exact .inside hparse hown hvalue
  · intro h
    cases h with
    | inside parsed own value => exact ⟨_, parsed, own ▸ value⟩
    | whole parsed other value => exact ⟨_, parsed, other ▸ value⟩

/-- Of two members with one key it is the last that counts. -/
example : (⟨1, "b", "n", ""⟩ : Datasource).IsTold
    ("\x7b\"datasource\": \x7b\"id\": 1, \"uid\": \"a\", "
      ++ "\"uid\": \"b\", \"name\": \"n\"\x7d\x7d") :=
  (Client.createdDatasource_eq_ok_iff (r := ⟨200, _⟩)).1 (by decide +kernel)

/-- The fields of a created dashboard may come in any order. -/
theorem Created.independent_fields : Independent fields := by
  refine independent_of_swaps (by decide) ?_
  simp only [fields, List.pairwise_cons, List.forall_mem_cons,
    List.not_mem_nil, false_imp_iff, implies_true, List.Pairwise.nil,
    and_true]
  exact field_swaps fun _ _ _ => rfl

/-- What the fields of a created dashboard come to is said by what they are
given. -/
theorem Created.comesTo_iff {c : Created}
    {given : String → Option Reading} :
    ComesTo given fields ⟨"", ""⟩ c ↔ c.Given given := by
  unfold fields
  simp only [comesTo_cons_required, comesTo_nil, string_eq_ok_iff]
  constructor
  · intro h
    obtain ⟨_, uid, huid, rfl, _, url, hurl, rfl, rfl⟩ := h
    exact ⟨huid, hurl⟩
  · intro h
    exact ⟨_, c.uid, h.uid, rfl, _, c.url, h.url, rfl, rfl⟩

/-- The answer to the creation of a dashboard is decoded to the dashboard
that it is. -/
theorem Created.decode?_eq_some_iff {r : Reply} {c : Created} :
    r.decode? decode = some c ↔ c.IsText r.body := by
  unfold decode
  rw [decode?_eq_some, whole_record_eq_ok_iff independent_fields]
  simp only [comesTo_iff]
  rfl

end FluxComposer.Grafana
