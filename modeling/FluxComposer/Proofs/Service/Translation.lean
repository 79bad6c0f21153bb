import FluxComposer.CommandLine.Job
import FluxComposer.Proofs.Query.Encoded
import FluxComposer.Proofs.Query.Rendered
import FluxComposer.Service.Handle
/-
Text to query to text, with JSON in between. The service parses a text
into a query and answers with its JSON; posted back, that JSON renders to
the text of the query, which is the first text itself if the query is
raw. The command line does the same with two commands, of which the
second reads what the first has written.

Bodies and files may be any JSON texts of the values (`Json.Written`), so
nothing depends on who writes the JSON down on its way.
-/
namespace FluxComposer

open Json.Decode (Tells field_store record_of_tells)

-- ============================================================= bodies

/-- A text that is posted is read as it is. -/
theorem Action.textField_decode (text : String) :
    Action.textField "text" (.ofJson (.object [("text", .string text)]))
      = .ok text :=
  record_of_tells (.cons _ rfl (by decide) rfl (.nil _)) rfl

/-- A query that is posted is read as it is. -/
theorem Action.renderBody_decode (q : Query) :
    Action.renderBody (.ofJson (.object [("model", q.toJson)]))
      = .ok (.render q) := by
  have hmodel : Json.Decode.record
      [Json.Decode.field "model" (Query.decode 1) fun q _ => q] {}
      (.ofJson (.object [("model", q.toJson)])) = .ok q :=
    record_of_tells (.cons _ rfl (by decide)
      (field_store (q.decode_toJson (by decide)) _) (.nil _)) rfl
  unfold Action.renderBody
  rw [hmodel]
  rfl

-- =========================================================== requests

/-- A request that posts a value to an endpoint for queries, in any JSON
text of it. -/
structure Request.Posts (r : Request) (name : String) (value : Json) :
    Prop where
  method : r.method = "POST"
  path : Action.segments r.path = ["api", "v1", "flux", name]
  contentType : r.contentType.any Http.isJson
  body : Json.Written value r.body.toList

/-- The answer to a request whose body may be too large to be read. -/
def Request.answerWithin (r : Request) (answer : Response) : Response :=
  if r.body.utf8ByteSize > Action.bodyLimit then { status := 413 }
  else answer

/-- A value that is posted asks for what is decoded from it, unless its
text is too large. -/
theorem Request.Posts.action {α : Type} {r : Request} {name : String}
    {value : Json} {decode : Json.Decoder α} {make : α → Action} {a : α}
    (posts : r.Posts name value)
    (endpoint : Action.apiEndpoint? ["flux", name]
      = some (Action.withBody "POST" decode make))
    (decoded : decode (.ofJson value) = .ok a) :
    r.action = if r.body.utf8ByteSize > Action.bodyLimit
      then .error 413 else .ok (make a) := by
  have hendpoint : Action.endpoint? r.path
      = some (Action.withBody "POST" decode make) := by
    unfold Action.endpoint?
    rw [posts.path]
    exact endpoint
  have hbody : Action.body r decode
      = if r.body.utf8ByteSize > Action.bodyLimit
        then .error 413 else .ok a := by
    unfold Action.body
    rw [posts.contentType, Json.Decode.head_written decode posts.body,
      decoded]
    rfl
  unfold Request.action
  rw [hendpoint]
  dsimp only
  rw [if_pos (.inl posts.method)]
  unfold Action.withBody
  dsimp only
  rw [hbody]
  split <;> rfl

/-- So it is answered as that is handled. -/
theorem Service.respond_posts {α : Type} (svc : Service) (id : String)
    {r : Request} {name : String} {value : Json}
    {decode : Json.Decoder α} {make : α → Action} {a : α}
    {answer : Response} (posts : r.Posts name value)
    (endpoint : Action.apiEndpoint? ["flux", name]
      = some (Action.withBody "POST" decode make))
    (decoded : decode (.ofJson value) = .ok a)
    (handled : svc.handle r.authorization (make a)
      = .mk (.done (.ok answer))) :
    svc.respond id r = .done (r.answerWithin answer) := by
  unfold Service.respond Request.answerWithin
  rw [posts.method, if_neg (by decide), posts.action endpoint decoded]
  by_cases hlarge : r.body.utf8ByteSize > Action.bodyLimit
  · rw [if_pos hlarge, if_pos hlarge]
    rfl
  · rw [if_neg hlarge, if_neg hlarge]
    dsimp only
    rw [handled]
    rfl

-- ========================================================== commands

namespace CommandLine

/-- The outcome of a job that reads one input and then ends. -/
def Job.outcomeOn? (input : String) : Job → Option Outcome
  | .read _ next =>
    match next (.ok input) with
    | .done outcome => some outcome
    | _ => none
  | _ => none

theorem outcomeOn?_withInput (file : Option String)
    (next : String → Outcome) (input : String) :
    (withInput file next).outcomeOn? input = some (next input) := by
  cases file <;> rfl

/-- What is shown of a text renders to the text of the query. -/
theorem rendered_translated (format t : String) :
    rendered (translated format t).out = .line (Query.parse t).text := by
  have hblank : Json.Blanks ['\n'] := by simp [Json.Blanks]
  have hwritten : Json.Written (Query.parse t).toJson
      (translated format t).out.toList := by
    have hshown := Json.written_indentedAt
      (Query.parse t).numberFree_toJson 0
    simpa [translated, Outcome.line, Json.indented] using
      Json.Written.loose.append hshown hblank
  unfold rendered
  rw [Json.Decode.whole_written _ hwritten,
    Query.decode_toJson (by decide)]

end CommandLine

-- ========================================================== round trip

/-- Every query is decoded from what it is written as. So a text that is
posted to be parsed, and then the model in the answer to be rendered,
comes back as the text of its query, and so does a text that is given to
the command line and what it shows of it to the command line again. If
the query is raw, that is the text that was given. Bodies over the limit
of the service are not read. -/
theorem translation_survives_json (svc : Service) (t : String) :
    (∀ q : Query, Query.decode 0 (.ofJson q.toJson) = .ok q)
      ∧ (∀ id r, r.Posts "parse" (.object [("text", .string t)]) →
        svc.respond id r = .done (r.answerWithin (Service.ok
          (.object [("model", (Query.parse t).toJson),
            ("complex", .bool (Query.parse t).isRaw)]))))
      ∧ (∀ id r,
        r.Posts "render" (.object [("model", (Query.parse t).toJson)]) →
          svc.respond id r = .done (r.answerWithin (Service.ok
            (.object [("text", .string (Query.parse t).text)]))))
      ∧ (∀ (i i' : CommandLine.Invocation) (file file' : Option String),
        i.command = .translate file → i'.command = .render file' →
          ∃ shown, i.job.outcomeOn? t = some shown
            ∧ i'.job.outcomeOn? shown.out
              = some (.line (Query.parse t).text))
      ∧ ((Query.parse t).isRaw = true → (Query.parse t).text = t) := by
  refine ⟨fun q => q.decode_toJson (by decide), fun id r posts => ?_,
    fun id r posts => ?_, fun i i' file file' hi hi' => ?_, text_of_isRaw⟩
  · exact svc.respond_posts id posts rfl (Action.textField_decode t) rfl
  · exact svc.respond_posts id posts rfl (Action.renderBody_decode _) rfl
  · refine ⟨CommandLine.translated i.format t, ?_, ?_⟩
    · unfold CommandLine.Invocation.job
      rw [hi]
      exact CommandLine.outcomeOn?_withInput file _ t
    · unfold CommandLine.Invocation.job
      rw [hi']
      refine (CommandLine.outcomeOn?_withInput file' _ _).trans ?_
      rw [CommandLine.rendered_translated]

/-- A request that posts a value in its compact text. -/
def Request.posting (name : String) (value : Json) : Request where
  method := "POST"
  target := "/api/v1/flux/" ++ name
  contentType := some "application/json"
  body := value.compact

/-- A request that posts a body is taken for what it posts. -/
theorem Request.Posts.posting {name : String} {value : Json}
    (known : name = "parse" ∨ name = "render")
    (free : Json.NumberFree value) :
    (Request.posting name value).Posts name value := by
  refine ⟨rfl, ?_, rfl, Json.written_compact free⟩
  -- the path does not depend on the body
  show Action.segments (Request.path
    { method := "POST", target := "/api/v1/flux/" ++ name }) = _
  rcases known with rfl | rfl <;> decide +kernel

/-- A stage that no part stands for, posted twice and given to two
commands. -/
theorem translation_survives_json_limit :
    let t := "from(bucket: \"air\")\n|> limit(n: 1)"
    let svc : Service :=
      { influxUrl := "", lookback := "-30d", startedAt := ⟨0⟩ }
    svc.respond "1" (.posting "parse" (.object [("text", .string t)]))
        = .done (Service.ok (.object [("model", (Query.raw t).toJson),
            ("complex", .bool true)]))
      ∧ svc.respond "2"
          (.posting "render" (.object [("model", (Query.raw t).toJson)]))
        = .done (Service.ok (.object [("text", .string t)]))
      ∧ ∃ shown,
        (CommandLine.Invocation.job
            { command := .translate none }).outcomeOn? t = some shown
          ∧ (CommandLine.Invocation.job
            { command := .render none }).outcomeOn? shown.out
              = some (.line t) := by
  intro t svc
  have hquery : Query.parse t = .raw t := by decide +kernel
  obtain ⟨-, hparse, hrender, hcommands, -⟩ :=
    translation_survives_json svc t
  rw [hquery] at hparse hrender hcommands
  have hsmall : ∀ {r : Request}, r.body.utf8ByteSize ≤ 100 →
      ∀ answer, r.answerWithin answer = answer := by
    intro r hr answer
    exact if_neg (by unfold Action.bodyLimit; omega)
  have htext : Json.NumberFree (.object [("text", .string t)]) :=
    .object (by simp [Json.NumberFree.string])
  have hmodel : Json.NumberFree
      (.object [("model", (Query.raw t).toJson)]) :=
    .object (by simp [Query.numberFree_toJson])
  refine ⟨?_, ?_, hcommands _ _ none none rfl rfl⟩
  · refine (hparse "1" _ (.posting (.inl rfl) htext)).trans ?_
    rw [hsmall (by decide +kernel)]
    rfl
  · refine (hrender "2" _ (.posting (.inr rfl) hmodel)).trans ?_
    rw [hsmall (by decide +kernel)]
    rfl

end FluxComposer
