import FluxComposer.Proofs.Json.Record
import FluxComposer.Proofs.Text.Blank
import FluxComposer.Proofs.Text.Search
import FluxComposer.Service.Handle
/-
What a request says. The token that it bears stands in the first of its
authorization headers (`Bears`), and the dashboard that it wants in the
members of its body (`Publication.IsPosted`). Both are said of the request
as it has come, and both are what the service takes it for
(`Service.bearer_eq_ok_iff`, `Publication.isPosted_of_action`).

Only one endpoint publishes anything, so a request that is taken for a
publication has had its body read as one. The endpoints are gone through
once for that (`Action.body_of_publish`).
-/
namespace FluxComposer

-- ============================================================== tokens

/-- A character that may stand in the text of a header. -/
def IsPrintable (c : Char) : Prop := c = '\t' ∨ ' ' ≤ c ∧ c ≤ '~'

/-- The token that authorization headers bear: the first of them is text
that names it behind the scheme, between blanks. -/
inductive Bears : List String → String → Prop where
  | first {value token : String} {others : List String}
      {left right : List Char} (text : ∀ c ∈ value.toList, IsPrintable c)
      (scheme : value.toList
        = "Bearer ".toList ++ (left ++ (token.toList ++ right)))
      (before : ∀ c ∈ left, Text.isBlank c = true)
      (behind : ∀ c ∈ right, Text.isBlank c = true)
      (named : token ≠ "") (trimmed : Text.trim token.toList = token.toList) :
      Bears (value :: others) token

namespace Service

variable {authorization : List String} {token value : String}

/-- A value can be read as text if all of its characters may stand in
one. -/
theorem isHeaderText_iff :
    isHeaderText value = true ↔ ∀ c ∈ value.toList, IsPrintable c := by
  have hchar (c : Char) : (c == '\t' || (decide (0x20 ≤ c.toNat)
      && decide (c.toNat < 0x7F))) = true ↔ IsPrintable c := by
    simp only [Bool.or_eq_true, beq_iff_eq, Bool.and_eq_true,
      decide_eq_true_eq]
    exact or_congr_right (and_congr Iff.rfl Nat.lt_succ_iff)
  unfold isHeaderText
  rw [List.all_eq_true]
  exact forall₂_congr fun c _ => hchar c

/-- A token is found where the headers bear it. -/
theorem bearerToken?_of_bears (h : Bears authorization token) :
    bearerToken? authorization = some token := by
  obtain @⟨value, _, others, left, right, text, scheme, before, behind, named,
    trimmed⟩ := h
  have htrim : Text.trim (left ++ (token.toList ++ right)) = token.toList :=
    (Text.trim_between before behind).trans trimmed
  have htoken : token.toList ≠ [] := fun hnil =>
    named (String.toList_inj.1 hnil)
  unfold bearerToken?
  simp only [List.head?_cons, Option.bind_eq_bind, Option.bind_some,
    isHeaderText_iff.2 text, Bool.not_true, Bool.false_eq_true, if_false,
    scheme, Text.after_append, htrim]
  cases htoken' : token.toList with
  | nil => exact absurd htoken' htoken
  | cons c cs =>
      show some (String.ofList (c :: cs)) = some token
      rw [← htoken', String.ofList_toList]

/-- What is found is a token that the headers bear. -/
theorem bears_of_bearerToken? (h : bearerToken? authorization = some token) :
    Bears authorization token := by
  cases authorization with
  | nil => cases h
  | cons value others =>
      unfold bearerToken? at h
      simp only [List.head?_cons, Option.bind_eq_bind, Option.bind_some]
        at h
      cases htext : isHeaderText value with
      | false => simp [htext] at h
      | true =>
          simp only [htext, Bool.not_true, Bool.false_eq_true, if_false] at h
          obtain ⟨rest, hrest, h⟩ := Option.bind_eq_some_iff.1 h
          have htoken : token.toList = Text.trim rest
              ∧ Text.trim rest ≠ [] := by
            split at h
            next => cases h
            next hnil =>
              obtain rfl := Option.some.inj h
              exact ⟨String.toList_ofList, hnil⟩
          obtain ⟨left, right, hmargins, hleft, hright⟩ :=
            Text.exists_margins rest
          refine .first (isHeaderText_iff.1 htext) ?_ hleft hright ?_ ?_
          · rw [Text.after_eq_some_iff.1 hrest, htoken.1, ← hmargins]
          · intro hempty
            rw [hempty] at htoken
            exact htoken.2 htoken.1.symm
          · rw [htoken.1, Text.trim_trim]

/-- The token of a request is the one that its headers bear. -/
theorem bearer_eq_ok_iff :
    bearer authorization = .ok token ↔ Bears authorization token := by
  have hfound : bearer authorization = .ok token
      ↔ bearerToken? authorization = some token := by
    unfold bearer
    cases bearerToken? authorization <;> simp
  rw [hfound]
  exact ⟨bears_of_bearerToken?, bearerToken?_of_bears⟩

/-- A request has no token where its headers bear none. -/
theorem exists_bearer_eq_error_iff :
    (∃ e, bearer authorization = .error e)
      ↔ ∀ token, ¬ Bears authorization token := by
  simp only [← bearer_eq_ok_iff]
  cases bearer authorization <;> simp

end Service

-- ======================================================== publications

section Publications

open Json Json.Decode

/-- A text of a body. One that is left out is empty. -/
def IsTextOf (given : Option Reading) (text : String) : Prop :=
  given = some (.string (some text)) ∨ given = none ∧ text = ""

/-- A text of a body that may be open. -/
def IsOptionalTextOf (given : Option Reading) : Option String → Prop
  | some text => given = some (.string (some text))
  | none => given = some .null ∨ given = none

namespace Publication

/-- The members of a body that wants a dashboard, each as it stands
there. -/
structure Given (p : Publication) (given : String → Option Reading) :
    Prop where
  fluxQuery : IsTextOf (given "fluxQuery") p.fluxQuery
  title : IsTextOf (given "title") p.title
  panelTitle : IsOptionalTextOf (given "panelTitle") p.panelTitle

/-- A body wants a dashboard. What follows its value is not looked at. -/
def IsPosted (p : Publication) (body : String) : Prop :=
  ∃ given, (Json.read body.toList).1.Gives
      ["fluxQuery", "title", "panelTitle"] given ∧ p.Given given

end Publication

namespace Action

/-- What a text that may be left out is given. -/
theorem isTextOf_iff {given : Option Reading} {text : String} :
    ((∃ r, given = some r ∧ string r = .ok text) ∨ given = none ∧ text = "")
      ↔ IsTextOf given text := by
  unfold IsTextOf
  refine or_congr_left ?_
  simp only [string_eq_ok_iff, exists_eq_right]

/-- What a text that may be open is given. -/
theorem isOptionalTextOf_iff {given : Option Reading}
    {text : Option String} :
    ((∃ r, given = some r ∧ optional string r = .ok text)
        ∨ given = none ∧ text = none)
      ↔ IsOptionalTextOf given text := by
  unfold IsOptionalTextOf
  simp only [optional_string_eq_ok_iff]
  cases text <;> simp

/-- The fields of a publication may come in any order. -/
theorem independent_publicationFields : Independent publicationFields := by
  refine independent_of_swaps (by decide) ?_
  simp only [publicationFields, List.pairwise_cons, List.forall_mem_cons,
    List.not_mem_nil, false_imp_iff, implies_true, List.Pairwise.nil,
    and_true]
  and_intros
  all_goals exact field_swaps fun _ _ _ => rfl

/-- The body of a publication is decoded to what its members say. -/
theorem publicationBody_eq_ok_iff {r : Reading} {p : Publication} :
    publicationBody r = .ok p
      ↔ ∃ given, r.Gives ["fluxQuery", "title", "panelTitle"] given
        ∧ p.Given given := by
  unfold publicationBody
  rw [record_eq_ok_iff independent_publicationFields]
  refine exists_congr fun given => and_congr_right' ?_
  unfold publicationFields
  constructor
  · intro h
    obtain ⟨query, hquery, h⟩ := (comesTo_cons_default rfl).1 h
    obtain ⟨title, htitle, h⟩ := (comesTo_cons_default rfl).1 h
    obtain ⟨panelTitle, hpanelTitle, h⟩ := (comesTo_cons_default rfl).1 h
    obtain rfl := comesTo_nil.1 h
    exact ⟨isTextOf_iff.1 hquery, isTextOf_iff.1 htitle,
      isOptionalTextOf_iff.1 hpanelTitle⟩
  · intro h
    refine (comesTo_cons_default rfl).2
      ⟨p.fluxQuery, isTextOf_iff.2 h.fluxQuery, ?_⟩
    refine (comesTo_cons_default rfl).2
      ⟨p.title, isTextOf_iff.2 h.title, ?_⟩
    refine (comesTo_cons_default rfl).2
      ⟨p.panelTitle, isOptionalTextOf_iff.2 h.panelTitle, ?_⟩
    exact comesTo_nil.2 rfl

-- =========================================================== endpoints

/-- What is read of a body is decoded from the value that it begins
with. -/
theorem decoded_of_body {α : Type} {decode : Decoder α} {r : Request}
    {a : α} (h : body r decode = .ok a) :
    decode (Json.read r.body.toList).1 = .ok a := by
  unfold body head at h
  split at h
  · cases h
  split at h
  · cases h
  split at h
  case h_1 b hdecoded =>
    cases h
    exact hdecoded
  all_goals cases h

/-- What is made of a part that was read. -/
theorem map_eq_ok {α β : Type} {f : α → β} {x : Except Nat α} {b : β}
    (h : f <$> x = .ok b) : ∃ a, x = .ok a ∧ f a = b := by
  cases x with
  | error status => cases h
  | ok a => exact ⟨a, rfl, Except.ok.inj h⟩

/-- An endpoint that publishes nothing. -/
def Endpoint.IsOther (endpoint : Endpoint) : Prop :=
  ∀ r p, endpoint.read r ≠ .ok (.publish p)

/-- An endpoint without a body publishes nothing. -/
theorem isOther_bare {method : String} {action : Action}
    (other : ∀ p, action ≠ .publish p) : (bare method action).IsOther :=
  fun _ p h => other p (Except.ok.inj h)

/-- What is made of a part of the request publishes nothing if it is made
into something else. -/
theorem isOther_map {α : Type} {method : String} {f : α → Action}
    {part : Request → Except Nat α} (other : ∀ a p, f a ≠ .publish p) :
    Endpoint.IsOther ⟨method, fun r => f <$> part r⟩ := by
  intro r p h
  obtain ⟨a, -, hp⟩ := map_eq_ok h
  exact other a p hp

/-- A body publishes nothing if it is decoded to something else. -/
theorem isOther_withBody {method : String} {decode : Decoder Action}
    (other : ∀ r p, decode r ≠ .ok (.publish p)) :
    (withBody method decode id).IsOther := by
  intro r p h
  obtain ⟨a, ha, hp⟩ := map_eq_ok h
  exact other _ p (decoded_of_body (ha.trans (congrArg Except.ok hp)))

/-- The body of a login publishes nothing. -/
theorem loginBody_ne_publish (r : Reading) (p : Publication) :
    loginBody r ≠ .ok (.publish p) := by
  intro h
  obtain ⟨_, -, hp⟩ := bind_eq_ok.1 h
  cases hp

/-- The body of a range publishes nothing. -/
theorem rangeBody_ne_publish (r : Reading) (p : Publication) :
    rangeBody r ≠ .ok (.publish p) := by
  intro h
  obtain ⟨_, -, hp⟩ := bind_eq_ok.1 h
  cases hp

/-- A query that is rendered is not published. -/
theorem renderBody_ne_publish (r : Reading) (p : Publication) :
    renderBody r ≠ .ok (.publish p) := by
  intro h
  unfold renderBody at h
  cases hq : record [field "model" (Query.decode 1) fun q _ => q] {} r with
  | error e =>
      rw [hq] at h
      cases h
  | ok q =>
      rw [hq] at h
      cases h

/-- Fields of a bucket and a measurement in a path are no publication. -/
theorem isOther_fields {method : String} {bucket measurement : String} :
    Endpoint.IsOther ⟨method, fun _ => do
      return .fields (← pathText bucket) (← pathText measurement)⟩ := by
  intro r p h
  cases hbucket : pathText bucket with
  | error status =>
      simp only [hbucket] at h
      cases h
  | ok b =>
      cases hmeasurement : pathText measurement with
      | error status =>
          simp only [hbucket, hmeasurement] at h
          cases h
      | ok m =>
          simp only [hbucket, hmeasurement] at h
          cases h

/-- Of the endpoints of the interface one publishes, by its body. -/
theorem publication_or_other {segments : List String} {endpoint : Endpoint}
    (h : apiEndpoint? segments = some endpoint) :
    endpoint = withBody "POST" publicationBody .publish
      ∨ endpoint.IsOther := by
  unfold apiEndpoint? at h
  split at h
  -- the index of a part must not be empty, all other endpoints are there
  all_goals try split at h
  all_goals cases h
  all_goals first
    | exact .inl rfl
    | exact .inr (isOther_bare fun _ => nofun)
    | exact .inr isOther_fields
    | exact .inr (isOther_withBody loginBody_ne_publish)
    | exact .inr (isOther_withBody rangeBody_ne_publish)
    | exact .inr (isOther_withBody renderBody_ne_publish)
    | exact .inr (isOther_map fun _ _ => nofun)

/-- Of all endpoints one publishes, by its body. -/
theorem endpoint_publication_or_other {path : List Char}
    {endpoint : Endpoint} (h : endpoint? path = some endpoint) :
    endpoint = withBody "POST" publicationBody .publish
      ∨ endpoint.IsOther := by
  unfold endpoint? at h
  split at h
  · exact publication_or_other h
  all_goals cases h
  all_goals exact .inr (isOther_bare fun _ => nofun)

end Action

/-- A request that is taken for a publication has a body that wants it. -/
theorem Publication.isPosted_of_action {r : Request} {p : Publication}
    (h : r.action = .ok (.publish p)) : p.IsPosted r.body := by
  unfold Request.action at h
  split at h
  case h_1 => cases h
  case h_2 endpoint hendpoint =>
    split at h
    case isFalse => cases h
    case isTrue =>
      obtain heq | hother := Action.endpoint_publication_or_other hendpoint
      · subst heq
        obtain ⟨p', hbody, hp⟩ := Action.map_eq_ok h
        cases hp
        exact Action.publicationBody_eq_ok_iff.1
          (Action.decoded_of_body hbody)
      · exact absurd h (hother r p)

end Publications
end FluxComposer
