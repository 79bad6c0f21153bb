import FluxComposer.Proofs.Service.Trace
/-
How requests end. What becomes of a request depends on what its steps are
answered, and what they can be answered depends on how things stand:
`sees` says what a step can find and how things stand after it. A flow
leads to a result (`Flow.Leads`) if it has it in every case, and crashes
only where that is allowed for.

As with rules, the laws of `Leads` follow the ways in which handlers are
put together. A step that was taken leaves a flow that leads to the same
(`leads_step?`), so what is shown of a flow holds of every run of it.
-/
namespace FluxComposer

universe u

-- ================================================================ flows

namespace Flow

variable {σ : Type u} {α β : Type} {sees : σ → Deed → σ → Prop}
  {crashes : Prop} {s : σ}

/-- Whatever the steps of a flow see, its result satisfies `post`. -/
def Leads (sees : σ → Deed → σ → Prop) (crashes : Prop)
    (post : σ → α → Prop) (s : σ) : Flow α → Prop
  | .done a => post s a
  | .crash => crashes
  | .session op next => ∀ answer s', sees s (.session op answer) s' →
      (next answer).Leads sees crashes post s'
  | .remote call next => ∀ answer s', sees s (.remote call answer) s' →
      (next answer).Leads sees crashes post s'
  | .clock next => ∀ now s', sees s (.clock now) s' →
      (next now).Leads sees crashes post s'

/-- What a flow leads to may be weakened. -/
theorem leads_mono {post post' : σ → α → Prop} {flow : Flow α}
    (weaker : ∀ s a, post s a → post' s a)
    (h : flow.Leads sees crashes post s) :
    flow.Leads sees crashes post' s := by
  induction flow generalizing s with
  | done a => exact weaker s a h
  | crash => exact h
  | session _ _ ih | remote _ _ ih => exact fun a s' hs => ih a (h a s' hs)
  | clock _ ih => exact fun t s' hs => ih t (h t s' hs)

/-- A flow that goes on with another leads to what the second leads to from
where the first has come. -/
theorem leads_bind {post : σ → β → Prop} (flow : Flow α)
    (f : α → Flow β) : (flow >>= f).Leads sees crashes post s
      ↔ flow.Leads sees crashes
        (fun s a => (f a).Leads sees crashes post s) s := by
  show (flow.bind f).Leads sees crashes post s ↔ _
  induction flow generalizing s with
  | done | crash => rfl
  | session _ _ ih | remote _ _ ih =>
      exact forall_congr' fun a => forall₂_congr fun _ _ => ih a
  | clock _ ih => exact forall_congr' fun t => forall₂_congr fun _ _ => ih t

/-- A talk with the dashboard server keeps what its steps keep. -/
theorem leads_ofTalk {keeps : σ → Prop} {post : σ → α → Prop}
    (talk : Http.Talk α)
    (kept : ∀ s request answer s', keeps s →
      sees s (.remote (.grafana request) answer) s' → keeps s')
    (result : ∀ s a, keeps s → post s a) (h : keeps s) :
    (ofTalk talk).Leads sees crashes post s := by
  induction talk generalizing s with
  | done a => exact result s a h
  | send request next ih =>
      exact fun answer s' hs => ih answer (kept s request answer s' h hs)

/-- One step of a flow that leads to a result. -/
theorem leads_step? {post : σ → α → Prop} {flow flow' : Flow α}
    {world : World} {store store' : SessionStore} {deed : Deed} {s' : σ}
    (h : flow.Leads sees crashes post s)
    (next : flow.step? world store = some (deed, flow', store'))
    (seen : sees s deed s') : flow'.Leads sees crashes post s' := by
  cases flow with
  | done | crash => cases next
  | session | remote | clock =>
      cases next
      exact h _ _ seen

end Flow

-- ============================================================= handlers

namespace Handler

variable {σ : Type u} {α β : Type} {sees : σ → Deed → σ → Prop}
  {crashes : Prop} {good : σ → α → Prop} {bad : σ → ApiError → Prop} {s : σ}

/-- Whatever the steps of a handler see, its result satisfies `good`, or
`bad` where it is a refusal. -/
def Leads (sees : σ → Deed → σ → Prop) (crashes : Prop)
    (good : σ → α → Prop) (bad : σ → ApiError → Prop) (s : σ)
    (h : Handler α) : Prop :=
  Flow.Leads sees crashes (fun s r =>
    match r with
    | .ok a => good s a
    | .error e => bad s e) s h.run

/-- What a handler leads to may be weakened, for results and for
refusals. -/
theorem leads_mono {good' : σ → α → Prop} {bad' : σ → ApiError → Prop}
    {h : Handler α} (weaker : ∀ s a, good s a → good' s a)
    (weaker' : ∀ s e, bad s e → bad' s e)
    (leads : Leads sees crashes good bad s h) :
    Leads sees crashes good' bad' s h := by
  refine Flow.leads_mono (fun s r hr => ?_) leads
  cases r with
  | ok a => exact weaker s a hr
  | error e => exact weaker' s e hr

/-- A handler that has its result has taken no step. -/
@[simp]
theorem leads_pure (a : α) :
    Leads sees crashes good bad s (pure a) ↔ good s a := Iff.rfl

/-- A refusal ends a handler where it stands. -/
@[simp]
theorem leads_throw (e : ApiError) :
    Leads sees crashes good bad s (throw e) ↔ bad s e := Iff.rfl

/-- After a refusal the second handler is not begun, so `bad` is asked of
the first one too. -/
@[simp]
theorem leads_bind {good : σ → β → Prop} (h : Handler α)
    (f : α → Handler β) : Leads sees crashes good bad s (h >>= f)
      ↔ Leads sees crashes
        (fun s a => Leads sees crashes good bad s (f a)) bad s h := by
  have hbind : (h >>= f).run = h.run >>= ExceptT.bindCont f := rfl
  unfold Leads
  rw [hbind, Flow.leads_bind]
  constructor <;>
    exact Flow.leads_mono fun s r hr => by cases r <;> exact hr

/-- What is known without a step is a result or a refusal. -/
theorem leads_require (result : Except ApiError α) :
    Leads sees crashes good bad s (require result)
      ↔ (∀ a, result = .ok a → good s a)
        ∧ ∀ e, result = .error e → bad s e := by
  cases result with
  | ok a =>
      exact ⟨fun h => ⟨fun _ ha => Except.ok.inj ha ▸ h, nofun⟩,
        fun h => h.1 a rfl⟩
  | error e =>
      exact ⟨fun h => ⟨nofun, fun _ he => Except.error.inj he ▸ h⟩,
        fun h => h.2 e rfl⟩

/-- An operation on the sessions gives whatever can be seen of it. -/
@[simp]
theorem leads_session (op : SessionOp α) :
    Leads sees crashes good bad s (session op)
      ↔ ∀ answer s', sees s (.session op answer) s' → good s' answer :=
  Iff.rfl

/-- An operation on one session gives its result, or the refusal that there
is no such session. -/
@[simp]
theorem leads_within (op : SessionOp (Except SessionError α)) :
    Leads sees crashes good bad s (within op)
      ↔ (∀ a s', sees s (.session op (.ok a)) s' → good s' a)
        ∧ ∀ e s', sees s (.session op (.error e)) s' →
          bad s' (.session e) := by
  constructor
  · exact fun h => ⟨fun a => h (.ok a), fun e => h (.error e)⟩
  · rintro ⟨hgood, hbad⟩ (e | a)
    · exact hbad e
    · exact hgood a

/-- A call whose error the handler looks at itself refuses nothing. -/
@[simp]
theorem leads_attempt (call : Remote (Except InfluxError α))
    {good : σ → Except InfluxError α → Prop} :
    Leads sees crashes good bad s (attempt call)
      ↔ ∀ answer s', sees s (.remote call answer) s' → good s' answer :=
  Iff.rfl

/-- A call of the database gives its result, or a refusal with the error. -/
@[simp]
theorem leads_database (call : Remote (Except InfluxError α)) :
    Leads sees crashes good bad s (database call)
      ↔ (∀ a s', sees s (.remote call (.ok a)) s' → good s' a)
        ∧ ∀ e s', sees s (.remote call (.error e)) s' →
          bad s' (.influx e) := by
  constructor
  · exact fun h => ⟨fun a => h (.ok a), fun e => h (.error e)⟩
  · rintro ⟨hgood, hbad⟩ (e | a)
    · exact hbad e
    · exact hgood a

/-- A talk with the dashboard server keeps what each of its requests keeps,
and then gives its result or a refusal. -/
theorem leads_publish (keeps : σ → Prop)
    (talk : Http.Talk (Except GrafanaError α))
    (kept : ∀ s request answer s', keeps s →
      sees s (.remote (.grafana request) answer) s' → keeps s')
    (hgood : ∀ s a, keeps s → good s a)
    (hbad : ∀ s e, keeps s → bad s (.grafana e)) (h : keeps s) :
    Leads sees crashes good bad s (publish talk) := by
  refine (Flow.leads_bind _ _).2 ?_
  refine Flow.leads_ofTalk talk kept (fun s r hs => ?_) h
  cases r with
  | ok a => exact hgood s a hs
  | error e => exact hbad s e hs

/-- The clock gives whatever time can be seen. -/
@[simp]
theorem leads_now {good : σ → Instant → Prop} :
    Leads sees crashes good bad s now
      ↔ ∀ t s', sees s (.clock t) s' → good s' t := Iff.rfl

/-- Both branches lead to the result, each under its condition. -/
@[simp]
theorem leads_ite (c : Prop) [Decidable c] (h h' : Handler α) :
    Leads sees crashes good bad s (if c then h else h')
      ↔ (c → Leads sees crashes good bad s h)
        ∧ (¬ c → Leads sees crashes good bad s h') := by
  split <;> simp_all

/-- A crash is allowed or it is not. -/
@[simp]
theorem leads_crash :
    Leads sees crashes good bad s (crash : Handler α) ↔ crashes := Iff.rfl

end Handler

-- ============================================================= requests

namespace Service

variable {σ : Type u} {sees : σ → Deed → σ → Prop} {crashes : Prop}
  {bad : σ → ApiError → Prop} {s : σ}

/-- An edit gives what the builder says to it, or the refusal that there is
no session. -/
@[simp]
theorem leads_edit {good : σ → Builder.Outcome × Builder → Prop}
    (token : String) (e : Builder.Edit) :
    Handler.Leads sees crashes good bad s (edit token e)
      ↔ (∀ result s', sees s (.session (.edit token e) (.ok result)) s' →
          good s' result)
        ∧ ∀ err s', sees s (.session (.edit token e) (.error err)) s' →
          bad s' (.session err) :=
  Handler.leads_within _

/-- A request ends as what it asks for does, without the body where only
the head is wanted. -/
theorem leads_respond_post {svc : Service}
    (good : σ → Response → Prop) {post : σ → Response → Prop}
    {id : String} {request : Request}
    (options : request.method = "OPTIONS" → post s { status := 200 })
    (rejected : ∀ status, request.action = .error status →
      post s { status })
    (headless : request.method = "HEAD" → ∀ s response, good s response →
      post s { response with body := none })
    (whole : request.method ≠ "HEAD" → ∀ s response, good s response →
      post s response)
    (actions : ∀ action, request.action = .ok action →
      Handler.Leads sees crashes good (fun s e => good s (e.response id)) s
        (svc.handle request.authorization action)) :
    (svc.respond id request).Leads sees crashes post s := by
  unfold Service.respond
  -- before any action: the method OPTIONS, and what no action is for
  split
  case isTrue hoptions => exact options hoptions
  case isFalse =>
    split
    case h_1 status haction => exact rejected status haction
    case h_2 action haction =>
      refine (Flow.leads_bind _ _).2 ?_
      refine Flow.leads_mono (fun s r hr => ?_) (actions action haction)
      show Flow.Leads _ _ _ _ (ite _ _ _)
      cases r with
      | ok response =>
          split
          case isTrue hhead => exact headless hhead s response hr
          case isFalse hhead => exact whole hhead s response hr
      | error e =>
          split
          case isTrue hhead => exact headless hhead s (e.response id) hr
          case isFalse hhead => exact whole hhead s (e.response id) hr

/-- A request ends as what it asks for does, where it makes no difference
whether the body is sent. -/
theorem leads_respond {svc : Service} {post : σ → Response → Prop}
    {id : String} {request : Request}
    (options : request.method = "OPTIONS" → post s { status := 200 })
    (rejected : ∀ status, request.action = .error status →
      post s { status })
    (headless : ∀ s response, post s response →
      post s { response with body := none })
    (actions : ∀ action, request.action = .ok action →
      Handler.Leads sees crashes post (fun s e => post s (e.response id)) s
        (svc.handle request.authorization action)) :
    (svc.respond id request).Leads sees crashes post s :=
  leads_respond_post post options rejected (fun _ => headless)
    (fun _ _ _ h => h) actions

end Service

-- from here on handlers are taken apart by the laws above alone
attribute [irreducible] Handler.Leads

-- ================================================================= runs

/-- A request that is carried on alone finds the sessions as it has left
them. -/
theorem Server.leads_alone {svc : Service} {server : Server} {i : Nat}
    {flow : Flow Response} {worlds : List World}
    {sees : SessionStore → Deed → SessionStore → Prop} {crashes : Prop}
    {post : SessionStore → Response → Prop}
    (seen : ∀ world ∈ worlds, ∀ {flow flow' : Flow Response}
      {deed : Deed} {store store' : SessionStore},
      flow.step? world store = some (deed, flow', store') →
        sees store deed store')
    (standing : server.flows[i]? = some flow)
    (leads : flow.Leads sees crashes post server.store) :
    ∃ flow', (server.run svc (worlds.map (.step i))).flows[i]? = some flow'
      ∧ flow'.Leads sees crashes post
        (server.run svc (worlds.map (.step i))).store := by
  -- on the steps, from the first: each leaves a flow that leads to the
  -- same, and no other request moves
  induction worlds generalizing server flow with
  | nil => exact ⟨flow, standing, leads⟩
  | cons world worlds ih =>
      have hrun : server.run svc ((world :: worlds).map (.step i))
          = (server.move svc (.step i world)).run svc
            (worlds.map (.step i)) := rfl
      have hmoved := moved_move svc server (.step i world)
      rw [hrun]
      generalize server.move svc (.step i world) = server' at hmoved
      cases hmoved with
      | idle =>
          exact ih (fun world' hworld =>
            seen world' (List.mem_cons_of_mem world hworld)) standing leads
      | step standing' next =>
          obtain rfl := Option.some.inj (standing.symm.trans standing')
          have hlt := (List.getElem?_eq_some_iff.1 standing).1
          apply ih
          · exact fun world' hworld =>
              seen world' (List.mem_cons_of_mem world hworld)
          · exact List.getElem?_set_self hlt
          · exact Flow.leads_step? leads next (seen world (by simp) next)

end FluxComposer
