import FluxComposer.Proofs.Service.Staleness
import Mathlib.Data.List.Induction
/-
Whether the listings of a session belong to what it has selected. A
listing that is shown was taken over by some request, the last one to take
over a listing of its column (`Fetch.IsShown`), and that request has
fetched it for one lookup. It belongs to the session if that lookup is
selected.

Every step keeps it so but a text: a selection, a removed part and a reset
empty the listings that depended on what they change, and a text changes
the query and empties nothing. So the listings belong in all states
exactly if no text deselects what is listed (`listingsBelong_iff`).
-/
namespace FluxComposer

open Builder (Edit Outcome Lookup)

-- ============================================================= listings

/-- Whether a step takes a listing of a column over in the session with a
token. -/
def Entry.takesOver (token : String) (column : Column) (entry : Entry) :
    Bool :=
  match entry.deed.edit? with
  | some (token', e, .ok (.done, _)) =>
    token' = token && e.column? = some column
  | _ => false

/-- The listing of a column that was taken over last in a session. -/
def Fetch.IsShown (svc : Service) (fetch : Fetch) (log : List Entry) :
    Prop :=
  ∃ (early mid late : List Entry) (selection entry : Entry) (b : Builder),
    log = early ++ selection :: mid ++ entry :: late
      ∧ fetch.MadeBy svc entry.request early selection mid
      ∧ entry.deed
        = .session (.edit fetch.token fetch.takeOver) (.ok (.done, b))
      ∧ ∀ later ∈ late, later.takesOver fetch.token fetch.lookup.column
        = false

/-- What the builder of a session lists of a column was fetched for what
it selects. -/
def Belongs (svc : Service) (log : List Entry) (token : String)
    (column : Column) (b : Builder) : Prop :=
  b.listing column ≠ [] →
    ∃ fetch : Fetch, fetch.token = token ∧ fetch.lookup.column = column
      ∧ fetch.IsShown svc log ∧ b.listing column = fetch.names
      ∧ fetch.lookup.IsSelected b

/-- Every listing of every session was fetched for what is selected. -/
def ListingsBelong (svc : Service) (server : Server) : Prop :=
  ∀ token s column, server.store.find? token = some s →
    Belongs svc server.log token column s.builder

/-- A text selects all that is selected and listed. -/
def Builder.KeepsListed (b : Builder) (text : String) : Prop :=
  ∀ lookup : Lookup, b.listing lookup.column ≠ [] →
    lookup.IsSelected b → lookup.IsSelected (b.updateText text)

/-- A step that puts a text in the place of a query selects all that is
selected and listed. -/
def Entry.KeepsListed (entry : Entry) : Prop :=
  ∀ token text answer, entry.deed
    = .session (.edit token (.updateText text)) (.ok answer) →
    ∀ s, entry.before.find? token = some s → s.builder.KeepsListed text

/-- No session lists measurements or fields. -/
def SessionStore.ListsNothing (store : SessionStore) : Prop :=
  ∀ token s column, store.find? token = some s →
    s.builder.listing column = []

/-- Between two steps of a request, others make fewer changes of a query
than there are revisions. -/
def Unlapped (log : List Entry) : Prop :=
  ∀ early first mid second late,
    log = early ++ first :: mid ++ second :: late →
    first.request = second.request →
    ∀ token, mid.countP (fun entry => entry.request ≠ first.request
      && entry.changesQuery token) < UInt64.size

variable {svc : Service} {store : SessionStore} {log : List Entry}
  {entry : Entry} {fetch fetch' : Fetch} {token : String} {e : Edit}
  {o : Outcome} {b : Builder} {column : Column}

-- ================================================================ shown

/-- What takes a listing over is of the column of its lookup. -/
theorem column?_takeOver (fetch : Fetch) :
    fetch.takeOver.column? = some fetch.lookup.column := by
  unfold Fetch.takeOver
  cases fetch.lookup.column <;> rfl

theorem takesOver_iff : entry.takesOver token column = true
    ↔ ∃ e b, entry.deed.edit? = some (token, e, .ok (.done, b))
      ∧ e.column? = some column := by
  unfold Entry.takesOver
  constructor
  · intro h
    split at h
    case h_1 token' e b hedit =>
      rw [Bool.and_eq_true, decide_eq_true_iff, decide_eq_true_iff] at h
      exact ⟨e, b, h.1 ▸ hedit, h.2⟩
    case h_2 => cases h
  · rintro ⟨e, b, hedit, hcolumn⟩
    rw [hedit]
    simp [hcolumn]

/-- A step takes nothing over if it is no take-over that was carried
out. -/
theorem takesOver_eq_false (h : ∀ e b,
      entry.deed.edit? = some (token, e, .ok (.done, b)) →
      e.column? ≠ some column) :
    entry.takesOver token column = false := by
  rw [← Bool.not_eq_true, takesOver_iff]
  exact fun ⟨e, b, hedit, hcolumn⟩ => h e b hedit hcolumn

/-- A listing is shown until another one of its column is taken over. -/
theorem isShown_concat (shown : fetch.IsShown svc log)
    (other : entry.takesOver fetch.token fetch.lookup.column = false) :
    fetch.IsShown svc (log ++ [entry]) := by
  obtain ⟨early, mid, late, selection, takeOver, b, rfl, made, deed, hlate⟩ :=
    shown
  refine ⟨early, mid, late ++ [entry], selection, takeOver, b, by simp,
    made, deed, fun later hlater => ?_⟩
  rcases List.mem_append.1 hlater with hold | hnew
  · exact hlate later hold
  · obtain rfl := List.mem_singleton.1 hnew
    exact other

/-- Behind the last entry with a property there is no other. -/
theorem eq_nil_of_last {test : Entry → Bool}
    {between rest rest' : List Entry} {last last' : Entry}
    (h : last :: rest = between ++ last' :: rest')
    (found : test last' = true) (none : ∀ entry ∈ rest, test entry = false) :
    between = [] ∧ last = last' := by
  cases between with
  | nil =>
      cases h
      exact ⟨rfl, rfl⟩
  | cons entry between =>
      cases h
      have hnone := none last' (by simp)
      rw [found] at hnone
      cases hnone

/-- The last entry with a property stands in one place. -/
theorem last_unique {test : Entry → Bool}
    {front front' rest rest' : List Entry} {last last' : Entry}
    (h : front ++ last :: rest = front' ++ last' :: rest')
    (found : test last = true) (found' : test last' = true)
    (none : ∀ entry ∈ rest, test entry = false)
    (none' : ∀ entry ∈ rest', test entry = false) :
    front = front' ∧ last = last' := by
  rcases List.append_eq_append_iff.1 h with
    ⟨between, rfl, hrest⟩ | ⟨between, rfl, hrest⟩
  · obtain ⟨rfl, hlast⟩ := eq_nil_of_last hrest found' none
    exact ⟨(List.append_nil _).symm, hlast⟩
  · obtain ⟨rfl, hlast⟩ := eq_nil_of_last hrest found none'
    exact ⟨List.append_nil _, hlast.symm⟩

/-- A request fetches for one lookup. -/
theorem lookup_of_deeds (h : fetch'.deeds svc = fetch.deeds svc) :
    fetch'.lookup = fetch.lookup := by
  have hedits := congrArg (List.map Deed.edit?) h
  simp only [Fetch.deeds, List.map_cons, Deed.edit?, List.cons.injEq,
    Option.some.injEq, Prod.mk.injEq, Except.ok.injEq] at hedits
  have houtcome : fetch'.outcome = fetch.outcome := hedits.2.1.2.2.1
  have hasked := fetch'.asked
  rw [houtcome, fetch.asked] at hasked
  exact (Option.some.inj hasked).symm

/-- Of each column one listing is shown. -/
theorem isShown_unique (shown : fetch.IsShown svc log)
    (shown' : fetch'.IsShown svc log) (token : fetch'.token = fetch.token)
    (column : fetch'.lookup.column = fetch.lookup.column) :
    fetch'.lookup = fetch.lookup := by
  obtain ⟨early, mid, late, selection, takeOver, b, rfl, made, deed, hlate⟩ :=
    shown
  obtain ⟨early', mid', late', selection', takeOver', b', hlog, made',
    deed', hlate'⟩ := shown'
  rw [token] at deed' hlate'
  rw [column] at hlate'
  have htakes : takeOver.takesOver fetch.token fetch.lookup.column = true :=
    takesOver_iff.2 ⟨_, b, by rw [deed]; rfl, column?_takeOver fetch⟩
  have htakes' : takeOver'.takesOver fetch.token fetch.lookup.column
      = true :=
    takesOver_iff.2 ⟨_, b', by rw [deed']; rfl,
      column ▸ column?_takeOver fetch'⟩
  obtain ⟨hfront, rfl⟩ := last_unique hlog htakes htakes' hlate hlate'
  have hdeeds := made'.deeds
  rw [← hfront, made.deeds] at hdeeds
  exact lookup_of_deeds hdeeds.symm

-- =============================================================== steps

section Steps

variable {b' : Builder}

/-- An empty listing belongs to whatever is selected. -/
theorem belongs_of_nil (h : b.listing column = []) :
    Belongs svc log token column b := fun listed => absurd h listed

/-- A listing that stays still belongs where what it was fetched for stays
selected. -/
theorem belongs_of_same (belongs : Belongs svc log token column b)
    (other : entry.takesOver token column = false)
    (same : b'.listing column = b.listing column)
    (keeps : ∀ lookup : Lookup, lookup.column = column →
      b.listing column ≠ [] → lookup.IsSelected b → lookup.IsSelected b') :
    Belongs svc (log ++ [entry]) token column b' := by
  intro listed
  rw [same] at listed
  obtain ⟨fetch, rfl, rfl, hshown, hnames, hselected⟩ := belongs listed
  exact ⟨fetch, rfl, rfl, isShown_concat hshown other, same.trans hnames,
    keeps _ rfl listed hselected⟩

/-- An edit that takes no listing over keeps it so, if a text selects what
is listed. -/
theorem belongs_of_edit (belongs : Belongs svc log token column b)
    (other : entry.takesOver token column = false)
    (transition : Builder.Transition b e o b') (noTakeOver : e.column? = none)
    (text : ∀ text, e = .updateText text → b.KeepsListed text) :
    Belongs svc (log ++ [entry]) token column b' := by
  -- a text is the only edit that may deselect without emptying
  by_cases htext : ∃ text, e = .updateText text
  · obtain ⟨text', rfl⟩ := htext
    cases transition with
    | refused => exact belongs_of_same belongs other rfl fun _ _ _ => id
    | updateText =>
        refine belongs_of_same belongs other
          (Builder.listing_withQuery _ _) fun lookup hcolumn hlisted => ?_
        subst hcolumn
        exact text text' rfl lookup hlisted
  · by_cases hnil : b'.listing column = []
    · exact belongs_of_nil hnil
    have hkept : ∀ lookup : Lookup, lookup.column = column →
        b'.listing column = b.listing column
          ∧ (lookup.IsSelected b → lookup.IsSelected b') := by
      rintro lookup rfl
      refine (Builder.listing_transition transition ?_ noTakeOver
        lookup).resolve_left hnil
      exact fun text he => htext ⟨text, he⟩
    obtain ⟨lookup, hlookup⟩ := Lookup.exists_column column
    exact belongs_of_same belongs other (hkept lookup hlookup).1
      fun lookup h _ => (hkept lookup h).2

/-- While a request fetches a listing, all changes are made by others. -/
theorem countP_others {request : Nat} {early mid : List Entry}
    {selection : Entry}
    (made : fetch.MadeBy svc request early selection mid) :
    mid.countP (Entry.changesQuery token)
      = mid.countP (fun entry => entry.request ≠ request
        && entry.changesQuery token) := by
  refine List.countP_congr fun entry hentry => ?_
  -- the own step in between is the call that fetches, and changes nothing
  by_cases hrequest : entry.request = request
  · have hdeed : entry.deed ∈ deedsOf request mid := by
      refine List.mem_map.2 ⟨entry, List.mem_filter.2 ⟨hentry, ?_⟩, rfl⟩
      exact decide_eq_true hrequest
    rw [made.fetched, List.mem_singleton] at hdeed
    have hsame : entry.changesQuery token = false := by
      unfold Entry.changesQuery
      rw [hdeed]
      rfl
    simp [hsame]
  · simp [hrequest]

/-- A listing that is taken over belongs to what is selected. -/
theorem belongs_of_takeOver {early mid : List Entry} {selection : Entry}
    {store' : SessionStore}
    (traces : Traces store (early ++ selection :: mid ++ [entry]) store')
    (issued : IssuesOnce store (early ++ selection :: mid ++ [entry]))
    (unlapped : Unlapped (early ++ selection :: mid ++ [entry]))
    (made : fetch.MadeBy svc entry.request early selection mid)
    (deed : entry.deed
      = .session (.edit fetch.token fetch.takeOver) (.ok (.done, b))) :
    Belongs svc (early ++ selection :: mid ++ [entry]) fetch.token
      fetch.lookup.column b := by
  -- the revision is of 64 bits, so fewer changes than that cannot bring it
  -- back
  have hfew := unlapped early selection mid entry [] rfl made.own
    fetch.token
  rw [made.own, ← countP_others made] at hfew
  obtain ⟨-, hentry, -⟩ := traces_split traces
  rw [List.append_assoc, List.cons_append] at traces issued
  obtain ⟨-, s, hs, -, hselected⟩ :=
    current_of_done traces issued made hfew deed
  obtain ⟨s', hs', happly, -⟩ := Entry.edit_ok hentry deed
  obtain rfl := Option.some.inj (hs.symm.trans hs')
  obtain ⟨-, hquery, hnames, -⟩ :=
    Builder.takeOver_transition (Builder.transition_of_apply happly)
  refine fun _ => ⟨fetch, rfl, rfl, ?_, hnames,
    Builder.isSelected_of_query hquery hselected⟩
  exact ⟨early, mid, [], selection, entry, b, rfl, made, deed,
    fun later hlater => absurd hlater List.not_mem_nil⟩

/-- A listing of another column that is taken over, or one that is
dropped, leaves what belongs. -/
theorem belongs_of_otherTakeOver
    (belongs : Belongs svc log token column b)
    (other : entry.takesOver token column = false)
    (transition : Builder.Transition b fetch.takeOver o b')
    (another : o = .done → fetch.lookup.column ≠ column) :
    Belongs svc (log ++ [entry]) token column b' := by
  by_cases ho : o = .done
  · subst ho
    obtain ⟨-, hquery, -, hothers⟩ := Builder.takeOver_transition transition
    exact belongs_of_same belongs other (hothers _ (another rfl).symm)
      fun _ _ _ => Builder.isSelected_of_query hquery
  · rw [Builder.takeOver_dropped transition ho]
    exact belongs_of_same belongs other rfl fun _ _ _ => id

/-- What a session lists after an edit still belongs, if a text selects
what is listed. -/
theorem belongs_of_edited {moves : List Move} {s s' : Session}
    (split : (Server.run svc { store } moves).log = log ++ [entry])
    (issued : IssuesOnce store (log ++ [entry]))
    (unlapped : Unlapped (log ++ [entry])) (text : entry.KeepsListed)
    (found : entry.before.find? token = some s)
    (deed : entry.deed = .session (.edit token e) (.ok (o, s'.builder)))
    (transition : Builder.Transition s.builder e o s'.builder)
    (belongs : Belongs svc log token column s.builder) :
    Belongs svc (log ++ [entry]) token column s'.builder := by
  have hother : (o = .done → e.column? ≠ some column) →
      entry.takesOver token column = false := by
    refine fun hne => takesOver_eq_false fun e' b hedit => ?_
    rw [deed] at hedit
    cases hedit
    exact hne rfl
  cases hcolumn : e.column? with
  | none =>
      have hnone := hother fun _ => by simp [hcolumn]
      refine belongs_of_edit belongs hnone transition hcolumn ?_
      rintro text' rfl
      exact text token text' _ deed s found
  | some taken =>
      obtain ⟨fetch, early, mid, selection, rfl, hmade, rfl, rfl⟩ :=
        exists_fetch split deed (by rw [hcolumn]; rfl)
      by_cases hdone : o = .done ∧ fetch.lookup.column = column
      · obtain ⟨rfl, rfl⟩ := hdone
        have htraces := traces_run svc store moves
        rw [split] at htraces
        exact belongs_of_takeOver htraces issued unlapped hmade deed
      · have hanother : o = .done → fetch.lookup.column ≠ column :=
          fun ho heq => hdone ⟨ho, heq⟩
        refine belongs_of_otherTakeOver belongs (hother fun ho => ?_)
          transition hanother
        rw [column?_takeOver]
        exact fun heq => hanother ho (Option.some.inj heq)

/-- After one more step the listings still belong, if a text selects what
is listed. -/
theorem listingsBelong_concat {moves : List Move} {m : Move}
    (issued : IssuesOnce store
      (Server.run svc { store } (moves ++ [m])).log)
    (unlapped : Unlapped (Server.run svc { store } (moves ++ [m])).log)
    (text : ∀ entry ∈ (Server.run svc { store } (moves ++ [m])).log,
      entry.KeepsListed)
    (belong : ListingsBelong svc (Server.run svc { store } moves)) :
    ListingsBelong svc (Server.run svc { store } (moves ++ [m])) := by
  have htraces := traces_run svc store (moves ++ [m])
  rcases run_concat svc store moves m with
    ⟨hlog, hstore⟩ | ⟨entry, hlog, -, hbefore, hafter⟩
  · unfold ListingsBelong
    rw [hlog, hstore]
    exact belong
  intro token s' column found
  rw [← hafter] at found
  have hsplit := hlog
  rw [hlog] at issued unlapped text htraces ⊢
  obtain ⟨hfront, hstep, -⟩ := traces_split htraces
  have hkeyed : entry.before.WellKeyed :=
    wellKeyed_traces hfront (List.nodup_append.1 issued).1
  -- the session is new, was left alone, or was edited
  cases Entry.effect_of_step hstep hkeyed found with
  | opened _ new =>
      refine belongs_of_nil ?_
      rw [new]
      cases column <;> rfl
  | kept found builder other =>
      have hother : entry.takesOver token column = false :=
        takesOver_eq_false fun e _ hedit => absurd hedit (other e _)
      rw [builder]
      exact belongs_of_same (belong token _ column (hbefore ▸ found)) hother
        rfl fun _ _ _ => id
  | edited found deed transition =>
      exact belongs_of_edited hsplit issued unlapped (text entry (by simp))
        found deed transition (belong token _ column (hbefore ▸ found))

end Steps

-- ================================================================ runs

variable {moves early : List Move}

theorem issuesOnce_mono {front : List Entry} (h : front <+: log)
    (issued : IssuesOnce store log) : IssuesOnce store front :=
  issued.sublist ((List.Sublist.refl _).append
    (h.sublist.filterMap _))

theorem unlapped_mono {front : List Entry} (h : front <+: log)
    (unlapped : Unlapped log) : Unlapped front := by
  obtain ⟨rest, rfl⟩ := h
  intro early first mid second late hfront hrequest
  refine unlapped early first mid second (late ++ rest) ?_ hrequest
  rw [hfront, List.append_assoc, List.cons_append]

/-- Where the steps of each request come after those of the requests that
came before it, there are no others in between. -/
theorem unlapped_of_sequential (svc : Service) (store : SessionStore)
    (sequential : (moves.filterMap Move.request?).Pairwise (· ≤ ·)) :
    Unlapped (Server.run svc { store } moves).log := by
  have hsorted := sequential.sublist (requests_sublist svc store moves)
  intro early first mid second late hlog hrequest token
  rw [hlog, List.pairwise_map, List.pairwise_append] at hsorted
  obtain ⟨hfront, -, hsecond⟩ := hsorted
  have hfirst := (List.pairwise_append.1 hfront).2.1
  have hnone : mid.countP (fun entry => entry.request ≠ first.request
      && entry.changesQuery token) = 0 := by
    refine List.countP_eq_zero.2 fun entry hentry => ?_
    have hle : first.request ≤ entry.request :=
      List.rel_of_pairwise_cons hfirst hentry
    have hge : entry.request ≤ second.request :=
      hsecond entry (by simp [hentry]) second List.mem_cons_self
    have hsame : entry.request = first.request := by omega
    simp [hsame]
  rw [hnone]
  decide

/-- If texts select what is listed, the listings belong. -/
theorem listingsBelong_run (new : store.ListsNothing)
    (issued : IssuesOnce store (Server.run svc { store } moves).log)
    (unlapped : Unlapped (Server.run svc { store } moves).log)
    (text : ∀ entry ∈ (Server.run svc { store } moves).log,
      entry.KeepsListed) :
    ListingsBelong svc (Server.run svc { store } moves) := by
  -- on the last move: the listings belonged before it
  induction moves using List.reverseRecOn with
  | nil =>
      intro token s column found
      exact belongs_of_nil (new token s column found)
  | append_singleton moves m ih =>
      have hearlier := log_run_mono svc store (List.prefix_append moves [m])
      refine listingsBelong_concat issued unlapped text (ih ?_ ?_ ?_)
      · exact issuesOnce_mono hearlier issued
      · exact unlapped_mono hearlier unlapped
      · exact fun entry hentry => text entry (hearlier.subset hentry)

/-- If the listings belong in every state, texts select what is listed. -/
theorem keepsListed_of_belong
    (belong : ∀ early, early <+: moves →
      ListingsBelong svc (Server.run svc { store } early))
    (h : entry ∈ (Server.run svc { store } moves).log) :
    entry.KeepsListed := by
  obtain ⟨early, m, hearlier, hlog, hbefore, hafter⟩ := exists_move_of_mem h
  intro token text answer deed s found lookup listed selected
  have htraces := traces_run svc store (early ++ [m])
  rw [hlog] at htraces
  obtain ⟨-, hstep, -⟩ := traces_split htraces
  obtain ⟨o, b⟩ := answer
  obtain ⟨s', hs', happly, hfound⟩ := Entry.edit_ok hstep deed
  obtain rfl := Option.some.inj (found.symm.trans hs')
  cases happly
  rw [hafter] at hfound
  have hkept : (s.builder.updateText text).listing lookup.column
      = s.builder.listing lookup.column := Builder.listing_withQuery _ _
  -- the same listing is shown before and after the text
  obtain ⟨fetch, htoken, hcolumn, hshown, -, hselected⟩ :=
    belong early ((List.prefix_append _ _).trans hearlier) token s
      lookup.column (hbefore ▸ found) listed
  obtain ⟨fetch', htoken', hcolumn', hshown', -, hselected'⟩ :=
    belong (early ++ [m]) hearlier token _ lookup.column hfound
      fun hnil => listed (hkept.symm.trans hnil)
  rw [hlog] at hshown'
  have hother : entry.takesOver fetch.token fetch.lookup.column = false := by
    refine takesOver_eq_false fun e b hedit htakes => ?_
    rw [deed] at hedit
    cases hedit
    cases htakes
  have hsame := isShown_unique (isShown_concat hshown hother) hshown'
    (htoken'.trans htoken.symm) (hcolumn'.trans hcolumn.symm)
  rw [hsame, Builder.eq_of_isSelected hcolumn selected hselected]
    at hselected'
  exact hselected'

/-- The listings belong in all states of a run exactly if every text that
comes in it selects what is selected and listed. -/
theorem listingsBelong_iff (svc : Service) {store : SessionStore}
    (new : store.ListsNothing) (moves : List Move)
    (issued : IssuesOnce store (Server.run svc { store } moves).log)
    (unlapped : Unlapped (Server.run svc { store } moves).log) :
    (∀ early, early <+: moves →
      ListingsBelong svc (Server.run svc { store } early))
      ↔ ∀ entry ∈ (Server.run svc { store } moves).log,
        entry.KeepsListed := by
  constructor
  · exact fun belong entry hentry => keepsListed_of_belong belong hentry
  · intro text early hearly
    have hearlier := log_run_mono svc store hearly
    exact listingsBelong_run new (issuesOnce_mono hearlier issued)
      (unlapped_mono hearlier unlapped)
      fun entry hentry => text entry (hearlier.subset hentry)

theorem listsNothing_sampleStore : sampleStore.ListsNothing := by
  intro token s column found
  have hs : s.builder = {} := by
    unfold sampleStore SessionStore.find? at found
    rw [List.lookup_cons] at found
    split at found
    · cases found
      rfl
    · cases found
  rw [hs]
  cases column <;> rfl

theorem listingsBelong_selectingRun :
    sampleStore.ListsNothing
      ∧ IssuesOnce sampleStore (Server.run sampleService
        { store := sampleStore } selectingRun).log
      ∧ ∀ early, early <+: selectingRun → ListingsBelong sampleService
        (Server.run sampleService { store := sampleStore } early) := by
  have hissued : IssuesOnce sampleStore (Server.run sampleService
      { store := sampleStore } selectingRun).log := by decide +kernel
  refine ⟨listsNothing_sampleStore, hissued,
    (listingsBelong_iff sampleService listsNothing_sampleStore selectingRun
      hissued (unlapped_of_sequential _ _ (by decide))).2 ?_⟩
  intro entry hentry token text answer deed
  let edits : List Edit := [.setBuckets [.named "metrics", .named "logs"],
    .selectBucket 0, .applyMeasurements 1 ["cpu"]]
  have hedits : ((Server.run sampleService { store := sampleStore }
      selectingRun).log.filterMap (·.deed.edit?)).map (·.2.1) = edits := by
    decide +kernel
  have hedit : entry.deed.edit? = some (token, .updateText text, .ok answer) :=
    by rw [deed]; rfl
  have htext : .updateText text ∈ edits := by
    rw [← hedits]
    exact List.mem_map.2
      ⟨_, List.mem_filterMap.2 ⟨entry, hentry, hedit⟩, rfl⟩
  simp [edits] at htext

/-- After a selection, a text reads another bucket. -/
def textRun : List Move :=
  selectingRun ++ alone 2 2 (sampleRequest "PUT" "/api/v1/builder/text"
    "\x7b\"text\": \"from(bucket: \\\"logs\\\")\"\x7d")

theorem not_listingsBelong_textRun :
    ¬ ∀ early, early <+: textRun → ListingsBelong sampleService
      (Server.run sampleService { store := sampleStore } early) := by
  intro belong
  let selected : Builder := Builder.applyAll {} [
    .setBuckets [.named "metrics", .named "logs"], .selectBucket 0,
    .applyMeasurements 1 ["cpu"]]
  let text := "from(bucket: \"logs\")"
  have hedit : (Server.run sampleService { store := sampleStore }
      textRun).log[9]?.bind (·.deed.edit?)
      = some ("alice", .updateText text,
        .ok (.done, selected.updateText text)) := by decide +kernel
  have hfound : (Server.run sampleService { store := sampleStore }
      textRun).log[9]?.bind (·.before.find? "alice")
      = some { credentials := ⟨"secret", "acme"⟩
               builder := selected
               expiresAt := ⟨3600000⟩ } := by decide +kernel
  obtain ⟨entry, hentry, hdeed⟩ := Option.bind_eq_some_iff.1 hedit
  rw [hentry] at hfound
  have hkeeps := keepsListed_of_belong belong (List.mem_of_getElem? hentry)
    "alice" text _ (Deed.eq_of_edit? hdeed) _ hfound
  have hselected := hkeeps (.measurements "metrics")
    (by decide +kernel) (by decide +kernel)
  revert hselected
  decide +kernel

end FluxComposer
