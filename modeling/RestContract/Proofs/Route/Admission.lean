import RestContract.Proofs.Identity.Bearer
import RestContract.Proofs.Route.Serving
import RestContract.Proofs.Route.Table

/-!
# Who reaches a handler

Serving is watched: what the verifier answers and which functions are called with which
callers is noted in order. Watching changes no answer. The notes of a request show that at
most one function is called, that of the route to which the request leads. Where callers
have to be known, it is called only for the identifier that the verifier gave for the token
of the request. Elsewhere nothing about the caller keeps the request from the function: the
caller is known by that identifier, or unknown when there is none.
-/

namespace RestContract

/-! ## Watched requests -/

/-- What is noted while a request is served. -/
inductive Note (m : Type → Type) where
  /-- The verifier gave an answer for a token. -/
  | verified (token : String) (reply : Outcome Value)
  /-- The function of a route was called. -/
  | called (route : Route m) (input : Value) (caller : Caller)

/-- Whether a function was called. -/
def Note.isCall : Note m → Bool
  | .verified _ _ => false
  | .called _ _ _ => true

/-- Steps that take notes. -/
abbrev Watched (m : Type → Type) := StateT (List (Note m)) m

section

variable {m : Type → Type} [Monad m]

/-- A verifier whose answers are noted. -/
def Verifier.watched (verify : Verifier m) : Verifier (Watched m) := fun token => do
  let reply ← StateT.lift (verify token)
  modify (· ++ [.verified token reply])
  pure reply

/-- A route whose function is noted when it is called. -/
def Route.watched (route : Route m) : Route (Watched m) where
  schema := route.schema
  source := route.source
  handler := fun input caller => do
    modify (· ++ [.called route input caller])
    StateT.lift (route.handler input caller)

/-- A table whose verifier and functions are watched. -/
def Router.watched (r : Router m) : Router (Watched m) :=
  ⟨r.verifier.map Verifier.watched, r.serializer, r.routes.map Route.watched⟩

/-- Looking a path up finds the watched route in place of the route. -/
theorem Router.lookup_watched (r : Router m) (method : Method) (path : String) :
    r.watched.lookup method path =
      (r.lookup method path).map fun found => (found.1.watched, found.2) := by
  have hroute : ∀ path, r.watched.route? method path =
      (r.route? method path).map fun found => (found.1.watched, found.2) := by
    intro path
    rw [route?, route?, watched, List.findSome?_map, List.map_findSome?]
    congr 1
    funext route
    by_cases hm : route.schema.method = method
    · simp [Route.watched, hm, Route.params?, Route.pattern, Function.comp_def]
    · simp [Route.watched, hm]
  rw [lookup, lookup, hroute]
  cases r.route? method (Template.normalize path) <;> rfl

section

variable [LawfulMonad m]

/-- Watching a verifier does not change who is recognized. -/
theorem fst_authenticate_watched (auth : Auth) (header : Option String)
    (verifier : Option (Verifier m)) (notes : List (Note m)) :
    Prod.fst <$> (authenticate auth header (verifier.map Verifier.watched)).run notes =
      authenticate auth header verifier := by
  unfold authenticate
  cases bearerToken header with
  | none => simp
  | some token =>
    cases verifier with
    | none => simp
    | some verify =>
      simp only [Option.map_some, Verifier.watched, StateT.run_bind, StateT.run_lift, map_bind,
        bind_assoc, pure_bind, StateT.run_modify]
      refine bind_congr fun reply => ?_
      cases reply <;> simp

/-- Watching a function does not change what it gives. -/
theorem Route.fst_call_watched (registry : Registry) (serializer : Serializer) (route : Route m)
    (data : RequestData) (caller : Outcome Caller) (notes : List (Note m)) :
    Prod.fst <$> (route.watched.call registry serializer data caller).run notes =
      route.call registry serializer data caller := by
  unfold call
  cases caller with
  | error f => simp
  | ok caller =>
    have hinput : Router.inputOf registry serializer route.watched data =
        Router.inputOf registry serializer route data := rfl
    rw [hinput]
    cases Router.inputOf registry serializer route data with
    | error f => simp
    | ok input => simp [watched]

/-- Watching changes no answer. -/
theorem Router.fst_dispatch_watched (registry : Registry) (r : Router m) (request : RawRequest)
    (format : ErrorFormat) (notes : List (Note m)) :
    Prod.fst <$> (r.watched.dispatch registry request format).run notes =
      r.dispatch registry request format := by
  rw [dispatch_eq, dispatch_eq, run_serve, run_serve]
  cases request.knownMethod with
  | error f =>
    simp only [StateT.run_pure, map_pure]
    rfl
  | ok method =>
    dsimp only
    rw [lookup_watched]
    cases r.lookup method request.path with
    | error f =>
      simp only [Except.map, StateT.run_pure, map_pure]
      rfl
    | ok found =>
      obtain ⟨route, params⟩ := found
      simp only [Except.map, StateT.run_map, StateT.run_bind, Functor.map_map, map_bind]
      rw [← fst_authenticate_watched route.schema.auth _ r.verifier notes, bind_map_left]
      refine bind_congr fun recognized => ?_
      rw [← Route.fst_call_watched registry r.serializer route _ recognized.1 recognized.2,
        Functor.map_map]
      refine congrArg (· <$> _) (funext fun called => ?_)
      cases called.1 <;> rfl

end

end

/-! ## The gate -/

/-- What has a text is the identifier of a known caller. -/
theorem Caller.ofValue_of_asText? {v : Value} {id : String} (h : v.asText? = some id) :
    Caller.ofValue v = .ok ⟨some id⟩ := by
  cases v with
  | text s =>
    obtain rfl := Option.some.inj h
    rw [Caller.ofValue, Shape.accept, acceptOptions]
    rfl
  | member member =>
    obtain rfl := Option.some.inj h
    rw [Caller.ofValue, Shape.accept, acceptOptions]
    rfl
  | _ => cases h

variable {m : Type → Type} {σ : Type}

/-- The notes tell that the verifier of a table gave an identifier for the token of a request. -/
def Router.Proves (r : Router m) (request : RawRequest) (notes : List (Note m)) (id : String) :
    Prop :=
  r.verifier.isSome ∧ ∃ token v, request.Bears token ∧ Value.asText? v = some id ∧
    Note.verified token (.ok v) ∈ notes

/-- The verifier of a table fails or gives a text, whatever the state of the world. -/
def Router.GivesTexts (r : Router (StateM σ)) : Prop :=
  ∀ verify ∈ r.verifier, ∀ token s v, ((verify token).run s).1 = .ok v → v.asText?.isSome

/-- What the notes of a request tell of recognizing its caller. -/
structure Recognizes (r : Router m) (auth : Auth) (request : RawRequest)
    (caller : Outcome Caller) (notes : List (Note m)) : Prop where
  /-- No function is called. -/
  quiet : ∀ note ∈ notes, note.isCall = false
  /-- The verifier is asked for the token of the request. -/
  asked : r.verifier.isSome → ∀ token, request.Bears token → ∃ reply, .verified token reply ∈ notes
  /-- A recognized caller is known by exactly what the verifier gave. -/
  known : ∀ c, caller = .ok c → ∀ id, c.id = some id ↔ r.Proves request notes id
  /-- Where callers have to be known, a recognized one is. -/
  required : auth = .required → ∀ c, caller = .ok c → c.isKnown = true
  /-- A caller is recognized who may stay unknown, or for whom the verifier gave an identifier. -/
  recognized : (auth = .anonymous ∨ ∃ id, r.Proves request notes id) → ∃ c, caller = .ok c

/-- A caller for whom nothing speaks is unknown, or not recognized. -/
theorem Recognizes.unrecognized {r : Router m} {request : RawRequest} {notes : List (Note m)}
    (hquiet : ∀ note ∈ notes, note.isCall = false)
    (hasked : r.verifier.isSome → ∀ token, request.Bears token →
      ∃ reply, .verified token reply ∈ notes)
    (hnone : ∀ id, ¬r.Proves request notes id) (auth : Auth) (e : Failure) :
    Recognizes r auth request (RestContract.unrecognized auth e) notes := by
  cases auth with
  | anonymous =>
    refine ⟨hquiet, hasked, fun c hc id => ?_, nofun, fun _ => ⟨_, rfl⟩⟩
    obtain rfl : Caller.unknown = c := Except.ok.inj hc
    exact iff_of_false nofun (hnone id)
  | required =>
    refine ⟨hquiet, hasked, nofun, fun _ => nofun, ?_⟩
    rintro (h | ⟨id, hid⟩)
    · cases h
    · exact absurd hid (hnone id)

/-- Watched steps in a state of the world run one after the other. -/
theorem Watched.run_bind (x : Watched (StateM σ) α) (f : α → Watched (StateM σ) β)
    (notes : List (Note (StateM σ))) (s : σ) :
    ((x >>= f).run notes).run s =
      ((f ((x.run notes).run s).1.1).run ((x.run notes).run s).1.2).run ((x.run notes).run s).2 :=
  rfl

private theorem Verifier.run_watched (verify : Verifier (StateM σ)) (token : String)
    (notes : List (Note (StateM σ))) (s : σ) :
    ((Verifier.watched verify token).run notes).run s =
      ((((verify token).run s).1, notes ++ [.verified token ((verify token).run s).1]),
        ((verify token).run s).2) := rfl

/-- Recognizing the caller of a request asks the verifier at most once, for its token. -/
theorem Router.recognizes_authenticate {r : Router (StateM σ)} (h : r.GivesTexts) (auth : Auth)
    (request : RawRequest) (s : σ) :
    ∃ caller notes s', ((authenticate auth (request.header? "authorization")
        r.watched.verifier).run []).run s = ((caller, notes), s') ∧
      Recognizes r auth request caller notes := by
  unfold authenticate
  cases htoken : bearerToken (request.header? "authorization") with
  | none =>
    have hbare : ∀ token, ¬request.Bears token := fun token hbears => by
      rw [RawRequest.bearerToken_header?.mpr hbears] at htoken
      cases htoken
    refine ⟨_, _, _, rfl, .unrecognized (by simp) (fun _ token h => absurd h (hbare token)) ?_ _ _⟩
    rintro id ⟨-, token, -, hbears, -⟩
    exact hbare token hbears
  | some token =>
    cases hverifier : r.verifier with
    | none =>
      have hmissing : ¬r.verifier.isSome := by simp [hverifier]
      rw [watched, hverifier]
      refine ⟨_, _, _, rfl, .unrecognized (by simp) (fun h => absurd h hmissing) ?_ _ _⟩
      rintro id ⟨hsome, -⟩
      exact hmissing hsome
    | some verify =>
      have hgives := h verify hverifier token s
      have hone : ∀ reply : Outcome Value, r.verifier.isSome → ∀ other, request.Bears other →
          ∃ given, Note.verified (m := StateM σ) other given ∈ [.verified token reply] := by
        intro reply _ other hbears
        obtain rfl := Option.some.inj
          ((RawRequest.bearerToken_header?.mpr hbears).symm.trans htoken)
        exact ⟨reply, by simp⟩
      rw [watched, hverifier]
      rcases hreply : (verify token).run s with ⟨reply, s'⟩
      rw [hreply] at hgives
      cases reply with
      | error f =>
        refine ⟨RestContract.unrecognized auth (verifierFailure f), [.verified token (.error f)],
          s', ?_, .unrecognized ?_ (hone _) ?_ _ _⟩
        · dsimp only [Option.map_some]
          rw [Watched.run_bind, Verifier.run_watched, hreply]
          rfl
        · simp [Note.isCall]
        · rintro id ⟨-, other, v, -, -, hmem⟩
          simp at hmem
      | ok v =>
        obtain ⟨id, hid⟩ := Option.isSome_iff_exists.mp (hgives v rfl)
        refine ⟨.ok ⟨some id⟩, [.verified token (.ok v)], s', ?_, ?_⟩
        · dsimp only [Option.map_some]
          rw [Watched.run_bind, Verifier.run_watched, hreply, ← Caller.ofValue_of_asText? hid]
          rfl
        · refine ⟨by simp [Note.isCall], hone _, fun c hc other => ?_, fun _ c hc => ?_,
            fun _ => ⟨_, rfl⟩⟩
          · obtain rfl := Except.ok.inj hc
            rw [Option.some.injEq, Proves, hverifier]
            constructor
            · rintro rfl
              exact ⟨rfl, token, v, RawRequest.bearerToken_header?.mp htoken, hid, by simp⟩
            · rintro ⟨-, other', v', -, hid', hmem⟩
              obtain ⟨-, rfl⟩ : other' = token ∧ v' = v := by simpa using hmem
              exact Option.some.inj (hid.symm.trans hid')
          · obtain rfl := Except.ok.inj hc
            rfl

/-- What the notes of a request tell: who reaches which function, and with which answer. -/
structure Guarded (registry : Registry) (r : Router m) (request : RawRequest) (format : ErrorFormat)
    (answer : Outcome Response) (notes : List (Note m)) : Prop where
  /-- At most one function is called. -/
  once : (notes.filter Note.isCall).length ≤ 1
  /-- Where a request leads to a route, the verifier is asked for its token. -/
  asked : ∀ route params, r.Finds request route params → r.verifier.isSome →
    ∀ token, request.Bears token → ∃ reply, .verified token reply ∈ notes
  /-- A function is called for the route to which the request leads, with the input in its data. -/
  routed : ∀ route input caller, .called route input caller ∈ notes →
    ∃ params, r.Finds request route params ∧
      Router.inputOf registry r.serializer route (request.data params) = .ok input
  /-- The caller is known by exactly what the verifier had given before for the token of the
  request. -/
  known : ∀ before route input caller after,
    notes = before ++ .called route input caller :: after →
      ∀ id, caller.id = some id ↔ r.Proves request before id
  /-- Where callers have to be known, the caller is. -/
  required : ∀ route input caller, .called route input caller ∈ notes →
    route.schema.auth = .required → caller.isKnown = true
  /-- Where callers may stay unknown, or the verifier gave an identifier, only data that cannot be
  read keep a request from the function. -/
  admitted : ∀ route params, r.Finds request route params →
    (route.schema.auth = .anonymous ∨ ∃ id, r.Proves request notes id) →
      (∃ input caller, .called route input caller ∈ notes) ∨
        ∃ f, Router.inputOf registry r.serializer route (request.data params) = .error f ∧
          answer = Response.ofError format (Response.shownError f)

/-- A request for which no function is called. -/
theorem Guarded.of_quiet {registry : Registry} {r : Router m} {request : RawRequest}
    {format : ErrorFormat} {answer : Outcome Response} {notes : List (Note m)}
    (hquiet : ∀ note ∈ notes, note.isCall = false)
    (hasked : ∀ route params, r.Finds request route params → r.verifier.isSome →
      ∀ token, request.Bears token → ∃ reply, .verified token reply ∈ notes)
    (hfailed : ∀ route params, r.Finds request route params →
      (route.schema.auth = .anonymous ∨ ∃ id, r.Proves request notes id) →
        ∃ f, Router.inputOf registry r.serializer route (request.data params) = .error f ∧
          answer = Response.ofError format (Response.shownError f)) :
    Guarded registry r request format answer notes := by
  have hnone : ∀ {route input caller}, ¬Note.called route input caller ∈ notes := fun h =>
    nomatch hquiet _ h
  refine ⟨?_, hasked, fun _ _ _ h => absurd h hnone,
    fun before route input caller after h => ?_, fun _ _ _ h => absurd h hnone,
    fun route params hfound ha => Or.inr (hfailed route params hfound ha)⟩
  · rw [List.filter_eq_nil_iff.mpr fun note hnote => by simp [hquiet note hnote]]
    exact Nat.zero_le 1
  · have hmem : Note.called route input caller ∈ notes := by simp [h]
    exact absurd hmem hnone

/-- A request that leads to no route. -/
theorem Guarded.of_lost {registry : Registry} {r : Router m} {request : RawRequest}
    {format : ErrorFormat} {answer : Outcome Response}
    (hlost : ∀ route params, ¬r.Finds request route params) :
    Guarded registry r request format answer [] :=
  .of_quiet (by simp) (fun route params h => absurd h (hlost route params))
    fun route params h => absurd h (hlost route params)

/-- A request whose caller is recognized and for which the function of its route is called. -/
theorem Guarded.of_call {registry : Registry} {r : Router m} {request : RawRequest}
    {format : ErrorFormat} {answer : Outcome Response} {notes : List (Note m)} {route : Route m}
    {params : List (String × String)} {input : Value} {caller : Caller}
    (hroute : r.Finds request route params)
    (hinput : Router.inputOf registry r.serializer route (request.data params) = .ok input)
    (h : Recognizes r route.schema.auth request (.ok caller) notes) :
    Guarded registry r request format answer (notes ++ [.called route input caller]) := by
  have hcall : ∀ {route' input' caller'},
      Note.called route' input' caller' ∈ notes ++ [.called route input caller] →
        route' = route ∧ input' = input ∧ caller' = caller := by
    intro route' input' caller' hmem
    rcases List.mem_append.mp hmem with hmem | hmem
    · exact nomatch h.quiet _ hmem
    · simpa using hmem
  refine ⟨?_, fun route' params' _ hv token hb => ?_, fun route' input' caller' hmem => ?_,
    fun before route' input' caller' after he => ?_, fun route' input' caller' hmem ha => ?_,
    fun route' params' hfound _ => ?_⟩
  · have hnone : notes.filter Note.isCall = [] :=
      List.filter_eq_nil_iff.mpr fun note hnote => by simp [h.quiet note hnote]
    rw [List.filter_append, hnone]
    exact List.length_filter_le _ _
  · obtain ⟨reply, hreply⟩ := h.asked hv token hb
    exact ⟨reply, List.mem_append_left _ hreply⟩
  · obtain ⟨rfl, rfl, -⟩ := hcall hmem
    exact ⟨params, hroute, hinput⟩
  · have hmem : Note.called route' input' caller' ∈ notes ++ [.called route input caller] := by
      simp [he]
    obtain ⟨-, -, rfl⟩ := hcall hmem
    -- No function is called before the last note, so the call is that note.
    have hbefore : before = notes := by
      rcases List.append_eq_append_iff.mp he with ⟨rest, hb, hlast⟩ | ⟨rest, hn, hlast⟩
      · cases rest with
        | nil => rw [hb, List.append_nil]
        | cons note rest => simp at hlast
      · cases rest with
        | nil => rw [hn, List.append_nil]
        | cons note rest =>
          obtain rfl := (List.cons.inj hlast).1
          have hcalled := h.quiet (.called route' input' caller') (by simp [hn])
          cases hcalled
    rw [hbefore]
    exact h.known _ rfl
  · obtain ⟨rfl, -, rfl⟩ := hcall hmem
    exact h.required ha _ rfl
  · obtain ⟨rfl, rfl⟩ := hroute.eq hfound
    exact Or.inl ⟨input, caller, by simp⟩

/-- Watched, every request is guarded. -/
theorem Router.guarded_watched (registry : Registry) {r : Router (StateM σ)} (h : r.GivesTexts)
    (request : RawRequest) (format : ErrorFormat) (s : σ) :
    ∃ answer notes s', ((r.watched.dispatch registry request format).run []).run s =
      ((answer, notes), s') ∧ Guarded registry r request format answer notes := by
  rw [dispatch_eq, run_serve]
  cases hmethod : request.knownMethod with
  | error f =>
    refine ⟨_, _, _, rfl, .of_lost ?_⟩
    rintro route params ⟨method, hm, -⟩
    rw [hmethod] at hm
    cases hm
  | ok method =>
    dsimp only
    rw [lookup_watched]
    cases hroute : r.lookup method request.path with
    | error f =>
      refine ⟨_, _, _, rfl, .of_lost ?_⟩
      rintro route params ⟨method', hm, hl⟩
      obtain rfl : method = method' := Except.ok.inj (hmethod.symm.trans hm)
      rw [hroute] at hl
      cases hl
    | ok found =>
      obtain ⟨route, params⟩ := found
      have hfound : r.Finds request route params := ⟨method, hmethod, hroute⟩
      have hserializer : r.watched.serializer = r.serializer := rfl
      have hread : inputOf registry r.serializer route.watched (request.data params) =
          inputOf registry r.serializer route (request.data params) := rfl
      obtain ⟨caller, notes, s', hrun, hrec⟩ :=
        recognizes_authenticate h route.watched.schema.auth request s
      simp only [Except.map]
      rw [StateT.run_map, StateT.run_map, Watched.run_bind, hrun]
      unfold Route.call
      rw [hserializer, hread]
      have hasked : ∀ route params, r.Finds request route params → r.verifier.isSome →
          ∀ token, request.Bears token → ∃ reply, .verified token reply ∈ notes :=
        fun _ _ _ => hrec.asked
      cases caller with
      | error f =>
        refine ⟨_, _, _, rfl, .of_quiet hrec.quiet hasked fun route' params' hfound' ha => ?_⟩
        obtain ⟨rfl, rfl⟩ := hfound.eq hfound'
        obtain ⟨c, hc⟩ := hrec.recognized ha
        cases hc
      | ok c =>
        cases hinput : inputOf registry r.serializer route (request.data params) with
        | error f =>
          refine ⟨_, _, _, rfl, .of_quiet hrec.quiet hasked fun route' params' hfound' _ => ?_⟩
          obtain ⟨rfl, rfl⟩ := hfound.eq hfound'
          exact ⟨f, hinput, rfl⟩
        | ok input => exact ⟨_, _, _, rfl, .of_call hfound hinput hrec⟩

/-- Every request is guarded: watched, it has the same answer and leaves the same world, and its
notes tell that at most one function is called, for the right caller. -/
theorem Router.dispatch_guarded (registry : Registry) {r : Router (StateM σ)} (h : r.GivesTexts)
    (request : RawRequest) (format : ErrorFormat) (s : σ) :
    ∃ answer notes s', (r.dispatch registry request format).run s = (answer, s') ∧
      ((r.watched.dispatch registry request format).run []).run s = ((answer, notes), s') ∧
      Guarded registry r request format answer notes := by
  obtain ⟨answer, notes, s', hrun, hguarded⟩ := guarded_watched registry h request format s
  refine ⟨answer, notes, s', ?_, hrun, hguarded⟩
  rw [← fst_dispatch_watched registry r request format [], StateT.run_map, hrun]
  rfl

/-- A verifier that knows one token, and counts how often it is asked. -/
def countingVerifier : Verifier (StateM Nat) := fun token => do
  modify (· + 1)
  pure (if token = "key" then .ok (.text "ann") else .error (.http (.invalidToken "unknown token")))

/-- A route for an endpoint, with a function that answers nothing, whatever was counted. -/
def countedRoute (e : EndpointSchema) : Route (StateM Nat) :=
  ⟨e, .endpoint, fun _ _ => pure (.ok (.value .null))⟩

/-- A table with one such route, for callers who have to be known. -/
def countedRouter : Router (StateM Nat) :=
  ⟨some countingVerifier, .json, [countedRoute (plainSchema "/users/me")]⟩

/-- A request that names its caller twice, the second time with a known token. -/
def twiceNamed : RawRequest :=
  ⟨"get", "/users/me", [], none,
    [("authorization", "Bearer none"), ("AUTHORIZATION", "bearer  key ")]⟩

/-- What is noted of this request: the verifier knew the second token, and the function was called
for the caller whom it named. -/
def keyNotes : List (Note (StateM Nat)) :=
  [.verified "key" (.ok (.text "ann")),
    .called (countedRoute (plainSchema "/users/me")) (.map []) ⟨some "ann"⟩]

/-- A request with a known token is guarded, and reaches the function for its caller. -/
theorem Router.dispatch_guarded_key :
    countedRouter.GivesTexts ∧ ∃ answer s',
      (countedRouter.dispatch .empty twiceNamed).run 0 = (answer, s') ∧
      ((countedRouter.watched.dispatch .empty twiceNamed).run []).run 0 =
        ((answer, keyNotes), s') ∧
      Guarded .empty countedRouter twiceNamed .json answer keyNotes := by
  have hgives : countedRouter.GivesTexts := by
    intro verify hverify token s v hv
    obtain rfl := Option.some.inj hverify
    have hreply : (if token = "key" then .ok (.text "ann")
        else .error (.http (.invalidToken "unknown token")) : Outcome Value) = .ok v := hv
    split at hreply
    · obtain rfl := Except.ok.inj hreply
      rfl
    · cases hreply
  obtain ⟨answer, notes, s', hanswer, hwatched, hguarded⟩ :=
    dispatch_guarded .empty hgives twiceNamed .json 0
  have hnotes : (((countedRouter.watched.dispatch .empty twiceNamed).run []).run 0).1.2 =
      keyNotes := by cbv
  obtain rfl : notes = keyNotes := by
    rw [← hnotes, hwatched]
  exact ⟨hgives, answer, s', hanswer, hwatched, hguarded⟩

end RestContract
