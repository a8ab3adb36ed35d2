import FednClient.Spec.Discovery

/-! What the discovery connector's state says. Both success tests read
`retval.status_code >= 200 or retval.status_code < 204`, which every integer passes, so a
`connect` or `update_status` whose requests are answered sets `Connected` whatever the
status codes, `Disconnected` is never written, and only a status payload without
`'status'` sets `Error`. -/

namespace Fedn

namespace Discovery

variable {α β : Type}

/-! ### Running methods -/

namespace HttpM

@[simp] theorem exec_pure (a : α) (c : Conn) : (pure a : HttpM α).exec c = (.ok a, c) := rfl

@[simp] theorem exec_throw (e : HttpExc) (c : Conn) : (throw e : HttpM α).exec c = (.error e, c) :=
  rfl

@[simp] theorem exec_bind (x : HttpM α) (f : α → HttpM β) (c : Conn) :
    (x >>= f).exec c =
      match x.exec c with
      | (.ok a, c') => (f a).exec c'
      | (.error e, c') => (.error e, c') := by
  rcases h : x.exec c with ⟨_ | a, c'⟩ <;>
  · simp only [exec, StateT.run] at h ⊢
    show StateT.bind x.run (ExceptT.bindCont f) c = _
    simp only [StateT.bind, h]
    rfl

@[simp] theorem exec_map (f : α → β) (x : HttpM α) (c : Conn) :
    (f <$> x).exec c =
      match x.exec c with
      | (.ok a, c') => (.ok (f a), c')
      | (.error e, c') => (.error e, c') := by
  rw [← bind_pure_comp, exec_bind]
  rcases x.exec c with ⟨_ | a, c'⟩ <;> rfl

@[simp] theorem exec_get (c : Conn) : (get : HttpM Conn).exec c = (.ok c, c) := rfl

/-- `discard x` changes the object and the requests as `x` does. -/
theorem exec_discard_snd (x : HttpM α) (c : Conn) : ((discard x).exec c).2 = (x.exec c).2 := by
  show (((fun _ => ()) <$> x).exec c).2 = _
  rw [exec_map]
  rcases x.exec c with ⟨_ | a, c'⟩ <;> rfl

end HttpM

open HttpM

@[simp] theorem exec_setState (st : State) (c : Conn) :
    (setState st).exec c = (.ok (), { c with obj := { c.obj with state := st } }) := rfl

@[simp] theorem exec_getState (c : Conn) : getState.exec c = (.ok c.obj.state, c) := rfl

@[simp] theorem exec_send (server : Server) (req : HttpRequest) (c : Conn) :
    (send server req).exec c =
      ((server c.sent req).elim (.error .requestException) .ok, { c with sent := c.sent ++ [req] }) := by
  rcases h : server c.sent req <;> simp [send, h] <;> rfl

@[simp] theorem exec_jsonOf (r : Response) (c : Conn) :
    (jsonOf r).exec c = (r.json.elim (.error .jsonDecodeError) .ok, c) := by
  rcases h : r.json <;> simp [jsonOf, h]

/-- `s >= 200 or s < 204` holds of every status code. -/
theorem success_test_always (s : Int) : 200 ≤ s ∨ s < 204 := by omega

/-! ### The requests the methods make -/

/-- The `GET` of the combiner's record. -/
def combinerGet (o : DiscoveryCombinerConnect) : HttpRequest :=
  ⟨"GET", o.combinerUrl, [], o.authHeaders⟩

/-- `connect`'s registration `POST`. -/
def registerPost (o : DiscoveryCombinerConnect) : HttpRequest :=
  ⟨"POST", o.connectString ++ "/combiner/",
    [("name", o.myname), ("port", o.myport), ("host", o.myhost), ("status", "S"), ("user", "1")],
    o.authHeaders⟩

/-- `update_status`'s `PATCH`. -/
def statusPatch (o : DiscoveryCombinerConnect) (status : String) : HttpRequest :=
  ⟨"PATCH", o.combinerUrl, [("status", status)], o.authHeaders⟩

/-- `get_config`'s `GET`. -/
def configGet (o : DiscoveryCombinerConnect) : HttpRequest :=
  ⟨"GET", o.configurationUrl, [], o.authHeaders⟩

/-! ### One method -/

/-- `connect`: with the existence `GET` answered, it sets `Connected`, after a `POST` when
the `GET`'s code is not 200, whatever the `POST`'s code. -/
theorem exec_connect (server : Server) (c : Conn) :
    (connect server).exec c =
      match server c.sent (combinerGet c.obj) with
      | none => (.error .requestException, { c with sent := c.sent ++ [combinerGet c.obj] })
      | some r =>
        if r.statusCode = 200 then
          (.ok .Connected, ⟨{ c.obj with state := .Connected }, c.sent ++ [combinerGet c.obj]⟩)
        else
          match server (c.sent ++ [combinerGet c.obj]) (registerPost c.obj) with
          | none =>
            (.error .requestException,
              { c with sent := c.sent ++ [combinerGet c.obj, registerPost c.obj] })
          | some _ =>
            (.ok .Connected,
              ⟨{ c.obj with state := .Connected }, c.sent ++ [combinerGet c.obj, registerPost c.obj]⟩) := by
  rcases hg : server c.sent (combinerGet c.obj) with _ | r
  · simp only [combinerGet] at hg
    simp [connect, combinerGet, hg]
  · simp only [combinerGet] at hg
    by_cases h200 : r.statusCode = 200
    · simp [connect, combinerGet, hg, h200]
    · rcases hp : server (c.sent ++ [combinerGet c.obj]) (registerPost c.obj) with _ | _ <;>
        simp only [combinerGet, registerPost] at hp <;>
        simp [connect, combinerGet, registerPost, hg, h200, hp, success_test_always]

/-- What `update_status` leaves, once its `PATCH` is answered: `Connected`, or `Error` when
the status payload has no `'status'`. -/
def afterStatusGet (c : Conn) (answer : Option Response) : Except HttpExc Json × Conn :=
  match answer with
  | none => (.error .requestException, c)
  | some r =>
    match r.json with
    | none => (.error .jsonDecodeError, c)
    | some payload =>
      match Json.getItem payload "status" with
      | some v => (.ok v, c)
      | none => (.ok .null, { c with obj := { c.obj with state := .Error } })

/-- `update_status`: with the `PATCH` answered, it sets `Connected` whatever the code, and
then `Error` if the status `GET`'s payload has no `'status'`. -/
theorem exec_updateStatus (server : Server) (status : String) (c : Conn) :
    (updateStatus server status).exec c =
      match server c.sent (statusPatch c.obj status) with
      | none => (.error .requestException, { c with sent := c.sent ++ [statusPatch c.obj status] })
      | some _ =>
        afterStatusGet
          ⟨{ c.obj with state := .Connected },
            c.sent ++ [statusPatch c.obj status, combinerGet c.obj]⟩
          (server (c.sent ++ [statusPatch c.obj status]) (combinerGet c.obj)) := by
  rcases hp : server c.sent (statusPatch c.obj status) with _ | r
  · simp only [statusPatch] at hp
    simp [updateStatus, statusPatch, hp]
  · simp only [statusPatch] at hp
    rcases hg : server (c.sent ++ [statusPatch c.obj status]) (combinerGet c.obj) with _ | r'
    · simp only [statusPatch, combinerGet] at hg
      simp [updateStatus, statusPatch, combinerGet, afterStatusGet, hp, hg, success_test_always]
    · simp only [statusPatch, combinerGet] at hg
      rcases hj : r'.json with _ | payload
      · simp [updateStatus, statusPatch, combinerGet, afterStatusGet, hp, hg, hj, success_test_always]
      · cases hs : Json.getItem payload "status" <;>
          simp [updateStatus, statusPatch, combinerGet, afterStatusGet, hp, hg, hj, hs, success_test_always]

/-- `check_status`: only a payload without `'status'` changes the state, to `Error`. -/
theorem exec_checkStatus_obj (server : Server) (c : Conn) :
    ((checkStatus server).exec c).2 =
      match server c.sent (combinerGet c.obj) with
      | some r =>
        match r.json.map (Json.getItem · "status") with
        | some none => ⟨{ c.obj with state := .Error }, c.sent ++ [combinerGet c.obj]⟩
        | _ => { c with sent := c.sent ++ [combinerGet c.obj] }
      | none => { c with sent := c.sent ++ [combinerGet c.obj] } := by
  rcases hg : server c.sent (combinerGet c.obj) with _ | r
  · simp only [combinerGet] at hg
    simp [checkStatus, combinerGet, hg]
  · simp only [combinerGet] at hg
    rcases hj : r.json with _ | payload
    · simp [checkStatus, combinerGet, hg, hj]
    · cases hs : Json.getItem payload "status" <;> simp [checkStatus, combinerGet, hg, hj, hs]

theorem exec_getConfig_obj (server : Server) (c : Conn) :
    ((getConfig server).exec c).2 = { c with sent := c.sent ++ [configGet c.obj] } := by
  rcases hg : server c.sent (configGet c.obj) with _ | r
  · simp only [configGet] at hg
    simp [getConfig, configGet, hg]
  · simp only [configGet] at hg
    rcases hj : r.json with _ | payload <;> simp [getConfig, configGet, hg, hj]

/-! ### Runs of calls -/

/-- What a call can do to the object and its requests: set `state` to `Connected` or
`Error` or leave it, and make requests that carry the object's token. -/
structure CallEffect (c c' : Conn) : Prop where
  fields : c'.obj = { c.obj with state := c'.obj.state }
  state : c'.obj.state = c.obj.state ∨ c'.obj.state = .Connected ∨ c'.obj.state = .Error
  sent : ∃ new, c'.sent = c.sent ++ new ∧ ∀ req ∈ new, req.headers = c.obj.authHeaders

theorem callEffect_afterStatusGet (c : Conn) (new : List HttpRequest)
    (hnew : ∀ req ∈ new, req.headers = c.obj.authHeaders) (answer : Option Response) :
    CallEffect c (afterStatusGet ⟨{ c.obj with state := .Connected }, c.sent ++ new⟩ answer).2 := by
  unfold afterStatusGet
  repeat' split
  all_goals exact ⟨rfl, by simp, new, rfl, hnew⟩

/-- Every call has a `CallEffect`, whatever the server answers. -/
theorem callEffect_exec (server : Server) (k : Call) (c : Conn) :
    CallEffect c ((k.exec server).exec c).2 := by
  cases k with
  | connect =>
    rw [Call.exec, exec_discard_snd, exec_connect]
    repeat' split
    all_goals exact ⟨rfl, by simp, _, rfl, by simp [combinerGet, registerPost]⟩
  | updateStatus status =>
    rw [Call.exec, exec_discard_snd, exec_updateStatus]
    split
    · exact ⟨rfl, .inl rfl, _, rfl, by simp [statusPatch]⟩
    · exact callEffect_afterStatusGet c _ (by simp [statusPatch, combinerGet]) _
  | checkStatus =>
    rw [Call.exec, exec_discard_snd, exec_checkStatus_obj]
    repeat' split
    all_goals exact ⟨rfl, by simp, _, rfl, by simp [combinerGet]⟩
  | getConfig =>
    rw [Call.exec, exec_discard_snd, exec_getConfig_obj]
    exact ⟨rfl, .inl rfl, _, rfl, by simp [configGet]⟩

/-- What a run of calls can do: keep every field but `state`, never move `state` to
`Disconnected`, and make requests that carry the object's token. -/
structure RunEffect (c c' : Conn) : Prop where
  fields : c'.obj = { c.obj with state := c'.obj.state }
  disconnected : c'.obj.state = .Disconnected → c.obj.state = .Disconnected
  sent : ∃ new, c'.sent = c.sent ++ new ∧ ∀ req ∈ new, req.headers = c.obj.authHeaders

theorem RunEffect.refl (c : Conn) : RunEffect c c :=
  ⟨rfl, id, [], by simp, by simp⟩

theorem CallEffect.runEffect {c c' : Conn} (h : CallEffect c c') : RunEffect c c' := by
  refine ⟨h.fields, fun hd => ?_, h.sent⟩
  rcases h.state with e | e | e <;> rw [e] at hd
  · exact hd
  · cases hd
  · cases hd

theorem RunEffect.trans {a b c : Conn} (h₁ : RunEffect a b) (h₂ : RunEffect b c) :
    RunEffect a c := by
  have hauth : b.obj.authHeaders = a.obj.authHeaders := by
    rw [h₁.fields]; rfl
  obtain ⟨n₁, e₁, a₁⟩ := h₁.sent
  obtain ⟨n₂, e₂, a₂⟩ := h₂.sent
  refine ⟨by rw [h₂.fields, h₁.fields], fun hd => h₁.disconnected (h₂.disconnected hd),
    n₁ ++ n₂, by rw [e₂, e₁, List.append_assoc], fun req hreq => ?_⟩
  rcases List.mem_append.mp hreq with hr | hr
  · exact a₁ req hr
  · rw [a₂ req hr, hauth]

theorem runEffect_runCalls (server : Server) (ks : List Call) (c : Conn) :
    RunEffect c (runCalls server c ks) := by
  induction ks generalizing c with
  | nil => exact RunEffect.refl c
  | cons k ks ih => exact (callEffect_exec server k c).runEffect.trans (ih _)

/-! ### What the state says -/

/-- `connect` returns `Connected` and leaves the object `Connected` whenever its requests
are answered, whatever their status codes; when one raises, the state stays. -/
theorem connect_connected (server : Server) (c : Conn) :
    ((connect server).exec c).1 = .ok .Connected ∧ ((connect server).exec c).2.obj.state = .Connected ∨
      ((connect server).exec c).1 = .error .requestException ∧
        ((connect server).exec c).2.obj.state = c.obj.state := by
  rw [exec_connect]
  split
  · exact .inr ⟨rfl, rfl⟩
  · split
    · exact .inl ⟨rfl, rfl⟩
    · split
      · exact .inr ⟨rfl, rfl⟩
      · exact .inl ⟨rfl, rfl⟩

/-- Once its `PATCH` is answered, whatever the code, `update_status` leaves `Error` when
the status payload has no `'status'` and `Connected` otherwise; when the `PATCH` raises,
the state stays. -/
theorem updateStatus_state (server : Server) (status : String) (c : Conn) :
    ((updateStatus server status).exec c).2.obj.state =
      match server c.sent (statusPatch c.obj status) with
      | none => c.obj.state
      | some _ =>
        match (server (c.sent ++ [statusPatch c.obj status]) (combinerGet c.obj)).bind (·.json) with
        | some payload => if (Json.getItem payload "status").isNone then .Error else .Connected
        | none => .Connected := by
  rw [exec_updateStatus]
  split
  · rfl
  · unfold afterStatusGet
    rcases server (c.sent ++ [statusPatch c.obj status]) (combinerGet c.obj) with _ | r
    · rfl
    · dsimp only [Option.bind]
      rcases r.json with _ | payload
      · rfl
      · dsimp only
        cases Json.getItem payload "status" <;> rfl

/-- No run of calls moves the connector to `Disconnected`: after any calls, whatever the
server answers, the state is the one it started with, `Connected` or `Error`. -/
theorem runCalls_never_disconnects (server : Server) (c : Conn) (ks : List Call) :
    (runCalls server c ks).obj.state = c.obj.state ∨ (runCalls server c ks).obj.state = .Connected ∨
      (runCalls server c ks).obj.state = .Error := by
  have h := (runEffect_runCalls server ks c).disconnected
  cases e : (runCalls server c ks).obj.state
  · exact .inl (h e).symm
  · exact .inr (.inl rfl)
  · exact .inr (.inr rfl)

/-- A run of calls changes no field of the object but `state`, and every request it makes
carries the header `Authorization: Token <token>`. -/
theorem runCalls_requests_authorized (server : Server) (c : Conn) (ks : List Call) :
    (runCalls server c ks).obj = { c.obj with state := (runCalls server c ks).obj.state } ∧
    ∃ new, (runCalls server c ks).sent = c.sent ++ new ∧
      ∀ req ∈ new, req.headers = [("Authorization", "Token " ++ c.obj.token)] :=
  ⟨(runEffect_runCalls server ks c).fields, (runEffect_runCalls server ks c).sent⟩

/-- A discovery service that does not know the combiner and refuses to register it:
every `GET` answers 404 with a body that is not JSON, every other request 500. -/
def refusingServer : Server := fun _ req => some ⟨if req.method = "GET" then 404 else 500, none⟩

/-- A discovery service that refuses status updates with 500 and reads the record as
`{"status": "S"}`. -/
def patchRefusingServer : Server := fun _ req =>
  some (if req.method = "GET" then ⟨200, some (.obj [("status", .str "S")])⟩ else ⟨500, none⟩)

/-- A new connector, before any call. -/
def freshConn : Conn := ⟨.init "localhost" "8090" "token" "localhost" "12080" "combiner", []⟩

/-- `connect` answers `Connected` after its registration `POST` got 500, and
`update_status` leaves `Connected` after its `PATCH` got 500. -/
theorem refused_requests_leave_connected :
    ((connect refusingServer).exec freshConn).1 = .ok .Connected ∧
    ((connect refusingServer).exec freshConn).2.sent.map
        (fun req => (req.method, (refusingServer [] req).map (·.statusCode))) =
      [("GET", some 404), ("POST", some 500)] ∧
    ((updateStatus patchRefusingServer "S").exec freshConn).2.obj.state = .Connected ∧
    ((updateStatus patchRefusingServer "S").exec freshConn).2.sent.map
        (fun req => (req.method, (patchRefusingServer [] req).map (·.statusCode))) =
      [("PATCH", some 500), ("GET", some 200)] :=
  ⟨rfl, rfl, rfl, rfl⟩

end Discovery

end Fedn
