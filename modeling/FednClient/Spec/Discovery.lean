import FednClient.Spec.Json

/-! `DiscoveryCombinerConnect` of `fedn.discovery.connect`, the combiner's side of the
discovery service: an object with a `state`, whose methods make HTTP requests with
`requests` and set the state from the answers. The server answers each request as it
likes, given the requests made before: a status code and a body that `retval.json()`
parses or not, or nothing when `requests` raises. The `print`s are left out. -/

namespace Fedn

namespace Discovery

/-- `State` -/
inductive State where
  | Disconnected
  | Connected
  | Error
  deriving DecidableEq, Repr

/-- An HTTP request: the method, the URL, the form fields of `data=payload`, and the
headers. -/
structure HttpRequest where
  method : String
  url : String
  data : List (String × String)
  headers : List (String × String)
  deriving DecidableEq, Repr

/-- What `requests` returns: the status code, and the body as `retval.json()` parses it,
`none` when it is not JSON. -/
structure Response where
  statusCode : Int
  json : Option Json

/-- The server's answer to a request, given the requests before it; `none` when the
request raises. -/
abbrev Server := List HttpRequest → HttpRequest → Option Response

/-- A `DiscoveryCombinerConnect`; the constructor's arguments as `str` writes them into
URLs and form fields. -/
structure DiscoveryCombinerConnect where
  host : String
  port : String
  token : String
  myhost : String
  myport : String
  myname : String
  state : State

namespace DiscoveryCombinerConnect

/-- `DiscoveryCombinerConnect(host, port, token, myhost, myport, myname)`; the base
class's `__init__` sets `state` to `Disconnected`. -/
def init (host port token myhost myport myname : String) : DiscoveryCombinerConnect :=
  ⟨host, port, token, myhost, myport, myname, .Disconnected⟩

/-- `self.connect_string` -/
def connectString (o : DiscoveryCombinerConnect) : String := "http://" ++ o.host ++ ":" ++ o.port

/-- `headers={'Authorization': 'Token {}'.format(self.token)}` -/
def authHeaders (o : DiscoveryCombinerConnect) : List (String × String) :=
  [("Authorization", "Token " ++ o.token)]

/-- `"{}{}/".format(self.connect_string + '/combiner/', self.myname)` -/
def combinerUrl (o : DiscoveryCombinerConnect) : String :=
  o.connectString ++ "/combiner/" ++ o.myname ++ "/"

/-- `"{}{}/".format(self.connect_string + '/configuration/', self.myname)` -/
def configurationUrl (o : DiscoveryCombinerConnect) : String :=
  o.connectString ++ "/configuration/" ++ o.myname ++ "/"

end DiscoveryCombinerConnect

/-- The object, and the requests it has made, in order. -/
structure Conn where
  obj : DiscoveryCombinerConnect
  sent : List HttpRequest

/-- The exceptions the methods let through. -/
inductive HttpExc where
  /-- `requests.exceptions.RequestException`, from the request itself -/
  | requestException
  /-- `retval.json()` of a body that is not JSON -/
  | jsonDecodeError
  deriving DecidableEq, Repr

abbrev HttpM := ExceptT HttpExc (StateM Conn)

/-- `r.get`, `r.post` or `r.patch` -/
def send (server : Server) (req : HttpRequest) : HttpM Response := do
  let c ← get
  set { c with sent := c.sent ++ [req] }
  match server c.sent req with
  | some retval => pure retval
  | none => throw .requestException

/-- `retval.json()` -/
def jsonOf (retval : Response) : HttpM Json :=
  match retval.json with
  | some payload => pure payload
  | none => throw .jsonDecodeError

def setState (st : State) : HttpM Unit :=
  modify fun c => { c with obj := { c.obj with state := st } }

def getState : HttpM State := do
  return (← get).obj.state

/-- `payload['status']` inside a `try` that catches its `KeyError` or `TypeError`: the
value of the key in a JSON object (the last one, which `json.loads` keeps), `none`
otherwise. -/
def Json.getItem : Json → String → Option Json
  | .obj kvs, k => kvs.reverse.lookup k
  | _, _ => none

/-- `connect` -/
def connect (server : Server) : HttpM State := do
  let o := (← get).obj
  let retval ← send server ⟨"GET", o.combinerUrl, [], o.authHeaders⟩
  if retval.statusCode != 200 then
    let payload := [("name", o.myname), ("port", o.myport), ("host", o.myhost), ("status", "S"),
      ("user", "1")]
    let retval ← send server ⟨"POST", o.connectString ++ "/combiner/", payload, o.authHeaders⟩
    if decide (retval.statusCode ≥ 200) || decide (retval.statusCode < 204) then
      setState .Connected
    else
      setState .Disconnected
  else
    setState .Connected
  getState

/-- `update_status(status)`; it returns the new status, `None` (`null`) when the payload
has none. -/
def updateStatus (server : Server) (status : String) : HttpM Json := do
  let o := (← get).obj
  let retval ← send server ⟨"PATCH", o.combinerUrl, [("status", status)], o.authHeaders⟩
  if decide (retval.statusCode ≥ 200) || decide (retval.statusCode < 204) then
    setState .Connected
  else
    setState .Disconnected
  let retval ← send server ⟨"GET", o.combinerUrl, [], o.authHeaders⟩
  let payload ← jsonOf retval
  match Json.getItem payload "status" with
  | some newstatus => pure newstatus
  | none => do
    setState .Error
    pure .null

/-- `check_status` -/
def checkStatus (server : Server) : HttpM (Json × State) := do
  let o := (← get).obj
  let retval ← send server ⟨"GET", o.combinerUrl, [], o.authHeaders⟩
  let payload ← jsonOf retval
  match Json.getItem payload "status" with
  | some status => pure (status, ← getState)
  | none => do
    setState .Error
    pure (.null, ← getState)

/-- `get_config` -/
def getConfig (server : Server) : HttpM (Json × State) := do
  let o := (← get).obj
  let retval ← send server ⟨"GET", o.configurationUrl, [], o.authHeaders⟩
  let payload ← jsonOf retval
  pure (payload, ← getState)

/-- A method call on the object. -/
inductive Call where
  | connect
  | updateStatus (status : String)
  | checkStatus
  | getConfig
  deriving DecidableEq, Repr

def Call.exec (server : Server) : Call → HttpM Unit
  | .connect => discard (Discovery.connect server)
  | .updateStatus status => discard (Discovery.updateStatus server status)
  | .checkStatus => discard (Discovery.checkStatus server)
  | .getConfig => discard (Discovery.getConfig server)

/-- The result and the final object and requests of `x` started from `c`. -/
def HttpM.exec {α : Type} (x : HttpM α) (c : Conn) : Except HttpExc α × Conn := x.run.run c

/-- A caller that makes the calls in order, going on after one that raises. -/
def runCalls (server : Server) (c : Conn) : List Call → Conn
  | [] => c
  | k :: ks => runCalls server ((k.exec server).exec c).2 ks

end Discovery

end Fedn
