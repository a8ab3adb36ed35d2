import Mathlib.Data.List.Basic

/-! `_connect`, which opens the gRPC channel to the assigned combiner. It picks the endpoint
(the `fqdn` on port 443 when the assignment has one) and the channel's security: the
assignment's certificate, else the root certificate file that `FEDN_GRPC_ROOT_CERT_PATH`
names, else, with `config['secure']`, the certificate the server presents, with the token
as call credentials when there is one; otherwise an insecure channel, on port 80 where
the port is 443. `base64`, `open` and `ssl` are outside the repository: what they return,
or that they raise, is the environment, and `_connect` raises what they raise before it
opens any channel. -/

namespace Fedn

/-- Python's truth value of a string that may be `None`. -/
def truthy : Option String → Bool
  | some s => !s.isEmpty
  | none => false

/-- The fields of `client_config` that `_connect` uses to open the channel; the
certificate is base64. -/
structure Assignment where
  host : String
  port : Nat
  fqdn : Option String
  certificate : Option String
  deriving DecidableEq, Repr

/-- A secure channel's root certificate, and where `_connect` got it:
`base64.b64decode(client_config['certificate'])`, the file
`os.environ["FEDN_GRPC_ROOT_CERT_PATH"]`, or `ssl.get_server_certificate((host, port))`. -/
inductive RootCert where
  | assigned (cert : List UInt8)
  | file (path : String) (cert : List UInt8)
  | server (host : String) (port : Nat) (cert : String)
  deriving DecidableEq, Repr

/-- The channel `_connect` stores in `self.channel`, with its target `"{}:{}".format(host,
str(port))`. A secure channel may carry the token as call credentials (`GrpcAuth`). -/
inductive GrpcChannel where
  | secure (host : String) (port : Nat) (root : RootCert) (token : Option String)
  | insecure (host : String) (port : Nat)
  deriving DecidableEq, Repr

/-- What `_connect` raises: `binascii.Error` for a certificate that is not base64, the
`FileNotFoundError` of `open`, or the `OSError` of `ssl.get_server_certificate` for a
combiner that does not answer. -/
inductive ConnectError where
  | binascii
  | fileNotFound (path : String)
  | ssl (host : String) (port : Nat)
  deriving DecidableEq, Repr

/-- The `config` keys `_connect` reads. -/
structure ConnectConfig where
  secure : Bool
  token : Option String
  deriving DecidableEq, Repr

/-- What the libraries `_connect` calls answer, `none` where they raise. -/
structure ConnectEnv where
  b64decode : String → Option (List UInt8)
  readFile : String → Option (List UInt8)
  serverCertificate : String → Nat → Option String

/-- `_connect(client_config)`, given `config`, `os.getenv("FEDN_GRPC_ROOT_CERT_PATH")` and
the libraries: the channel it opens (its `secure` flag is only printed), or what it
raises. -/
def connect (config : ConnectConfig) (rootCertPath : Option String) (env : ConnectEnv)
    (a : Assignment) : Except ConnectError GrpcChannel :=
  let (host, port) := match a.fqdn with
    | some fqdn => (fqdn, 443)
    | none => (a.host, a.port)
  if truthy a.certificate then
    match env.b64decode (a.certificate.getD "") with
    | some cert => .ok (.secure host port (.assigned cert) none)
    | none => .error .binascii
  else if truthy rootCertPath then
    match env.readFile (rootCertPath.getD "") with
    | some cert => .ok (.secure host port (.file (rootCertPath.getD "") cert) none)
    | none => .error (.fileNotFound (rootCertPath.getD ""))
  else if config.secure then
    match env.serverCertificate host port with
    | some cert =>
      .ok (.secure host port (.server host port cert) (if truthy config.token then config.token else none))
    | none => .error (.ssl host port)
  else
    .ok (.insecure host (if port = 443 then 80 else port))

end Fedn
