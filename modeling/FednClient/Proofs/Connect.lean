import FednClient.Spec.Connect

/-! The channel `_connect` opens. It raises exactly when the root certificate it reaches
for first cannot be had, before any channel is open. A channel it opens is secure exactly
when the assignment carries a certificate, `FEDN_GRPC_ROOT_CERT_PATH` is set or
`config['secure']` holds; an assignment with an `fqdn` is reached on that name, on port 443
over a secure channel and on port 80 over an insecure one, so an `fqdn` does not make TLS
mandatory and no insecure channel goes to port 443. The token rides as call credentials
only on a channel that trusts the certificate the server itself presents. -/

namespace Fedn

def GrpcChannel.isSecure : GrpcChannel → Bool
  | .secure .. => true
  | .insecure .. => false

/-- The host and port of `"{}:{}".format(host, str(port))`. -/
def GrpcChannel.target : GrpcChannel → String × Nat
  | .secure host port _ _ => (host, port)
  | .insecure host port => (host, port)

def GrpcChannel.root : GrpcChannel → Option RootCert
  | .secure _ _ root _ => some root
  | .insecure .. => none

def GrpcChannel.token : GrpcChannel → Option String
  | .secure _ _ _ token => token
  | .insecure .. => none

/-- For every assignment, configuration and library answers: `_connect` raises exactly when
the first source of a root certificate it tries fails; a channel it opens is secure exactly
when one of the three sources is there, goes to the `fqdn` on 443 if secure and on 80 if
not, never goes insecure to 443, and carries the token only when it trusts the
certificate the server presents. -/
theorem connect_channel (config : ConnectConfig) (rootCertPath : Option String) (env : ConnectEnv)
    (a : Assignment) :
    ((∃ e, connect config rootCertPath env a = .error e) ↔
      if truthy a.certificate then env.b64decode (a.certificate.getD "") = none
      else if truthy rootCertPath then env.readFile (rootCertPath.getD "") = none
      else config.secure = true ∧
        env.serverCertificate (a.fqdn.getD a.host) (if a.fqdn.isSome then 443 else a.port) = none) ∧
    ∀ ch, connect config rootCertPath env a = .ok ch →
      ch.isSecure = (truthy a.certificate || truthy rootCertPath || config.secure) ∧
      (∀ fqdn, a.fqdn = some fqdn → ch.target = (fqdn, if ch.isSecure then 443 else 80)) ∧
      (ch.isSecure = false → ch.target.2 ≠ 443) ∧
      (ch.token.isSome = true → ∃ host port cert, ch.root = some (.server host port cert)) := by
  rcases a with ⟨host, port, _ | fqdn, certificate⟩ <;>
    by_cases hc : truthy certificate <;> by_cases hp : truthy rootCertPath <;>
    by_cases hs : config.secure <;>
    simp only [connect, hc, hp, hs, if_true, if_false, Bool.false_eq_true] <;>
    (try split) <;>
    simp_all [GrpcChannel.isSecure, GrpcChannel.target, GrpcChannel.root, GrpcChannel.token]

end Fedn
