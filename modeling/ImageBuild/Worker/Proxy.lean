import ImageBuild.Kubernetes.Pod

/-! The proxies through which a worker reaches the outside. -/

namespace ImageBuild.Worker

/-- Proxies, and the hosts that are reached without one. -/
structure Proxy where
  http : Option String
  https : Option String
  exempt : Option String
  deriving DecidableEq

namespace Proxy

/-- No proxy. -/
def direct : Proxy := ⟨none, none, none⟩

/-- A variable, if it has a value. -/
def setting (name : String) (value : Option String) : List Kubernetes.EnvVar :=
  (value.map (Kubernetes.EnvVar.of name)).toList

/-- The variables that tell a program of the proxies. -/
def env (p : Proxy) : List Kubernetes.EnvVar :=
  setting "HTTP_PROXY" p.http ++ setting "HTTPS_PROXY" p.https ++ setting "NO_PROXY" p.exempt

end Proxy

end ImageBuild.Worker
