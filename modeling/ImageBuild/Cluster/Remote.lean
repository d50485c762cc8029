import ImageBuild.Cluster.Error
import ImageBuild.Cluster.Selector
import ImageBuild.Json.Reader
import ImageBuild.Kubernetes.Data
import ImageBuild.Kubernetes.Pod
import ImageBuild.Kubernetes.Service
import ImageBuild.Text.Quoted

/-! Calls to a cluster that is reached through requests and replies. -/

namespace ImageBuild.Remote

open Kubernetes

/-- What is asked of a cluster. -/
inductive Operation
  | getPod (place : Reference)
  | createPod (pod : Pod)
  | deletePod (place : Reference)
  | getSecret (place : Reference)
  | getConfigMap (place : Reference)
  | createConfigMap (map : ConfigMap)
  | deleteConfigMap (place : Reference)
  | listServices (scope : String) (labels : Dict String String)

/-- What a cluster answers. -/
inductive Outcome
  | pod (pod : Pod)
  | secret (secret : Secret)
  | configMap (map : ConfigMap)
  | services (services : List Service)
  | done

/-- A request. -/
structure Request where
  method : String
  path : String
  query : List (String × String)
  body : Option Json

/-- A reply: a status with a text, or none because the connection broke. -/
inductive Reply
  | reply (status : Nat) (body : String)
  | broken

namespace Operation

/-- The kind and the place of the objects of an operation. -/
def subject : Operation → ObjectKind × Reference
  | getPod place | deletePod place => (.pod, place)
  | createPod pod => (.pod, pod.reference)
  | getSecret place => (.secret, place)
  | getConfigMap place | deleteConfigMap place => (.configMap, place)
  | createConfigMap map => (.configMap, map.reference)
  | listServices scope _ => (.service, ⟨scope, ""⟩)

/-- The part of a path that names a kind. -/
def segment : ObjectKind → String
  | .pod => "pods"
  | .secret => "secrets"
  | .configMap => "configmaps"
  | .service => "services"

/-- Whether a character may stand in a path. -/
def isPathChar (c : Char) : Bool :=
  let n := c.toNat
  n = 0x21 || n = 0x22 || (0x24 ≤ n && n ≤ 0x3B) || n = 0x3D || (0x40 ≤ n && n ≤ 0x5F)
    || (0x61 ≤ n && n ≤ 0x7E)

/-- The path of the objects of a kind in a namespace. -/
def collectionPath (kind : ObjectKind) (scope : String) : String :=
  "/api/v1/namespaces/" ++ scope ++ "/" ++ segment kind

/-- The request for an operation, if there is one: an object has to have a name. -/
def request? (o : Operation) : Option Request :=
  let (kind, place) := o.subject
  let collection := collectionPath kind place.scope
  let object := collection ++ "/" ++ place.name
  let named := !place.name.isEmpty && object.toList.all isPathChar
  let possible := collection.toList.all isPathChar
  match o with
  | getPod _ | getSecret _ | getConfigMap _ =>
    if named then some ⟨"GET", object, [], none⟩ else none
  | deletePod _ | deleteConfigMap _ =>
    if named then some ⟨"DELETE", object, [], some (.object [])⟩ else none
  | createPod pod => if possible then some ⟨"POST", collection, [], some pod.toJson⟩ else none
  | createConfigMap map => if possible then some ⟨"POST", collection, [], some map.toJson⟩ else none
  | listServices _ labels =>
    if possible then some ⟨"GET", collection, [("labelSelector", labelSelector labels)], none⟩
    else none

end Operation

/-- A refusal: its code, its reason and a message. -/
structure Refusal where
  code : Nat
  reason : String
  message : String

/-- The refusal in a reply; a text that is none is quoted as the message. -/
def refusal (status : Nat) (body : String) : Refusal :=
  -- Only a status with a code tells more than the reply itself.
  let read? : Option Refusal := do
    let r ← (← Json.read? body).record? ["status", "message", "reason", "code"]
    let _ ← r.required "status" Json.string?
    return {
      message := ← r.withDefault "message" "" Json.string?
      reason := ← r.withDefault "reason" "" Json.string?
      code := ← r.required "code" (Json.unsigned? 16) }
  read?.getD ⟨status, "Failed to parse error data", Text.quoted body⟩

/-- The failure that a refusal is. -/
def Refusal.error (r : Refusal) (kind : ObjectKind) (place : Reference) : ClusterError :=
  if r.code = 404 then .notFound kind place
  else if r.code = 409 then
    -- One code stands for a name that is taken and for a change made meanwhile.
    if r.reason = "AlreadyExists" then .alreadyExists kind place else .conflict kind place r.message
  else .api r.code r.message

/-- A cause of a status. -/
def isCause (j : Json) : Bool :=
  match j.record? ["reason", "message", "field"] with
  | some r => r.fields.all (fun f => f.2.string?.isSome)
  | none => false

/-- The details of a status. -/
def details? (j : Json) : Option Unit := do
  let r ← j.record? ["name", "group", "kind", "uid", "causes", "retryAfterSeconds"]
  let _ ← ["name", "group", "kind", "uid"].mapM (fun n => r.withDefault n "" Json.string?)
  let causes ← r.withDefault "causes" [] (Json.list? some)
  let _ ← r.withDefault "retryAfterSeconds" 0 Json.uint32?
  if causes.all isCause then some () else none

/-- Whether a value is the status that answers a deletion. -/
def status? (j : Json) : Option Unit := do
  let r ← j.record? ["status", "code", "message", "reason", "details"]
  let summary ← r.optional "status" Json.choice?
  let _ ← r.withDefault "code" 0 (Json.unsigned? 16)
  let _ ← r.withDefault "message" "" Json.string?
  let _ ← r.withDefault "reason" "" Json.string?
  let _ ← r.optional "details" details?
  if summary.all (fun s => s = "Success" || s = "Failure") then some () else none

/-- The answer to a deletion: a status, or the object that is being deleted. -/
def deletion? {α : Type} (read : Json → Option α) (j : Json) : Option Outcome := do
  if ¬j.fits 127 then none
  else
    let kind : Option String := match j with
      | .object members => (Shape.given? "kind" members).bind Json.string?
      | _ => none
    -- Only the kind tells a status from the deleted object.
    if kind = some "Status" then (status? j).map (fun _ => .done)
    else (read j).map (fun _ => .done)

/-- The objects of a list; no items at all are none. -/
def listOf? {α : Type} (read : Json → Option α) (j : Json) : Option (List α) := do
  let r ← j.openRecord? 126 ["metadata", "items"]
  let kinds ← j.namedRecord? ["apiVersion", "kind"]
  let _ ← kinds.optional "apiVersion" Json.string?
  let _ ← kinds.optional "kind" Json.string?
  let _ ← r.withDefault "metadata" [] (fun m => do
    (← Members.ofJson? m).others
      (Shape.texts ["continue", "resourceVersion", "selfLink"] ++ [Schema.int64 "remainingItemCount"]))
  match ← r.get? "items" with
  | .null => some []
  | items => items.list? read

/-- The answer in the text of a reply that is no refusal. -/
def Operation.outcome? (o : Operation) (body : String) : Option Outcome := do
  let j ← Json.read? body
  match o with
  | getPod _ | createPod _ => (Pod.ofJson? j).map .pod
  | deletePod _ => deletion? Pod.ofJson? j
  | getSecret _ => (Secret.ofJson? j).map .secret
  | getConfigMap _ | createConfigMap _ => (ConfigMap.ofJson? j).map .configMap
  | deleteConfigMap _ => deletion? ConfigMap.ofJson? j
  | listServices .. => (listOf? Service.ofJson? j).map .services

/-- What a reply says about an operation. -/
def Operation.answer (o : Operation) : Reply → Except ClusterError Outcome
  | .broken => .error (.client "connection broken")
  | .reply status body =>
    if 400 ≤ status ∧ status < 600 then
      let (kind, place) := o.subject
      .error ((refusal status body).error kind place)
    else match o.outcome? body with
      | some outcome => .ok outcome
      | none => .error (.client "unreadable reply")

end ImageBuild.Remote
