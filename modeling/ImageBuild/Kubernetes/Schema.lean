import ImageBuild.Kubernetes.Shape

/-! The fields of Kubernetes objects that builds neither set nor look at. -/

namespace ImageBuild.Kubernetes.Schema

open Shape

/-- Fields of a record. -/
abbrev Fields := List (String × Option Json × Shape)

/-- A list that is written always. -/
def listField (name : String) (item : Shape) : String × Option Json × Shape :=
  must name (.array []) (.list item)

/-- A list of texts that may be missing. -/
def textList (name : String) : String × Option Json × Shape := may name (.list .text)

/-- A number of 32 bits that may be missing. -/
def int32 (name : String) : String × Option Json × Shape := may name (.int 32)

/-- A number of 64 bits that may be missing. -/
def int64 (name : String) : String × Option Json × Shape := may name (.int 64)

/-- A number of 32 bits that is written always. -/
def number (name : String) : String × Option Json × Shape := must name (.ofNat 0) (.int 32)

/-- A truth value that is written always. -/
def truth (name : String) : String × Option Json × Shape := must name (.bool false) .bool

/-- An object that may be missing. -/
def part (name : String) (fields : Fields) : String × Option Json × Shape := may name (.record fields)

/-- A list of objects that may be missing. -/
def parts (name : String) (fields : Fields) : String × Option Json × Shape :=
  may name (.list (.record fields))

/-- Metadata beside names, labels and the times of creation and deletion. -/
def metadata : Fields := [
  int64 "deletionGracePeriodSeconds", textList "finalizers", may "generateName" .text,
  int64 "generation",
  parts "managedFields"
    (texts ["apiVersion", "fieldsType"] ++ [may "fieldsV1" .any]
      ++ texts ["manager", "operation", "subresource"] ++ [may "time" .time]),
  parts "ownerReferences"
    [name "apiVersion", may "blockOwnerDeletion" .bool, may "controller" .bool, name "kind",
      name "name", name "uid"]]
  ++ texts ["resourceVersion", "selfLink", "uid"]

/-- Whole metadata, for objects inside others. -/
def wholeMetadata : Fields :=
  [may "annotations" (.dict .text), may "creationTimestamp" .time, may "deletionTimestamp" .time,
    may "labels" (.dict .text), may "name" .text, may "namespace" .text] ++ metadata

/-- A choice of objects by their labels. -/
def labelSelector : Fields := [
  parts "matchExpressions" [name "key", name "operator", textList "values"],
  may "matchLabels" (.dict .text)]

/-- Resources that are asked for. -/
def resources : Fields := [
  parts "claims" [name "name", may "request" .text],
  may "limits" (.dict .text), may "requests" (.dict .text)]

/-- A reference to an object by its name. -/
def localName : Fields := [name "name"]

/-- A key of an object that has a name. -/
def keyChoice : Fields := [name "key", name "name", may "optional" .bool]

/-- A field of an object, by its path. -/
def fieldChoice : Fields := [may "apiVersion" .text, name "fieldPath"]

/-- A resource of a container, and the unit in which it is counted. -/
def resourceChoice : Fields := [may "containerName" .text, may "divisor" .text, name "resource"]

/-- Where the value of an environment variable comes from. -/
def envSource : Fields := [
  part "configMapKeyRef" keyChoice, part "fieldRef" fieldChoice,
  part "resourceFieldRef" resourceChoice, part "secretKeyRef" keyChoice]

/-- An action on a container. -/
def action : Fields := [
  part "exec" [textList "command"],
  part "httpGet"
    [may "host" .text, parts "httpHeaders" [name "name", name "value"], may "path" .text,
      must "port" (.ofNat 0) .intOrText, may "scheme" .text],
  part "tcpSocket" [may "host" .text, must "port" (.ofNat 0) .intOrText]]

/-- A check of a container. -/
def probe : Fields := action ++ [
  int32 "failureThreshold", part "grpc" [number "port", may "service" .text],
  int32 "initialDelaySeconds", int32 "periodSeconds", int32 "successThreshold",
  int64 "terminationGracePeriodSeconds", int32 "timeoutSeconds"]

/-- Options of security-enhanced Linux. -/
def seLinux : Fields := texts ["level", "role", "type", "user"]

/-- A profile by its kind, and its place on the node. -/
def profile : Fields := [may "localhostProfile" .text, name "type"]

/-- Options of Windows containers. -/
def windows : Fields :=
  texts ["gmsaCredentialSpec", "gmsaCredentialSpecName"] ++ [may "hostProcess" .bool,
    may "runAsUserName" .text]

/-- What the processes of a container may do. -/
def containerSecurity : Fields :=
  [may "allowPrivilegeEscalation" .bool, part "appArmorProfile" profile,
    part "capabilities" [textList "add", textList "drop"], may "privileged" .bool,
    may "procMount" .text, may "readOnlyRootFilesystem" .bool, int64 "runAsGroup",
    may "runAsNonRoot" .bool, int64 "runAsUser", part "seLinuxOptions" seLinux,
    part "seccompProfile" profile, part "windowsOptions" windows]

/-- What the processes of a pod may do. -/
def podSecurity : Fields := [
  part "appArmorProfile" profile, int64 "fsGroup", may "fsGroupChangePolicy" .text,
  int64 "runAsGroup", may "runAsNonRoot" .bool, int64 "runAsUser",
  may "seLinuxChangePolicy" .text, part "seLinuxOptions" seLinux, part "seccompProfile" profile,
  may "supplementalGroups" (.list (.int 64)), may "supplementalGroupsPolicy" .text,
  parts "sysctls" [name "name", name "value"], part "windowsOptions" windows]

/-- An environment variable beside its name and value. -/
def env : Fields := [part "valueFrom" envSource]

/-- A mount of a volume beside its name, its place and whether it is read-only. -/
def mount : Fields := texts ["mountPropagation", "recursiveReadOnly", "subPath", "subPathExpr"]

/-- A whole mount of a volume. -/
def wholeMount : Fields := [name "mountPath", name "name", may "readOnly" .bool] ++ mount

/-- A container beside what builds set. -/
def container : Fields := [
  parts "envFrom"
    [part "configMapRef" [name "name", may "optional" .bool], may "prefix" .text,
      part "secretRef" [name "name", may "optional" .bool]],
  part "lifecycle"
    [part "postStart" (action ++ [part "sleep" [must "seconds" (.ofNat 0) (.int 64)]]),
      part "preStop" (action ++ [part "sleep" [must "seconds" (.ofNat 0) (.int 64)]])],
  part "livenessProbe" probe,
  parts "ports"
    [number "containerPort", may "hostIP" .text, int32 "hostPort", may "name" .text,
      may "protocol" .text],
  part "readinessProbe" probe,
  parts "resizePolicy" [name "resourceName", name "restartPolicy"],
  may "restartPolicy" .text, part "securityContext" containerSecurity, part "startupProbe" probe,
  may "stdin" .bool, may "stdinOnce" .bool, may "terminationMessagePath" .text,
  may "terminationMessagePolicy" .text, may "tty" .bool,
  parts "volumeDevices" [name "devicePath", name "name"]]

/-- A container that is added to a running pod. -/
def ephemeralContainer : Fields := container ++ [
  textList "args", textList "command",
  parts "env" (name "name" :: may "value" .text :: env),
  may "image" .text, may "imagePullPolicy" .text, name "name", part "resources" resources,
  may "targetContainerName" .text, parts "volumeMounts" wholeMount, may "workingDir" .text]

/-- A file of a volume made of keys. -/
def item : Fields := [int32 "mode"]

/-- Files of a volume made of keys. -/
def items : String × Option Json × Shape :=
  parts "items" ([name "key", name "path"] ++ item)

/-- A volume with fields of the pod as files. -/
def downwardFiles : String × Option Json × Shape :=
  parts "items"
    [part "fieldRef" fieldChoice, int32 "mode", name "path", part "resourceFieldRef" resourceChoice]

/-- A volume made of keys, beside the object and the keys. -/
def keyVolume : Fields := [int32 "defaultMode", may "optional" .bool]

/-- A claim for a volume. -/
def volumeClaim : Fields := [
  textList "accessModes",
  part "dataSource" [may "apiGroup" .text, name "kind", name "name"],
  part "dataSourceRef" [may "apiGroup" .text, name "kind", name "name", may "namespace" .text],
  part "resources" [may "limits" (.dict .text), may "requests" (.dict .text)],
  part "selector" labelSelector]
  ++ texts ["storageClassName", "volumeAttributesClassName", "volumeMode", "volumeName"]

/-- A volume beside those made of ConfigMaps, Secrets and claims. -/
def volume : Fields := [
  part "awsElasticBlockStore"
    [may "fsType" .text, int32 "partition", may "readOnly" .bool, name "volumeID"],
  part "azureDisk"
    [may "cachingMode" .text, name "diskName", name "diskURI", may "fsType" .text, may "kind" .text,
      may "readOnly" .bool],
  part "azureFile" [may "readOnly" .bool, name "secretName", name "shareName"],
  part "cephfs"
    [listField "monitors" .text, may "path" .text, may "readOnly" .bool, may "secretFile" .text,
      part "secretRef" localName, may "user" .text],
  part "cinder"
    [may "fsType" .text, may "readOnly" .bool, part "secretRef" localName, name "volumeID"],
  part "csi"
    [name "driver", may "fsType" .text, part "nodePublishSecretRef" localName, may "readOnly" .bool,
      may "volumeAttributes" (.dict .text)],
  part "downwardAPI" [int32 "defaultMode", downwardFiles],
  part "emptyDir" (texts ["medium", "sizeLimit"]),
  part "ephemeral"
    [part "volumeClaimTemplate"
      [part "metadata" wholeMetadata, must "spec" (.object []) (.record volumeClaim)]],
  part "fc"
    [may "fsType" .text, int32 "lun", may "readOnly" .bool, textList "targetWWNs", textList "wwids"],
  part "flexVolume"
    [name "driver", may "fsType" .text, may "options" (.dict .text), may "readOnly" .bool,
      part "secretRef" localName],
  part "flocker" (texts ["datasetName", "datasetUUID"]),
  part "gcePersistentDisk"
    [may "fsType" .text, int32 "partition", name "pdName", may "readOnly" .bool],
  part "gitRepo" [may "directory" .text, name "repository", may "revision" .text],
  part "glusterfs" [name "endpoints", name "path", may "readOnly" .bool],
  part "hostPath" [name "path", may "type" .text],
  part "image" (texts ["pullPolicy", "reference"]),
  part "iscsi"
    [may "chapAuthDiscovery" .bool, may "chapAuthSession" .bool, may "fsType" .text,
      may "initiatorName" .text, name "iqn", may "iscsiInterface" .text, number "lun",
      textList "portals", may "readOnly" .bool, part "secretRef" localName, name "targetPortal"],
  part "nfs" [name "path", may "readOnly" .bool, name "server"],
  part "photonPersistentDisk" [may "fsType" .text, name "pdID"],
  part "portworxVolume" [may "fsType" .text, may "readOnly" .bool, name "volumeID"],
  part "projected"
    [int32 "defaultMode",
      parts "sources"
        [part "clusterTrustBundle"
            [part "labelSelector" labelSelector, may "name" .text, may "optional" .bool, name "path",
              may "signerName" .text],
          part "configMap" [items, name "name", may "optional" .bool],
          part "downwardAPI" [downwardFiles],
          part "secret" [items, name "name", may "optional" .bool],
          part "serviceAccountToken"
            [may "audience" .text, int64 "expirationSeconds", name "path"]]],
  part "quobyte"
    [may "group" .text, may "readOnly" .bool, name "registry", may "tenant" .text, may "user" .text,
      name "volume"],
  part "rbd"
    [may "fsType" .text, name "image", may "keyring" .text, listField "monitors" .text,
      may "pool" .text, may "readOnly" .bool, part "secretRef" localName, may "user" .text],
  part "scaleIO"
    [may "fsType" .text, name "gateway", may "protectionDomain" .text, may "readOnly" .bool,
      must "secretRef" (.object [("name", .string "")]) (.record localName), may "sslEnabled" .bool,
      may "storageMode" .text, may "storagePool" .text, name "system", may "volumeName" .text],
  part "storageos"
    [may "fsType" .text, may "readOnly" .bool, part "secretRef" localName, may "volumeName" .text,
      may "volumeNamespace" .text],
  part "vsphereVolume"
    [may "fsType" .text, may "storagePolicyID" .text, may "storagePolicyName" .text,
      name "volumePath"]]

/-- What is asked of a node. -/
def nodeTerm : Fields := [
  parts "matchExpressions" [name "key", name "operator", textList "values"],
  parts "matchFields" [name "key", name "operator", textList "values"]]

/-- What is asked of the pods beside a pod. -/
def podTerm : Fields := [
  part "labelSelector" labelSelector, textList "matchLabelKeys", textList "mismatchLabelKeys",
  part "namespaceSelector" labelSelector, textList "namespaces", name "topologyKey"]

/-- What is asked of other pods, as a rule or as a wish. -/
def podAffinity : Fields := [
  parts "preferredDuringSchedulingIgnoredDuringExecution"
    [must "podAffinityTerm" (.object [("topologyKey", .string "")]) (.record podTerm),
      number "weight"],
  parts "requiredDuringSchedulingIgnoredDuringExecution" podTerm]

/-- What is asked of the place of a pod. -/
def affinity : Fields := [
  part "nodeAffinity"
    [parts "preferredDuringSchedulingIgnoredDuringExecution"
        [must "preference" (.object []) (.record nodeTerm), number "weight"],
      part "requiredDuringSchedulingIgnoredDuringExecution"
        [listField "nodeSelectorTerms" (.record nodeTerm)]],
  part "podAffinity" podAffinity, part "podAntiAffinity" podAffinity]

/-- A pod beside what builds set. -/
def podSpec : Fields := [
  int64 "activeDeadlineSeconds", part "affinity" affinity, may "automountServiceAccountToken" .bool,
  part "dnsConfig"
    [textList "nameservers", parts "options" (texts ["name", "value"]), textList "searches"],
  may "dnsPolicy" .text, may "enableServiceLinks" .bool,
  parts "ephemeralContainers" ephemeralContainer,
  parts "hostAliases" [textList "hostnames", name "ip"]]
  ++ flags ["hostIPC", "hostNetwork", "hostPID", "hostUsers"] ++ [
  may "hostname" .text, parts "imagePullSecrets" localName, may "nodeName" .text,
  may "nodeSelector" (.dict .text), part "os" localName, may "overhead" (.dict .text),
  may "preemptionPolicy" .text, int32 "priority", may "priorityClassName" .text,
  parts "readinessGates" [name "conditionType"],
  parts "resourceClaims"
    (name "name" :: texts ["resourceClaimName", "resourceClaimTemplateName"]),
  part "resources" resources, may "runtimeClassName" .text, may "schedulerName" .text,
  parts "schedulingGates" localName, part "securityContext" podSecurity,
  may "serviceAccount" .text, may "serviceAccountName" .text, may "setHostnameAsFQDN" .bool,
  may "shareProcessNamespace" .bool, may "subdomain" .text, int64 "terminationGracePeriodSeconds",
  parts "tolerations"
    (texts ["effect", "key", "operator"] ++ [int64 "tolerationSeconds", may "value" .text]),
  parts "topologySpreadConstraints"
    [part "labelSelector" labelSelector, textList "matchLabelKeys", number "maxSkew",
      int32 "minDomains", may "nodeAffinityPolicy" .text, may "nodeTaintsPolicy" .text,
      name "topologyKey", name "whenUnsatisfiable"]]

/-- The state of a container that has ended, beside its exit code, reason and message. -/
def terminated : Fields := [
  may "containerID" .text, may "finishedAt" .time, int32 "signal", may "startedAt" .time]

/-- The state of a container that has not ended. -/
def liveState : Fields := [
  part "running" [may "startedAt" .time], part "waiting" (texts ["message", "reason"])]

/-- The state of a container. -/
def wholeState : Fields := liveState ++ [
  part "terminated" ([number "exitCode"] ++ texts ["message", "reason"] ++ terminated)]

/-- The status of a container beside its name and state. -/
def containerStatus : Fields := [
  may "allocatedResources" (.dict .text),
  parts "allocatedResourcesStatus"
    [name "name", parts "resources" [may "health" .text, name "resourceID"]],
  may "containerID" .text, name "image", name "imageID", part "lastState" wholeState,
  truth "ready", part "resources" resources, number "restartCount", may "started" .bool,
  part "user"
    [part "linux"
      [must "gid" (.ofNat 0) (.int 64), may "supplementalGroups" (.list (.int 64)),
        must "uid" (.ofNat 0) (.int 64)]],
  parts "volumeMounts"
    [name "mountPath", name "name", may "readOnly" .bool, may "recursiveReadOnly" .text]]

/-- The whole status of a container. -/
def wholeContainerStatus : Fields := [name "name", part "state" wholeState] ++ containerStatus

/-- The status of a pod beside its phase, its message and its containers. -/
def podStatus : Fields := [
  parts "conditions"
    [may "lastProbeTime" .time, may "lastTransitionTime" .time, may "message" .text,
      may "reason" .text, name "status", name "type"],
  parts "ephemeralContainerStatuses" wholeContainerStatus,
  may "hostIP" .text, parts "hostIPs" [name "ip"], may "nominatedNodeName" .text,
  may "podIP" .text, parts "podIPs" [name "ip"], may "qosClass" .text, may "reason" .text,
  may "resize" .text,
  parts "resourceClaimStatuses" [name "name", may "resourceClaimName" .text],
  may "startTime" .time]

/-- A Secret beside its data. -/
def secret : Fields := [may "immutable" .bool, may "type" .text]

/-- A ConfigMap beside its data. -/
def configMap : Fields := [may "immutable" .bool]

/-- A port of a Service beside its number. -/
def servicePort : Fields :=
  [may "appProtocol" .text, may "name" .text, int32 "nodePort", may "protocol" .text,
    may "targetPort" .intOrText]

/-- A Service beside its address and its ports. -/
def serviceSpec : Fields := [
  may "allocateLoadBalancerNodePorts" .bool, textList "clusterIPs", textList "externalIPs",
  may "externalName" .text, may "externalTrafficPolicy" .text, int32 "healthCheckNodePort",
  may "internalTrafficPolicy" .text, textList "ipFamilies", may "ipFamilyPolicy" .text,
  may "loadBalancerClass" .text, may "loadBalancerIP" .text, textList "loadBalancerSourceRanges",
  may "publishNotReadyAddresses" .bool, may "selector" (.dict .text), may "sessionAffinity" .text,
  part "sessionAffinityConfig" [part "clientIP" [int32 "timeoutSeconds"]],
  may "trafficDistribution" .text, may "type" .text]

/-- The status of a Service. -/
def service : Fields := [
  part "status"
    [parts "conditions"
        [must "lastTransitionTime" (.string "1970-01-01T00:00:00Z") .time, name "message", int64 "observedGeneration",
          name "reason", name "status", name "type"],
      part "loadBalancer"
        [parts "ingress"
          [may "hostname" .text, may "ip" .text, may "ipMode" .text,
            parts "ports" [may "error" .text, number "port", name "protocol"]]]]]

end ImageBuild.Kubernetes.Schema
