import ImageBuild.Json.Record

/-! The registry that an image is pushed to. -/

namespace ImageBuild

/-- Address, credentials and certificates of a registry; an empty text says as much as none. -/
structure RegistrySpec where
  address : Option String
  secret : Option String
  ca : Option String
  insecure : Bool
  deriving DecidableEq, Inhabited

namespace RegistrySpec

/-- A registry of which nothing is known. -/
def unspecified : RegistrySpec := ⟨none, none, none, false⟩

/-- A text that is not empty. -/
def given (text : Option String) : Option String := text.filter (fun s => !s.isEmpty)

/-- The address, if one is set. -/
def address? (r : RegistrySpec) : Option String := given r.address

/-- The name of the Secret with the credentials, if one is set. -/
def secret? (r : RegistrySpec) : Option String := given r.secret

/-- The name of the ConfigMap with the certificates, if one is set. -/
def ca? (r : RegistrySpec) : Option String := given r.ca

/-- The names of the members, in order. -/
def fieldNames : List String := ["address", "secret", "ca", "insecure"]

/-- The value as JSON. -/
def toJson (r : RegistrySpec) : Json :=
  .object (Json.field? "address" (r.address.map .string) ++ Json.field? "secret" (r.secret.map .string)
    ++ Json.field? "ca" (r.ca.map .string) ++ [("insecure", .bool r.insecure)])

/-- The value that JSON denotes. -/
def ofJson? (j : Json) : Option RegistrySpec := do
  let r ← j.record? fieldNames
  return {
    address := ← r.optional "address" Json.string?
    secret := ← r.optional "secret" Json.string?
    ca := ← r.optional "ca" Json.string?
    insecure := ← r.withDefault "insecure" false Json.bool? }

end RegistrySpec

end ImageBuild
