import AccessDecision.Fault.Making
import AccessDecision.Value.Agreement
import AccessDecision.Value.Display

/-!
# Metadata of policies

What an audit says about the rule behind a policy.  A field that is null is absent, and
the record of the metadata leaves absent fields out.
-/

namespace AccessDecision

structure Metadata where
  name : Value
  category : Value
  description : Value
  reference : Value
  rulesetName : Value
  uuid : Value
  version : Value
  license : Value

namespace Metadata

def empty : Metadata :=
  ⟨.null, .null, .null, .null, .null, .null, .null, .null⟩

def entries (metadata : Metadata) : Fields :=
  [("name", metadata.name), ("category", metadata.category),
    ("description", metadata.description), ("reference", metadata.reference),
    ("ruleset_name", metadata.rulesetName), ("uuid", metadata.uuid),
    ("version", metadata.version), ("license", metadata.license)]

def ofRecord (fields : Fields) : Metadata :=
  let field := fun name => (fields.get? name).getD .null
  { name := field "name", category := field "category", description := field "description"
    reference := field "reference", rulesetName := field "ruleset_name"
    uuid := field "uuid", version := field "version", license := field "license" }

/-- The metadata with the given fields, unless one of them is no field of metadata. -/
def ofArguments (arguments : Fields) : Except Failure Metadata := do
  let known := empty.entries.map (·.1)
  (checkArguments "SecurityRuleMetadata" [] known arguments).mapError .kind
  .ok (ofRecord arguments)

def record (metadata : Metadata) : Fields :=
  metadata.entries.filter fun field => field.2.present?.isSome

def literal (metadata : Metadata) : String :=
  let fields := metadata.entries.map fun (name, value) => name ++ "=" ++ value.literal
  "SecurityRuleMetadata(" ++ ", ".intercalate fields ++ ")"

def agrees (left right : Metadata) : Bool :=
  Value.itemsAgree (left.entries.map (·.2)) (right.entries.map (·.2))

end Metadata

end AccessDecision
