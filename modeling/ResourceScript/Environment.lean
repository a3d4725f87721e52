import ResourceScript.Block.Render
import ResourceScript.Document
import ResourceScript.Schema
import ResourceScript.Unquote.Strip

/-!
# Environments

An environment is the state of one run: the settings, the known schemas, the registered users and
the configuration document.  Environments share nothing.

## Main definitions

* `Environment` : the state of a run.
* `Environment.resolver` : answers questions for declared kinds from the known schemas.
* `Environment.render` : writes a block and registers its users.
* `Environment.Operation`, `Environment.perform` : the operations that may change the state.
-/

namespace ResourceScript

/-- The state of a run. -/
structure Environment where
  settings : Settings := .standard
  schemas : Entries ResourceSchema := []
  registry : Registry := { lead := settings.credentialLead }
  document : Document := { settings := settings }

namespace Environment

/-- The known schema of a resource. -/
def schema? (e : Environment) (resource : Text) : Option ResourceSchema := e.schemas.get? resource

/-- The declared kind of a parameter of a resource. -/
def kindOf? (e : Environment) (resource parameter : Text) : Option Kind :=
  (e.schema? resource).bind (·.kindOf? parameter)

/-- Answers from known schemas. -/
def resolver (e : Environment) : Resolver := fun resource parameter =>
  match e.kindOf? resource parameter with
  | some kind => .declared kind
  | none => .undeclared

/-- What the blocks of an environment depend on. -/
def blockContext (e : Environment) (resource : Text) (excludeMetadata : Bool) : Block.Context where
  resource := resource
  resolver := some e.resolver
  registryLead := some e.registry.lead
  excludeMetadata := excludeMetadata
  settings := e.settings

/-- An operation that may change the state. -/
inductive Operation where
  | registerSchema (schema : ResourceSchema)
  | render (resource : Text) (values : List (Text × NamedValue)) (excludeMetadata : Bool)
  | renderResource (resource instanceName : Text) (values : List (Text × NamedValue))
    (excludeMetadata : Bool)
  | stripQuotes (composite : Bool) (parameter block : Text)
  | saveUser (username : Text)
  | clearUsers
  | changeDocument (change : Document.Change)

/-- Why an operation fails. -/
inductive Failure where
  | block (failure : Block.Failure)
  | template (fault : Template.Fault)
  deriving DecidableEq

/-- The outcome of a rendering, and the environment with its users registered. -/
def record (e : Environment) (r : Block.Rendering) : Except Failure Text × Environment :=
  (r.outcome.mapError .block, { e with registry := r.register e.registry })

/-- Carries out an operation.  An operation that writes nothing answers with the empty text. -/
def perform (e : Environment) : Operation → Except Failure Text × Environment
  | .registerSchema schema => (.ok [], { e with schemas := e.schemas.set schema.name schema })
  | .render resource values excludeMetadata =>
    e.record (Block.render (e.blockContext resource excludeMetadata) values)
  | .renderResource resource instanceName values excludeMetadata =>
    e.record (Block.renderResource (e.blockContext resource excludeMetadata) instanceName values)
  | .stripQuotes composite parameter block =>
    ((Unquote.stripQuotes e.settings composite parameter block).mapError .template, e)
  | .saveUser username => (.ok [], { e with registry := e.registry.save username })
  | .clearUsers => (.ok [], { e with registry := e.registry.clear })
  | .changeDocument change => (.ok [], { e with document := e.document.apply change })

/-- Carries out operations one after the other. -/
def performAll (e : Environment) (operations : List Operation) : Environment :=
  operations.foldl (fun e o => (e.perform o).2) e

end Environment

end ResourceScript
