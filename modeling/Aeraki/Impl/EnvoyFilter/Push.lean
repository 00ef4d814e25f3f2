import Aeraki.Framework.ApiServer
import Aeraki.Impl.Envoy

/-!
# Pushing objects to the API server

The three loops with which `envoyfilter/controller.go` makes the objects that
it manages equal to the generated ones, twice: for EnvoyFilters in
`pushEnvoyFilters2APIServer` and for the VirtualServices of gateways in
`generateListenerForGateway`. They delete what was not generated, update what
differs, and create what is missing. Each call's error overwrites the one
before.
-/

namespace Aeraki.Impl

open ApiServer (Object Request)

variable {ω σ : Type} [DecidableEq σ]

/-- An object to be written. -/
structure Desired (σ : Type) where
  namespace_ : String
  name : String
  spec : σ
deriving DecidableEq

def Desired.key (d : Desired σ) : ObjectKey := ⟨d.namespace_, d.name⟩

/-- The labels of the objects that Aeraki manages: `manager` is
`constants.AerakiFieldManager`. -/
def managerLabels : GoMap String String := Finmap.singleton "manager" "Aeraki"

/-- The label selector of the managed objects. -/
def isManaged (o : Object σ) : Bool := o.labels.lookup "manager" = some "Aeraki"

/-- What the three loops depend on: the key of an object in the map of
generated values, from its name and namespace; the object of a generated
value; and whether an update carries the resource version of the object that
it replaces. -/
structure PushConfig (ω σ : Type) where
  mapKey : String → String → String
  object : ω → Desired σ
  carriesVersion : Bool

/-- The state of the loops: the last error, the generated values that are
left, and the server. -/
structure PushState (ω σ : Type) where
  err : Option String
  generated : GoMap String ω
  server : ApiServer.Server ObjectKey σ

/-- A write, and its error. -/
def PushState.write (st : PushState ω σ) (r : Request ObjectKey σ) : PushState ω σ :=
  { st with
    err := if (st.server.exec r).1 then none else some "the request failed"
    server := (st.server.exec r).2 }

/-- "Deleted": the body of the first loop. -/
def deleteStep (c : PushConfig ω σ) (st : PushState ω σ) (old : ObjectKey × Object σ) : PushState ω σ :=
  match st.generated.lookup (c.mapKey old.1.name old.1.namespace_) with
  | none => st.write (.delete old.1)
  | some _ => st

/-- "Changed": the body of the second loop. -/
def updateStep (c : PushConfig ω σ) (st : PushState ω σ) (old : ObjectKey × Object σ) : PushState ω σ :=
  let mapKey := c.mapKey old.1.name old.1.namespace_
  match st.generated.lookup mapKey with
  | none => st
  | some value =>
    let new := c.object value
    let version := if c.carriesVersion then old.2.resourceVersion else 0
    let st := if new.spec = old.2.spec then st else st.write (.update new.key managerLabels new.spec version)
    { st with generated := st.generated.erase mapKey }

/-- "New": the body of the third loop. -/
def createStep (c : PushConfig ω σ) (st : PushState ω σ) (value : ω) : PushState ω σ :=
  let new := c.object value
  st.write (.create new.key managerLabels new.spec)

/-- The three loops. If listing the existing objects fails, there are none. -/
def pushObjects (c : PushConfig ω σ) (o : Oracle) (generated : GoMap String ω)
    (server : ApiServer.Server ObjectKey σ) : Option String × ApiServer.Server ObjectKey σ :=
  let (listed, server) := server.list (o.listOrder ["existing"]) isManaged
  let existing := listed.getD []
  let st : PushState ω σ := { err := none, generated := generated, server := server }
  let st := existing.foldl (deleteStep c) st
  let st := existing.foldl (updateStep c) st
  let st := (((o.at "new").range st.generated).map Prod.snd).foldl (createStep c) st
  (st.err, st.server)

end Aeraki.Impl
