import PoolMonitor.Wire.Request
import PoolMonitor.Link.Correlator
/-!
# Sweeps and subscriptions

A sweep reads the whole installation with a fixed series of queries: the controller's freeze
state, then bodies, heaters, pumps, circuits and sensors by object type, then every object.
Each query asks for the parameters the monitor classifies.

A subscription asks the controller to push changes of the parameters that matter for each
object's type; objects of other types are left out (the controller object, which has no type,
is asked for its freeze state). The subscription lists each object once, by name, the first
mention deciding its keys.
-/

namespace PoolMonitor.Equipment

open PoolMonitor.Wire

/-- One query of a sweep. -/
structure SweepQuery where
  name : String
  condition : String
  objects : List ObjectQuery
  deriving Repr

/-- A query for every object of one type. -/
def SweepQuery.ofType (name typ : String) (keys : List String) : SweepQuery :=
  ⟨name, Key.objtyp ++ "=" ++ typ, [⟨allObjects, keys⟩]⟩

/-- The queries of a sweep, in order. -/
def sweepQueries : List SweepQuery :=
  open Key in
  [⟨"system", "", [⟨systemObject, [freeze]⟩]⟩,
   .ofType "bodies" ObjType.body [objtyp, subtyp, sname, status, temp, htmode, htsrc, lotmp, hitmp],
   .ofType "heaters" ObjType.heater [objtyp, subtyp, sname, status],
   .ofType "pumps" ObjType.pump [objtyp, subtyp, sname, status, rpm, gpm, watts],
   .ofType "circuits" ObjType.circuit [objtyp, subtyp, sname, status, freeze],
   .ofType "sensors" ObjType.sensor [objtyp, subtyp, sname, probe],
   ⟨"all", "", [⟨allObjects, [objtyp, subtyp, sname, status]⟩]⟩]

/-- The condition of the feature-flag query. -/
def featureFlagCondition : String := Key.objtyp ++ "=" ++ ObjType.circuit

/-- The feature-flag query. -/
def featureFlagQuery : List ObjectQuery := [⟨allObjects, [Key.sname, Key.shomnu]⟩]

/-- The keys to subscribe to for an object, if it is subscribed to. -/
def subscriptionKeys (o : ObjectData) : Option (List String) :=
  open Key in
  match o.objectType with
  | some "BODY" => some [temp, htmode, htsrc, lotmp, hitmp, status]
  | some "HEATER" => some [status]
  | some "PUMP" => some [rpm, gpm, watts, status]
  | some "CIRCUIT" => some [status, freeze]
  | some "SENSE" => some [probe]
  | none => if o.objnam == systemObject then some [freeze] else none
  | _ => none

/-- The subscription for a list of objects: by name, first mention first. -/
def subscription (objects : List ObjectData) : List ObjectQuery :=
  let seen := objects.foldl (fun (d : Dict (List String)) o =>
    match subscriptionKeys o with
    | some keys => d.insertNew o.objnam keys
    | none => d) Dict.empty
  seen.toList.map fun (n, keys) => ⟨n, keys⟩

/-- The feature flags in a feature-flag answer: objects named as features, with their menu
flag (empty when absent); a later object of the same name wins. -/
def featureFlagsOf (objects : List ObjectData) : Dict String :=
  Dict.ofList (objects.filterMap fun o =>
    if o.objnam.startsWith featurePrefix then some (o.objnam, (o.get? Key.shomnu).getD "") else none)

/-- What a sweep gathered: the objects of every answered query, in order, and the first query
that failed (later ones were not sent). -/
structure SweepOutcome where
  objects : List ObjectData := []
  error : Option (String × RequestError) := none

/-- Whether the sweep stopped early. -/
def SweepOutcome.failed (s : SweepOutcome) : Bool := s.error.isSome

/-- Run the queries in order, stopping at the first failure. -/
def sweepWith : List SweepQuery → SweepOutcome → Exchange → SweepOutcome × Exchange
  | [], acc, x => (acc, x)
  | q :: rest, acc, x =>
    match x.request Command.getParamList q.condition q.objects with
    | (.ok resp, x) => sweepWith rest { acc with objects := acc.objects ++ resp.objects } x
    | (.error e, x) => ({ acc with error := some (q.name, e) }, x)

/-- Sweep the installation. -/
def sweep (x : Exchange) : SweepOutcome × Exchange := sweepWith sweepQueries {} x

/-- Ask for the menu flags of the feature circuits. -/
def loadFeatureFlags (x : Exchange) : Except RequestError (Dict String) × Exchange :=
  match x.request Command.getParamList featureFlagCondition featureFlagQuery with
  | (.ok resp, x) => (.ok (featureFlagsOf resp.objects), x)
  | (.error e, x) => (.error e, x)

end PoolMonitor.Equipment
