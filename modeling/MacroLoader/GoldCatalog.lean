import MacroLoader.PythonValues

/-!
# The Gold catalog

A catalog record describes one attempt to build Gold: its status, the metadata
of the finished build, and the paths of its three artifacts, which a pruned
build has lost. A consumer finds the build to read in the catalog alone, and
under the strict policy it is the current one or none.
-/

/-- `GoldBuildStatus`. -/
inductive GoldBuildStatus
  | building | complete | failed
  deriving DecidableEq, Repr

/-- **A row of the Gold catalog.** -/
structure GoldCatalogRecord where
  datasetId : String
  buildId : String
  status : GoldBuildStatus
  current : Bool
  startedAtUtc : PyDatetime
  completedAtUtc : Option PyDatetime
  schemaVersion : ℤ
  featureVersion : ℤ
  minTimestamp : Option PyDatetime
  maxTimestamp : Option PyDatetime
  rowCount : Option ℤ
  dataPath : Option String
  buildManifestPath : Option String
  plotPath : Option String
  prunedAtUtc : Option PyDatetime
  deriving DecidableEq

namespace GoldCatalogRecord

/-- A path that is present and not the empty text. -/
def pathPresent (path : Option String) : Bool := path.any (· != "")

/-- `artifact_paths_complete`. -/
def artifactPathsComplete (r : GoldCatalogRecord) : Bool :=
  pathPresent r.dataPath && pathPresent r.buildManifestPath && pathPresent r.plotPath

/-- `selectable_complete`. -/
def selectableComplete (r : GoldCatalogRecord) : Bool :=
  r.status == .complete && r.completedAtUtc.isSome && r.prunedAtUtc.isNone
    && r.artifactPathsComplete

end GoldCatalogRecord

/-- `GoldCompatibility`: the versions a consumer understands. -/
structure GoldCompatibility where
  schemaVersion : ℤ
  featureVersion : ℤ

/-- Whether a record has the versions. -/
def GoldCompatibility.matches (c : GoldCompatibility) (r : GoldCatalogRecord) : Bool :=
  r.schemaVersion == c.schemaVersion && r.featureVersion == c.featureVersion

/-- `GOLD_SCHEMA_VERSION`. -/
def goldSchemaVersion : ℤ := 11

/-- `GOLD_FEATURE_VERSION`. -/
def goldFeatureVersion : ℤ := 6

/-- `_single_current`. -/
def singleCurrent (records : List GoldCatalogRecord) :
    Except PyError (Option GoldCatalogRecord) :=
  match records.filter (fun r => r.current) with
  | [] => .ok none
  | [r] => .ok (some r)
  | _ => .error (.valueError "Gold catalog contains multiple current rows")

/-- `StrictCurrentResolution.resolve`. -/
def strictCurrent (records : List GoldCatalogRecord) (compatibility : GoldCompatibility) :
    Except PyError GoldCatalogRecord :=
  match singleCurrent records with
  | .error e => .error e
  | .ok none => .error (.lookupError "Gold catalog has no current row")
  | .ok (some current) =>
    if !current.selectableComplete then
      .error (.lookupError "Gold current row is not a selectable complete build")
    else if !compatibility.matches current then
      .error (.lookupError "Gold current row is not compatible")
    else .ok current
