import JsonSchema.Discovery
import JsonSchema.Runner.Batch
import JsonSchema.Validate
/-!
# Runs

A runner validates the files it finds against a schema, and keeps the schemas it has compiled for
later runs.
-/

namespace JsonSchema

structure Runner where
  workers : Nat
  /-- Whether files are skipped after the first that is not valid. -/
  failFast : Bool
  /-- The graphs of schemas by the places of their files. -/
  compiled : List (RealPath × Graph)

/-- What a run is doing. -/
inductive Phase where
  | schemaLoading
  | discovery
  | validation
  | aggregation
  | complete
deriving DecidableEq

/-- A sign of how far a run has come: the file that is finished, if it is about one, and how many of
the files are. -/
structure Progress where
  phase : Phase
  file : Option Path
  done : Nat
  total : Nat

/-- A run that is over. -/
structure Run where
  runner : Runner
  progress : List Progress
  result : Except Failure Results

namespace Runner

def new (workers : Nat) (failFast : Bool) : Runner := ⟨workers, failFast, []⟩

/-- The graph of the schema in the file at a place. -/
def compile (t : FileTree) (place : RealPath) : Except Failure Graph :=
  let source := RealPath.path place
  match t.readText source with
  | .error f => .error (.schemaLoading source f.message)
  | .ok text => Graph.loadFrom source (Utf8.bytes text)

/-- The graph of the schema at a path, compiled unless it already was. -/
def load (r : Runner) (t : FileTree) (path : Path) : Except Failure (Graph × Runner) :=
  match t.resolve path with
  | .error f => .error (.schemaLoading path f.message)
  | .ok place =>
    match r.compiled.lookup place with
    | some g => .ok (g, r)
    | none => do
      let g ← compile t place
      .ok (g, { r with compiled := (place, g) :: r.compiled })

/-- What validating the file at a path finds out. -/
def judge (t : FileTree) (g : Graph) (path : Path) : Outcome :=
  match t.read path with
  | .error f => .ofFailure (.system f)
  | .ok text =>
    match g.validateReader text with
    | .error message => .ofFailure (.instanceParsing path message)
    | .ok verdict => if verdict then .valid else .invalid

/-- What handling the file of some number finds out about it. -/
def judgeAt (judge : Path → Outcome) (paths : List Path) (i : Nat) : Outcome :=
  (paths[i]?.map judge).getD Batch.skipped

/-- The batch of some files once all are done. The workers take `turns` first, in any order; what is
left then is done one by one. -/
def batch (failFast : Bool) (judge : Path → Outcome) (paths : List Path) (turns : List Turn) : Batch :=
  (Batch.start paths.length).run failFast (judgeAt judge paths)
    (turns ++ Batch.oneByOne paths.length)

/-- The files of a batch with what is known about them. -/
def fileOutcomes (paths : List Path) (b : Batch) : List FileOutcome :=
  (paths.zip b.outcomes).map fun f => ⟨f.1, f.2, .zero⟩

/-- Signs of progress for the files that were looked at, in the order in which they were finished. -/
def fileProgress (paths : List Path) (b : Batch) : List Progress :=
  let finished := b.finished.filterMap (paths[·]?)
  finished.zipIdx.map fun f => ⟨.validation, some f.1, f.2 + 1, paths.length⟩

/-- Validates the files under some paths that a selection takes; `turns` are those that the workers
take before the rest is done one by one. -/
def run (r : Runner) (t : FileTree) (schema : Path) (paths : List Path) (s : Selection)
    (turns : List Turn := []) : Run :=
  let loading : Progress := ⟨.schemaLoading, none, 0, 0⟩
  match r.load t schema with
  | .error e => ⟨r, [loading], .error e⟩
  | .ok (g, r) =>
    let discovery : Progress := ⟨.discovery, none, 0, 0⟩
    match Discovery.findAll t s paths with
    | .error e => ⟨r, [loading, discovery], .error e⟩
    | .ok found =>
      let b := batch r.failFast (judge t g) found turns
      let files := fileOutcomes found b
      let n := files.length
      ⟨r, [loading, discovery] ++ fileProgress found b ++
          [⟨.aggregation, none, n, n⟩, ⟨.complete, none, n, n⟩],
        .ok ⟨files, { workers := r.workers, schemaNodes := g.size }⟩⟩

end Runner
end JsonSchema
