import JsonSchema.Outcome
/-!
# Batches

Several files are handled by workers. A worker takes a file, looks whether the batch has been
stopped, and if not finishes the file some time later; under the rule to stop at the first failure,
finishing a file that is not valid stops the batch. Turns of workers may come in any order.
-/

namespace JsonSchema

/-- How far a file has come. -/
inductive Slot where
  | waiting
  | taken
  | done (o : Outcome)
deriving DecidableEq

def Slot.outcome? : Slot → Option Outcome
  | done o => some o
  | _ => none

/-- What a worker does at one moment with the file of some number. -/
inductive Turn where
  | take (i : Nat)
  | finish (i : Nat)
deriving DecidableEq

structure Batch where
  slots : List Slot
  stopped : Bool
  /-- The files that were looked at, in the order in which they were finished. -/
  finished : List Nat
deriving DecidableEq

namespace Batch

/-- A batch of `n` files. -/
def start (n : Nat) : Batch := ⟨List.replicate n .waiting, false, []⟩

/-- What is said of a file that is not looked at. -/
def skipped : Outcome := .skipped "skipped after an earlier failure (fail-fast)"

/-- The batch after a turn; `judge` says what finishing a file finds out about it. A turn for which
it is too early or too late changes nothing. -/
def step (failFast : Bool) (judge : Nat → Outcome) (b : Batch) : Turn → Batch
  | .take i =>
    if b.slots[i]? = some .waiting then
      { b with slots := b.slots.set i (if b.stopped then .done skipped else .taken) }
    else b
  | .finish i =>
    if b.slots[i]? = some .taken then
      let o := judge i
      ⟨b.slots.set i (.done o), b.stopped || (failFast && !o.isValid), b.finished ++ [i]⟩
    else b

def run (failFast : Bool) (judge : Nat → Outcome) (b : Batch) (turns : List Turn) : Batch :=
  turns.foldl (step failFast judge) b

/-- The turns of a single worker, who finishes each file before taking the next. -/
def oneByOne (n : Nat) : List Turn := (List.range n).flatMap fun i => [.take i, .finish i]

/-- Whether all files are done. -/
def isComplete (b : Batch) : Bool := b.slots.all fun s => s.outcome?.isSome

/-- What is known about the files that are done. -/
def outcomes (b : Batch) : List Outcome := b.slots.filterMap Slot.outcome?

end Batch
end JsonSchema
