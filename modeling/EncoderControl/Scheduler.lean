import EncoderControl.Journal

/-!
# Scheduling of batches

Admitted pictures wait until a batch is due: a whole GOP, or what is there when the sequence is
flushed. The scheduler only counts; coding a batch is left to a step that it is given, and pictures
whose batch fails go on waiting.
-/

namespace EncoderControl

/-- Counts the pictures that wait and those that were coded. -/
structure Scheduler where
  gopSize : Nat
  /-- Pictures admitted since the last batch. -/
  pending : Nat := 0
  /-- Pictures in all batches coded so far. -/
  numCoded : Nat := 0
deriving DecidableEq, Inhabited

namespace Scheduler

variable {σ ε : Type}

/-- Counts one admitted picture. -/
def receive (scheduler : Scheduler) : Scheduler :=
  { scheduler with pending := scheduler.pending + 1 }

/-- The counts after the waiting pictures were coded. -/
def settle (scheduler : Scheduler) : Scheduler :=
  { scheduler with
    pending := 0
    numCoded := scheduler.numCoded + scheduler.pending }

/-- Whether a batch is due in frame coding: when flushing, and when a GOP is complete. Without a GOP
every picture is a batch. -/
def isFrameBatchDue (scheduler : Scheduler) (flush : Bool) : Bool :=
  0 < scheduler.pending &&
    (flush || scheduler.gopSize == 0 || scheduler.pending == scheduler.gopSize)

/-- Whether a batch is due in field coding, after the field with the number `fieldNum` in its frame
and the output position `pocLast`: when flushing with the second field, when a GOP is complete, and
after the first frame, which is coded on its own. -/
def isFieldBatchDue (scheduler : Scheduler) (flush : Bool) (fieldNum : Nat) (pocLast : Int) : Bool :=
  0 < scheduler.pending &&
    ((flush && fieldNum == 1) || pocLast == 1 || scheduler.pending == scheduler.gopSize)

/-- Codes the waiting pictures if a batch is due, and answers with their number. Nothing is settled
when coding fails. -/
def submit (due : Bool) (code : Nat → Operation σ ε Unit) : Operation (Scheduler × σ) ε Nat := do
  if due then
    let (scheduler, _) ← Operation.read
    Operation.log .trace s!"dispatching {scheduler.pending} pictures"
    Operation.onPart Prod.snd (fun whole part => (whole.1, part)) (code scheduler.pending)
    Operation.update fun whole => (whole.1.settle, whole.2)
    pure scheduler.pending
  else
    pure 0

/-- Frame coding: codes a batch with `code` if one is due. -/
def submitFrame (flush : Bool) (code : Nat → Operation σ ε Unit) :
    Operation (Scheduler × σ) ε Nat := fun state =>
  submit (state.1.isFrameBatchDue flush) code state

/-- Field coding: codes a batch with `code` if one is due after the given field. -/
def submitField (flush : Bool) (fieldNum : Nat) (pocLast : Int) (code : Nat → Operation σ ε Unit) :
    Operation (Scheduler × σ) ε Nat := fun state =>
  submit (state.1.isFieldBatchDue flush fieldNum pocLast) code state

end Scheduler

end EncoderControl
