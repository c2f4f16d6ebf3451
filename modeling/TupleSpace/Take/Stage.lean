/-!
# Stages of a quorum take
-/

namespace TupleSpace

inductive TakeStage
  /-- About to ask the replicas that hold nothing for this take yet. -/
  | reserve
  | reserving
  | release
  | releasing
  | pause
  /-- About to have the chosen tuple removed everywhere. -/
  | commit
  | committing
  | finished
  | exhausted
deriving DecidableEq, Repr, Inhabited

namespace TakeStage

def name : TakeStage → String
  | reserve => "Reserve"
  | reserving => "Reserving"
  | release => "Release"
  | releasing => "Releasing"
  | pause => "Pause"
  | commit => "Commit"
  | committing => "Committing"
  | finished => "Fini"
  | exhausted => "Exhausted"

def isAwaiting : TakeStage → Bool
  | reserving | releasing | committing => true
  | _ => false

end TakeStage

end TupleSpace
