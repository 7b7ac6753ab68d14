import Suite.Shell.Stream

/-!
# Tasks

A `Task` is what a process does from some point on, cut where others may come in: where it gives
them a turn, where it waits and where it starts another process. `schedule` lets tasks take turns,
each for a while, in the order in which they became ready, until none can go on.
-/

namespace Suite.Shell

open Host (Ending)

/-- What a process does from some point on. -/
inductive Task
  | ended (w : World) (ending : Ending)
  /-- Others may take a turn. -/
  | paused (w : World) (resume : World → Task)
  /-- Goes on once the world is ready. -/
  | waiting (w : World) (ready : World → Bool) (resume : World → Task)
  /-- Starts a process with a number and goes on. -/
  | forked (w : World) (number : Nat) (child resume : World → Task)

/-- A process between its turns. -/
structure Turn where
  number : Nat
  ready : World → Bool
  resume : World → Task

/-- What a turn leads to: the world, the processes it started, and the process itself if it has not
ended. -/
structure Outcome where
  world : World
  started : List Turn
  left : Option Turn

/-- The processes that are to have a turn after those that had to wait. -/
def Outcome.turns (o : Outcome) : List Turn := o.started ++ o.left.toList

/-- One turn of a process, of at most so many steps; `started` are the processes it has started. -/
def Task.turn (number : Nat) : Nat → List Turn → Task → Outcome
  | _, started, .ended w ending => ⟨w.afterEnd number ending, started, none⟩
  | 0, started, .paused w resume => ⟨w, started, some ⟨number, fun _ => true, resume⟩⟩
  | steps + 1, started, .paused w resume => turn number steps started (resume w)
  | 0, started, .waiting w ready resume => ⟨w, started, some ⟨number, ready, resume⟩⟩
  | steps + 1, started, .waiting w ready resume =>
    if ready w then turn number steps started (resume w)
    else ⟨w, started, some ⟨number, ready, resume⟩⟩
  | 0, started, .forked w child process resume =>
    ⟨w, started ++ [⟨child, fun _ => true, process⟩], some ⟨number, fun _ => true, resume⟩⟩
  | steps + 1, started, .forked w child process resume =>
    turn number steps (started ++ [⟨child, fun _ => true, process⟩]) (resume w)

/-- How many steps a turn has. -/
def turnLength : Nat := 2000

/-- The first process that can go on, and the others. -/
def nextTurn (w : World) : List Turn → Option (Turn × List Turn)
  | [] => none
  | t :: rest =>
    if t.ready w then some (t, rest)
    else (nextTurn w rest).map fun found => (found.1, t :: found.2)

/-- The world when no process can go on any more; `turns` bounds how many turns there are. -/
def schedule : Nat → World → List Turn → World
  | 0, w, _ => w
  | turns + 1, w, queue =>
    match nextTurn w queue with
    | none => w
    | some (t, others) =>
      let o := (t.resume w).turn t.number turnLength []
      schedule turns o.world (others ++ o.turns)

end Suite.Shell
