import Panel.Session

/-! # Scheduling — pieces of work that wait for each other -/

namespace Panel

/-- A piece of work in the queue. -/
structure Task where
  priority : Int
  number : Nat
  ready : Session → Bool
  resume : Session → Job Unit
  /-- The module that its components are registered from. -/
  source : String

namespace Schedule

def before (a b : Task) : Bool :=
  a.priority > b.priority || (a.priority == b.priority && a.number ≤ b.number)

def insert (t : Task) : List Task → List Task
  | [] => [t]
  | u :: us => if before t u then t :: u :: us else u :: insert t us

/-- What is said when no task can go on. -/
def stuck : Failure :=
  .rejected ("Circular dependency detected! Please run with -v option to see what functions failed "
    ++ "to complete.")

def reported : Failure → Failure
  | .exhausted => .rejected "coroutine raised StopIteration"
  | other => other

/-- Runs tasks, at most the given number of steps.  A task that cannot go on yet only falls in
    priority. -/
def runWithin : Nat → List Task → Session → Except Failure Unit × Session
  | _, [], s => (.ok (), s)
  | 0, _ :: _, s => (.error stuck, s)
  | n + 1, t :: ts, s =>
    if (t :: ts).all fun u => !u.ready s then (.error stuck, s)
    else if !t.ready s then
      runWithin n (insert { t with priority := t.priority - 1 } ts) s
    else
      match t.resume { s with source := t.source } with
      | .done (.ok ()) s => runWithin n ts s
      | .done (.error e) s => (.error (reported e), s)
      | .waiting s ready resume =>
        runWithin n
          (insert { t with
            priority := t.priority - 1
            ready := ready
            resume := resume
            source := s.source } ts) s

def task (number : Nat) (source : String) (work : Build Unit) : Task :=
  ⟨0, number, fun _ => true, work, source⟩

/-- How often tasks are resumed before the work is given up. -/
def patience : Nat := 1000000

/-- Runs pieces of work, which are numbered in order. -/
def run (works : List (String × Build Unit)) (s : Session) : Except Failure Unit × Session :=
  let tasks := works.zipIdx.map fun ((source, work), i) => task i source work
  runWithin patience tasks s

end Schedule

end Panel
