import StubLayers.Layer.Load

/-!
Loading a layer with several workers. Tasks wait in the order in which they are handed in; an idle
worker takes the first one, and a task may complete before others that were taken earlier. Results
are read in the order of the tasks.
-/

namespace StubLayers

/-- The tasks of a pool of workers, each with its number. -/
structure Pool (α β : Type) where
  waiting : List (α × Nat)
  running : List (α × Nat)
  /-- Results under the numbers of their tasks, in the order of completion. -/
  finished : List (Nat × β)
deriving DecidableEq

namespace Pool

inductive Event where
  /-- An idle worker takes the first task that waits. -/
  | take
  /-- The task at this position among the running ones completes. -/
  | complete (position : Nat)
deriving DecidableEq

variable {α β : Type}

def submit (tasks : List α) : Pool α β := ⟨tasks.zipIdx, [], []⟩

/-- What an event makes of a pool; none if it cannot happen there. -/
def step? (workers : Nat) (work : α → β) (pool : Pool α β) : Event → Option (Pool α β)
  | .take =>
    match pool.waiting with
    | [] => none
    | task :: rest =>
      if pool.running.length < workers then
        some { pool with waiting := rest, running := pool.running ++ [task] }
      else none
  | .complete position =>
    match pool.running[position]? with
    | none => none
    | some (a, number) =>
      some { pool with
        running := pool.running.eraseIdx position
        finished := pool.finished ++ [(number, work a)] }

def run? (workers : Nat) (work : α → β) (pool : Pool α β) : List Event → Option (Pool α β)
  | [] => some pool
  | event :: rest => (pool.step? workers work event).bind fun next => next.run? workers work rest

/-- The results of the first tasks, in the order of the tasks; none if one is not finished. -/
def results? (pool : Pool α β) (count : Nat) : Option (List β) :=
  (List.range count).mapM fun number => pool.finished.lookup number

end Pool

/-- The number of workers for a number of jobs. -/
def workersFor (jobs : Int) : Nat := (max 1 jobs).toNat

/-- Do all tasks. A single worker or a single task needs no pool; otherwise the schedule says in
which order the workers take and complete the tasks, and there are no results if it does not fit or
ends too early. -/
def performAll? {α β : Type} (jobs : Int) (schedule : List Pool.Event) (work : α → β)
    (tasks : List α) : Option (List β) :=
  if workersFor jobs = 1 ∨ tasks.length ≤ 1 then some (tasks.map work)
  else
    ((Pool.submit tasks).run? (workersFor jobs) work schedule).bind fun pool =>
      pool.results? tasks.length

/-- The result for files with these outcomes. -/
def LoadResult.gather (files : List Path) (outcomes : List (Except Warning DeclarationTree)) :
    LoadResult :=
  ⟨files, successes outcomes, failures outcomes⟩

/-- Load the stub files of a directory, `found` in any order, with the workers for `jobs`. -/
def loadFound? (jobs : Int) (schedule : List Pool.Event) (host : Host) (dir : Path)
    (base : Option Path) (found : List Path) : Option LoadResult :=
  let files := sortPaths found
  (performAll? jobs schedule (loadFile host dir base) files).map (.gather files)

end StubLayers
