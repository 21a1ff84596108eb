import Loopback.Channel.Builder
import Loopback.Machine.Alone
import Loopback.Machine.Schedule
import Loopback.Work.Operation

/-!
# Working sessions on a channel

One main task works on a channel, step by step, and may set other tasks to work beside it. Each
step of the main task runs to its end; then every other task runs as far as it can without time
passing, so that afterwards each has ended or sleeps. The main task is the first task of the
machine.
-/

namespace Loopback

/-- A channel being worked on: the machine, the places of the background tasks in it, which of
them have been joined, and how many handles there are. -/
structure Workplace where
  machine : Machine Failure Answer
  background : List Nat
  joined : List Nat
  handles : Nat

/-- A step of the main task. -/
inductive WorkStep where
  | run (operation : Operation)
  | echo (data : List UInt8)
  | spawn (operation : Operation)
  | join (number : Nat)
  | cloneHandle

/-- How an operation ends. -/
abbrev Ending := Outcome Failure Answer

/-- What a step answers. -/
inductive WorkReply where
  | ended (ending : Ending)
  | echoed (written read : Ending)
  | spawned
  | handle (number : Nat)

/-- What can be seen of a channel after a step. -/
structure Snapshot where
  isOpen : Bool
  inWaiting : Option Nat
  requestToSend : Bool
  dataTerminalReady : Bool
  breakCondition : Bool
  diagnostics : Option Severity
deriving DecidableEq

/-- What comes of a step: the answer, what was reported, the state after it, and for each
background task not yet joined whether it still works. -/
structure WorkReport where
  reply : WorkReply
  log : List Event
  snapshot : Snapshot
  blocked : List Bool

namespace Channel

/-- What can be seen of a channel. -/
def snapshot (c : Channel) : Snapshot where
  isOpen := c.isOpen
  inWaiting :=
    if c.isOpen then (c.session?.bind fun session => c.queues[session]?).map Queue.length
    else none
  requestToSend := c.requestToSend
  dataTerminalReady := c.dataTerminalReady
  breakCondition := c.breakCondition
  diagnostics := c.diagnostics

end Channel

/-- How a channel to work on comes about: built and left closed, or also opened, by the main task
or by way of a background task. -/
inductive Construction where
  | closed (builder : Builder)
  | opened (builder : Builder)
  | openedInBackground (builder : Builder)

namespace Workplace

/-- The place of the main task. -/
def mainTask : Nat := 0

/-- A workplace in a world, with the main task at rest. -/
def ofWorld (world : World) : Workplace where
  machine := ⟨world, [.running (.done .nothing)], 0⟩
  background := []
  joined := []
  handles := 1

/-- The events in a journal that certain tasks reported, oldest first. -/
def eventsOf (tasks : List Nat) (journal : List JournalEntry) : List Event :=
  (journal.filter fun entry => tasks.contains entry.task).reverse.map (·.event)

/-- Take what certain tasks reported out of the journal. -/
def takeLog (w : Workplace) (tasks : List Nat) : List Event × Workplace :=
  let world := w.machine.world
  let kept := world.journal.filter fun entry => !tasks.contains entry.task
  (eventsOf tasks world.journal,
    { w with machine := { w.machine with world := { world with journal := kept } } })

/-- Open a channel that no one else works on yet. -/
def openAlone (program : Job) (world : World) : Except Ending Workplace :=
  match program.alone mainTask world with
  | .ended (.ok _) world => .ok (ofWorld world)
  | .ended ending _ => .error ending
  | .asleep _ world => .ok (ofWorld world)

/-- Begin to work on a channel, unless it could not be opened. -/
def start : Construction → Except Ending Workplace
  | .closed builder => .ok (ofWorld builder.world)
  | .opened builder => openAlone (ChannelOperation.job .openPort) builder.world
  | .openedInBackground builder =>
    openAlone ((Background.runTask Channel.openPort).job .background fun _ => .nothing) builder.world

/-- Whether each background task not yet joined still works. -/
def blocked (w : Workplace) : List Bool :=
  w.background.zipIdx.filterMap fun (task, number) =>
    if w.joined.contains number then none else some (w.machine.outcomeOf? task).isNone

/-- How a task has ended. One that has not ended is not asked. -/
def endingOf (w : Workplace) (task : Nat) : Ending :=
  (w.machine.outcomeOf? task).getD (.aborted "unfinished")

/-- Put a task to work; its place is answered with the workplace. -/
def addTask (w : Workplace) (job : Job) : Nat × Workplace :=
  (w.machine.tasks.length,
    { w with machine := { w.machine with tasks := w.machine.tasks ++ [.running job] } })

/-- Give the main task a program. -/
def setMain (w : Workplace) (job : Job) : Workplace :=
  { w with machine := w.machine.setTask mainTask (.running job) }

/-- Run until certain tasks have ended. -/
def finish (w : Workplace) (awaited : List Nat) : Option Workplace :=
  (w.machine.finish awaited Machine.fuel).map fun machine => { w with machine }

/-- Run until no task can go on. -/
def settle (w : Workplace) : Workplace :=
  { w with machine := w.machine.settle Machine.fuel }

/-- The report of a step that has been made. -/
def report (w : Workplace) (reply : WorkReply) (speakers : List Nat) : WorkReport × Workplace :=
  let (log, w) := w.settle.takeLog speakers
  ({ reply, log, snapshot := w.machine.world.channel.snapshot, blocked := w.blocked }, w)

/-- Make a step. There is no answer if it never ends, or joins a task there is none of. -/
def step (w : Workplace) : WorkStep → Option (WorkReport × Workplace)
  | .run operation => do
    let w ← (w.setMain operation.job).finish [mainTask]
    some (w.report (.ended (w.endingOf mainTask)) [mainTask])
  | .echo data => do
    let (reader, w) := w.addTask (BackgroundOperation.job (.read data.length))
    let w ← (w.setMain (BackgroundOperation.job (.write data))).finish [mainTask, reader]
    some (w.report (.echoed (w.endingOf mainTask) (w.endingOf reader)) [mainTask, reader])
  | .spawn operation =>
    let (task, w) := w.addTask operation.job
    some ({ w with background := w.background ++ [task] }.report .spawned [mainTask])
  | .join number => do
    let task ← w.background[number]?
    let w ← w.finish [task]
    some ({ w with joined := number :: w.joined }.report (.ended (w.endingOf task)) [mainTask, task])
  | .cloneHandle =>
    some ({ w with handles := w.handles + 1 }.report (.handle w.handles) [mainTask])

end Workplace

end Loopback
