import NameSlots.Service.Exchange

/-!
Requests that overlap. A request is checked when it comes; then it takes a slot, waits for one or is
turned down. It gives its slot back when it ends, however it ends. When the settings for the slots
change there are new slots, and requests that run give theirs back to those they took them from.
-/

namespace NameSlots.Service

/-- Gives a slot back; none can be given back that was not taken. -/
def Slots.release? (slots : Slots) : Option Slots :=
  if slots.taken = 0 then none else some slots.release

/-- Slots with the seconds that a request waits for one of them. -/
structure Limiter where
  slots : Slots
  queueTimeout : Double

namespace Limiter

/-- The slots that the service is set to, all of them free. -/
def ofSettings (settings : Settings) : Limiter where
  slots := .held settings.capacity 0
  queueTimeout := settings.queueTimeout

/-- Whether the service is still set to the slots. -/
def fits (limiter : Limiter) (settings : Settings) : Bool :=
  limiter.slots.capacity == settings.capacity && limiter.queueTimeout.equals settings.queueTimeout

/-- Whether requests wait for a slot. -/
def isPatient (limiter : Limiter) : Bool := !limiter.queueTimeout.isZero

end Limiter

/-- What a client is told, unless it is not told anything yet, and what is logged. -/
structure Response where
  reply : Option Reply := none
  log : List LogEntry := []

/-- A request that is not turned down, with the place of the slots that it uses. -/
structure Job where
  context : Context
  operation : Operation
  task : Task
  limiter : Nat

/-- How a request ends that holds a slot. -/
inductive Conclusion where
  | answered (answer : Answer)
  /-- The result is there but cannot be written. -/
  | unwritten (label : Label) (message : Text)
  | late
  | broken (message : Text)
  /-- The client does not wait for the answer any longer. -/
  | abandoned

/-- The failure of a request for which there is no task. -/
def PlanFault.failure : PlanFault → Failure
  | .refused why => .refused why
  | .broken message => .broken message

/-- What is told of what was done for a request. -/
def Context.respond (context : Context) (operation : Operation) (exchange : Exchange) : Response :=
  let written := context.ensureWritten operation.path exchange
  { reply := some written.reply, log := written.log }

namespace Job

def started (job : Job) : Response where
  log := [.start job.operation job.context.settings.timeout]

def turnedDown (job : Job) (limiter : Limiter) : Response :=
  job.context.respond job.operation (job.context.fail job.operation .acquire
    (.refused (.busy limiter.slots.capacity limiter.queueTimeout)))

def failed (job : Job) (failure : Failure) : Exchange :=
  job.context.fail job.operation (.work job.operation) failure

/-- What is made of a request that ends. -/
def conclude (job : Job) : Conclusion → Option Exchange
  | .answered answer =>
    some { reply := ⟨200, answer.toJson⟩
           log := [.done job.operation answer.label]
           slots := job.context.slots }
  | .unwritten label message =>
    let exchange := job.failed (.broken message)
    some { exchange with log := .done job.operation label :: exchange.log }
  | .late => some (job.failed (.late job.context.settings.timeout))
  | .broken message => some (job.failed (.broken message))
  | .abandoned => none

/-- What is told of a request that ends and gives its slot back. -/
def ended (job : Job) (conclusion : Conclusion) : Response :=
  match job.conclude conclusion with
  | some exchange => job.context.respond job.operation exchange
  | none => {}

/-- What is told of a request whose slot cannot be given back. -/
def overdrawn (job : Job) (conclusion : Conclusion) : Response where
  reply := some (job.context.brokenReply job.operation.path)
  log := ((job.conclude conclusion).map Exchange.log).getD [] ++ [.unanswered]

end Job

/-- What is going on: the slots, first those that were in use first, and who holds or waits for one
of them. -/
structure Traffic where
  limiters : List Limiter := []
  /-- The places of the slots that are held from outside. -/
  held : List Nat := []
  waiting : List Job := []
  running : List Job := []

/-- What happens next. -/
inductive Event where
  | arrive (context : Context) (operation : Operation) (body : Bytes)
  /-- A request that waits looks for a slot again. -/
  | retry (index : Nat)
  /-- A request has waited as long as it may. -/
  | giveUp (index : Nat)
  | finish (index : Nat) (timing : Timing) (conclusion : Conclusion)
  /-- Something other than a request takes a slot. -/
  | hold (settings : Settings)
  | letGo (index : Nat)

namespace Traffic

/-- The place of the slots that are in use. -/
def current (traffic : Traffic) : Nat := traffic.limiters.length - 1

/-- Sees to it that the slots are those that the service is set to. -/
def ready (traffic : Traffic) (settings : Settings) : Traffic :=
  if traffic.limiters.getLast?.any (·.fits settings) then traffic
  else { traffic with limiters := traffic.limiters ++ [.ofSettings settings] }

def take? (traffic : Traffic) (place : Nat) : Option Traffic := do
  let limiter ← traffic.limiters[place]?
  let slots ← limiter.slots.acquire?
  some { traffic with limiters := traffic.limiters.set place { limiter with slots } }

def give? (traffic : Traffic) (place : Nat) : Option Traffic := do
  let limiter ← traffic.limiters[place]?
  let slots ← limiter.slots.release?
  some { traffic with limiters := traffic.limiters.set place { limiter with slots } }

/-- Starts a request if a slot is free. -/
def start? (traffic : Traffic) (job : Job) : Option Traffic := do
  let after ← traffic.take? job.limiter
  some { after with running := after.running ++ [job] }

def arrive (traffic : Traffic) (context : Context) (operation : Operation) (body : Bytes) :
    Option (Traffic × Response) :=
  match Plan.task context.settings context.files operation body with
  | .error fault =>
    some (traffic, context.respond operation (context.fail operation .validate fault.failure))
  | .ok task => do
    let ready := traffic.ready context.settings
    let job : Job := { context, operation, task, limiter := ready.current }
    let limiter ← ready.limiters[job.limiter]?
    if limiter.isPatient then some ({ ready with waiting := ready.waiting ++ [job] }, {})
    else match ready.start? job with
      | some after => some (after, job.started)
      | none => some (ready, job.turnedDown limiter)

def retry (traffic : Traffic) (index : Nat) : Option (Traffic × Response) := do
  let job ← traffic.waiting[index]?
  match traffic.start? job with
  | some after => some ({ after with waiting := after.waiting.eraseIdx index }, job.started)
  | none => some (traffic, {})

def giveUp (traffic : Traffic) (index : Nat) : Option (Traffic × Response) := do
  let job ← traffic.waiting[index]?
  let limiter ← traffic.limiters[job.limiter]?
  some ({ traffic with waiting := traffic.waiting.eraseIdx index }, job.turnedDown limiter)

def finish (traffic : Traffic) (index : Nat) (timing : Timing) (conclusion : Conclusion) :
    Option (Traffic × Response) := do
  let job ← traffic.running[index]?
  let job := { job with context := { job.context with timing } }
  let rest := { traffic with running := traffic.running.eraseIdx index }
  match rest.give? job.limiter with
  | some after => some (after, job.ended conclusion)
  | none => some (rest, job.overdrawn conclusion)

def hold (traffic : Traffic) (settings : Settings) : Option (Traffic × Response) := do
  let ready := traffic.ready settings
  let after ← ready.take? ready.current
  some ({ after with held := after.held ++ [ready.current] }, {})

def letGo (traffic : Traffic) (index : Nat) : Option (Traffic × Response) := do
  let place ← traffic.held[index]?
  let after ← traffic.give? place
  some ({ after with held := after.held.eraseIdx index }, {})

/-- What comes of an event; none if it cannot happen. -/
def step (traffic : Traffic) : Event → Option (Traffic × Response)
  | .arrive context operation body => traffic.arrive context operation body
  | .retry index => traffic.retry index
  | .giveUp index => traffic.giveUp index
  | .finish index timing conclusion => traffic.finish index timing conclusion
  | .hold settings => traffic.hold settings
  | .letGo index => traffic.letGo index

/-- What is going on after events. -/
def run (traffic : Traffic) : List Event → Option Traffic
  | [] => some traffic
  | event :: events =>
    match traffic.step event with
    | some (after, _) => after.run events
    | none => none

/-- The slots that are taken, those that are no longer in use among them. -/
def inUse (traffic : Traffic) : Nat := traffic.limiters.foldr (·.slots.taken + ·) 0

end Traffic

end NameSlots.Service
