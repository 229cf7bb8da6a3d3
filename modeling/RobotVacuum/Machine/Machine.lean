import RobotVacuum.Ipc.Event
import RobotVacuum.Ipc.Mailbox
import RobotVacuum.Ipc.Mutex

/-!
# Threads inside the kernel

A machine runs threads over one kernel, at the granularity at which they can be preempted: a
step is a stretch of code that runs with interrupts disabled, or one statement. `Ctx` is where
a thread stands, as the layers of its stack from the top: handling a signal, inside
`rt_schedule`, inside a blocking call, and its own code. The thread on the processor executes
its topmost layer, and a tick interrupt can come between any two steps.

Labels say what happens. The thread on the processor executes a statement of its own
(`Label.act`), returns from a signal handler (`Label.hret`) or takes a step inside the kernel
(`Label.kern`); a tick charges the running thread and runs the timeout functions of the timers
that are due, each of which sends an event. What the threads' own code does is left open here,
so a property of all runs holds for every program.

After a fault, or for a thread that has ended, there is no further step.
-/

set_option linter.unusedSectionVars false

namespace RobotVacuum

/-! ### Where a thread stands -/

/-- The wait lists: threads wait for an event, for a mutex, for a mail or for room to send. -/
inductive WaitQueue (E M B : Type)
  | event (e : E)
  | mutex (m : M)
  | mail (b : B)
  | mailSender (b : B)
  deriving DecidableEq

/-- The signal layer: the thread is about to enter `rt_thread_handle_sig` with the given
`clean_state`, or its handler runs. With `clean_state` false the layer is a frame built by
`_signal_deliver` on the thread's stack. -/
inductive SigLayer
  | none
  | entry (cleanState : Bool)
  | running (cleanState : Bool) (signo : Signo)
  deriving DecidableEq, Repr

/-- The scheduling layer: about to call `rt_schedule`, or switched out by its own call. -/
inductive SchedLayer
  | none
  | calling
  | switched
  deriving DecidableEq, Repr

/-- `rt_event_recv`: before the error is reset, before the flags are tested, after waiting, and
before the error is returned. -/
inductive RecvStage
  | reset | enter | check | ret
  deriving DecidableEq, Repr

/-- `rt_mutex_take`: the first pass runs with interrupts disabled in one step. After waiting, a
thread interrupted by a signal repeats the section after `__again` with interrupts enabled, one
statement at a time. -/
inductive TakeStage
  | enter | check
  | test | decrement | setOwner | setOriginal | addHold
  | boost | suspend | link
  deriving DecidableEq, Repr

/-- `rt_mb_recv`: before the mailbox is tested, and after waiting. -/
inductive MailStage
  | enter | check
  deriving DecidableEq, Repr

/-- `rt_thread_kill`: before the test for a pending signal, before a node is allocated, before
it is queued, and before `_signal_deliver`. -/
inductive KillStage
  | check | alloc | enqueue | deliver
  deriving DecidableEq, Repr

/-- A call a thread is inside of. -/
inductive Call (T E M B : Type)
  | recv (e : E) (set : BitVec 32) (option : EventOption) (stage : RecvStage)
  | take (m : M) (stage : TakeStage)
  | mbRecv (b : B) (wait : Bool) (stage : MailStage)
  | kill (tid : T) (signo : Signo) (stage : KillStage)
  deriving DecidableEq

/-- Where a thread stands, and the results of its last calls. -/
structure Ctx (T E M B V : Type) where
  sig : SigLayer := .none
  sched : SchedLayer := .none
  call : Option (Call T E M B) := none
  ret : RtErr := .eok
  recved : BitVec 32 := 0
  mail : Option V := none
  /-- History variable: what the current or last call waits for was handed to the thread. -/
  granted : Bool := false

/-! ### Machines -/

/-- What a machine is built on: the addresses of the priority fields, the event and flags each
timer sends, and the idle thread. -/
structure Platform (T E M D : Type) where
  addr : T → BitVec 32
  originalAddr : M → BitVec 32
  timeout : D → E × BitVec 32
  idle : T

/-- The kernel, its objects, and where the threads stand. -/
structure Machine (T E M B D V : Type) where
  kernel : Kernel T (WaitQueue E M B)
  event : E → BitVec 32 := fun _ => 0
  mutex : M → Mutex T := fun _ => {}
  mailbox : B → Mailbox V
  timer : D → RtTimer := fun _ => {}
  ctx : T → Ctx T E M B V := fun _ => {}
  /-- History variable: how many waits for an event were satisfied for each thread. -/
  grants : T → ℕ := fun _ => 0

namespace Machine

variable {T E M B D V : Type} [DecidableEq T] [DecidableEq E] [DecidableEq M] [DecidableEq B]
  [DecidableEq D]

/-- The thread on the processor. -/
abbrev current (s : Machine T E M B D V) : T := s.kernel.currentThread

/-- Replace the kernel. -/
def withKernel (s : Machine T E M B D V) (k : Kernel T (WaitQueue E M B)) :
    Machine T E M B D V :=
  { s with kernel := k }

/-- Update where one thread stands. -/
def setCtx (s : Machine T E M B D V) (t : T) (f : Ctx T E M B V → Ctx T E M B V) :
    Machine T E M B D V :=
  { s with ctx := Function.update s.ctx t (f (s.ctx t)) }

/-- The running thread goes on at a stage of a call. -/
def setCall (s : Machine T E M B D V) (c : Call T E M B) : Machine T E M B D V :=
  s.setCtx s.current fun x => { x with call := some c }

/-- The running thread returns from its call. -/
def finish (s : Machine T E M B D V) (r : RtErr) : Machine T E M B D V :=
  s.setCtx s.current fun x => { x with call := none, ret := r }

/-- The running thread is about to call `rt_schedule`. -/
def reschedule (s : Machine T E M B D V) : Machine T E M B D V :=
  s.setCtx s.current fun x => { x with sched := .calling }

/-- Write a mutex. -/
def setMutex (s : Machine T E M B D V) (m : M) (x : Mutex T) : Machine T E M B D V :=
  { s with mutex := Function.update s.mutex m x }

/-- Record that the waits of some threads for an event were satisfied. -/
def grant (s : Machine T E M B D V) (l : List T) : Machine T E M B D V :=
  { s with
    ctx := fun t => if t ∈ l then { s.ctx t with granted := true } else s.ctx t
    grants := fun t => if t ∈ l then s.grants t + 1 else s.grants t }

/-- `rt_event_send` up to its scheduling, and whether it schedules. -/
def rtEventSend (s : Machine T E M B D V) (e : E) (set : BitVec 32) :
    Machine T E M B D V × Bool :=
  let r := s.kernel.eventSendWalk (s.event e ||| set) (s.kernel.queue (.wait (.event e)))
  ({ s with kernel := r.1, event := Function.update s.event e r.2.1 }.grant r.2.2.1,
    !r.2.2.1.isEmpty && r.2.2.2)

/-! ### Steps inside the kernel -/

/-- The flags the running thread waits for are there, and it takes them. -/
def takeFlags (s : Machine T E M B D V) (e : E) (set : BitVec 32) (option : EventOption) :
    Machine T E M B D V :=
  let flags := s.event e &&& set
  { s with
    kernel := s.kernel.modify s.current fun th => { th with eventSet := flags, eventInfo := option }
    event := if option.clear then Function.update s.event e (s.event e &&& ~~~set) else s.event
    ctx := Function.update s.ctx s.current
      { s.ctx s.current with recved := flags, granted := true, call := some (.recv e set option .ret) }
    grants := Function.update s.grants s.current (s.grants s.current + 1) }

/-- `rt_event_recv(e, set, option, RT_WAITING_FOREVER, &recved)`. -/
def stepRecv (s : Machine T E M B D V) (e : E) (set : BitVec 32) (option : EventOption) :
    RecvStage → Machine T E M B D V
  | .reset =>
    (s.withKernel (s.kernel.setError s.current .eok)).setCall (.recv e set option .enter)
  | .enter =>
    match Kernel.eventStatus option set (s.event e) with
    | none => s.withKernel (s.kernel.raise .assertion)
    | some true => s.takeFlags e set option
    | some false =>
      let k := s.kernel.modify s.current fun th => { th with eventSet := set, eventInfo := option }
      ((s.withKernel (k.ipcListSuspend (.event e) s.current .fifo)).setCall
        (.recv e set option .check)).reschedule
  | .check =>
    let th := s.kernel.thread s.current
    if th.error ≠ .eok then s.finish th.error
    else (s.setCtx s.current fun x => { x with recved := th.eventSet }).setCall
      (.recv e set option .ret)
  | .ret => s.finish (s.kernel.thread s.current).error

/-- `rt_mutex_take(m, RT_WAITING_FOREVER)`. -/
def stepTake (p : Platform T E M D) (s : Machine T E M B D V) (m : M) :
    TakeStage → Machine T E M B D V
  | .enter =>
    let r := s.kernel.rtMutexTake (s.mutex m) (.mutex m) p.addr (-1)
    let s := (s.withKernel r.1).setMutex m r.2.1
    match r.2.2 with
    | some e => s.finish e
    | none => (s.setCall (.take m .check)).reschedule
  | .check =>
    match (s.kernel.thread s.current).error with
    | .eintr => s.setCall (.take m .test)
    | e => s.finish e
  | .test =>
    if 0 < (s.mutex m).value then s.setCall (.take m .decrement) else s.setCall (.take m .boost)
  | .decrement => (s.setMutex m (s.mutex m).decrement).setCall (.take m .setOwner)
  | .setOwner => (s.setMutex m ((s.mutex m).setOwner s.current)).setCall (.take m .setOriginal)
  | .setOriginal =>
    (s.setMutex m ((s.mutex m).setOriginalPriority (s.kernel.prio s.current))).setCall
      (.take m .addHold)
  | .addHold =>
    let r := (s.mutex m).addHold
    (s.setMutex m r.1).finish r.2
  | .boost =>
    (s.withKernel (s.kernel.changeOwnerPriority (s.mutex m) p.addr s.current)).setCall
      (.take m .suspend)
  | .suspend =>
    if s.kernel.state s.current = .suspend then s.withKernel (s.kernel.raise .relink)
    else (s.withKernel (s.kernel.rtThreadSuspend s.current)).setCall (.take m .link)
  | .link =>
    -- a signal may have resumed the thread since it suspended itself
    if s.kernel.state s.current ≠ .suspend then s.withKernel (s.kernel.raise .relink)
    else ((s.withKernel (s.kernel.rtListInsertWait (.mutex m) s.current .prio)).setCall
      (.take m .check)).reschedule

/-- `rt_mb_recv(b, &mail, timeout)`, where the timeout is `RT_WAITING_FOREVER` if `wait` is set
and `RT_WAITING_NO` otherwise. -/
def stepMbRecv (s : Machine T E M B D V) (b : B) (wait : Bool) : MailStage → Machine T E M B D V
  | .enter =>
    if (s.mailbox b).entry = 0 then
      if !wait then s.finish .etimeout
      else
        let k := s.kernel.setError s.current .eok
        ((s.withKernel (k.ipcListSuspend (.mail b) s.current .fifo)).setCall
          (.mbRecv b wait .check)).reschedule
    else
      let r := (s.mailbox b).take
      let s := { s with mailbox := Function.update s.mailbox b r.1 }
      let s := (s.setCtx s.current fun x => { x with mail := some r.2, granted := true }).finish .eok
      match s.kernel.queue (.wait (.mailSender b)) with
      | [] => s
      | w :: _ => (s.withKernel (s.kernel.rtThreadResume w)).reschedule
  | .check =>
    let th := s.kernel.thread s.current
    if th.error ≠ .eok then s.finish th.error else s.setCall (.mbRecv b wait .enter)

/-- `_signal_deliver`, with the scheduling it may call for, and the return of the caller. -/
def signalDeliver (s : Machine T E M B D V) (tid : T) : Machine T E M B D V :=
  let th := s.kernel.thread tid
  if !th.deliverable then s.finish .eok
  else if th.stat.state = .suspend then
    -- a suspended thread is resumed, and looks at the pending mark when it is dispatched
    let k := (s.kernel.rtThreadResume tid).modify tid fun th =>
      { th with stat := { th.stat with signal := true, signalPending := true } }
    ((s.withKernel k).finish .eok).reschedule
  else if tid = s.current then
    let k := s.kernel.modify tid fun th => { th with stat := { th.stat with signal := true } }
    ((s.withKernel k).finish .eok).setCtx tid fun x => { x with sig := .entry true }
  else if !th.stat.signal then
    -- a frame that handles the signals is put on the stack of the thread
    let k := s.kernel.modify tid fun th =>
      { th with stat := { th.stat with signal := true, signalPending := false } }
    (((s.withKernel k).finish .eok).setCtx tid fun x => { x with sig := .entry false }).reschedule
  else s.finish .eok

/-- `rt_thread_kill(tid, signo)`. -/
def stepKill (s : Machine T E M B D V) (tid : T) (signo : Signo) :
    KillStage → Machine T E M B D V
  | .check =>
    let th := s.kernel.thread tid
    if th.sigPending signo = true ∧ signo ∈ th.siList then s.finish .eok
    else s.setCall (.kill tid signo .alloc)
  | .alloc =>
    if s.kernel.siginfoPool = 0 then s.setCall (.kill tid signo .deliver)
    else (s.withKernel { s.kernel with siginfoPool := s.kernel.siginfoPool - 1 }).setCall
      (.kill tid signo .enqueue)
  | .enqueue =>
    (s.withKernel (s.kernel.modify tid fun th =>
      { th with
        siList := th.siList ++ [signo]
        sigPending := Function.update th.sigPending signo true })).setCall
      (.kill tid signo .deliver)
  | .deliver => s.signalDeliver tid

/-- The loop of `rt_thread_handle_sig`: run the handler of the next queued signal, or end the
signal layer. Ending it clears the signal bit, either in `rt_thread_handle_sig` or in
`_signal_entry`. -/
def handleLoop (s : Machine T E M B D V) (cleanState : Bool) : Machine T E M B D V :=
  let t := s.current
  let ended := (s.withKernel (s.kernel.modify t fun th =>
    { th with stat := { th.stat with signal := false } })).setCtx t fun x => { x with sig := .none }
  if (s.kernel.thread t).deliverable then
    match (s.kernel.thread t).siList with
    | [] => ended
    | signo :: rest =>
      (s.withKernel (s.kernel.modify t fun th =>
        { th with
          siList := rest
          sigPending := Function.update th.sigPending signo false })).setCtx t fun x =>
            { x with sig := .running cleanState signo }
  else ended

/-- Entering `rt_thread_handle_sig`. With nothing to deliver it returns at once, and then only
`_signal_entry` clears the signal bit. -/
def enterHandleSig (s : Machine T E M B D V) (cleanState : Bool) : Machine T E M B D V :=
  let th := s.kernel.thread s.current
  if th.deliverable && !th.stat.signalWait then s.handleLoop cleanState
  else if cleanState then s.setCtx s.current fun x => { x with sig := .none }
  else (s.withKernel (s.kernel.modify s.current fun th =>
    { th with stat := { th.stat with signal := false } })).setCtx s.current fun x =>
      { x with sig := .none }

/-- The return of a handler: the node is freed, the error becomes `-RT_EINTR`, and the loop goes
on. -/
def returnHandler (s : Machine T E M B D V) (cleanState : Bool) : Machine T E M B D V :=
  (s.withKernel
    { s.kernel.setError s.current .eintr with siginfoPool := s.kernel.siginfoPool + 1 }).handleLoop
    cleanState

/-- The call of `rt_schedule` by the running thread. -/
def callSchedule (s : Machine T E M B D V) : Machine T E M B D V :=
  let k := s.kernel.rtSchedule
  (s.withKernel k).setCtx s.current fun x =>
    { x with sched := if k.currentThread = s.current then .none else .switched }

/-- What `rt_schedule` does when the thread it switched out is dispatched again: handle the
signals if they are marked pending. -/
def afterSwitch (s : Machine T E M B D V) : Machine T E M B D V :=
  if (s.kernel.thread s.current).stat.signalPending then
    (s.withKernel (s.kernel.modify s.current fun th =>
      { th with stat := { th.stat with signalPending := false } })).setCtx s.current fun x =>
        { x with sched := .none, sig := .entry true }
  else s.setCtx s.current fun x => { x with sched := .none }

/-- A step inside a call. -/
def stepCall (p : Platform T E M D) (s : Machine T E M B D V) : Call T E M B → Machine T E M B D V
  | .recv e set option stage => s.stepRecv e set option stage
  | .take m stage => s.stepTake p m stage
  | .mbRecv b wait stage => s.stepMbRecv b wait stage
  | .kill tid signo stage => s.stepKill tid signo stage

/-! ### Statements of the threads -/

/-- What one statement of a thread does to the machine. -/
inductive Act (T E M B D V : Type)
  /-- A statement that touches nothing of the machine. -/
  | local
  | recv (e : E) (set : BitVec 32) (option : EventOption)
  | send (e : E) (set : BitVec 32)
  | take (m : M)
  | release (m : M)
  | mbSend (b : B) (v : V)
  | mbRecv (b : B) (wait : Bool)
  | kill (tid : T) (signo : Signo)
  | mask (signo : Signo)
  | unmask (signo : Signo)
  /-- `rt_thread_control` with `RT_THREAD_CTRL_CHANGE_PRIORITY`. -/
  | control (t : T) (arg : BitVec 32)
  | setPreemptableFlag (t : T) (b : Bool)
  | startup (t : T)
  | detach (t : T)
  /-- The return from the entry function. -/
  | exit
  | timerStart (d : D)
  | timerStop (d : D)
  | timerDetach (d : D)
  | setTaskStarted (duration : ℕ)
  | setTaskEnded

/-- The statements a signal handler may execute: none of them waits or schedules. -/
def Act.inHandler : Act T E M B D V → Bool
  | .local | .mask _ | .control _ _ | .setPreemptableFlag _ _ => true
  | _ => false

/-- The idle thread does nothing, and no thread detaches itself or the idle thread. -/
def Act.Permitted (p : Platform T E M D) (t : T) : Act T E M B D V → Prop
  | .local => True
  | .detach x => t ≠ p.idle ∧ x ≠ t ∧ x ≠ p.idle
  | _ => t ≠ p.idle

instance (p : Platform T E M D) (t : T) (a : Act T E M B D V) : Decidable (a.Permitted p t) := by
  cases a <;> unfold Act.Permitted <;> infer_instance

/-- Set the result of the last call. -/
def setRet (s : Machine T E M B D V) (r : RtErr) : Machine T E M B D V :=
  s.setCtx s.current fun x => { x with ret := r }

/-- Begin a call that may wait. -/
def beginCall (s : Machine T E M B D V) (c : Call T E M B) : Machine T E M B D V :=
  s.setCtx s.current fun x => { x with call := some c, granted := false }

/-- Write a timer, which must not be detached. -/
def setTimer (s : Machine T E M B D V) (d : D) (x : RtTimer) : Machine T E M B D V :=
  if !(s.timer d).attached then s.withKernel (s.kernel.raise .assertion)
  else { s with timer := Function.update s.timer d x }

/-- Write a field of the running thread. -/
def modifyCurrent (s : Machine T E M B D V) (f : Thread → Thread) : Machine T E M B D V :=
  s.withKernel (s.kernel.modify s.current f)

/-- `rt_signal_unmask`: a signal that was pending is delivered at once. -/
def rtSignalUnmask (s : Machine T E M B D V) (signo : Signo) : Machine T E M B D V :=
  let s := s.modifyCurrent fun th => { th with sigMask := Function.update th.sigMask signo true }
  if (s.kernel.thread s.current).deliverable then s.setCall (.kill s.current signo .deliver) else s

/-- Execute a statement of the running thread. -/
def perform (p : Platform T E M D) (s : Machine T E M B D V) :
    Act T E M B D V → Machine T E M B D V
  | .local => s
  | .recv e set option =>
    if set = 0 then s.setRet .error else s.beginCall (.recv e set option .reset)
  | .send e set =>
    if set = 0 then s.setRet .error
    else
      let r := s.rtEventSend e set
      if r.2 then (r.1.setRet .eok).reschedule else r.1.setRet .eok
  | .take m => s.beginCall (.take m .enter)
  | .release m =>
    let r := s.kernel.rtMutexRelease (s.mutex m) (.mutex m) (p.originalAddr m)
    let s := ((s.withKernel r.1).setMutex m r.2.1).setRet r.2.2.1
    if r.2.2.2 then s.reschedule else s
  | .mbSend b v =>
    let r := (s.mailbox b).rtMbSend v
    let s := { s with mailbox := Function.update s.mailbox b r.1 }.setRet r.2
    match r.2, s.kernel.queue (.wait (.mail b)) with
    | .eok, w :: _ => (s.withKernel (s.kernel.rtThreadResume w)).reschedule
    | _, _ => s
  | .mbRecv b wait => s.beginCall (.mbRecv b wait .enter)
  | .kill tid signo => s.setCall (.kill tid signo .check)
  | .mask signo =>
    s.modifyCurrent fun th => { th with sigMask := Function.update th.sigMask signo false }
  | .unmask signo => s.rtSignalUnmask signo
  | .control t arg => s.withKernel (s.kernel.rtThreadControl t arg)
  | .setPreemptableFlag t b => s.withKernel (s.kernel.setPreemptableFlag t b)
  | .startup t => (s.withKernel (s.kernel.rtThreadStartupQueue t)).reschedule
  | .detach t => (s.withKernel (s.kernel.rtThreadDetach t)).setRet .eok
  | .exit => s.withKernel s.kernel.threadExit
  | .timerStart d => s.setTimer d { activated := true }
  | .timerStop d => s.setTimer d { activated := false }
  | .timerDetach d => s.setTimer d { attached := false, activated := false }
  | .setTaskStarted duration => s.withKernel (s.kernel.setTaskStarted s.current duration)
  | .setTaskEnded => s.withKernel (s.kernel.setTaskEnded s.current)

/-! ### Steps -/

/-- What happens next. -/
inductive Label (T E M B D V : Type)
  | act (a : Act T E M B D V)
  | hret
  | kern
  | tick (due : List D)

/-- The running thread executes its own code. -/
def AtUser (s : Machine T E M B D V) : Prop :=
  (s.ctx s.current).sig = .none ∧ (s.ctx s.current).sched = .none ∧ (s.ctx s.current).call = none

instance (s : Machine T E M B D V) : Decidable s.AtUser := by
  unfold AtUser
  infer_instance

/-- The timeout function of a timer, run by the tick interrupt: it sends an event and schedules
at once if a thread was resumed. -/
def rtTimerTimeout (p : Platform T E M D) (s : Machine T E M B D V) (d : D) :
    Machine T E M B D V :=
  let r := s.rtEventSend (p.timeout d).1 (p.timeout d).2
  if r.2 then r.1.withKernel r.1.kernel.rtSchedule else r.1

/-- `rt_tick_increase`, with the timers that are due in the order they expire. -/
def rtTickIncrease (p : Platform T E M D) (s : Machine T E M B D V) (due : List D) :
    Machine T E M B D V :=
  due.foldl (rtTimerTimeout p) (s.withKernel s.kernel.rtTickCharge)

/-- A step inside the kernel, unless the running thread executes its own code or a handler. -/
def stepKern (p : Platform T E M D) (s : Machine T E M B D V) : Option (Machine T E M B D V) :=
  match (s.ctx s.current).sig, (s.ctx s.current).sched, (s.ctx s.current).call with
  | .entry cleanState, _, _ => some (s.enterHandleSig cleanState)
  | .running _ _, _, _ => none
  | .none, .calling, _ => some s.callSchedule
  | .none, .switched, _ => some s.afterSwitch
  | .none, .none, some c => some (s.stepCall p c)
  | .none, .none, none => none

/-- Execute a statement, of the thread's own code or of its handler. -/
def stepAct (p : Platform T E M D) (s : Machine T E M B D V) (a : Act T E M B D V) :
    Option (Machine T E M B D V) :=
  match (s.ctx s.current).sig with
  | .running _ _ => if a.inHandler ∧ a.Permitted p s.current then some (s.perform p a) else none
  | _ => if s.AtUser ∧ a.Permitted p s.current then some (s.perform p a) else none

/-- Return from the handler. -/
def stepHret (s : Machine T E M B D V) : Option (Machine T E M B D V) :=
  match (s.ctx s.current).sig with
  | .running cleanState _ => some (s.returnHandler cleanState)
  | _ => none

/-- One step: none after a fault, and none of a thread that has ended but ticks. -/
def step (p : Platform T E M D) (s : Machine T E M B D V) :
    Label T E M B D V → Option (Machine T E M B D V)
  | .tick due =>
    if s.kernel.fault = none ∧ due.Nodup ∧
        ∀ d ∈ due, (s.timer d).attached = true ∧ (s.timer d).activated = true then
      some (s.rtTickIncrease p due)
    else none
  | .act a =>
    if s.kernel.fault = none ∧ s.kernel.state s.current ≠ .close then s.stepAct p a else none
  | .hret => if s.kernel.fault = none ∧ s.kernel.state s.current ≠ .close then s.stepHret else none
  | .kern =>
    if s.kernel.fault = none ∧ s.kernel.state s.current ≠ .close then s.stepKern p else none

end Machine

end RobotVacuum
