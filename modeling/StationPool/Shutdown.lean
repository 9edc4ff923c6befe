import StationPool.Time.Duration

/-!
# Shutting down

A signal that is triggered once and for all, by a call or by a listener that heard the termination
or the interruption signal of the system. Whoever waits is released when it is triggered. A child
of the signal is cancelled with it, or by itself without touching the signal or its other children;
a child that is taken after the signal was triggered is cancelled from the start.

A cleanup waits for the signal, then has the grace period for its work, counted from its own start.
Work that is done is noticed before the end of the grace period is.
-/

namespace StationPool

/-- The signals of the system that mean a shutdown. -/
inductive SystemSignal where
  | terminate
  | interrupt
  deriving DecidableEq, Repr

namespace Shutdown

/-- What comes of installing handlers for the signals of the system. -/
inductive Handlers where
  | both
  /-- They cannot be had together, but the one for the interruption can. -/
  | interruptOnly
  | neither
  deriving DecidableEq, Repr

/-- Whether a signal of the system is handled. -/
def Handlers.hear : Handlers → SystemSignal → Bool
  | .both, _ => true
  | .interruptOnly, signal => signal == .interrupt
  | .neither, _ => false

/-- How far a listener to the system is. -/
inductive Listener where
  /-- Before it installs handlers. -/
  | starting (handlers : Handlers)
  | listening (handlers : Handlers)
  /-- A signal that it listens to was raised. -/
  | heard
  | over
  deriving DecidableEq, Repr

/-- A signal of the system is raised. -/
def Listener.raise (signal : SystemSignal) : Listener → Listener
  | .listening handlers => if handlers.hear signal then .heard else .listening handlers
  | other => other

/-- How far a cleanup is. -/
inductive Stage where
  /-- Before the signal. -/
  | waiting
  /-- At work since a moment. -/
  | working (since : Nat)
  deriving DecidableEq, Repr

/-- A cleanup that goes on. -/
structure Cleanup where
  call : Nat
  /-- The time its work takes, in nanoseconds. -/
  needs : Nat
  stage : Stage := .waiting
  deriving DecidableEq, Repr

/-- What a caller asks for. -/
inductive Request where
  | wait
  /-- A cleanup with work for so many nanoseconds. -/
  | cleanUp (needs : Nat)
  deriving DecidableEq, Repr

/-- What a call comes to. -/
inductive Ending where
  | released
  /-- A cleanup ended; whether its work was done in time. -/
  | cleaned (inTime : Bool)
  deriving DecidableEq, Repr

/-- Something that happened. -/
inductive Happening where
  | triggered
  | called (call : Nat) (request : Request)
  /-- The work of a cleanup began. -/
  | started (call : Nat)
  | ended (call : Nat) (ending : Ending)
  deriving DecidableEq, Repr

/-- The call that something happened to. -/
def Happening.call? : Happening → Option Nat
  | .triggered => none
  | .called call _ => some call
  | .started call => some call
  | .ended call _ => some call

/-- Something that happened, and when. -/
structure Entry where
  moment : Nat
  what : Happening
  deriving DecidableEq, Repr

end Shutdown

open Shutdown in
/-- A shutdown coordinator in use. -/
structure Shutdown where
  /-- The grace period. -/
  grace : Duration := .ofSecs 30
  now : Nat := 0
  triggered : Bool := false
  /-- Every listener ever started. -/
  listeners : List Listener := []
  /-- Every child ever taken: whether it is cancelled. -/
  children : List Bool := []
  /-- The number of the next call. -/
  fresh : Nat := 0
  /-- The calls that wait for the signal. -/
  waiting : List Nat := []
  cleanups : List Cleanup := []
  /-- What happened, the last first. -/
  history : List Entry := []
  deriving DecidableEq

namespace Shutdown

/-- Writes down something that happens now. -/
def note (s : Shutdown) (what : Happening) : Shutdown :=
  { s with history := ⟨s.now, what⟩ :: s.history }

/-- The signal is triggered, and every child is cancelled with it. -/
def trigger (s : Shutdown) : Shutdown :=
  if s.triggered then s
  else { s with triggered := true, children := s.children.map fun _ => true }.note .triggered

/-- A listener is started; `handlers` is what it will have. -/
def listen (s : Shutdown) (handlers : Handlers) : Shutdown :=
  { s with listeners := s.listeners ++ [.starting handlers] }

/-- The system raises a signal. -/
def raise (s : Shutdown) (signal : SystemSignal) : Shutdown :=
  { s with listeners := s.listeners.map (·.raise signal) }

/-- One more child; it is the last of `children`. -/
def takeChild (s : Shutdown) : Shutdown := { s with children := s.children ++ [s.triggered] }

/-- A child is cancelled by itself. -/
def cancelChild (s : Shutdown) (child : Nat) : Option Shutdown :=
  if child < s.children.length then some { s with children := s.children.set child true } else none

/-- Whether a child is cancelled. -/
def isCancelled (s : Shutdown) (child : Nat) : Bool := (s.children[child]?).getD false

/-- A call is made; it has the number `fresh`. -/
def begin (s : Shutdown) (request : Request) : Shutdown :=
  let call := s.fresh
  let s := { s with fresh := call + 1 }.note (.called call request)
  match request with
  | .wait => { s with waiting := s.waiting ++ [call] }
  | .cleanUp needs => { s with cleanups := s.cleanups ++ [{ call := call, needs := needs }] }

/-! ## Looks -/

/-- A look of a listener. -/
def lookListener (s : Shutdown) (listener : Nat) : Option Shutdown :=
  match s.listeners[listener]? with
  | some (.starting .neither) => some { s with listeners := s.listeners.set listener .over }
  | some (.starting handlers) =>
    some { s with listeners := s.listeners.set listener (.listening handlers) }
  | some .heard => some { s with listeners := s.listeners.set listener .over }.trigger
  | _ => none

/-- A look of a call that waits for the signal. -/
def lookWait (s : Shutdown) (call : Nat) : Option Shutdown :=
  if s.triggered && s.waiting.contains call then
    some ({ s with waiting := s.waiting.filter (· != call) }.note (.ended call .released))
  else none

/-- How the work of a cleanup ends, if it does. -/
def workEnding? (now grace since needs : Nat) : Option Bool :=
  if since + needs ≤ now then some true
  else if since + grace ≤ now then some false
  else none

/-- The cleanup of a call. -/
def cleanup? (s : Shutdown) (call : Nat) : Option Cleanup := s.cleanups.find? (·.call == call)

/-- The work of a cleanup ends. -/
def endCleanup (s : Shutdown) (call : Nat) (inTime : Bool) : Shutdown :=
  { s with cleanups := s.cleanups.filter (·.call != call) }.note (.ended call (.cleaned inTime))

/-- A cleanup is at work from now on. -/
def setToWork (s : Shutdown) (call : Nat) : Shutdown :=
  { s with
    cleanups := s.cleanups.map fun c =>
      if c.call = call then { c with stage := .working s.now } else c }

/-- The work of a cleanup begins; where it needs no time, or has none, it ends at once. -/
def startCleanup (s : Shutdown) (c : Cleanup) : Shutdown :=
  let s := s.note (.started c.call)
  match workEnding? s.now s.grace.nanos s.now c.needs with
  | some inTime => s.endCleanup c.call inTime
  | none => s.setToWork c.call

/-- A look of a cleanup. -/
def lookCleanup (s : Shutdown) (call : Nat) : Option Shutdown :=
  (s.cleanup? call).bind fun c =>
    match c.stage with
    | .waiting => if s.triggered then some (s.startCleanup c) else none
    | .working since => (workEnding? s.now s.grace.nanos since c.needs).map (s.endCleanup call)

/-! ## Steps -/

/-- What may happen to a coordinator. -/
inductive Action where
  | trigger
  | listen (handlers : Handlers)
  | raise (signal : SystemSignal)
  | takeChild
  | cancelChild (child : Nat)
  | call (request : Request)
  | lookListener (listener : Nat)
  | lookWait (call : Nat)
  | lookCleanup (call : Nat)
  /-- The clock moves on by so many nanoseconds. -/
  | advance (nanos : Nat)
  deriving DecidableEq

/-- The coordinator after an action; none where the action is not possible. -/
def step (s : Shutdown) : Action → Option Shutdown
  | .trigger => some s.trigger
  | .listen handlers => some (s.listen handlers)
  | .raise signal => some (s.raise signal)
  | .takeChild => some s.takeChild
  | .cancelChild child => s.cancelChild child
  | .call request => some (s.begin request)
  | .lookListener listener => s.lookListener listener
  | .lookWait call => s.lookWait call
  | .lookCleanup call => s.lookCleanup call
  | .advance nanos => some { s with now := s.now + nanos }

/-- The looks of the listeners and of the calls that go on. -/
def looks (s : Shutdown) : List Action :=
  (List.range s.listeners.length).map .lookListener ++ s.waiting.map .lookWait ++
    s.cleanups.map (.lookCleanup ·.call)

/-- Lets every listener and every call that goes on look once. -/
def settle (s : Shutdown) : Shutdown := s.looks.foldl (fun s a => (s.step a).getD s) s

/-- An action, and all that follows from it without the clock. -/
def act (s : Shutdown) (a : Action) : Shutdown := ((s.step a).getD s).settle

/-! ## Runs -/

/-- The moments at which cleanups at work end: when the work is done, or the grace period over. -/
def dues (s : Shutdown) : List Nat :=
  s.cleanups.filterMap fun c =>
    match c.stage with
    | .waiting => none
    | .working since => some (since + min c.needs s.grace.nanos)

/-- The clock moves on only when nobody has anything to do, and not past a moment at which someone
will have. -/
def InTime (s : Shutdown) : Action → Prop
  | .advance nanos =>
    (∀ a ∈ s.looks, (s.step a).isNone = true) ∧ ∀ due ∈ s.dues, s.now + nanos ≤ due
  | _ => True

/-- The actions, the last first, lead from a new coordinator to this one; if the run is punctual,
each was in time. -/
inductive Course (grace : Duration) (punctual : Prop) : List Action → Shutdown → Prop where
  | new : Course grace punctual [] { grace := grace }
  | step {as : List Action} {s s' : Shutdown} (a : Action) : Course grace punctual as s →
      (punctual → s.InTime a) → s.step a = some s' → Course grace punctual (a :: as) s'

end Shutdown

end StationPool
