import StationPool.Proofs.Shutdown.Signal

/-!
# The calls of a shutdown

What is written down of a call is one of six stories (`Story`), and each step adds to one of them at
most. The stories carry the times: in a punctual run, a call that waits goes on in the moment of its
making or of the trigger, whichever is later, and a cleanup ends when its work is done or the grace
period over, whichever is first.
-/

namespace StationPool

namespace Shutdown

variable {grace : Duration} {punctual : Prop} {as : List Action} {s s' : Shutdown} {a : Action}
  {e : Entry} {call other m n : Nat}

/-! ## The trigger in the history -/

/-- The signal was triggered at a moment. -/
def TriggeredAt (s : Shutdown) (t : Nat) : Prop := ⟨t, .triggered⟩ ∈ s.history

/-- A trigger is written down, and once. -/
structure Noted (s : Shutdown) : Prop where
  told : s.triggered = true ↔ ∃ t, s.TriggeredAt t
  once : ∀ t t', s.TriggeredAt t → s.TriggeredAt t' → t = t'
  past : ∀ t, s.TriggeredAt t → t ≤ s.now

/-! ## Stories -/

/-- What is written down of a call, the last first. -/
def about (s : Shutdown) (call : Nat) : List Entry :=
  s.history.filter fun e => e.what.call? = some call

/-- Where a call is: whether it waits for the signal, and its cleanup. -/
def place (s : Shutdown) (call : Nat) : Bool × Option Cleanup :=
  (s.waiting.contains call, s.cleanup? call)

/-- A call made at `m` waits for the signal, in a punctual run since no time where the signal is
triggered. -/
def Waits (s : Shutdown) (punctual : Prop) (m : Nat) : Prop :=
  m ≤ s.now ∧ (punctual → ∀ t, s.TriggeredAt t → s.now = max m t)

/-- A call made at `m` had the signal at `n`, in a punctual run as soon as it could. -/
def Met (s : Shutdown) (punctual : Prop) (m n : Nat) : Prop :=
  ∃ t, s.TriggeredAt t ∧ max m t ≤ n ∧ (punctual → n = max m t)

/-- What happens to a call. -/
inductive Story (punctual : Prop) (s : Shutdown) (call : Nat) : Prop where
  | unmade (later : s.fresh ≤ call) (place : s.place call = (false, none))
    (about : s.about call = [])
  /-- A wait for the signal. -/
  | waiting {m : Nat} (made : call < s.fresh) (place : s.place call = (true, none))
    (about : s.about call = [⟨m, .called call .wait⟩]) (waits : s.Waits punctual m)
  /-- A wait that was released. -/
  | released {m n : Nat} (made : call < s.fresh) (place : s.place call = (false, none))
    (about : s.about call = [⟨n, .ended call .released⟩, ⟨m, .called call .wait⟩])
    (met : s.Met punctual m n)
  /-- A cleanup before the signal. -/
  | ready {m needs : Nat} (made : call < s.fresh)
    (place : s.place call = (false, some ⟨call, needs, .waiting⟩))
    (about : s.about call = [⟨m, .called call (.cleanUp needs)⟩]) (waits : s.Waits punctual m)
  /-- A cleanup at work, its end not missed. -/
  | working {m since needs : Nat} (made : call < s.fresh)
    (place : s.place call = (false, some ⟨call, needs, .working since⟩))
    (about : s.about call = [⟨since, .started call⟩, ⟨m, .called call (.cleanUp needs)⟩])
    (met : s.Met punctual m since) (begun : since ≤ s.now)
    (inTime : punctual → s.now ≤ since + min needs s.grace.nanos)
  /-- A cleanup that ended. -/
  | cleaned {m since n needs : Nat} {inTime : Bool} (made : call < s.fresh)
    (place : s.place call = (false, none))
    (about : s.about call = [⟨n, .ended call (.cleaned inTime)⟩, ⟨since, .started call⟩,
      ⟨m, .called call (.cleanUp needs)⟩])
    (met : s.Met punctual m since) (done : inTime = true → since + needs ≤ n)
    (late : inTime = false → since + s.grace.nanos ≤ n ∧ n < since + needs)
    (exact_ : punctual → n = since + min needs s.grace.nanos ∧
      (inTime = true ↔ needs ≤ s.grace.nanos))

/-! ## What steps leave of a call -/

/-- An entry of the history joins what is written down of its own call and of no other. -/
theorem about_cons (h : s'.history = e :: s.history) : s'.about call =
    if e.what.call? = some call then e :: s.about call else s.about call := by
  unfold about
  rw [h, List.filter_cons]
  simp only [decide_eq_true_eq]

/-- What another call did changes nothing in what is written down of a call. -/
theorem about_other (h : s'.history = e :: s.history) (other : e.what.call? ≠ some call) :
    s'.about call = s.about call := (about_cons h).trans (if_neg other)

/-- What a call does is the newest thing written down of it. -/
theorem about_self (h : s'.history = e :: s.history) (own : e.what.call? = some call) :
    s'.about call = e :: s.about call := (about_cons h).trans (if_pos own)

/-- What is not written down as a trigger is none. -/
theorem triggeredAt_cons {t : Nat} (h : s'.history = e :: s.history) (other : e.what ≠ .triggered) :
    s'.TriggeredAt t ↔ s.TriggeredAt t := by
  rw [TriggeredAt, h, List.mem_cons]
  exact or_iff_right fun eq => other (by rw [← eq])

/-- A step that triggers the signal adds its own moment to the moments of a trigger, and no other.
-/
theorem triggeredAt_trigger {t : Nat} (h : s'.history = ⟨n, .triggered⟩ :: s.history) :
    s'.TriggeredAt t ↔ t = n ∨ s.TriggeredAt t := by
  rw [TriggeredAt, h, List.mem_cons, Entry.mk.injEq]
  exact or_congr_left (and_iff_left rfl)

/-- A cleanup that has ended is in no list any more. -/
theorem cleanup?_endCleanup_self (s : Shutdown) (call : Nat) (inTime : Bool) :
    (s.endCleanup call inTime).cleanup? call = none := by
  simp [cleanup?, endCleanup, note]

/-- Where one cleanup ends, the others stay where they are. -/
theorem cleanup?_endCleanup_other (apart : other ≠ call) (s : Shutdown) (inTime : Bool) :
    (s.endCleanup call inTime).cleanup? other = s.cleanup? other := by
  rw [cleanup?, endCleanup, note, List.find?_filter]
  refine congrArg (List.find? · s.cleanups) (funext fun c => ?_)
  by_cases own : c.call = other
  · simp [own, apart]
  · simp [own]

/-- To set a cleanup to work changes the stage of that cleanup only. `Option.map` says it for all
calls at once, the others unchanged. -/
theorem cleanup?_setToWork (s : Shutdown) (call other : Nat) :
    (s.setToWork call).cleanup? other = (s.cleanup? other).map fun c =>
      if c.call = call then { c with stage := .working s.now } else c := by
  rw [cleanup?, setToWork, List.find?_map]
  refine congrArg (Option.map _ <| List.find? · s.cleanups) (funext fun c => ?_)
  rw [Function.comp_apply]
  split <;> rfl

theorem contains_filter_self (call : Nat) (cs : List Nat) :
    (cs.filter (· != call)).contains call = false := by simp

/-- To take one call out of a list of calls leaves the others in it. -/
theorem contains_filter_other (apart : other ≠ call) (cs : List Nat) :
    (cs.filter (· != call)).contains other = cs.contains other := by
  rw [Bool.eq_iff_iff, List.contains_iff_mem, List.contains_iff_mem, List.mem_filter]
  exact and_iff_left (bne_iff_ne.mpr apart)

/-- A step does nothing to a call. -/
structure Passes (s s' : Shutdown) (call : Nat) : Prop where
  grace : s'.grace = s.grace
  now : s'.now = s.now
  made : call < s'.fresh ↔ call < s.fresh
  place : s'.place call = s.place call
  about : s'.about call = s.about call
  keeps : ∀ t, s.TriggeredAt t → s'.TriggeredAt t
  new : ∀ t, s'.TriggeredAt t → s.TriggeredAt t ∨ t = s.now

namespace Passes

/-- A step that leaves all calls and one call's history alone does nothing to that call, whatever it
does to the signal. -/
theorem of_same (same : SameCalls s s') (about : s'.about call = s.about call)
    (keeps : ∀ t, s.TriggeredAt t → s'.TriggeredAt t)
    (new : ∀ t, s'.TriggeredAt t → s.TriggeredAt t ∨ t = s.now) : Passes s s' call where
  grace := same.grace
  now := same.now
  made := by rw [same.fresh]
  place := by
    unfold Shutdown.place cleanup?
    rw [same.waiting, same.cleanups]
  about := about
  keeps := keeps
  new := new

/-- A step that changes neither the calls nor the history does nothing to any call. -/
theorem of_still (same : SameCalls s s') (history : s'.history = s.history) :
    Passes s s' call := by
  have signal (t : Nat) : s'.TriggeredAt t ↔ s.TriggeredAt t := by
    rw [TriggeredAt, TriggeredAt, history]
  have about : s'.about call = s.about call := by rw [Shutdown.about, history, Shutdown.about]
  exact of_same same about (fun t => (signal t).mpr) fun t at_ => .inl ((signal t).mp at_)

/-- A trigger does nothing to the calls. They find it when they look next. -/
theorem of_trigger (same : SameCalls s s')
    (history : s'.history = ⟨s.now, .triggered⟩ :: s.history) : Passes s s' call :=
  of_same same (about_other history nofun)
    (fun _ at_ => (triggeredAt_trigger history).mpr (.inr at_))
    fun _ at_ => ((triggeredAt_trigger history).mp at_).symm

/-- Something that happens to one call does nothing to another. -/
theorem of_note (history : s'.history = e :: s.history) (own : e.what.call? = some call)
    (apart : other ≠ call) (grace : s'.grace = s.grace) (now : s'.now = s.now)
    (made : other < s'.fresh ↔ other < s.fresh) (place : s'.place other = s.place other) :
    Passes s s' other := by
  have signal (t : Nat) : s'.TriggeredAt t ↔ s.TriggeredAt t :=
    triggeredAt_cons history fun eq => by rw [eq] at own; cases own
  exact ⟨grace, now, made, place,
    about_other history fun eq => apart (Option.some.inj (eq.symm.trans own)),
    fun t => (signal t).mpr, fun t at_ => .inl ((signal t).mp at_)⟩

/-- Two steps that do nothing to a call do nothing to it together. -/
theorem trans {s'' : Shutdown} (first : Passes s s' call) (second : Passes s' s'' call) :
    Passes s s'' call where
  grace := second.grace.trans first.grace
  now := second.now.trans first.now
  made := second.made.trans first.made
  place := second.place.trans first.place
  about := second.about.trans first.about
  keeps t at_ := second.keeps t (first.keeps t at_)
  new t at_ := (second.new t at_).elim (first.new t) fun eq => .inr (eq.trans first.now)

end Passes

/-- A call that waits goes on waiting through a step that does nothing to it: a trigger in that step
has the present as its moment, which is what a punctual run asks for. -/
theorem Waits.pass {s s' : Shutdown} (waits : s.Waits punctual m) (passes : Passes s s' call) :
    s'.Waits punctual m := by
  obtain ⟨past, at_once⟩ := waits
  rw [Waits, passes.now]
  refine ⟨past, fun exact_ t at_ => ?_⟩
  rcases passes.new t at_ with old | rfl
  · exact at_once exact_ t old
  · exact (Nat.max_eq_right past).symm

/-- That a call had the signal in time stays true. A moment of a trigger is never struck out. -/
theorem Met.mono (met : s.Met punctual m n) (keeps : ∀ t, s.TriggeredAt t → s'.TriggeredAt t) :
    s'.Met punctual m n := by
  obtain ⟨t, at_, times⟩ := met
  exact ⟨t, keeps t at_, times⟩

/-- A call that waits has the signal once it is triggered. -/
theorem Waits.met (waits : s.Waits punctual m) (noted : Noted s) (triggered : s.triggered = true) :
    s.Met punctual m s.now := by
  obtain ⟨t, at_⟩ := noted.told.mp triggered
  exact ⟨t, at_, Nat.max_le.mpr ⟨waits.1, noted.past t at_⟩, fun exact_ => waits.2 exact_ t at_⟩

namespace Story

/-- What does nothing to a call leaves its story. -/
theorem pass (story : Story punctual s call) (passes : Passes s s' call) :
    Story punctual s' call := by
  cases story with
  | unmade later place about =>
    exact .unmade (Nat.not_lt.mp (mt passes.made.mp (Nat.not_lt.mpr later)))
      (passes.place.trans place) (passes.about.trans about)
  | waiting made place about waits =>
    exact .waiting (passes.made.mpr made) (passes.place.trans place) (passes.about.trans about)
      (waits.pass passes)
  | released made place about met =>
    exact .released (passes.made.mpr made) (passes.place.trans place) (passes.about.trans about)
      (met.mono passes.keeps)
  | ready made place about waits =>
    exact .ready (passes.made.mpr made) (passes.place.trans place) (passes.about.trans about)
      (waits.pass passes)
  | working made place about met begun inTime =>
    exact .working (passes.made.mpr made) (passes.place.trans place) (passes.about.trans about)
      (met.mono passes.keeps) (passes.now ▸ begun) (by rw [passes.now, passes.grace]; exact inTime)
  | cleaned made place about met done late exact_ =>
    exact .cleaned (passes.made.mpr made) (passes.place.trans place) (passes.about.trans about)
      (met.mono passes.keeps) done (passes.grace ▸ late) (passes.grace ▸ exact_)

end Story

/-! ## Steps past a call -/

/-- To make a call is written down under the next number. -/
theorem begin_history (s : Shutdown) (request : Request) :
    (s.begin request).history = ⟨s.now, .called s.fresh request⟩ :: s.history := by
  cases request <;> rfl

/-- A call that is made is new: it does nothing to those made before. -/
theorem passes_begin (apart : call ≠ s.fresh) (request : Request) :
    Passes s (s.begin request) call := by
  have made : call < s.fresh + 1 ↔ call < s.fresh := by omega
  cases request with
  | wait =>
    refine .of_note (s.begin_history _) rfl apart rfl rfl made (Prod.ext ?_ rfl)
    have kept : (s.waiting ++ [s.fresh]).contains call = s.waiting.contains call := by
      simp [apart]
    exact kept
  | cleanUp needs =>
    refine .of_note (s.begin_history _) rfl apart rfl rfl made (Prod.ext rfl ?_)
    let new : Cleanup := ⟨s.fresh, needs, .waiting⟩
    have kept : (s.cleanups ++ [new]).find? (·.call == call) =
        s.cleanups.find? (·.call == call) := by
      simp [new, Ne.symm apart]
    exact kept

/-- To release one wait does nothing to the other calls. -/
theorem passes_lookWait (looked : s.lookWait call = some s') (apart : other ≠ call) :
    Passes s s' other := by
  obtain ⟨-, -, rfl⟩ := lookWait_eq looked
  exact .of_note rfl rfl apart rfl rfl Iff.rfl (Prod.ext (contains_filter_other apart _) rfl)

/-- To end one cleanup does nothing to the other calls. -/
theorem passes_endCleanup (s : Shutdown) (inTime : Bool) (apart : other ≠ call) :
    Passes s (s.endCleanup call inTime) other :=
  .of_note rfl rfl apart rfl rfl Iff.rfl (Prod.ext rfl (cleanup?_endCleanup_other apart s inTime))

/-- A cleanup is found under the number of its own call. -/
theorem call_of_cleanup? {c : Cleanup} (found : s.cleanup? call = some c) : c.call = call := by
  simpa using List.find?_some found

/-- To set one cleanup to work does nothing to the other calls. -/
theorem passes_setToWork (s : Shutdown) (apart : other ≠ call) :
    Passes s ((s.note (.started call)).setToWork call) other := by
  refine .of_note rfl rfl apart rfl rfl Iff.rfl (Prod.ext rfl ?_)
  have kept : (s.cleanup? other).map (fun c =>
      if c.call = call then { c with stage := .working s.now } else c) = s.cleanup? other := by
    cases found : s.cleanup? other with
    | none => rfl
    | some c => exact congrArg some (if_neg (call_of_cleanup? found ▸ apart))
  exact (cleanup?_setToWork _ call other).trans kept

/-- A look at one cleanup does nothing to the other calls, whether it begins the work, ends it or
finds it unfinished. -/
theorem passes_lookCleanup (looked : s.lookCleanup call = some s') (apart : other ≠ call) :
    Passes s s' other := by
  obtain ⟨c, found, cases_⟩ := lookCleanup_cases looked
  rw [call_of_cleanup? found] at cases_
  obtain ⟨-, -, -, rfl⟩ | ⟨-, -, inTime, -, rfl⟩ | ⟨since, inTime, -, -, rfl⟩ := cases_
  · exact passes_setToWork s apart
  · have started : Passes s (s.note (.started call)) other :=
      .of_note rfl rfl apart rfl rfl Iff.rfl rfl
    exact started.trans (passes_endCleanup _ inTime apart)
  · exact passes_endCleanup s inTime apart

/-! ## Steps of a call -/

/-- How work ends, and what that says of the time. -/
theorem workEnding?_eq_some {now limit since needs : Nat} {inTime : Bool}
    (ending : workEnding? now limit since needs = some inTime) :
    since + min needs limit ≤ now ∧ (inTime = true → since + needs ≤ now) ∧
      (inTime = false → since + limit ≤ now ∧ now < since + needs) := by
  unfold workEnding? at ending
  split at ending
  · cases ending
    exact ⟨by omega, fun _ => ‹_›, nofun⟩
  · split at ending
    · cases ending
      exact ⟨by omega, nofun, fun _ => ⟨‹_›, by omega⟩⟩
    · cases ending

namespace Story

/-- The number given out next belongs to no call yet. -/
theorem of_fresh (story : Story punctual s s.fresh) :
    s.place s.fresh = (false, none) ∧ s.about s.fresh = [] := by
  cases story with
  | unmade _ place about => exact ⟨place, about⟩
  | waiting made | released made | ready made | working made | cleaned made =>
    exact absurd made (Nat.lt_irrefl _)

/-- A call among those that wait was made as a wait, is no cleanup, and waits as a punctual run has
it. The other stories place it elsewhere. -/
theorem of_waiting (story : Story punctual s call) (mem : call ∈ s.waiting) :
    call < s.fresh ∧ s.cleanup? call = none ∧
      ∃ m, s.about call = [⟨m, .called call .wait⟩] ∧ s.Waits punctual m := by
  have waits : (s.place call).1 = true := List.contains_iff_mem.mpr mem
  cases story with
  | waiting made place about waits => exact ⟨made, (Prod.mk.inj place).2, _, about, waits⟩
  | unmade _ place | released _ place | ready _ place | working _ place | cleaned _ place =>
    rw [place] at waits
    cases waits

/-- A cleanup that is found waits for the signal or is at work. The other stories have none in their
place. -/
theorem of_cleanup {c : Cleanup} (story : Story punctual s call)
    (found : s.cleanup? call = some c) :
    call < s.fresh ∧ s.waiting.contains call = false ∧ c.call = call ∧
      ((c.stage = .waiting ∧ ∃ m, s.about call = [⟨m, .called call (.cleanUp c.needs)⟩] ∧
          s.Waits punctual m) ∨
        ∃ since m, c.stage = .working since ∧
          s.about call = [⟨since, .started call⟩, ⟨m, .called call (.cleanUp c.needs)⟩] ∧
          s.Met punctual m since ∧
          (punctual → s.now ≤ since + min c.needs s.grace.nanos)) := by
  have at_ : (s.place call).2 = some c := found
  cases story with
  | ready made place about waits =>
    rw [place] at at_
    cases at_
    exact ⟨made, (Prod.mk.inj place).1, rfl, .inl ⟨rfl, _, about, waits⟩⟩
  | working made place about met _ inTime =>
    rw [place] at at_
    cases at_
    exact ⟨made, (Prod.mk.inj place).1, rfl, .inr ⟨_, _, rfl, about, met, inTime⟩⟩
  | unmade _ place | waiting _ place | released _ place | cleaned _ place =>
    rw [place] at at_
    cases at_

/-- The call that is made begins its own story, as a wait or as a cleanup before the signal. -/
theorem begin (story : Story punctual s s.fresh) (noted : Noted s) (request : Request) :
    Story punctual (s.begin request) s.fresh := by
  obtain ⟨place, about⟩ := story.of_fresh
  have about := (about_self (s.begin_history request) rfl).trans (congrArg (_ :: ·) about)
  have signal (t : Nat) : (s.begin request).TriggeredAt t ↔ s.TriggeredAt t :=
    triggeredAt_cons (s.begin_history request) nofun
  have waits : (s.begin request).Waits punctual s.now := by
    have now : (s.begin request).now = s.now := by cases request <;> rfl
    rw [Waits, now]
    exact ⟨Nat.le_refl _, fun _ t at_ =>
      (Nat.max_eq_left (noted.past t ((signal t).mp at_))).symm⟩
  cases request with
  | wait =>
    have there : (s.waiting ++ [s.fresh]).contains s.fresh = true := by simp
    exact .waiting (Nat.lt_succ_self _) (Prod.ext there (Prod.mk.inj place).2) about waits
  | cleanUp needs =>
    let new : Cleanup := ⟨s.fresh, needs, .waiting⟩
    have there : (s.cleanups ++ [new]).find? (·.call == s.fresh) = some new := by
      have none_ : s.cleanups.find? (·.call == s.fresh) = none := (Prod.mk.inj place).2
      rw [List.find?_append, none_]
      simp [new]
    exact .ready (Nat.lt_succ_self _) (Prod.ext (Prod.mk.inj place).1 there) about waits

/-- A look at a wait continues its story: it is released, and had the signal in time. -/
theorem lookWait (story : Story punctual s call) (noted : Noted s)
    (looked : s.lookWait call = some s') : Story punctual s' call := by
  obtain ⟨triggered, mem, rfl⟩ := lookWait_eq looked
  obtain ⟨made, cleanup, m, about, waits⟩ := story.of_waiting mem
  have met := waits.met noted triggered
  exact .released made (Prod.ext (contains_filter_self call _) cleanup)
    ((about_self rfl rfl).trans (congrArg (_ :: ·) about))
    (met.mono fun _ => List.mem_cons_of_mem _)

/-- Work that began before ends. -/
theorem endCleanup {since needs : Nat} {inTime : Bool} (made : call < s.fresh)
    (unwaiting : s.waiting.contains call = false)
    (about : s.about call = [⟨since, .started call⟩, ⟨m, .called call (.cleanUp needs)⟩])
    (met : s.Met punctual m since)
    (ending : workEnding? s.now s.grace.nanos since needs = some inTime)
    (due : punctual → s.now ≤ since + min needs s.grace.nanos) :
    Story punctual (s.endCleanup call inTime) call := by
  obtain ⟨due', done, late⟩ := workEnding?_eq_some ending
  refine .cleaned made (Prod.ext unwaiting (s.cleanup?_endCleanup_self call inTime))
    ((about_self rfl rfl).trans (congrArg (_ :: ·) about))
    (met.mono fun _ => List.mem_cons_of_mem _) done late fun exact_ => ?_
  have due := due exact_
  have grace : (s.endCleanup call inTime).grace = s.grace := rfl
  rw [grace]
  refine ⟨Nat.le_antisymm due due', fun is => ?_, fun enough => ?_⟩
  · have := done is
    omega
  · cases inTime with
    | true => rfl
    | false =>
      have := late rfl
      omega

/-- A look at a cleanup continues its story in each of the three outcomes: its work begins, is done,
or is broken off by the grace period. -/
theorem lookCleanup (story : Story punctual s call) (noted : Noted s)
    (looked : s.lookCleanup call = some s') : Story punctual s' call := by
  obtain ⟨c, found, cases_⟩ := lookCleanup_cases looked
  obtain ⟨made, unwaiting, own, stages⟩ := story.of_cleanup found
  rw [own] at cases_
  have started : (s.note (.started call)).about call = ⟨s.now, .started call⟩ :: s.about call :=
    about_self rfl rfl
  have signal (t : Nat) : s.TriggeredAt t → (s.note (.started call)).TriggeredAt t :=
    List.mem_cons_of_mem _
  rcases cases_ with ⟨stage, triggered, ending, rfl⟩ | ⟨stage, triggered, inTime, ending, rfl⟩ |
    ⟨since, inTime, stage, ending, rfl⟩
  · obtain ⟨-, m, about, waits⟩ | ⟨since, m, stage', -⟩ := stages
    · have set_ : ((s.note (.started call)).setToWork call).cleanup? call =
          some ⟨call, c.needs, .working s.now⟩ := by
        have found : (s.note (.started call)).cleanup? call = some c := found
        rw [cleanup?_setToWork, found, Option.map_some, if_pos own, own]
        rfl
      exact .working made (Prod.ext unwaiting set_) (started.trans (congrArg (_ :: ·) about))
        ((waits.met noted triggered).mono signal) (Nat.le_refl _) fun _ => Nat.le_add_right _ _
    · rw [stage] at stage'
      cases stage'
  · obtain ⟨-, m, about, waits⟩ | ⟨since, m, stage', -⟩ := stages
    · exact endCleanup (s := s.note (.started call)) made unwaiting
        (started.trans (congrArg (_ :: ·) about)) ((waits.met noted triggered).mono signal) ending
        fun _ => Nat.le_add_right _ _
    · rw [stage] at stage'
      cases stage'
  · obtain ⟨stage', -⟩ | ⟨since', m, stage', about, met, due⟩ := stages
    · rw [stage] at stage'
      cases stage'
    · rw [stage] at stage'
      cases stage'
      exact endCleanup made unwaiting about met ending due

end Story

/-! ## The clock -/

/-- A wait has something to do as soon as the signal is triggered. -/
theorem step_lookWait (triggered : s.triggered = true) (mem : call ∈ s.waiting) :
    s.step (.lookWait call) = some
      ({ s with waiting := s.waiting.filter (· != call) }.note (.ended call .released)) := by
  rw [step, lookWait, triggered, List.contains_iff_mem.mpr mem]
  rfl

/-- So has a cleanup that waits for the signal. -/
theorem step_lookCleanup_ready {c : Cleanup} (triggered : s.triggered = true)
    (found : s.cleanup? call = some c) (stage : c.stage = .waiting) :
    s.step (.lookCleanup call) = some (s.startCleanup c) := by
  rw [step, lookCleanup, found, Option.bind_some, stage]
  exact if_pos triggered

/-- A cleanup at work has something to do once its end is due. -/
theorem step_lookCleanup_working {c : Cleanup} {since : Nat} {inTime : Bool}
    (found : s.cleanup? call = some c) (stage : c.stage = .working since)
    (ending : workEnding? s.now s.grace.nanos since c.needs = some inTime) :
    s.step (.lookCleanup call) = some (s.endCleanup call inTime) := by
  rw [step, lookCleanup, found, Option.bind_some, stage]
  simp only [ending, Option.map_some]

/-- A call that waits for a triggered signal can be looked at. -/
theorem mem_looks_wait (mem : call ∈ s.waiting) : .lookWait call ∈ s.looks :=
  List.mem_append_left _ (List.mem_append_right _ (List.mem_map_of_mem mem))

/-- A cleanup can be looked at as long as it is in the list. -/
theorem mem_looks_cleanup {c : Cleanup} (found : s.cleanup? call = some c) :
    .lookCleanup call ∈ s.looks := by
  have own := call_of_cleanup? found
  have mem := List.mem_map_of_mem (f := fun c => Action.lookCleanup c.call)
    (List.mem_of_find?_eq_some found)
  exact List.mem_append_right _ (own ▸ mem)

/-- The end of a cleanup at work, by its own time or by the grace period, is one of the moments that
a punctual run must not miss. -/
theorem mem_dues {c : Cleanup} {since : Nat} (found : s.cleanup? call = some c)
    (stage : c.stage = .working since) : since + min c.needs s.grace.nanos ∈ s.dues :=
  List.mem_filterMap.mpr ⟨c, List.mem_of_find?_eq_some found, by rw [stage]⟩

/-- A punctual clock stands still while someone who waits has the signal. -/
theorem Waits.advance {nanos : Nat} (waits : s.Waits punctual m) (noted : Noted s)
    (inTime : punctual → s.InTime (.advance nanos)) {look : Action} (mem : look ∈ s.looks)
    (ready : s.triggered = true → (s.step look).isSome = true) :
    { s with now := s.now + nanos }.Waits punctual m := by
  refine ⟨Nat.le_add_right_of_le waits.1, fun exact_ t at_ => ?_⟩
  have idle := (inTime exact_).1 look mem
  have busy := ready (noted.told.mpr ⟨t, at_⟩)
  rw [Option.isNone_iff_eq_none] at idle
  rw [idle] at busy
  cases busy

/-- Time that passes continues the story of every call. In a punctual run it passes over no release
and over no end of a cleanup. -/
theorem Story.advance {nanos : Nat} (story : Story punctual s call) (noted : Noted s)
    (inTime : punctual → s.InTime (.advance nanos)) :
    Story punctual { s with now := s.now + nanos } call := by
  cases story with
  | unmade later place about => exact .unmade later place about
  | released made place about met => exact .released made place about met
  | cleaned made place about met done late exact_ =>
    exact .cleaned made place about met done late exact_
  | waiting made place about waits =>
    have mem : call ∈ s.waiting := List.contains_iff_mem.mp (Prod.mk.inj place).1
    refine .waiting made place about (waits.advance noted inTime (mem_looks_wait mem) fun is => ?_)
    rw [step_lookWait is mem]
    rfl
  | ready made place about waits =>
    have found := (Prod.mk.inj place).2
    refine .ready made place about
      (waits.advance noted inTime (mem_looks_cleanup found) fun is => ?_)
    rw [step_lookCleanup_ready is found rfl]
    rfl
  | working made place about met begun _ =>
    have found := (Prod.mk.inj place).2
    exact .working made place about met (Nat.le_add_right_of_le begun)
      fun exact_ => (inTime exact_).2 _ (mem_dues found rfl)

/-! ## Runs -/

/-- One step continues the story of each call. The step is either of the call itself, and then
`Story.begin`, `lookWait` or `lookCleanup` says how, or it passes the call by. -/
theorem Story.step (stories : ∀ call, Story punctual s call) (noted : Noted s)
    (inTime : punctual → s.InTime a) (stepped : s.step a = some s') (call : Nat) :
    Story punctual s' call := by
  have story := stories call
  cases step_moved stepped with
  | still same _ history => exact story.pass (.of_still same history)
  | triggered same _ _ history => exact story.pass (.of_trigger same history)
  | advanced nanos action moved =>
    subst action moved
    exact story.advance noted inTime
  | called request moved =>
    subst moved
    by_cases own : call = s.fresh
    · exact own ▸ Story.begin (own ▸ story) noted request
    · exact story.pass (passes_begin own request)
  | wait other looked =>
    by_cases own : call = other
    · subst own
      exact story.lookWait noted looked
    · exact story.pass (passes_lookWait looked own)
  | cleanup other looked =>
    by_cases own : call = other
    · subst own
      exact story.lookCleanup noted looked
    · exact story.pass (passes_lookCleanup looked own)

namespace Noted

/-- A step that leaves the signal alone keeps what is written down of its trigger. -/
theorem of_same (noted : Noted s) (triggered : s'.triggered = s.triggered)
    (signal : ∀ t, s'.TriggeredAt t ↔ s.TriggeredAt t) (now : s.now ≤ s'.now) : Noted s' where
  told := by
    rw [triggered, noted.told]
    exact exists_congr fun t => (signal t).symm
  once t t' at_ at_' := noted.once t t' ((signal t).mp at_) ((signal t').mp at_')
  past t at_ := Nat.le_trans (noted.past t ((signal t).mp at_)) now

/-- What is written down last is no trigger. -/
theorem of_cons (noted : Noted s) (history : s'.history = e :: s.history)
    (other : e.what ≠ .triggered) (triggered : s'.triggered = s.triggered) (now : s'.now = s.now) :
    Noted s' :=
  noted.of_same triggered (fun _ => triggeredAt_cons history other) (Nat.le_of_eq now.symm)

/-- The first trigger is written down, and with it there is one. A second trigger changes nothing and
is no case of its own. -/
theorem trigger (noted : Noted s) (same : SameCalls s s') (first : s.triggered = false)
    (now : s'.triggered = true) (history : s'.history = ⟨s.now, .triggered⟩ :: s.history) :
    Noted s' := by
  have none_ (t : Nat) : ¬ s.TriggeredAt t := fun at_ => by
    rw [noted.told.mpr ⟨t, at_⟩] at first
    cases first
  have only (t : Nat) : s'.TriggeredAt t ↔ t = s.now :=
    (triggeredAt_trigger history).trans (or_iff_left (none_ t))
  refine ⟨iff_of_true now ⟨_, (only _).mpr rfl⟩, fun t t' at_ at_' => ?_, fun t at_ => ?_⟩
  · exact ((only t).mp at_).trans ((only t').mp at_').symm
  · exact Nat.le_of_eq (((only t).mp at_).trans same.now.symm)

/-- Every step keeps what is written down of the trigger. -/
theorem step (noted : Noted s) (stepped : s.step a = some s') : Noted s' := by
  cases step_moved stepped with
  | still same triggered history =>
    exact noted.of_same triggered (fun t => by rw [TriggeredAt, history, TriggeredAt])
      (Nat.le_of_eq same.now.symm)
  | triggered same first now history => exact noted.trigger same first now history
  | advanced nanos _ moved =>
    subst moved
    exact noted.of_same rfl (fun _ => Iff.rfl) (Nat.le_add_right _ _)
  | called request moved =>
    subst moved
    refine noted.of_cons (s.begin_history request) nofun (s.begin_sameSignal request).triggered ?_
    cases request <;> rfl
  | wait call looked =>
    obtain ⟨-, -, rfl⟩ := lookWait_eq looked
    exact noted.of_cons rfl nofun rfl rfl
  | cleanup call looked =>
    obtain ⟨c, -, ⟨-, -, -, rfl⟩ | ⟨-, -, inTime, -, rfl⟩ | ⟨since, inTime, -, -, rfl⟩⟩ :=
      lookCleanup_cases looked
    · exact noted.of_cons rfl nofun rfl rfl
    · have started : Noted (s.note (.started c.call)) := noted.of_cons rfl nofun rfl rfl
      exact started.of_cons rfl nofun rfl rfl
    · exact noted.of_cons rfl nofun rfl rfl

end Noted

end Shutdown

end StationPool
