import StationPool.Proofs.Queue.Ledger

/-!
# What a send queue promises

Every action on a queue is one of a few turns (`turn_of_act`): a push begins to wait, a push ends
with a verdict, a slot goes on to the next, an item is taken out. What is kept by each turn is kept
by every run (`Steady.after`), and the verdicts say why a push ended as it did.

`keeps_promises` puts it together for every order of actions. The queue is fair in what it gives: a
free slot goes to the push that has waited longest (`Kept.turns`). It does not say which of two
pushes that were given slots looks first. Where the tasks look in the order in which they were woken
(`InTurn`), the pushes enter in the order in which they began to wait; in other orders one that
began to wait later may enter first (`later_push_enters_first`). And where the clock stops at every
deadline (`OnTime`), no push is refused late.
-/

namespace StationPool.SendQueue.Run

variable {α : Type} {capacity : Nat} {r r' : Run α}

/-! ## Turns -/

/-- Why a push ends as it does: whether it has a slot, its timeout and when it gives up. -/
inductive Verdict (r : Run α) (slot : Prop) (timeout : Duration) (deadline : Nat) :
    Outcome → Prop where
  | closed (gone : (r.cancelled || r.queue.receiverGone) = true) :
      Verdict r slot timeout deadline (.error .closed)
  | accepted (stays : (r.cancelled || r.queue.receiverGone) = false) (has : slot) :
      Verdict r slot timeout deadline (.ok ())
  | expired (stays : (r.cancelled || r.queue.receiverGone) = false) (without : ¬ slot)
      (due : deadline ≤ r.now) : Verdict r slot timeout deadline (.error (.queueFull timeout))

/-- A push succeeds only while there is a receiver. -/
theorem Verdict.alive {slot : Prop} {timeout : Duration} {deadline : Nat}
    (verdict : Verdict r slot timeout deadline (.ok ())) : r.queue.receiverGone = false := by
  cases verdict with
  | accepted stays has =>
    simp only [Bool.or_eq_false_iff] at stays
    exact stays.2

/-- What an action comes to. -/
inductive Turn (r : Run α) : Action α → Run α → Prop where
  /-- The first look of a push settles it. -/
  | decides {item : α} {timeout : Duration} {outcome : Outcome}
      (verdict : Verdict r (r.queue.depth < r.queue.capacity) timeout (r.now + timeout.nanos)
        outcome) :
      Turn r (.push item timeout)
        ((r.enter item timeout).leave r.queue.blocked ((r.next item timeout).waiting false) []
          outcome)
  | begins (item : α) (timeout : Duration) (stays : (r.cancelled || r.queue.receiverGone) = false)
      (none_ : ¬ r.queue.depth < r.queue.capacity) :
      Turn r (.push item timeout) (r.enter item timeout)
  | leaves {front rest : List (Blocked α)} {b : Blocked α} {outcome : Outcome}
      (split : r.queue.blocked = front ++ b :: rest)
      (verdict : Verdict r (b.granted = true) b.timeout b.deadline outcome)
      (keeps : b.granted = true → outcome = .ok ()) :
      Turn r (.resume b.ticket) (r.leave front b rest outcome)
  /-- A push that holds a slot gives up, and the slot goes on to the next. -/
  | passes {front rest : List (Blocked α)} {b : Blocked α}
      (split : r.queue.blocked = front ++ b :: rest)
      (gone : (r.cancelled || r.queue.receiverGone) = true) (granted : b.granted = true) :
      Turn r (.resume b.ticket)
        ((r.leave front b rest (.error .closed)).regrant (grant (front ++ rest)))
  | waits (ticket : Nat)
      (waits : ∀ b ∈ r.queue.blocked, b.ticket = ticket →
        (r.cancelled || r.queue.receiverGone) = false ∧ b.granted = false ∧ r.now < b.deadline) :
      Turn r (.resume ticket) r
  | takes {item : α} {items : List α} (first : r.queue.items = item :: items) :
      Turn r .receive ((r.takeOut item items).regrant (grant r.queue.blocked))
  | empty : Turn r .receive r
  | cancels : Turn r .cancel { r with cancelled := true }
  | drops : Turn r .dropReceiver r.lose
  | ticks (nanos : Nat) : Turn r (.advance nanos) { r with now := r.now + nanos }

/-- The first look of a push is a turn. A push that is settled by it counts as one that begins to
wait and leaves at once. -/
theorem turn_of_push (r : Run α) (item : α) (timeout : Duration) :
    Turn r (.push item timeout) (r.push item timeout) := by
  have look := offered r.queue r.now r.cancelled r.fresh item timeout
  have decided {outcome : Outcome} {queue : SendQueue α}
      (verdict : Verdict r (r.queue.depth < r.queue.capacity) timeout (r.now + timeout.nanos)
        outcome)
      (at_ : r.queue.offer r.now r.cancelled r.fresh item timeout = (queue, some outcome))
      (same : queue = { r.queue with
        items := r.queue.items ++ yield ((r.next item timeout).waiting false) outcome }) :
      Turn r (.push item timeout) (r.push item timeout) := by
    have eq : r.push item timeout = (r.enter item timeout).leave r.queue.blocked
        ((r.next item timeout).waiting false) [] outcome := by
      unfold push
      simp only [note, at_, noteOutcome]
      simp [enter, leave, note, same, next, Push.waiting]
    exact eq ▸ .decides verdict
  generalize at_ : r.queue.offer r.now r.cancelled r.fresh item timeout = answer at look
  obtain ⟨queue, outcome⟩ := answer
  cases look with
  | closed gone => exact decided (.closed gone) at_ (by simp [yield])
  | accepted stays free => exact decided (.accepted stays free) at_ rfl
  | refused stays none_ hurried =>
    exact decided (.expired stays none_ (by omega)) at_ (by simp [yield])
  | waits stays none_ =>
    have eq : r.push item timeout = r.enter item timeout := by
      unfold push
      simp only [note, at_, noteOutcome]
      rfl
    exact eq ▸ .begins item timeout stays none_

/-- A later look of a push is a turn: it leaves the line with a verdict, passes its slot on, or goes
on waiting. -/
theorem turn_of_resume (order : Ordered r.queue.blocked) (ticket : Nat) :
    Turn r (.resume ticket) (r.resume ticket) := by
  have look := resumed order r.now r.cancelled ticket
  unfold Run.resume
  generalize r.queue.resume r.now r.cancelled ticket = answer at look
  obtain ⟨queue, outcome⟩ := answer
  cases look with
  | absent none_ => exact .waits ticket fun b mem same => absurd same (none_ b mem)
  | @waits b same mem stays without early =>
    refine .waits ticket fun b' mem' same' => ?_
    rw [order.unique mem' mem (same'.trans same.symm)]
    exact ⟨stays, without, early⟩
  | @accepted front rest b same split stays granted =>
    subst same
    exact .leaves split (.accepted stays granted) fun _ => rfl
  | @expired front rest b same split stays without due =>
    subst same
    have turn := Turn.leaves split (.expired stays (by simp [without]) due) fun granted => by
      rw [without] at granted
      cases granted
    simpa [leave, yield, noteOutcome, note] using turn
  | @closed front rest b same split gone =>
    subst same
    cases granted : b.granted with
    | false =>
      have turn := Turn.leaves split (.closed gone) fun granted' => by
        rw [granted] at granted'
        cases granted'
      simpa [leave, yield, noteOutcome, note, granted] using turn
    | true =>
      have turn := Turn.passes split gone granted
      simpa [leave, regrant, yield, noteOutcome, note, granted] using turn

/-- Every action is one of the turns. Whatever is to hold of all runs has to be shown of ten turns
and not of six actions with all their branches. -/
theorem turn_of_act (order : Ordered r.queue.blocked) (a : Action α) : Turn r a (r.act a) := by
  cases a with
  | push item timeout => exact turn_of_push r item timeout
  | resume ticket => exact turn_of_resume order ticket
  | receive =>
    simp only [act, receive, SendQueue.receive]
    cases items : r.queue.items with
    | nil => exact .empty
    | cons item rest => exact .takes items
  | cancel => exact .cancels
  | dropReceiver => exact .drops
  | advance nanos => exact .ticks nanos

/-! ## Every run -/

/-- Writing an outcome down changes nothing in the queue. -/
@[simp] theorem noteOutcome_queue (r : Run α) (ticket : Nat) (outcome : Option Outcome) :
    (r.noteOutcome ticket outcome).queue = r.queue := by
  cases outcome <;> rfl

/-- Every action is fair, a push because its ticket is the last. -/
theorem fair_act (fair : r.queue.Fair) (last : ∀ b ∈ r.queue.blocked, b.ticket < r.fresh)
    (a : Action α) : (r.act a).queue.Fair := by
  cases a with
  | push item timeout =>
    have queue : (r.push item timeout).queue =
        (r.queue.offer r.now r.cancelled r.fresh item timeout).1 := by simp [push, note]
    exact queue ▸ fair.offered (offered r.queue r.now r.cancelled r.fresh item timeout) last
  | resume ticket =>
    have queue : (r.resume ticket).queue = (r.queue.resume r.now r.cancelled ticket).1 := by
      simp [Run.resume]
    exact queue ▸ fair.resumed (resumed fair.order r.now r.cancelled ticket)
  | receive =>
    simp only [act, receive]
    split
    · exact fair
    · exact fair.receive ‹_›
  | cancel => exact fair
  | dropReceiver => exact fair.dropReceiver
  | advance nanos => exact fair

/-- What every action keeps. -/
structure Steady (capacity : Nat) (r : Run α) : Prop where
  capacity : r.queue.capacity = max capacity 1
  fair : r.queue.Fair
  ledger : r.Ledger

/-- All of it holds before anything happened. -/
theorem steady_new (capacity : Nat) : Steady capacity (ofCapacity capacity : Run α) :=
  ⟨rfl, fair_ofCapacity capacity, ledger_new capacity⟩

/-- Whoever waits was called before the next push is. -/
theorem Steady.last (h : Steady capacity r) : ∀ b ∈ r.queue.blocked, b.ticket < r.fresh := by
  intro b mem
  obtain ⟨p, called, waits⟩ := h.ledger.waits b mem
  have := h.ledger.issued p called
  rwa [waits]

/-- Every action keeps the capacity, the fairness of the queue and the agreement of the books with
it. The fairness is shown of the look itself (`fair_act`), the books turn by turn. -/
theorem Steady.act (h : Steady capacity r) (a : Action α) : Steady capacity (r.act a) := by
  have last := h.last
  have fair := fair_act h.fair last a
  have turn := turn_of_act h.fair.order a
  obtain ⟨size, ⟨-, order, -⟩, ledger⟩ := h
  generalize r.act a = r' at fair turn
  cases turn with
  | @decides item timeout outcome verdict =>
    refine ⟨size, fair, (ledger.enter item timeout).leave rfl ?_ ?_⟩
    · refine List.pairwise_append.mpr ⟨order, List.pairwise_singleton _ _, ?_⟩
      intro b mem b' new
      rw [List.mem_singleton.mp new]
      exact ⟨last b mem, nofun⟩
    · rintro rfl
      exact verdict.alive
  | begins item timeout stays none_ => exact ⟨size, fair, ledger.enter item timeout⟩
  | @leaves front rest b outcome split verdict keeps =>
    refine ⟨size, fair, ledger.leave split order ?_⟩
    rintro rfl
    exact verdict.alive
  | passes split gone granted =>
    have left : Ledger (r.leave _ _ _ (.error .closed)) := ledger.leave split order nofun
    exact ⟨size, fair, left.regrant (grant_bare _)⟩
  | takes first => exact ⟨size, fair, (ledger.takeOut first).regrant (grant_bare _)⟩
  | drops => exact ⟨size, fair, ledger.lose⟩
  | cancels => exact ⟨size, fair, { ledger with }⟩
  | ticks nanos => exact ⟨size, fair, { ledger with }⟩
  | waits ticket waits => exact ⟨size, fair, ledger⟩
  | empty => exact ⟨size, fair, ledger⟩

/-- The run after some actions. -/
def after (r : Run α) (as : List (Action α)) : Run α := as.foldl act r

/-- What every action keeps holds after any number of them. -/
theorem Steady.after (h : Steady capacity r) (as : List (Action α)) :
    Steady capacity (r.after as) := by
  induction as generalizing r with
  | nil => exact h
  | cons a as ih => exact ih (h.act a)

/-! ## Verdicts -/

/-- No push can go on without the clock, the receiver or the cancellation. -/
def IsSettled (r : Run α) : Prop :=
  ∀ b ∈ r.queue.blocked, (r.queue.resume r.now r.cancelled b.ticket).2 = none

/-- Whoever waits in a queue that has settled waits for a slot, in time. -/
theorem IsSettled.waits (settled : r.IsSettled) (order : Ordered r.queue.blocked) {b : Blocked α}
    (mem : b ∈ r.queue.blocked) :
    r.cancelled = false ∧ r.queue.receiverGone = false ∧ b.granted = false ∧ r.now < b.deadline := by
  have look := resumed order r.now r.cancelled b.ticket
  rw [settled b mem] at look
  generalize (r.queue.resume r.now r.cancelled b.ticket).1 = queue at look
  cases look with
  | absent none_ => exact absurd rfl (none_ b mem)
  | @waits b' same mem' stays without early =>
    rw [order.unique mem' mem same] at without early
    simp only [Bool.or_eq_false_iff] at stays
    exact ⟨stays.1, stays.2, without, early⟩

/-- Why a push ended as it did, by the look at the queue that ended it. -/
structure Justified (capacity : Nat) (r : Run α) (p : Push α) (outcome : Outcome) : Prop where
  /-- It is closed if and only if the push was cancelled or there is no receiver, whether or not
  there is a slot. -/
  closed : outcome = .error .closed ↔ r.cancelled = true ∨ r.queue.receiverGone = true
  /-- It is refused only when its own timeout is over, all slots are in use and it holds none. -/
  full : ∀ d, outcome = .error (.queueFull d) → d = p.timeout ∧ p.moment + d.nanos ≤ r.now ∧
    r.queue.depth = max capacity 1 ∧ p.waiting true ∉ r.queue.blocked
  /-- It succeeds only with a slot that it holds or finds. -/
  succeeds : outcome = .ok () →
    p.waiting true ∈ r.queue.blocked ∨ r.queue.depth < max capacity 1
  /-- And there is no other end. -/
  ends : outcome = .ok () ∨ outcome = .error .closed ∨ ∃ d, outcome = .error (.queueFull d)

/-- A verdict justifies the end of a push, provided that its slot is what the queue shows: with it
the push is among those that hold one or there is room, and without it neither. -/
theorem Verdict.justified {slot : Prop} {p : Push α} {outcome : Outcome}
    (verdict : Verdict r slot p.timeout (p.moment + p.timeout.nanos) outcome)
    (has : slot → p.waiting true ∈ r.queue.blocked ∨ r.queue.depth < max capacity 1)
    (hasnt : ¬ slot → r.queue.receiverGone = false →
      r.queue.depth = max capacity 1 ∧ p.waiting true ∉ r.queue.blocked) :
    Justified capacity r p outcome := by
  cases verdict with
  | closed gone => exact ⟨by simpa using gone, nofun, nofun, .inr (.inl rfl)⟩
  | accepted stays slot =>
    refine ⟨?_, nofun, fun _ => has slot, .inl rfl⟩
    simpa using stays
  | expired stays without due =>
    simp only [Bool.or_eq_false_iff] at stays
    refine ⟨?_, ?_, nofun, .inr (.inr ⟨_, rfl⟩)⟩
    · simp [stays]
    · rintro d ⟨⟩
      exact ⟨rfl, due, hasnt without stays.2⟩

/-- A push that waits, by the one who called it. -/
theorem Steady.push_of_mem (h : Steady capacity r) {b : Blocked α} (mem : b ∈ r.queue.blocked) :
    ∃ p ∈ pushes r.history, p.ticket = b.ticket ∧ p.timeout = b.timeout ∧
      p.moment + p.timeout.nanos = b.deadline ∧ ∀ granted, p.waiting granted ∈ r.queue.blocked →
        granted = b.granted := by
  obtain ⟨p, called, waits⟩ := h.ledger.waits b mem
  refine ⟨p, called, by rw [waits]; rfl, by rw [waits]; rfl, by rw [waits]; rfl, ?_⟩
  intro granted mem'
  have same := h.fair.order.unique mem' mem (by rw [waits]; rfl)
  exact congrArg Blocked.granted same

/-- Every end of a push is justified by the step it happens in. -/
theorem Steady.justified (h : Steady capacity r) (a : Action α) {e : Ending}
    (ended : e ∈ endings (r.act a).history) :
    e ∈ endings r.history ∨ e.moment = r.now ∧
      ∃ p ∈ pushes (r.act a).history, p.ticket = e.ticket ∧ Justified capacity r p e.outcome := by
  have turn := turn_of_act h.fair.order a
  have later {b : Blocked α} {outcome : Outcome} (mem : b ∈ r.queue.blocked)
      (verdict : Verdict r (b.granted = true) b.timeout b.deadline outcome) :
      ∃ p ∈ pushes r.history, p.ticket = b.ticket ∧ Justified capacity r p outcome := by
    obtain ⟨p, called, ticket, timeout, deadline, slot⟩ := h.push_of_mem mem
    rw [← timeout, ← deadline] at verdict
    refine ⟨p, called, ticket, verdict.justified ?_ ?_⟩
    · intro granted
      obtain ⟨p', called', waits⟩ := h.ledger.waits b mem
      have same : p' = p :=
        List.inj_on_of_nodup_map h.ledger.calls_once called' called (by rw [ticket, waits]; rfl)
      rw [granted, same] at waits
      exact .inl (waits ▸ mem)
    · intro without alive
      refine ⟨?_, fun mem' => without (slot true mem').symm⟩
      rw [← h.capacity]
      exact h.fair.full alive b mem (by simpa using without)
  generalize r.act a = r' at ended turn
  cases turn with
  | @decides item timeout outcome verdict =>
    rcases List.mem_cons.mp ended with rfl | old
    · have verdict' : Verdict r _ (r.next item timeout).timeout
          ((r.next item timeout).moment + (r.next item timeout).timeout.nanos) outcome := verdict
      refine .inr ⟨rfl, r.next item timeout, List.mem_cons_self, rfl, verdict'.justified ?_ ?_⟩
      · intro free
        exact .inr (h.capacity ▸ free)
      · intro none_ _
        have bounded := h.fair.bounded
        have size := h.capacity
        refine ⟨by omega, fun mem => ?_⟩
        exact Nat.lt_irrefl _ (h.last _ mem)
    · exact .inl old
  | begins item timeout stays none_ => exact .inl ended
  | @leaves front rest b outcome split verdict keeps =>
    rcases List.mem_cons.mp ended with rfl | old
    · exact .inr ⟨rfl, later (split ▸ List.mem_append_right _ List.mem_cons_self) verdict⟩
    · exact .inl old
  | @passes front rest b split gone granted =>
    rcases List.mem_cons.mp ended with rfl | old
    · exact .inr ⟨rfl, later (split ▸ List.mem_append_right _ List.mem_cons_self) (.closed gone)⟩
    · exact .inl old
  | waits ticket waits => exact .inl ended
  | takes first => exact .inl ended
  | empty => exact .inl ended
  | cancels => exact .inl ended
  | drops => exact .inl ended
  | ticks nanos => exact .inl ended

/-! ## Slots that were given -/

/-- A push holds a slot, or it has ended and was not refused for want of one. -/
def Served (r : Run α) (ticket : Nat) : Prop :=
  (∃ b ∈ r.queue.blocked, b.ticket = ticket ∧ b.granted = true) ∨
    ∃ e ∈ endings r.history, e.ticket = ticket ∧ ∀ d, e.outcome ≠ .error (.queueFull d)

/-- Whoever holds a slot keeps it until it ends, and does not end as refused: no action takes a slot
from a push that has one. -/
theorem Served.act {ticket : Nat} (served : Served r ticket) (order : Ordered r.queue.blocked)
    (a : Action α) : Served (r.act a) ticket := by
  have turn := turn_of_act order a
  generalize r.act a = r' at turn
  rcases served with ⟨b, mem, same, granted⟩ | ⟨e, ended, same, well⟩
  · cases turn with
    | decides verdict =>
      exact .inl ⟨b, List.mem_append_left _ mem, same, granted⟩
    | begins item timeout stays none_ => exact .inl ⟨b, List.mem_append_left _ mem, same, granted⟩
    | @leaves front rest b' outcome split verdict keeps =>
      by_cases own : b' = b
      · subst own
        exact .inr ⟨_, List.mem_cons_self, same, by rw [keeps granted]; exact nofun⟩
      · refine .inl ⟨b, ?_, same, granted⟩
        rw [split] at mem
        simp only [List.mem_append, List.mem_cons, Ne.symm own, false_or] at mem
        exact List.mem_append.mpr mem
    | @passes front rest b' split gone granted' =>
      by_cases own : b' = b
      · subst own
        exact .inr ⟨_, List.mem_cons_self, same, nofun⟩
      · refine .inl ⟨b, mem_grant_of_granted ?_ granted, same, granted⟩
        rw [split] at mem
        simp only [List.mem_append, List.mem_cons, Ne.symm own, false_or] at mem
        exact List.mem_append.mpr mem
    | takes first => exact .inl ⟨b, mem_grant_of_granted mem granted, same, granted⟩
    | waits ticket waits => exact .inl ⟨b, mem, same, granted⟩
    | empty => exact .inl ⟨b, mem, same, granted⟩
    | cancels => exact .inl ⟨b, mem, same, granted⟩
    | drops => exact .inl ⟨b, mem, same, granted⟩
    | ticks nanos => exact .inl ⟨b, mem, same, granted⟩
  · refine .inr ⟨e, ?_, same, well⟩
    cases turn with
    | decides verdict => exact List.mem_cons_of_mem _ ended
    | leaves split verdict keeps => exact List.mem_cons_of_mem _ ended
    | passes split gone granted => exact List.mem_cons_of_mem _ ended
    | begins item timeout stays none_ => exact ended
    | takes first => exact ended
    | waits ticket waits => exact ended
    | empty => exact ended
    | cancels => exact ended
    | drops => exact ended
    | ticks nanos => exact ended

/-- A push that was given a slot is never refused for want of one. -/
theorem Steady.never_refused (h : Steady capacity r) {b : Blocked α} (mem : b ∈ r.queue.blocked)
    (granted : b.granted = true) (as : List (Action α)) :
    ∀ e ∈ endings (r.after as).history, e.ticket = b.ticket →
      ∀ d, e.outcome ≠ .error (.queueFull d) := by
  have served (as : List (Action α)) : ∀ r : Run α, Steady capacity r → Served r b.ticket →
      Served (r.after as) b.ticket := by
    induction as with
    | nil => exact fun _ _ served => served
    | cons a as ih => exact fun r h served => ih _ (h.act a) (served.act h.fair.order a)
  intro e ended same
  have ledger := (h.after as).ledger
  rcases served as r h (.inl ⟨b, mem, rfl, granted⟩) with
    ⟨b', waits, same', -⟩ | ⟨e', ended', same', well⟩
  · exact absurd (same.trans same'.symm) (ledger.apart b' waits e ended)
  · have one : e = e' :=
      List.inj_on_of_nodup_map ledger.ends_once ended ended' (same.trans same'.symm)
    rw [one]
    exact well

/-! ## Runs of a kind -/

/-- Every action of a run fits the state that it is taken in. -/
def Along (fits : Run α → Action α → Prop) : Run α → List (Action α) → Prop
  | _, [] => True
  | r, a :: as => fits r a ∧ Along fits (r.act a) as

/-- The clock does not pass the moment at which a push gives up. -/
def OnTime (r : Run α) : Action α → Prop
  | .advance nanos => ∀ b ∈ r.queue.blocked, r.now + nanos ≤ b.deadline
  | _ => True

/-- Of the pushes that hold a slot, the one that has waited longest looks first. The queue does not
see to it: it is up to whoever runs the tasks that push. -/
def InTurn (r : Run α) : Action α → Prop
  | .resume ticket => ∀ b ∈ r.queue.blocked, b.granted = true → b.ticket = ticket →
      ∀ b' ∈ r.queue.blocked, b'.granted = true → b.ticket ≤ b'.ticket
  | _ => True

instance (r : Run α) : (a : Action α) → Decidable (OnTime r a)
  | .advance _ => inferInstanceAs (Decidable (∀ b ∈ r.queue.blocked, _))
  | .push _ _ | .resume _ | .receive | .cancel | .dropReceiver => inferInstanceAs (Decidable True)

instance (r : Run α) : (a : Action α) → Decidable (InTurn r a)
  | .resume _ => inferInstanceAs (Decidable (∀ b ∈ r.queue.blocked, _))
  | .push _ _ | .receive | .cancel | .dropReceiver | .advance _ => inferInstanceAs (Decidable True)

instance decidableAlong (fits : Run α → Action α → Prop) [∀ r a, Decidable (fits r a)] (r : Run α) :
    (as : List (Action α)) → Decidable (Along fits r as)
  | [] => inferInstanceAs (Decidable True)
  | a :: as =>
    have := decidableAlong fits (r.act a) as
    inferInstanceAs (Decidable (fits r a ∧ Along fits (r.act a) as))

/-- The pushes that waited and then succeeded in a run, in the order of their success. -/
def admitted (r : Run α) : List (Action α) → List Nat
  | [] => []
  | .resume ticket :: as =>
    (if (r.queue.resume r.now r.cancelled ticket).2 = some (.ok ()) then [ticket] else []) ++
      admitted (r.resume ticket) as
  | a :: as => admitted (r.act a) as

/-- Pushes give up on time. -/
structure Punctual (r : Run α) : Prop where
  early : ∀ b ∈ r.queue.blocked, r.now ≤ b.deadline
  exact_ : ∀ e ∈ endings r.history, ∀ d, e.outcome = .error (.queueFull d) →
    ∃ p ∈ pushes r.history, p.ticket = e.ticket ∧ p.timeout = d ∧ e.moment = p.moment + d.nanos

/-- Nobody has waited or given up before anything happened. -/
theorem punctual_new (capacity : Nat) : Punctual (ofCapacity capacity : Run α) :=
  ⟨fun _ waits => absurd waits List.not_mem_nil, fun _ ended => absurd ended List.not_mem_nil⟩

/-- An action that comes on time keeps the pushes punctual. A refusal can only come at the deadline
itself, since it cannot come before and the clock does not pass it. -/
theorem Punctual.act (on_time : Punctual r) (h : Steady capacity r) {a : Action α}
    (fits : OnTime r a) : Punctual (r.act a) := by
  obtain ⟨early, exact_⟩ := on_time
  have turn := turn_of_act h.fair.order a
  have given {blocked : List (Blocked α)} (all : ∀ b ∈ blocked, r.now ≤ b.deadline) :
      ∀ b ∈ grant blocked, r.now ≤ b.deadline := by
    intro b mem
    obtain ⟨b', mem', same⟩ := mem_of_grant mem
    have deadline : b'.deadline = b.deadline := congrArg (·.deadline) same
    exact deadline ▸ all b' mem'
  have left {front rest : List (Blocked α)} {b : Blocked α}
      (split : r.queue.blocked = front ++ b :: rest) : ∀ b ∈ front ++ rest, r.now ≤ b.deadline :=
    fun b' mem => early b' (mem_of_left split mem)
  have grown {p : Push α} : ∀ e ∈ endings r.history, ∀ d, e.outcome = .error (.queueFull d) →
      ∃ p' ∈ p :: pushes r.history, p'.ticket = e.ticket ∧ p'.timeout = d ∧
        e.moment = p'.moment + d.nanos := by
    intro e ended d refused
    obtain ⟨p', called, exact_⟩ := exact_ e ended d refused
    exact ⟨p', List.mem_cons_of_mem _ called, exact_⟩
  generalize r.act a = r' at turn
  cases turn with
  | @decides item timeout outcome verdict =>
    refine ⟨fun b mem => early b (by simpa [leave, note, enter] using mem), ?_⟩
    intro e ended d refused
    rcases List.mem_cons.mp ended with rfl | old
    · cases verdict with
      | closed gone => cases refused
      | accepted stays has => cases refused
      | expired stays without due =>
        cases refused
        refine ⟨_, List.mem_cons_self, rfl, rfl, ?_⟩
        show r.now = r.now + timeout.nanos
        omega
    · exact grown e old d refused
  | begins item timeout stays none_ =>
    refine ⟨?_, grown⟩
    intro b mem
    rcases List.mem_append.mp mem with old | new
    · exact early b old
    · rw [List.mem_singleton.mp new]
      exact Nat.le_add_right _ _
  | @leaves front rest b outcome split verdict keeps =>
    refine ⟨left split, ?_⟩
    intro e ended d refused
    rcases List.mem_cons.mp ended with rfl | old
    · cases verdict with
      | closed gone => cases refused
      | accepted stays has => cases refused
      | expired stays without due =>
        cases refused
        have mem : b ∈ r.queue.blocked := split ▸ List.mem_append_right _ List.mem_cons_self
        obtain ⟨p, called, ticket, timeout, deadline, -⟩ := h.push_of_mem mem
        refine ⟨p, called, ticket, timeout, ?_⟩
        have := early b mem
        rw [timeout] at deadline
        simp only [deadline]
        omega
    · exact exact_ e old d refused
  | @passes front rest b split gone granted =>
    refine ⟨given (left split), ?_⟩
    intro e ended d refused
    rcases List.mem_cons.mp ended with rfl | old
    · cases refused
    · exact exact_ e old d refused
  | takes first => exact ⟨given early, exact_⟩
  | ticks nanos => exact ⟨fits, exact_⟩
  | waits ticket waits => exact ⟨early, exact_⟩
  | empty => exact ⟨early, exact_⟩
  | cancels => exact ⟨early, exact_⟩
  | drops => exact ⟨early, exact_⟩

/-- Along a run on time all pushes give up on time. -/
theorem Punctual.after (on_time : Punctual r) (h : Steady capacity r) {as : List (Action α)}
    (fits : Along OnTime r as) : Punctual (r.after as) := by
  induction as generalizing r with
  | nil => exact on_time
  | cons a as ih => exact ih (on_time.act h fits.1) (h.act a) fits.2

/-- Whoever waits after an action waited before it or was called by it. -/
theorem Steady.waited (h : Steady capacity r) (a : Action α) : r.fresh ≤ (r.act a).fresh ∧
    ∀ b ∈ (r.act a).queue.blocked, (∃ b' ∈ r.queue.blocked, b'.ticket = b.ticket) ∨
      r.fresh ≤ b.ticket := by
  have turn := turn_of_act h.fair.order a
  have given {blocked : List (Blocked α)} (all : ∀ b ∈ blocked, b ∈ r.queue.blocked) :
      ∀ b ∈ grant blocked, (∃ b' ∈ r.queue.blocked, b'.ticket = b.ticket) ∨ r.fresh ≤ b.ticket := by
    intro b mem
    obtain ⟨b', mem', same⟩ := mem_of_grant mem
    exact .inl ⟨b', all b' mem', Blocked.ticket_of_bare same⟩
  generalize r.act a = r' at turn
  cases turn with
  | decides verdict =>
    refine ⟨Nat.le_succ _, fun b mem => .inl ⟨b, ?_, rfl⟩⟩
    simpa [leave, note, enter] using mem
  | begins item timeout stays none_ =>
    refine ⟨Nat.le_succ _, fun b mem => ?_⟩
    rcases List.mem_append.mp mem with old | new
    · exact .inl ⟨b, old, rfl⟩
    · rw [List.mem_singleton.mp new]
      exact .inr (Nat.le_refl _)
  | leaves split verdict keeps =>
    exact ⟨Nat.le_refl _, fun b mem => .inl ⟨b, mem_of_left split mem, rfl⟩⟩
  | passes split gone granted => exact ⟨Nat.le_refl _, given fun b mem => mem_of_left split mem⟩
  | takes first => exact ⟨Nat.le_refl _, given fun b mem => mem⟩
  | waits ticket waits => exact ⟨Nat.le_refl _, fun b mem => .inl ⟨b, mem, rfl⟩⟩
  | empty => exact ⟨Nat.le_refl _, fun b mem => .inl ⟨b, mem, rfl⟩⟩
  | cancels => exact ⟨Nat.le_refl _, fun b mem => .inl ⟨b, mem, rfl⟩⟩
  | drops => exact ⟨Nat.le_refl _, fun b mem => .inl ⟨b, mem, rfl⟩⟩
  | ticks nanos => exact ⟨Nat.le_refl _, fun b mem => .inl ⟨b, mem, rfl⟩⟩

/-- A push that a later look lets succeed stands in line, behind pushes that hold slots only. -/
theorem Steady.resumed_ok (h : Steady capacity r) {ticket : Nat}
    (succeeds : (r.queue.resume r.now r.cancelled ticket).2 = some (.ok ())) :
    ∃ front b rest, r.queue.blocked = front ++ b :: rest ∧ b.ticket = ticket ∧
      b.granted = true ∧ (∀ h ∈ front, h.granted = true) ∧
      (r.resume ticket).queue.blocked = front ++ rest := by
  have look := resumed h.fair.order r.now r.cancelled ticket
  have queue : (r.resume ticket).queue = (r.queue.resume r.now r.cancelled ticket).1 := by
    simp [Run.resume]
  rw [succeeds, ← queue] at look
  generalize (r.resume ticket).queue = q at look
  cases look with
  | @accepted front rest b same split stays granted =>
    have order := h.fair.order
    rw [split] at order
    exact ⟨front, b, rest, split, same, granted, order.granted_ahead granted, rfl⟩

/-- Whoever is admitted waits already or is called later. -/
theorem Steady.admitted (h : Steady capacity r) {as : List (Action α)} {ticket : Nat}
    (mem : ticket ∈ admitted r as) :
    (∃ b ∈ r.queue.blocked, b.ticket = ticket) ∨ r.fresh ≤ ticket := by
  induction as generalizing r with
  | nil => cases mem
  | cons a as ih =>
    have later (mem : ticket ∈ Run.admitted (r.act a) as) :
        (∃ b ∈ r.queue.blocked, b.ticket = ticket) ∨ r.fresh ≤ ticket := by
      obtain ⟨fresh, waited⟩ := h.waited a
      rcases ih (h.act a) mem with ⟨b, mem', rfl⟩ | issued
      · exact waited b mem'
      · exact .inr (Nat.le_trans fresh issued)
    cases a with
    | resume t =>
      rcases List.mem_append.mp mem with now | rest
      · split at now
        · obtain ⟨front, b, rest, split, same, -⟩ := h.resumed_ok ‹_›
          rw [List.mem_singleton.mp now]
          exact .inl ⟨b, split ▸ List.mem_append_right _ List.mem_cons_self, same⟩
        · cases now
      · exact later rest
    | _ => exact later mem

/-- Where slots are used in the order in which they were given, pushes succeed in the order in which
they began to wait. -/
theorem Steady.admitted_in_order (h : Steady capacity r) {as : List (Action α)}
    (fits : Along InTurn r as) : (Run.admitted r as).Pairwise (· < ·) := by
  induction as generalizing r with
  | nil => exact .nil
  | cons a as ih =>
    obtain ⟨turn, rest_fits⟩ := fits
    have later := ih (h.act a) rest_fits
    cases a with
    | resume t =>
      refine List.pairwise_append.mpr ⟨?_, later, ?_⟩
      · split
        · exact List.pairwise_singleton _ _
        · exact .nil
      intro first now x mem
      split at now
      · obtain ⟨front, b, rest, split, same, granted, before, left⟩ := h.resumed_ok ‹_›
        rw [List.mem_singleton.mp now]
        have at_ : b ∈ r.queue.blocked := split ▸ List.mem_append_right _ List.mem_cons_self
        have order := h.fair.order
        rw [split] at order
        obtain ⟨-, behind, across⟩ := List.pairwise_append.mp order
        -- nobody stands ahead of it: who does holds a slot, and should have looked before
        have alone : front = [] := by
          refine List.eq_nil_iff_forall_not_mem.mpr fun b' mem' => ?_
          have ahead := (across b' mem' b List.mem_cons_self).1
          have := turn b at_ granted same b' (split ▸ List.mem_append_left _ mem') (before b' mem')
          omega
        rw [alone, List.nil_append] at left
        rcases (h.act (.resume t)).admitted mem with ⟨b', mem', rfl⟩ | issued
        · rw [show ((r.act (.resume t)).queue.blocked) = rest from left] at mem'
          rw [← same]
          exact ((List.pairwise_cons.mp behind).1 b' mem').1
        · have := h.last b at_
          have := (h.waited (.resume t)).1
          omega
      · cases now
    | _ => exact later

/-! ## The promises -/

/-- What the users of a queue can rely on at every moment. -/
structure Kept (capacity : Nat) (r : Run α) : Prop where
  calls_once : ((pushes r.history).map (·.ticket)).Nodup
  ends_once : ((endings r.history).map (·.ticket)).Nodup
  /-- What was received, followed by what waits, is what the pushes that succeeded brought, in the
  order of their success. After the loss of the receiver nothing else is received. -/
  conserved : ∃ taken : List (Push α), (∀ p ∈ taken, p ∈ pushes r.history) ∧
    taken.map (·.ticket) = (accepted r.history).reverse ∧
    (received r.history).reverse <+: taken.map (·.item) ∧
    (r.queue.receiverGone = false →
      (received r.history).reverse ++ r.queue.items = taken.map (·.item))
  bounded : r.queue.depth ≤ max capacity 1
  /-- Slots are given in the order in which the pushes began to wait, -/
  turns : Ordered r.queue.blocked
  /-- and none is lost: while a push waits without one, all are in use. -/
  full : r.queue.receiverGone = false → ∀ b ∈ r.queue.blocked, b.granted = false →
    r.queue.depth = max capacity 1
  pending : ∀ p ∈ pushes r.history,
    (∃ e ∈ endings r.history, e.ticket = p.ticket) ∨ ∃ granted, p.waiting granted ∈ r.queue.blocked
  /-- When nothing can go on, the depth is the number of items, and a push that has not ended is in
  time, with a receiver and without a cancellation. -/
  settled : r.IsSettled → r.queue.depth = r.queue.items.length ∧ ∀ p ∈ pushes r.history,
    (∃ e ∈ endings r.history, e.ticket = p.ticket) ∨
      r.cancelled = false ∧ r.queue.receiverGone = false ∧ r.now < p.moment + p.timeout.nanos

/-- A push that was called has ended or stands in the line as it was called, with a slot or without.
-/
theorem Steady.pending (h : Steady capacity r) {p : Push α} (called : p ∈ pushes r.history) :
    (∃ e ∈ endings r.history, e.ticket = p.ticket) ∨
      ∃ granted, p.waiting granted ∈ r.queue.blocked := by
  rcases h.ledger.pending p called with ⟨b, mem, same⟩ | ended
  · obtain ⟨p', called', waits⟩ := h.ledger.waits b mem
    have one : p' = p :=
      List.inj_on_of_nodup_map h.ledger.calls_once called' called (by rw [← same, waits]; rfl)
    exact .inr ⟨b.granted, one ▸ waits ▸ mem⟩
  · exact .inl ended

/-- What every action keeps is what the users of a queue can rely on. -/
theorem Steady.kept (h : Steady capacity r) : Kept capacity r where
  calls_once := h.ledger.calls_once
  ends_once := h.ledger.ends_once
  conserved := by
    obtain ⟨taken, lost, called, tickets, items, alive⟩ := h.ledger.conserved
    refine ⟨taken, called, tickets, ?_, ?_⟩
    · rw [← items, List.append_assoc]
      exact List.prefix_append _ _
    · intro there
      rw [← items, alive there, List.append_nil]
  bounded := h.capacity ▸ h.fair.bounded
  turns := h.fair.order
  full := h.capacity ▸ h.fair.full
  pending _ called := h.pending called
  settled settled := by
    have waits {b : Blocked α} (mem : b ∈ r.queue.blocked) := settled.waits h.fair.order mem
    refine ⟨?_, fun p called => ?_⟩
    · have none_held : r.queue.blocked.filter (·.granted) = [] :=
        List.filter_eq_nil_iff.mpr fun b mem => by simp [(waits mem).2.2.1]
      simp [depth_eq, held, none_held]
    · refine (h.pending called).imp id ?_
      rintro ⟨granted, mem⟩
      obtain ⟨live, there, -, early⟩ := waits mem
      exact ⟨live, there, early⟩

/-- Once pushes are cancelled or the receiver is gone, a push is closed by its next look, whether or
not there is a slot. -/
theorem Steady.closes (h : Steady capacity r)
    (gone : r.cancelled = true ∨ r.queue.receiverGone = true) :
    (∀ item timeout, ⟨r.now, r.fresh, .error .closed⟩ ∈ endings (r.push item timeout).history) ∧
    ∀ b ∈ r.queue.blocked,
      ⟨r.now, b.ticket, .error .closed⟩ ∈ endings (r.resume b.ticket).history := by
  have shut : (r.cancelled || r.queue.receiverGone) = true := by simpa using gone
  refine ⟨fun item timeout => ?_, fun b mem => ?_⟩
  · simp [push, note, SendQueue.offer, shut, noteOutcome]
  · rcases waiting?_cases h.fair.order b.ticket with ⟨-, none_⟩ | ⟨front, b', rest, found, -⟩
    · exact absurd rfl (none_ b mem)
    · simp [Run.resume, SendQueue.resume, found, shut, noteOutcome, note]

/-- A queue keeps its promises, whatever is done with it in whatever order: what it holds and what
came out of it, slots being given in the order in which the pushes began to wait (`Kept`), why each
push ended (`Justified`), that a push is closed at its next look once there is a cancellation or no
receiver, and that a push that holds a slot is never refused.

The last two parts take something from outside the queue. Where the pushes that hold slots are run
in turn, they enter in the order in which they began to wait; where timers are exact, none waits
longer than its timeout. -/
theorem keeps_promises (capacity : Nat) (as : List (Action α)) :
    let start : Run α := ofCapacity capacity
    let r := start.after as
    Kept capacity r ∧
    (∀ a, ∀ e ∈ endings (r.act a).history, e ∈ endings r.history ∨ e.moment = r.now ∧
      ∃ p ∈ pushes (r.act a).history, p.ticket = e.ticket ∧ Justified capacity r p e.outcome) ∧
    (r.cancelled = true ∨ r.queue.receiverGone = true →
      (∀ item timeout, ⟨r.now, r.fresh, .error .closed⟩ ∈ endings (r.push item timeout).history) ∧
      ∀ b ∈ r.queue.blocked,
        ⟨r.now, b.ticket, .error .closed⟩ ∈ endings (r.resume b.ticket).history) ∧
    (∀ b ∈ r.queue.blocked, b.granted = true → ∀ more, ∀ e ∈ endings (r.after more).history,
      e.ticket = b.ticket → ∀ d, e.outcome ≠ .error (.queueFull d)) ∧
    (Along InTurn start as → (admitted start as).Pairwise (· < ·)) ∧
    (Along OnTime start as → Punctual r) := by
  have new : Steady capacity (ofCapacity capacity : Run α) := steady_new capacity
  have h := new.after as
  refine ⟨h.kept, h.justified, h.closes, ?_, new.admitted_in_order, ?_⟩
  · exact fun b mem granted more => h.never_refused mem granted more
  · exact (punctual_new capacity).after new

/-- Of five pushes to a queue of two slots three wait. Two items are taken out, and the two pushes
that are given slots look in turn; the last one waits for nothing until its time is over. -/
def inTurn : List (Action Char) :=
  [.push 'a' .zero, .push 'b' .zero, .push 'c' (.ofSecs 2), .push 'd' (.ofSecs 2),
    .push 'e' (.ofSecs 1), .receive, .receive, .resume 2, .resume 3, .advance 1000000000, .resume 4]

/-- The promises of a run in which both conditions are met. Two slots are given before either is
used; the push that waits in vain is refused one second after it was called. -/
theorem keeps_promises_of_inTurn :
    let start : Run Char := ofCapacity 2
    (Along InTurn start inTurn ∧ Along OnTime start inTurn) ∧ admitted start inTurn = [2, 3] ∧
      (admitted start inTurn).Pairwise (· < ·) ∧ Kept 2 (start.after inTurn) ∧
      Punctual (start.after inTurn) ∧
      ⟨1000000000, 4, .error (.queueFull (.ofSecs 1))⟩ ∈ endings (start.after inTurn).history := by
  have in_turn : Along InTurn (ofCapacity 2) inTurn := by decide
  have on_time : Along OnTime (ofCapacity 2) inTurn := by decide
  obtain ⟨kept, -, -, -, in_order, punctual⟩ := keeps_promises 2 inTurn
  exact ⟨⟨in_turn, on_time⟩, by decide, in_order in_turn, kept, punctual on_time, .head _⟩

/-- Of four pushes to a queue of two slots two wait. Two items are taken out, so that both are given
slots, and the later one looks first. -/
def overtaking : List (Action Char) :=
  [.push 'a' .zero, .push 'b' .zero, .push 'c' (.ofSecs 1), .push 'd' (.ofSecs 1),
    .receive, .receive, .resume 3, .resume 2, .receive, .receive]

/-- Slots are given in turn, but not used in turn: in some order of actions the push that began to
wait later is the first to enter, and its item the first to come out. And there are capacities
without a queue. -/
theorem later_push_enters_first :
    admitted (ofCapacity 2) overtaking = [3, 2] ∧
    (received ((ofCapacity 2).after overtaking).history).reverse = ['a', 'b', 'd', 'c'] ∧
    (¬ ∀ (capacity : Nat) (as : List (Action Char)),
      (admitted (ofCapacity capacity) as).Pairwise (· < ·)) ∧
    ¬ ∀ capacity : Nat, (ofCapacity? capacity : Option (Run Char)).isSome := by
  have order : admitted (ofCapacity 2) overtaking = [3, 2] := by decide
  refine ⟨order, by decide, fun in_order => ?_, fun made => ?_⟩
  · have := in_order 2 overtaking
    rw [order] at this
    exact absurd this (by decide)
  · exact absurd (made (mostSlots + 1)) (by decide)

end StationPool.SendQueue.Run
