import StationPool.Proofs.Queue.Slots
import StationPool.Queue.Run

/-!
# The ledger of a send queue

What the history of a queue tells: which pushes were called, how each of them ended, which items
were taken out. `Ledger` ties the history to the contents of the queue, and every action keeps it.

A push that is settled by its first look is, for the books, one that begins to wait and leaves at
once. So five entries suffice: a push enters, it leaves with its item or without, slots are given,
an item is taken out, the receiver goes.
-/

namespace StationPool.SendQueue

variable {α : Type}

/-! ## What a history tells -/

/-- A push as it was called. -/
structure Push (α : Type) where
  moment : Nat
  ticket : Nat
  item : α
  timeout : Duration

/-- The push while it waits. -/
def Push.waiting (p : Push α) (granted : Bool) : Blocked α :=
  ⟨p.ticket, p.item, p.timeout, p.moment + p.timeout.nanos, granted⟩

/-- The push that an entry tells of, if it tells that one was called. -/
def Entry.push? (e : Entry α) : Option (Push α) :=
  match e.what with
  | .pushing ticket item timeout => some ⟨e.moment, ticket, item, timeout⟩
  | _ => none

/-- The pushes that were called, the last first. -/
def pushes (history : List (Entry α)) : List (Push α) := history.filterMap Entry.push?

/-- The end of a push. -/
structure Ending where
  moment : Nat
  ticket : Nat
  outcome : Outcome

/-- The end of a push that an entry tells of, if it does. -/
def Entry.ending? (e : Entry α) : Option Ending :=
  match e.what with
  | .returned ticket outcome => some ⟨e.moment, ticket, outcome⟩
  | _ => none

/-- The pushes that ended, the last first. -/
def endings (history : List (Entry α)) : List Ending := history.filterMap Entry.ending?

/-- The ticket of a push that ended well. -/
def Ending.accepted? (e : Ending) : Option Nat :=
  match e.outcome with
  | .ok () => some e.ticket
  | .error _ => none

/-- The tickets of the pushes that succeeded, the last first. -/
def accepted (history : List (Entry α)) : List Nat := (endings history).filterMap Ending.accepted?

/-- The item that an entry tells to have been taken out, if it does. -/
def Entry.item? (e : Entry α) : Option α :=
  match e.what with
  | .received item => some item
  | _ => none

/-- The items that were taken out, the last first. -/
def received (history : List (Entry α)) : List α := history.filterMap Entry.item?

variable {moment ticket : Nat} {item : α} {outcome : Outcome} {history : List (Entry α)}

/-- How a push ended is told by the entry that it ended with. -/
@[simp] theorem endings_returned : endings (⟨moment, .returned ticket outcome⟩ :: history) =
    ⟨moment, ticket, outcome⟩ :: endings history := rfl

/-- A push that ends well is accepted last of all. -/
@[simp] theorem accepted_ok :
    accepted (⟨moment, .returned ticket (.ok ())⟩ :: history) = ticket :: accepted history := rfl

/-- The end of a push takes nothing out. -/
@[simp] theorem received_returned :
    received (⟨moment, .returned ticket outcome⟩ :: history) = received history := rfl

/-- An item that is taken out is the last received. -/
@[simp] theorem received_received :
    received (⟨moment, .received item⟩ :: history) = item :: received history := rfl

namespace Run

variable {r : Run α} {front rest : List (Blocked α)} {b : Blocked α}

/-! ## The five entries -/

/-- The push that is called next. -/
def next (r : Run α) (item : α) (timeout : Duration) : Push α := ⟨r.now, r.fresh, item, timeout⟩

/-- A push is called and begins to wait. -/
def enter (r : Run α) (item : α) (timeout : Duration) : Run α :=
  { r with
    fresh := r.fresh + 1
    queue := { r.queue with
      blocked := r.queue.blocked ++ [(r.next item timeout).waiting false] } }.note
    (.pushing r.fresh item timeout)

/-- What a push leaves in the queue. -/
def yield (b : Blocked α) : Outcome → List α
  | .ok () => [b.item]
  | .error _ => []

/-- A push that waits leaves, between those ahead of it and those behind it. -/
def leave (r : Run α) (front : List (Blocked α)) (b : Blocked α) (rest : List (Blocked α))
    (outcome : Outcome) : Run α :=
  { r with
    queue := { r.queue with
      items := r.queue.items ++ yield b outcome
      blocked := front ++ rest } }.note (.returned b.ticket outcome)

/-- The pushes that wait after slots were given. -/
def regrant (r : Run α) (blocked : List (Blocked α)) : Run α :=
  { r with queue := { r.queue with blocked } }

/-- The first item is taken out. -/
def takeOut (r : Run α) (item : α) (items : List α) : Run α :=
  { r with queue := { r.queue with items } }.note (.received item)

/-- The receiver goes. -/
def lose (r : Run α) : Run α := { r with queue := r.queue.dropReceiver }

/-! ## The books -/

/-- How the history of a queue and its contents agree. -/
structure Ledger (r : Run α) : Prop where
  /-- A ticket is the ticket of one push, -/
  calls_once : ((pushes r.history).map (·.ticket)).Nodup
  issued : ∀ p ∈ pushes r.history, p.ticket < r.fresh
  /-- which ends at most once. -/
  ends_once : ((endings r.history).map (·.ticket)).Nodup
  called : ∀ e ∈ endings r.history, ∃ p ∈ pushes r.history, p.ticket = e.ticket
  waits : ∀ b ∈ r.queue.blocked, ∃ p ∈ pushes r.history, b = p.waiting b.granted
  apart : ∀ b ∈ r.queue.blocked, ∀ e ∈ endings r.history, e.ticket ≠ b.ticket
  pending : ∀ p ∈ pushes r.history,
    (∃ b ∈ r.queue.blocked, b.ticket = p.ticket) ∨ ∃ e ∈ endings r.history, e.ticket = p.ticket
  /-- The items taken out, those that wait and those that were lost with the receiver are the items
  of the pushes that succeeded, in the order of their success. -/
  conserved : ∃ (taken : List (Push α)) (lost : List α), (∀ p ∈ taken, p ∈ pushes r.history) ∧
    taken.map (·.ticket) = (accepted r.history).reverse ∧
    (received r.history).reverse ++ r.queue.items ++ lost = taken.map (·.item) ∧
    (r.queue.receiverGone = false → lost = [])

/-- Before anything happened the books are empty, and so is the queue. -/
theorem ledger_new (capacity : Nat) : Ledger (ofCapacity capacity : Run α) :=
  ⟨.nil, nofun, .nil, nofun, nofun, nofun, nofun, [], [], nofun, rfl, rfl, fun _ => rfl⟩

/-- The ticket of the next push is none of those that were given out. -/
theorem Ledger.fresh_of_push (h : Ledger r) : ∀ p ∈ pushes r.history, p.ticket ≠ r.fresh :=
  fun p mem => Nat.ne_of_lt (h.issued p mem)

/-- The books when a push is called: it has a ticket of its own, and it waits. -/
theorem Ledger.enter (h : Ledger r) (item : α) (timeout : Duration) :
    Ledger (r.enter item timeout) where
  calls_once := by
    refine List.nodup_cons.mpr ⟨?_, h.calls_once⟩
    intro mem
    obtain ⟨p, mem, same⟩ := List.mem_map.mp mem
    exact h.fresh_of_push p mem same
  issued p mem := by
    rcases List.mem_cons.mp mem with rfl | old
    · exact Nat.lt_succ_self _
    · exact Nat.lt_succ_of_lt (h.issued p old)
  ends_once := h.ends_once
  called e mem := by
    obtain ⟨p, called, same⟩ := h.called e mem
    exact ⟨p, List.mem_cons_of_mem _ called, same⟩
  waits b mem := by
    rcases List.mem_append.mp mem with old | new
    · obtain ⟨p, called, same⟩ := h.waits b old
      exact ⟨p, List.mem_cons_of_mem _ called, same⟩
    · rw [List.mem_singleton.mp new]
      exact ⟨_, List.mem_cons_self, rfl⟩
  apart b mem e ended := by
    rcases List.mem_append.mp mem with old | new
    · exact h.apart b old e ended
    · obtain ⟨p, called, same⟩ := h.called e ended
      rw [List.mem_singleton.mp new, ← same]
      exact h.fresh_of_push p called
  pending p mem := by
    rcases List.mem_cons.mp mem with rfl | old
    · exact .inl ⟨_, List.mem_append_right _ List.mem_cons_self, rfl⟩
    · refine (h.pending p old).imp ?_ id
      rintro ⟨b, waits, same⟩
      exact ⟨b, List.mem_append_left _ waits, same⟩
  conserved := by
    obtain ⟨taken, lost, called, tickets, items, alive⟩ := h.conserved
    exact ⟨taken, lost, fun p mem => List.mem_cons_of_mem _ (called p mem), tickets, items, alive⟩

/-- Only the slots change. -/
theorem Ledger.regrant (h : Ledger r) {blocked : List (Blocked α)}
    (same : blocked.map Blocked.bare = r.queue.blocked.map Blocked.bare) :
    Ledger (r.regrant blocked) := by
  have old {b : Blocked α} (mem : b ∈ blocked) : ∃ b' ∈ r.queue.blocked, b.bare = b'.bare := by
    have shown := same ▸ List.mem_map_of_mem mem
    obtain ⟨b', mem', eq⟩ := List.mem_map.mp shown
    exact ⟨b', mem', eq.symm⟩
  refine { h with waits := ?_, apart := ?_, pending := ?_ }
  · intro b mem
    obtain ⟨b', mem', eq⟩ := old mem
    obtain ⟨p, called, waits⟩ := h.waits b' mem'
    refine ⟨p, called, ?_⟩
    rw [waits] at eq
    cases b
    simp only [Blocked.bare, Push.waiting, Blocked.mk.injEq] at eq ⊢
    exact ⟨eq.1, eq.2.1, eq.2.2.1, eq.2.2.2.1, trivial⟩
  · intro b mem e ended
    obtain ⟨b', mem', eq⟩ := old mem
    rw [Blocked.ticket_of_bare eq]
    exact h.apart b' mem' e ended
  · intro p called
    refine (h.pending p called).imp ?_ id
    rintro ⟨b', mem', ticket⟩
    have shown := same ▸ List.mem_map_of_mem mem'
    obtain ⟨b, mem, eq⟩ := List.mem_map.mp shown
    exact ⟨b, mem, (Blocked.ticket_of_bare eq).trans ticket⟩

/-- A push leaves; it succeeds only while there is a receiver. -/
theorem Ledger.leave (h : Ledger r) (split : r.queue.blocked = front ++ b :: rest)
    (order : Ordered r.queue.blocked) {outcome : Outcome}
    (alive : outcome = .ok () → r.queue.receiverGone = false) :
    Ledger (r.leave front b rest outcome) := by
  have at_ : b ∈ r.queue.blocked := split ▸ List.mem_append_right _ List.mem_cons_self
  have stays {b' : Blocked α} (mem : b' ∈ front ++ rest) : b' ∈ r.queue.blocked :=
    mem_of_left split mem
  have other {b' : Blocked α} (mem : b' ∈ front ++ rest) : b.ticket ≠ b'.ticket := by
    rw [split] at order
    obtain ⟨-, behind, across⟩ := List.pairwise_append.mp order
    rcases List.mem_append.mp mem with ahead | later
    · exact Nat.ne_of_gt (across b' ahead b List.mem_cons_self).1
    · exact Nat.ne_of_lt ((List.pairwise_cons.mp behind).1 b' later).1
  obtain ⟨p, called, waited⟩ := h.waits b at_
  have ticket : p.ticket = b.ticket := by rw [waited]; rfl
  have item : p.item = b.item := by rw [waited]; rfl
  refine ⟨h.calls_once, h.issued, ?_, ?_, ?_, ?_, ?_, ?_⟩
  · refine List.nodup_cons.mpr ⟨?_, h.ends_once⟩
    intro mem
    obtain ⟨e, ended, same⟩ := List.mem_map.mp mem
    exact h.apart b at_ e ended same
  · intro e mem
    rcases List.mem_cons.mp mem with rfl | old
    · exact ⟨p, called, ticket⟩
    · exact h.called e old
  · exact fun b' mem => h.waits b' (stays mem)
  · intro b' mem e ended
    rcases List.mem_cons.mp ended with rfl | old
    · exact other mem
    · exact h.apart b' (stays mem) e old
  · intro p' called'
    rcases h.pending p' called' with ⟨b', mem, same⟩ | ⟨e, ended, same⟩
    · rw [split] at mem
      rcases List.mem_append.mp mem with ahead | later
      · exact .inl ⟨b', List.mem_append_left _ ahead, same⟩
      · rcases List.mem_cons.mp later with rfl | behind
        · exact .inr ⟨_, List.mem_cons_self, same⟩
        · exact .inl ⟨b', List.mem_append_right _ behind, same⟩
    · exact .inr ⟨e, List.mem_cons_of_mem _ ended, same⟩
  · obtain ⟨taken, lost, from_, tickets, items, gone⟩ := h.conserved
    match outcome with
    | .error e =>
      refine ⟨taken, lost, from_, tickets, ?_, gone⟩
      simpa [Run.leave, note, yield] using items
    | .ok () =>
      have kept := gone (alive rfl)
      subst kept
      refine ⟨taken ++ [p], [], ?_, ?_, ?_, fun _ => rfl⟩
      · intro p' mem
        rcases List.mem_append.mp mem with old | new
        · exact from_ p' old
        · exact List.mem_singleton.mp new ▸ called
      · simp [Run.leave, note, tickets, ticket]
      · rw [List.append_nil] at items
        simp [Run.leave, note, yield, ← items, item]

/-- The books when an item is taken out: it moves from the items that wait to those received, in
order. -/
theorem Ledger.takeOut (h : Ledger r) {item : α} {items : List α}
    (first : r.queue.items = item :: items) : Ledger (r.takeOut item items) := by
  refine { h with conserved := ?_ }
  obtain ⟨taken, lost, called, tickets, same, alive⟩ := h.conserved
  refine ⟨taken, lost, called, tickets, ?_, alive⟩
  rw [first] at same
  simpa [Run.takeOut, note] using same

/-- The books when the receiver goes: what waited is lost, and what was received stays as it was. -/
theorem Ledger.lose (h : Ledger r) : Ledger r.lose := by
  refine { h with conserved := ?_ }
  obtain ⟨taken, lost, called, tickets, same, alive⟩ := h.conserved
  refine ⟨taken, r.queue.items ++ lost, called, tickets, ?_, nofun⟩
  simpa [Run.lose, SendQueue.dropReceiver] using same

end Run

end StationPool.SendQueue
