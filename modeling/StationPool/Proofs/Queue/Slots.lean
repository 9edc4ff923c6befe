import Mathlib.Data.List.Nodup
import StationPool.Queue.Basic

/-!
# The slots of a send queue

A slot is in use by an item that waits or by a push that was given it and has not looked since.
`Fair` is what every operation on a queue keeps: no more slots are in use than there are, the pushes
wait in the order of their tickets, slots are given from the front, and while a push waits without
one all slots are in use. The last is why a push that gives up loses no slot.

`Offered` and `Resumed` list what the first look and a later look of a push come to, with the
conditions under which they do. Nothing after this module opens `offer`, `resume` or `grant`.
-/

namespace StationPool

/-- A push that waits, without regard to its slot. -/
def Blocked.bare {α : Type} (b : Blocked α) : Blocked α := { b with granted := false }

/-- Pushes that differ in their slots at most have the same ticket. -/
theorem Blocked.ticket_of_bare {α : Type} {b b' : Blocked α} (same : b.bare = b'.bare) :
    b.ticket = b'.ticket := by
  cases b
  cases b'
  simp_all [bare]

namespace SendQueue

variable {α : Type} {q : SendQueue α}

/-! ## Giving slots -/

/-- The pushes among some that hold a slot. -/
def held (blocked : List (Blocked α)) : Nat := (blocked.filter (·.granted)).length

@[simp] theorem held_nil : held ([] : List (Blocked α)) = 0 := rfl

/-- A push counts for one slot if it holds one. -/
@[simp] theorem held_cons (b : Blocked α) (rest : List (Blocked α)) :
    held (b :: rest) = (if b.granted then 1 else 0) + held rest := by
  cases granted : b.granted <;> simp [held, granted, Nat.add_comm]

@[simp] theorem held_append (front rest : List (Blocked α)) :
    held (front ++ rest) = held front + held rest := by
  simp [held]

/-- The depth as a sum: the items, and the slots that pushes hold and have not used. -/
theorem depth_eq (q : SendQueue α) : q.depth = q.items.length + held q.blocked := rfl

/-- A slot goes to the first push without one, if there is one. -/
theorem grant_eq (blocked : List (Blocked α)) :
    ((∀ b ∈ blocked, b.granted = true) ∧ grant blocked = blocked) ∨
    ∃ front b rest, blocked = front ++ b :: rest ∧ (∀ h ∈ front, h.granted = true) ∧
      b.granted = false ∧ grant blocked = front ++ { b with granted := true } :: rest := by
  induction blocked with
  | nil => exact .inl ⟨nofun, rfl⟩
  | cons b rest ih =>
    cases granted : b.granted with
    | false => exact .inr ⟨[], b, rest, rfl, nofun, granted, by simp [grant, granted]⟩
    | true =>
      have more : grant (b :: rest) = b :: grant rest := by simp [grant, granted]
      rcases ih with ⟨all, same⟩ | ⟨front, b', rest', split, before, without, given⟩
      · refine .inl ⟨?_, by rw [more, same]⟩
        simpa [granted] using all
      · refine .inr ⟨b :: front, b', rest', by rw [split]; rfl, ?_, without, ?_⟩
        · simpa [granted] using before
        · rw [more, given]
          rfl

/-- Only the slots change: whoever waits waits on as it was. -/
theorem grant_bare (blocked : List (Blocked α)) :
    (grant blocked).map Blocked.bare = blocked.map Blocked.bare := by
  rcases grant_eq blocked with ⟨_, same⟩ | ⟨front, b, rest, split, _, _, given⟩
  · rw [same]
  · rw [given, split]
    simp [Blocked.bare]

/-- Whoever stands in a line after a slot was given stood there before. -/
theorem mem_of_grant {b : Blocked α} {blocked : List (Blocked α)} (mem : b ∈ grant blocked) :
    ∃ b' ∈ blocked, b'.bare = b.bare := by
  have there : b.bare ∈ blocked.map Blocked.bare := grant_bare blocked ▸ List.mem_map_of_mem mem
  obtain ⟨b', mem', same⟩ := List.mem_map.mp there
  exact ⟨b', mem', same⟩

/-- Whoever stands in a line after a push left stood there before. -/
theorem mem_of_left {b b' : Blocked α} {blocked front rest : List (Blocked α)}
    (split : blocked = front ++ b :: rest) (mem : b' ∈ front ++ rest) : b' ∈ blocked :=
  split ▸ (List.Sublist.append_left (List.sublist_cons_self b rest) front).subset mem

/-- At most one slot more is in use; and one more is, if anyone still waits without. -/
theorem held_grant (blocked : List (Blocked α)) :
    held blocked ≤ held (grant blocked) ∧ held (grant blocked) ≤ held blocked + 1 ∧
      ((∃ b ∈ grant blocked, b.granted = false) → held (grant blocked) = held blocked + 1) := by
  rcases grant_eq blocked with ⟨all, same⟩ | ⟨front, b, rest, split, _, without, given⟩
  · rw [same]
    refine ⟨Nat.le_refl _, Nat.le_succ _, ?_⟩
    rintro ⟨b, mem, without⟩
    rw [all b mem] at without
    cases without
  · have one : held (grant blocked) = held blocked + 1 := by
      rw [given, split]
      simp [without]
      omega
    omega

/-- A slot is never taken back. -/
theorem mem_grant_of_granted {b : Blocked α} {blocked : List (Blocked α)} (mem : b ∈ blocked)
    (granted : b.granted = true) : b ∈ grant blocked := by
  rcases grant_eq blocked with ⟨_, same⟩ | ⟨front, b', rest, split, _, without, given⟩
  · rwa [same]
  · rw [given]
    rw [split] at mem
    rcases List.mem_append.mp mem with front_ | rest_
    · exact List.mem_append_left _ front_
    · rcases List.mem_cons.mp rest_ with rfl | later
      · rw [without] at granted
        cases granted
      · exact List.mem_append_right _ (List.mem_cons_of_mem _ later)

/-! ## The order of the pushes -/

/-- The pushes wait in the order of their tickets, and the first of them hold the slots. -/
def Ordered (blocked : List (Blocked α)) : Prop :=
  blocked.Pairwise fun b b' => b.ticket < b'.ticket ∧ (b'.granted = true → b.granted = true)

/-- Giving a slot keeps the order, since it goes to the first push without one: those ahead of it
hold theirs already. -/
theorem Ordered.grant {blocked : List (Blocked α)} (order : Ordered blocked) :
    Ordered (grant blocked) := by
  rcases grant_eq blocked with ⟨_, same⟩ | ⟨front, b, rest, split, before, without, given⟩
  · rwa [same]
  · rw [given]
    rw [split] at order
    simp only [Ordered, List.pairwise_append, List.pairwise_cons, List.mem_cons] at order ⊢
    obtain ⟨in_front, ⟨behind, in_rest⟩, across⟩ := order
    refine ⟨in_front, ⟨?_, in_rest⟩, ?_⟩
    · exact fun b' later => ⟨(behind b' later).1, fun _ => trivial⟩
    · intro h mem b' later
      refine ⟨?_, fun _ => before h mem⟩
      rcases later with rfl | later
      · exact (across h mem b (.inl rfl)).1
      · exact (across h mem b' (.inr later)).1

/-- Whoever leaves the line does not disturb the order of the others. -/
theorem Ordered.drop {front rest : List (Blocked α)} {b : Blocked α}
    (order : Ordered (front ++ b :: rest)) : Ordered (front ++ rest) :=
  order.sublist (List.Sublist.append_left (List.sublist_cons_self b rest) front)

/-- Whoever waits ahead of a push that holds a slot holds one, too. -/
theorem Ordered.granted_ahead {front rest : List (Blocked α)} {b : Blocked α}
    (order : Ordered (front ++ b :: rest)) (granted : b.granted = true) :
    ∀ h ∈ front, h.granted = true := fun h mem =>
  ((List.pairwise_append.mp order).2.2 h mem b List.mem_cons_self).2 granted

/-- A ticket is the ticket of one push. -/
theorem Ordered.unique {blocked : List (Blocked α)} (order : Ordered blocked) {b b' : Blocked α}
    (mem : b ∈ blocked) (mem' : b' ∈ blocked) (same : b.ticket = b'.ticket) : b = b' := by
  have numbers : (blocked.map (·.ticket)).Nodup :=
    List.pairwise_map.mpr (order.imp fun h => Nat.ne_of_lt h.1)
  exact List.inj_on_of_nodup_map numbers mem mem' same

/-- A push that waits stands at one place, and the others are those ahead of it and behind it. -/
theorem waiting?_cases (order : Ordered q.blocked) (ticket : Nat) :
    (q.waiting? ticket = none ∧ ∀ b ∈ q.blocked, b.ticket ≠ ticket) ∨
    ∃ front b rest, q.waiting? ticket = some b ∧ b.ticket = ticket ∧
      q.blocked = front ++ b :: rest ∧ q.others ticket = front ++ rest := by
  cases found : q.waiting? ticket with
  | none =>
    refine .inl ⟨rfl, fun b mem => ?_⟩
    simpa using List.find?_eq_none.mp found b mem
  | some b =>
    have same : b.ticket = ticket := by simpa using List.find?_some found
    obtain ⟨front, rest, split⟩ := List.append_of_mem (List.mem_of_find?_eq_some found)
    refine .inr ⟨front, b, rest, rfl, same, split, ?_⟩
    rw [split] at order
    simp only [Ordered, List.pairwise_append, List.pairwise_cons] at order
    obtain ⟨-, ⟨behind, -⟩, across⟩ := order
    have ahead : ∀ h ∈ front, (h.ticket != ticket) = true := fun h mem => by
      have := (across h mem b List.mem_cons_self).1
      simp only [bne_iff_ne]
      omega
    have later : ∀ h ∈ rest, (h.ticket != ticket) = true := fun h mem => by
      have := (behind h mem).1
      simp only [bne_iff_ne]
      omega
    rw [others, split, List.filter_append, List.filter_cons, same, bne_self_eq_false,
      if_neg Bool.false_ne_true, List.filter_eq_self.mpr ahead, List.filter_eq_self.mpr later]

/-! ## Looks -/

/-- What the first look of a push comes to. -/
inductive Offered (q : SendQueue α) (now : Nat) (cancelled : Bool) (ticket : Nat) (item : α)
    (timeout : Duration) : SendQueue α → Option Outcome → Prop where
  | closed (gone : (cancelled || q.receiverGone) = true) :
      Offered q now cancelled ticket item timeout q (some (.error .closed))
  | accepted (stays : (cancelled || q.receiverGone) = false) (free : q.depth < q.capacity) :
      Offered q now cancelled ticket item timeout { q with items := q.items ++ [item] }
        (some (.ok ()))
  | refused (stays : (cancelled || q.receiverGone) = false) (none_ : ¬ q.depth < q.capacity)
      (hurried : timeout.nanos = 0) :
      Offered q now cancelled ticket item timeout q (some (.error (.queueFull timeout)))
  | waits (stays : (cancelled || q.receiverGone) = false) (none_ : ¬ q.depth < q.capacity) :
      Offered q now cancelled ticket item timeout
        { q with blocked := q.blocked ++ [⟨ticket, item, timeout, now + timeout.nanos, false⟩] }
        none

/-- The first look of a push comes to one of four things, by the reasons in the order in which they
are looked for: the cancellation or the loss of the receiver, a free slot, no time to wait, and
otherwise the push waits. -/
theorem offered (q : SendQueue α) (now : Nat) (cancelled : Bool) (ticket : Nat) (item : α)
    (timeout : Duration) :
    Offered q now cancelled ticket item timeout
      (q.offer now cancelled ticket item timeout).1
      (q.offer now cancelled ticket item timeout).2 := by
  unfold offer
  cases stays : (cancelled || q.receiverGone) with
  | true => exact .closed stays
  | false =>
    rw [if_neg Bool.false_ne_true]
    split
    · exact .accepted stays ‹_›
    · split
      · exact .refused stays ‹_› ‹_›
      · exact .waits stays ‹_›

/-- What a later look of a push comes to. -/
inductive Resumed (q : SendQueue α) (now : Nat) (cancelled : Bool) (ticket : Nat) :
    SendQueue α → Option Outcome → Prop where
  | absent (none_ : ∀ b ∈ q.blocked, b.ticket ≠ ticket) : Resumed q now cancelled ticket q none
  /-- It gives up, and passes on the slot that it may hold. -/
  | closed {front rest : List (Blocked α)} {b : Blocked α} (same : b.ticket = ticket)
      (split : q.blocked = front ++ b :: rest) (gone : (cancelled || q.receiverGone) = true) :
      Resumed q now cancelled ticket
        { q with blocked := if b.granted then grant (front ++ rest) else front ++ rest }
        (some (.error .closed))
  /-- It uses its slot. -/
  | accepted {front rest : List (Blocked α)} {b : Blocked α} (same : b.ticket = ticket)
      (split : q.blocked = front ++ b :: rest) (stays : (cancelled || q.receiverGone) = false)
      (granted : b.granted = true) :
      Resumed q now cancelled ticket
        { q with items := q.items ++ [b.item], blocked := front ++ rest } (some (.ok ()))
  | expired {front rest : List (Blocked α)} {b : Blocked α} (same : b.ticket = ticket)
      (split : q.blocked = front ++ b :: rest) (stays : (cancelled || q.receiverGone) = false)
      (without : b.granted = false) (due : b.deadline ≤ now) :
      Resumed q now cancelled ticket { q with blocked := front ++ rest }
        (some (.error (.queueFull b.timeout)))
  | waits {b : Blocked α} (same : b.ticket = ticket) (mem : b ∈ q.blocked)
      (stays : (cancelled || q.receiverGone) = false) (without : b.granted = false)
      (early : now < b.deadline) : Resumed q now cancelled ticket q none

/-- A later look of a push comes to one of five things. Whoever looks for a push that does not wait,
or for one that has to go on waiting, changes nothing. -/
theorem resumed (order : Ordered q.blocked) (now : Nat) (cancelled : Bool) (ticket : Nat) :
    Resumed q now cancelled ticket (q.resume now cancelled ticket).1
      (q.resume now cancelled ticket).2 := by
  unfold resume
  rcases waiting?_cases order ticket with ⟨found, none_⟩ | ⟨front, b, rest, found, same, split, others⟩
  · rw [found]
    exact .absent none_
  · simp only [found, others]
    cases stays : (cancelled || q.receiverGone) with
    | true => exact .closed same split stays
    | false =>
      rw [if_neg Bool.false_ne_true]
      cases granted : b.granted with
      | true => exact .accepted same split stays granted
      | false =>
        rw [if_neg Bool.false_ne_true]
        split
        · exact .expired same split stays granted ‹_›
        · refine .waits same ?_ stays granted (by omega)
          rw [split]
          exact List.mem_append_right _ List.mem_cons_self

/-! ## The invariant -/

/-- What every operation keeps. -/
structure Fair (q : SendQueue α) : Prop where
  bounded : q.depth ≤ q.capacity
  order : Ordered q.blocked
  /-- While a push waits without a slot, all slots are in use. -/
  full : q.receiverGone = false → ∀ b ∈ q.blocked, b.granted = false → q.depth = q.capacity

/-- An empty queue is fair: it has a slot, and nobody waits. -/
theorem fair_ofCapacity (capacity : Nat) : Fair (ofCapacity capacity : SendQueue α) :=
  ⟨Nat.zero_le _, .nil, fun _ => nofun⟩

/-- A push that comes last keeps the queue fair: it takes a slot only if there is one, and waits
behind the others if there is none. -/
theorem Fair.offered (h : Fair q) {now ticket : Nat} {cancelled : Bool} {item : α}
    {timeout : Duration} {q' : SendQueue α} {outcome : Option Outcome}
    (look : Offered q now cancelled ticket item timeout q' outcome)
    (last : ∀ b ∈ q.blocked, b.ticket < ticket) : Fair q' := by
  obtain ⟨bounded, order, full⟩ := h
  cases look with
  | closed gone => exact ⟨bounded, order, full⟩
  | refused stays none_ hurried => exact ⟨bounded, order, full⟩
  | accepted stays free =>
    rw [depth_eq] at free
    refine ⟨?_, order, ?_⟩
    · simp only [depth_eq, List.length_append, List.length_singleton]
      omega
    · intro alive b mem without
      have := full alive b mem without
      rw [depth_eq] at this
      omega
  | waits stays none_ =>
    have full' : q.depth = q.capacity := by omega
    refine ⟨?_, ?_, ?_⟩
    · simpa [depth_eq] using bounded
    · refine List.pairwise_append.mpr ⟨order, List.pairwise_singleton _ _, ?_⟩
      intro b mem b' new
      rw [List.mem_singleton.mp new]
      exact ⟨last b mem, nofun⟩
    · intro _ _ _ _
      simpa [depth_eq] using full'

/-- A push leaves, with the slot that it may hold, and an item more or not. -/
theorem Fair.left (h : Fair q) {front rest : List (Blocked α)} {b : Blocked α}
    (split : q.blocked = front ++ b :: rest) {items : List α}
    (length : items.length = q.items.length + if b.granted then 1 else 0) :
    Fair { q with items, blocked := front ++ rest } := by
  obtain ⟨bounded, order, full⟩ := h
  have same : ({ q with items, blocked := front ++ rest } : SendQueue α).depth = q.depth := by
    simp only [depth_eq, split, length, held_append, held_cons]
    omega
  rw [split] at order full
  refine ⟨same ▸ bounded, order.drop, ?_⟩
  intro alive b' mem without
  refine same ▸ full alive b' ?_ without
  rcases List.mem_append.mp mem with ahead | behind
  · exact List.mem_append_left _ ahead
  · exact List.mem_append_right _ (List.mem_cons_of_mem _ behind)

/-- A slot that becomes free goes on to the next. -/
theorem Fair.passed {blocked : List (Blocked α)} (order : Ordered blocked) {items : List α}
    (bounded : items.length + held blocked < q.capacity)
    (full : q.receiverGone = false → ∀ b ∈ blocked, b.granted = false →
      items.length + held blocked + 1 = q.capacity) :
    Fair { q with items, blocked := grant blocked } := by
  obtain ⟨_, most, given⟩ := held_grant blocked
  refine ⟨?_, order.grant, ?_⟩
  · simp only [depth_eq]
    omega
  · intro alive b mem without
    have one := given ⟨b, mem, without⟩
    -- whoever waits without a slot after the grant did so before
    have before : ∃ b' ∈ blocked, b'.granted = false := by
      rcases grant_eq blocked with ⟨_, same⟩ | ⟨front, b', rest, split, _, without', _⟩
      · exact ⟨b, same ▸ mem, without⟩
      · exact ⟨b', split ▸ List.mem_append_right _ List.mem_cons_self, without'⟩
    obtain ⟨b', mem', without'⟩ := before
    have := full alive b' mem' without'
    simp only [depth_eq]
    omega

/-- A push that looks again keeps the queue fair. If it holds a slot it uses it or passes it on; a
push without one leaves no slot behind. -/
theorem Fair.resumed (h : Fair q) {now ticket : Nat} {cancelled : Bool} {q' : SendQueue α}
    {outcome : Option Outcome} (look : Resumed q now cancelled ticket q' outcome) : Fair q' := by
  cases look with
  | absent none_ => exact h
  | waits same mem stays without early => exact h
  | @accepted front rest b same split stays granted =>
    refine h.left split ?_
    rw [granted, if_pos rfl, List.length_append, List.length_singleton]
  | expired same split stays without due =>
    refine h.left split ?_
    rw [without, if_neg Bool.false_ne_true, Nat.add_zero]
  | @closed front rest b same split gone =>
    cases granted : b.granted with
    | false =>
      rw [if_neg Bool.false_ne_true]
      refine h.left split ?_
      rw [granted, if_neg Bool.false_ne_true, Nat.add_zero]
    | true =>
      rw [if_pos rfl]
      have used : held q.blocked = held (front ++ rest) + 1 := by
        simp only [split, held_append, held_cons, granted, if_true]
        omega
      have bounded := h.bounded
      have full := h.full
      rw [depth_eq, used] at bounded full
      refine Fair.passed (split ▸ h.order).drop (by omega) ?_
      intro alive b' mem without
      have := full alive b' (mem_of_left split mem) without
      omega

/-- A slot is freed and goes on to the next. -/
theorem Fair.receive (h : Fair q) {item : α} {q' : SendQueue α}
    (took : q.receive = some (item, q')) : Fair q' := by
  unfold SendQueue.receive at took
  cases items : q.items with
  | nil => rw [items] at took; cases took
  | cons first rest =>
    rw [items] at took
    cases took
    have bounded := h.bounded
    have full := h.full
    rw [depth_eq, items, List.length_cons] at bounded full
    refine Fair.passed h.order (by omega) ?_
    intro alive b mem without
    have := full alive b mem without
    omega

/-- The loss of the receiver takes the items out and leaves the pushes in their order. -/
theorem Fair.dropReceiver (h : Fair q) : Fair q.dropReceiver := by
  refine ⟨?_, h.order, nofun⟩
  have := h.bounded
  simp only [SendQueue.dropReceiver, depth_eq, List.length_nil] at this ⊢
  omega

end SendQueue

end StationPool
