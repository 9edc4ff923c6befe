import Mathlib.Data.List.DropRight
import Mathlib.Data.List.Nodup
import StationPool.Event.Run

/-!
# What a subscriber hears

A bus keeps one log and a cursor for each subscriber. Told from the side of a subscriber there is
neither: only its own course, which is what was published since it subscribed, its own reads, and
the closing of the bus. `unread` is what of it waits for the next read, and `hears` what the reads
gave; both are functions of the course alone.

`Tuned` says that the cursors agree with the courses, and every step keeps it (`Tuned.step`). So
what one subscriber does is nothing to another, what is lost is what fell out of the last messages
held, and what is heard is a part of what was published, in order (`subscribers_hear`).
-/

namespace StationPool.Bus

variable {α : Type}

/-- A bus holds as many messages as the least power of two that is not below its capacity. -/
theorem roundUp_eq_pow (n : Nat) :
    ∃ k, roundUp n = Nat.pow 2 k ∧ n ≤ Nat.pow 2 k ∧ ∀ j, n ≤ Nat.pow 2 j → k ≤ j := by
  unfold roundUp
  by_cases small : n ≤ 1
  · rw [if_pos small]
    exact ⟨0, rfl, small, fun j _ => Nat.zero_le j⟩
  · rw [if_neg small]
    have below : n - 1 < Nat.pow 2 ((n - 1).log2 + 1) := Nat.lt_log2_self
    refine ⟨(n - 1).log2 + 1, rfl, by omega, fun j enough => ?_⟩
    have under : n - 1 < Nat.pow 2 j := by omega
    have short : (n - 1).log2 < j := (Nat.log2_lt (by omega)).mpr under
    exact short

/-- The messages published, the first first. -/
def messages (b : Bus α) : List α := b.log.reverse

theorem length_messages (b : Bus α) : b.messages.length = b.published := List.length_reverse

theorem at?_eq (b : Bus α) (place : Nat) : b.at? place = b.messages[place]? := by
  unfold at? messages published
  by_cases there : place < b.log.length
  · rw [if_pos there, List.getElem?_reverse there]
  · rw [if_neg there, List.getElem?_eq_none (by rw [List.length_reverse]; omega)]

/-- What is held for a cursor is what comes from its place on. -/
theorem rtake_drop_messages (b : Bus α) (cursor : Nat) :
    (b.messages.drop cursor).rtake b.kept = b.messages.drop (b.place cursor) := by
  rw [List.rtake, List.drop_drop, List.length_drop, length_messages]
  congr 1
  have place : b.place cursor = max cursor (b.published - b.kept) := rfl
  omega

/-- What a subscriber finds is at the place of its cursor. -/
theorem receive_cases {b b' : Bus α} {who : Nat} {got : Received α}
    (received : b.receive who = some (got, b')) :
    ∃ cursor, (who, cursor) ∈ b.cursors ∧
      ((∃ a, b.messages[b.place cursor]? = some a ∧ got = .message a ∧ b' = { b with
          cursors := b.cursors.map fun (w, c) =>
            if w = who then (w, b.place cursor + 1) else (w, c) }) ∨
        b.messages[b.place cursor]? = none ∧ got = (if b.closed then .ended else .pending) ∧
          b' = b) := by
  unfold receive at received
  obtain ⟨cursor, found, given⟩ := Option.map_eq_some_iff.mp received
  obtain ⟨⟨w, c⟩, at_, same⟩ := Option.map_eq_some_iff.mp found
  obtain rfl : w = who := by simpa using List.find?_some at_
  obtain rfl : c = cursor := same
  refine ⟨c, List.mem_of_find?_eq_some at_, ?_⟩
  dsimp only at given
  rw [at?_eq] at given
  cases held : b.messages[b.place c]? with
  | none =>
    rw [held] at given
    obtain ⟨rfl, rfl⟩ := Prod.mk.inj given
    exact .inr ⟨rfl, rfl, rfl⟩
  | some a =>
    rw [held] at given
    obtain ⟨rfl, rfl⟩ := Prod.mk.inj given
    exact .inl ⟨a, rfl, rfl, rfl⟩

/-- Whoever has a cursor finds something. -/
theorem receive_isSome {b : Bus α} {who : Nat} (there : who ∈ b.cursors.map (·.1)) :
    (b.receive who).isSome = true := by
  obtain ⟨x, mem, same⟩ := List.mem_map.mp there
  have found : (b.cursors.find? (·.1 == who)).isSome = true :=
    List.find?_isSome.mpr ⟨x, mem, by simpa using same⟩
  simpa [receive, cursor?] using found

/-! ## The course of a subscriber -/

/-- Something that concerns one subscriber. -/
inductive Cue (α : Type) where
  | published (a : α)
  /-- It read. -/
  | read
  | closed

/-- The message of a cue that publishes one. -/
def Cue.message? : Cue α → Option α
  | .published a => some a
  | _ => none

/-- Whether a cue closes the bus. -/
def Cue.isClosing : Cue α → Bool
  | .closed => true
  | _ => false

/-- What has concerned a subscriber since it subscribed, the last first. -/
def course (who : Nat) : List (Happening α) → List (Cue α)
  | [] => []
  | .subscribed w :: earlier => if w = who then [] else course who earlier
  | .dropped _ :: earlier => course who earlier
  | .published a :: earlier => .published a :: course who earlier
  | .received w _ :: earlier =>
    if w = who then .read :: course who earlier else course who earlier
  | .closed :: earlier => .closed :: course who earlier

/-- The messages published in a course, the first first. -/
def since (cues : List (Cue α)) : List α := (cues.filterMap Cue.message?).reverse

/-- What waits to be read, the first first. A read takes the oldest of the messages held and loses
those before. -/
def unread (kept : Nat) : List (Cue α) → List α
  | [] => []
  | .published a :: earlier => unread kept earlier ++ [a]
  | .read :: earlier => ((unread kept earlier).rtake kept).tail
  | .closed :: earlier => unread kept earlier

/-- What a read finds. -/
def finds (kept : Nat) (earlier : List (Cue α)) : Received α :=
  match (unread kept earlier).rtake kept with
  | a :: _ => .message a
  | [] => if earlier.any Cue.isClosing then .ended else .pending

/-- What the reads of a course found, the last first. -/
def hears (kept : Nat) : List (Cue α) → List (Received α)
  | [] => []
  | .read :: earlier => finds kept earlier :: hears kept earlier
  | .published _ :: earlier | .closed :: earlier => hears kept earlier

/-- The message that a read found, if it found one. -/
def Received.message? : Received α → Option α
  | .message a => some a
  | _ => none

/-- What a read gives of what waits, and what waits after it. Messages are lost only where more wait
than are held, and then all but the last of them. -/
inductive Reads (kept : Nat) (closed : Bool) : List α → Received α → List α → Prop where
  | message {lost rest : List α} {a : α}
      (oldest : lost = [] ∧ rest.length < kept ∨ rest.length + 1 = kept) :
      Reads kept closed (lost ++ a :: rest) (.message a) rest
  | pending (going : closed = false) : Reads kept closed [] .pending []
  | ended (shut : closed = true) : Reads kept closed [] .ended []

/-- A read finds the oldest message that is kept, tells what was lost, or tells that there is
nothing, just as the cues of a subscriber say. -/
theorem reads_finds {kept : Nat} (room : 0 < kept) (cues : List (Cue α)) :
    Reads kept (cues.any Cue.isClosing) (unread kept cues) (finds kept cues)
      (unread kept (.read :: cues)) := by
  have split := List.take_append_drop ((unread kept cues).length - kept) (unread kept cues)
  have length : ((unread kept cues).rtake kept).length =
      (unread kept cues).length - ((unread kept cues).length - kept) := List.length_drop
  have whole : (unread kept cues).take ((unread kept cues).length - kept) ++
      (unread kept cues).rtake kept = unread kept cues := split
  have before : ((unread kept cues).take ((unread kept cues).length - kept)).length =
      (unread kept cues).length - kept := by rw [List.length_take]; omega
  unfold finds
  rw [unread]
  cases held : (unread kept cues).rtake kept with
  | nil =>
    have none_ : unread kept cues = [] := by
      rw [held, List.length_nil] at length
      exact List.eq_nil_of_length_eq_zero (by omega)
    rw [none_]
    cases shut : cues.any Cue.isClosing with
    | true => exact .ended rfl
    | false => exact .pending rfl
  | cons a rest =>
    rw [held] at length whole
    rw [List.length_cons] at length
    have oldest : (unread kept cues).take ((unread kept cues).length - kept) = [] ∧
        rest.length < kept ∨ rest.length + 1 = kept := by
      by_cases few : (unread kept cues).length ≤ kept
      · refine .inl ⟨List.eq_nil_of_length_eq_zero ?_, ?_⟩ <;> omega
      · exact .inr (by omega)
    have reads : Reads kept (cues.any Cue.isClosing)
        ((unread kept cues).take ((unread kept cues).length - kept) ++ a :: rest) (.message a)
        rest := .message oldest
    rw [whole] at reads
    exact reads

/-- What waits is the end of what was published, and what was heard is a part of the rest. -/
theorem hears_sublist (kept : Nat) (cues : List (Cue α)) :
    ∃ passed, passed ++ unread kept cues = since cues ∧
      ((hears kept cues).filterMap Received.message?).reverse.Sublist passed := by
  induction cues with
  | nil => exact ⟨[], rfl, .slnil⟩
  | cons cue earlier ih =>
    obtain ⟨passed, whole, heard⟩ := ih
    cases cue with
    | published a =>
      refine ⟨passed, ?_, heard⟩
      rw [unread, ← List.append_assoc, whole]
      simp [since, Cue.message?]
    | closed => exact ⟨passed, whole, heard⟩
    | read =>
      have more : since (.read :: earlier) = since earlier := rfl
      have split : (unread kept earlier).take ((unread kept earlier).length - kept) ++
          (unread kept earlier).rtake kept = unread kept earlier := List.take_append_drop _ _
      rw [more, ← whole, unread, hears, finds]
      cases held : (unread kept earlier).rtake kept with
      | nil =>
        refine ⟨passed ++ unread kept earlier, List.append_nil _, ?_⟩
        refine List.Sublist.trans ?_ (heard.trans (List.sublist_append_left _ _))
        dsimp only
        split <;> exact .refl _
      | cons a rest =>
        rw [held] at split
        refine ⟨passed ++ (unread kept earlier).take ((unread kept earlier).length - kept) ++ [a],
          ?_, ?_⟩
        · conv => rhs; rw [← split]
          simp
        · simp only [List.filterMap_cons, Received.message?, List.reverse_cons]
          exact (heard.trans (List.sublist_append_left _ _)).append (.refl [a])

/-- What a subscriber found. -/
def Happening.answer? (who : Nat) : Happening α → Option (Received α)
  | .received w got => if w = who then some got else none
  | _ => none

namespace Run

/-! ## What subscribers did -/

/-- A subscriber was created and has not been dropped since. -/
def Attends (history : List (Happening α)) (who : Nat) : Prop :=
  ∃ later earlier, history = later ++ .subscribed who :: earlier ∧ .dropped who ∉ later

theorem attends_cons {e : Happening α} {history : List (Happening α)} {who : Nat} :
    Attends (e :: history) who ↔
      e = .subscribed who ∨ e ≠ .dropped who ∧ Attends history who := by
  constructor
  · rintro ⟨later, earlier, split, kept⟩
    cases later with
    | nil => exact .inl (List.cons.inj split).1
    | cons first later =>
      obtain ⟨rfl, rfl⟩ := List.cons.inj split
      refine .inr ⟨fun same => kept (same ▸ List.mem_cons_self), later, earlier, rfl, ?_⟩
      exact fun mem => kept (List.mem_cons_of_mem _ mem)
  · rintro (rfl | ⟨kept, later, earlier, rfl, kept'⟩)
    · exact ⟨[], history, rfl, List.not_mem_nil⟩
    · refine ⟨e :: later, earlier, rfl, fun mem => ?_⟩
      rcases List.mem_cons.mp mem with same | mem
      · exact kept same.symm
      · exact kept' mem

theorem Attends.subscribed {history : List (Happening α)} {who : Nat}
    (attends : Attends history who) : .subscribed who ∈ history := by
  obtain ⟨later, earlier, rfl, -⟩ := attends
  exact List.mem_append_right _ List.mem_cons_self

/-- What the reads of a subscriber found, the last first. -/
def answers (who : Nat) (history : List (Happening α)) : List (Received α) :=
  history.filterMap (·.answer? who)

/-- What a subscriber received are the messages among its answers. -/
theorem received_eq (r : Run α) (who : Nat) :
    r.received who = ((answers who r.history).filterMap Received.message?).reverse := by
  rw [received, answers, List.filterMap_filterMap, ← List.filterMap_reverse]
  congr 1
  funext e
  cases e with
  | received w got =>
    cases got <;> by_cases own : w = who <;> simp [Happening.answer?, own, Received.message?]
  | _ => rfl

/-- The cursors of a bus agree with the courses of its subscribers. -/
structure Tuned (r : Run α) : Prop where
  room : 0 < r.bus.kept
  numbered : ∀ who, .subscribed who ∈ r.history → who < r.bus.fresh
  once : (r.bus.cursors.map (·.1)).Nodup
  present : ∀ who, who ∈ r.bus.cursors.map (·.1) ↔ Attends r.history who
  shut : r.bus.closed = true ↔ .closed ∈ r.history
  waits : ∀ who cursor, (who, cursor) ∈ r.bus.cursors → cursor ≤ r.bus.published ∧
    unread r.bus.kept (course who r.history) = r.bus.messages.drop cursor ∧
    (course who r.history).any Cue.isClosing = r.bus.closed
  heard : ∀ who, answers who r.history = hears r.bus.kept (course who r.history)
  /-- Whoever has not come yet has found nothing. -/
  silent : ∀ who, r.bus.fresh ≤ who → answers who r.history = []

namespace Tuned

variable {r r' : Run α} {who : Nat}

theorem below (t : Tuned r) (there : who ∈ r.bus.cursors.map (·.1)) : who < r.bus.fresh :=
  t.numbered who ((t.present who).mp there).subscribed

theorem subscribe (t : Tuned r) (going : r.bus.closed = false) :
    Tuned ⟨r.bus.subscribe.2, .subscribed r.bus.fresh :: r.history⟩ := by
  have other {who : Nat} (earlier : who < r.bus.fresh) :
      course who (.subscribed r.bus.fresh :: r.history) = course who r.history :=
    if_neg (by omega)
  refine { room := t.room, numbered := ?_, once := ?_, present := ?_, shut := ?_, waits := ?_,
           heard := ?_, silent := fun who later => t.silent who (Nat.le_of_succ_le later) }
  · intro who mem
    rcases List.mem_cons.mp mem with same | mem
    · cases same
      exact Nat.lt_succ_self _
    · exact Nat.lt_succ_of_lt (t.numbered who mem)
  · have names : (r.bus.subscribe.2.cursors).map (·.1) =
        r.bus.cursors.map (·.1) ++ [r.bus.fresh] := List.map_append
    rw [names]
    refine List.nodup_append.mpr ⟨t.once, List.nodup_singleton _, ?_⟩
    rintro who there _ added rfl
    have := t.below there
    have := List.mem_singleton.mp added
    omega
  · intro who
    rw [attends_cons, ← t.present]
    simp [Bus.subscribe, eq_comm, or_comm]
  · exact t.shut.trans (by simp)
  · intro who cursor mem
    rcases List.mem_append.mp mem with old | new
    · rw [other (t.below (List.mem_map_of_mem old))]
      exact t.waits who cursor old
    · cases List.mem_singleton.mp new
      have new_course : course r.bus.fresh (.subscribed r.bus.fresh :: r.history) = [] := if_pos rfl
      rw [new_course]
      refine ⟨Nat.le_refl _, ?_, going.symm⟩
      exact (List.drop_eq_nil_of_le (Nat.le_of_eq (length_messages r.bus))).symm
  · intro who
    by_cases own : r.bus.fresh = who
    · have new_course : course who (.subscribed r.bus.fresh :: r.history) = [] := if_pos own
      rw [new_course]
      exact t.silent who (Nat.le_of_eq own)
    · have same : course who (.subscribed r.bus.fresh :: r.history) = course who r.history :=
        if_neg own
      rw [same]
      exact t.heard who

theorem drop (t : Tuned r) (gone : Nat) :
    Tuned ⟨r.bus.unsubscribe gone, .dropped gone :: r.history⟩ := by
  have kept {x : Nat × Nat} :
      x ∈ (r.bus.unsubscribe gone).cursors ↔ x ∈ r.bus.cursors ∧ x.1 ≠ gone := by
    simp [Bus.unsubscribe]
  refine { room := t.room, numbered := ?_, once := ?_, present := ?_,
           shut := t.shut.trans (by simp), waits := ?_, heard := t.heard, silent := t.silent }
  · intro who mem
    exact t.numbered who ((List.mem_cons.mp mem).resolve_left nofun)
  · exact (List.filter_sublist.map _).nodup t.once
  · intro who
    rw [attends_cons, ← t.present, List.mem_map, List.mem_map]
    constructor
    · rintro ⟨x, mem, rfl⟩
      obtain ⟨mem, other⟩ := kept.mp mem
      exact .inr ⟨fun same => other (Happening.dropped.inj same).symm, x, mem, rfl⟩
    · rintro (same | ⟨other, x, mem, rfl⟩)
      · cases same
      · exact ⟨x, kept.mpr ⟨mem, fun same => other (same ▸ rfl)⟩, rfl⟩
  · exact fun who cursor mem => t.waits who cursor (kept.mp mem).1

theorem publish (t : Tuned r) (going : r.bus.closed = false) (a : α) :
    Tuned ⟨r.bus.publish a, .published a :: r.history⟩ := by
  have bus : r.bus.publish a = { r.bus with log := a :: r.bus.log } :=
    if_neg (by rw [going]; exact Bool.false_ne_true)
  rw [bus]
  refine { room := t.room, numbered := ?_, once := t.once, present := ?_,
           shut := t.shut.trans (by simp), waits := ?_, heard := t.heard, silent := t.silent }
  · intro who mem
    exact t.numbered who ((List.mem_cons.mp mem).resolve_left nofun)
  · intro who
    rw [attends_cons, ← t.present]
    simp
  · intro who cursor mem
    obtain ⟨inside, waits, shut⟩ := t.waits who cursor mem
    have more : ({ r.bus with log := a :: r.bus.log } : Bus α).messages = r.bus.messages ++ [a] :=
      List.reverse_cons
    refine ⟨Nat.le_succ_of_le inside, ?_, shut⟩
    rw [more, List.drop_append_of_le_length (by rw [length_messages]; exact inside), ← waits]
    rfl

theorem close (t : Tuned r) : Tuned ⟨r.bus.close, .closed :: r.history⟩ where
  room := t.room
  numbered who mem := t.numbered who ((List.mem_cons.mp mem).resolve_left nofun)
  once := t.once
  present who := by
    rw [attends_cons, ← t.present]
    simp [Bus.close]
  shut := by simp [Bus.close]
  waits who cursor mem := by
    obtain ⟨inside, waits, -⟩ := t.waits who cursor mem
    exact ⟨inside, waits, rfl⟩
  heard := t.heard
  silent := t.silent

/-- What a subscriber finds is what its course says. -/
theorem found (t : Tuned r) {got : Received α} {b : Bus α}
    (received : r.bus.receive who = some (got, b)) :
    got = finds r.bus.kept (course who r.history) := by
  obtain ⟨cursor, mem, given⟩ := receive_cases received
  obtain ⟨-, waits, shut⟩ := t.waits who cursor mem
  unfold finds
  rw [waits, rtake_drop_messages, shut]
  rcases given with ⟨a, at_, rfl, -⟩ | ⟨none_, rfl, -⟩
  · obtain ⟨bound, rfl⟩ := List.getElem?_eq_some_iff.mp at_
    rw [List.drop_eq_getElem_cons bound]
  · rw [List.drop_eq_nil_of_le (List.getElem?_eq_none_iff.mp none_)]

/-- A read leaves every cursor where the courses say. -/
theorem waits_receive (t : Tuned r) {got : Received α} {b : Bus α}
    (received : r.bus.receive who = some (got, b)) {w cursor : Nat}
    (mem : (w, cursor) ∈ b.cursors) :
    cursor ≤ b.published ∧
      unread b.kept (course w (.received who got :: r.history)) = b.messages.drop cursor ∧
      (course w (.received who got :: r.history)).any Cue.isClosing = b.closed := by
  obtain ⟨own, there, given⟩ := receive_cases received
  obtain ⟨inside, waits, shut⟩ := t.waits who own there
  have course_self : course who (.received who got :: r.history) = .read :: course who r.history :=
    if_pos rfl
  have course_other {w : Nat} (other : who ≠ w) :
      course w (.received who got :: r.history) = course w r.history := if_neg other
  have rest : unread r.bus.kept (course who (.received who got :: r.history)) =
      r.bus.messages.drop (r.bus.place own + 1) := by
    rw [course_self, unread, waits, rtake_drop_messages, List.tail_drop]
  rcases given with ⟨a, at_, -, rfl⟩ | ⟨none_, -, rfl⟩
  · obtain ⟨⟨w', c'⟩, before, eq⟩ := List.mem_map.mp mem
    by_cases same : w' = who
    · simp only [same, if_true] at eq
      obtain ⟨rfl, rfl⟩ := Prod.mk.inj eq
      have bound := (List.getElem?_eq_some_iff.mp at_).1
      rw [length_messages] at bound
      exact ⟨bound, rest, course_self ▸ shut⟩
    · simp only [same, if_false] at eq
      obtain ⟨rfl, rfl⟩ := Prod.mk.inj eq
      rw [course_other (Ne.symm same)]
      exact t.waits w' c' before
  · by_cases same : w = who
    · subst same
      obtain rfl : cursor = own := (Prod.mk.inj (List.inj_on_of_nodup_map t.once mem there rfl)).2
      refine ⟨inside, ?_, course_self ▸ shut⟩
      -- Whoever finds nothing has read everything.
      have beyond := List.getElem?_eq_none_iff.mp none_
      have place : r.bus.place cursor = max cursor (r.bus.published - r.bus.kept) := rfl
      have room := t.room
      have length := length_messages r.bus
      rw [rest, List.drop_eq_nil_of_le (by omega), List.drop_eq_nil_of_le (by omega)]
    · rw [course_other (Ne.symm same)]
      exact t.waits w cursor mem

theorem receive (t : Tuned r) {got : Received α} {b : Bus α}
    (received : r.bus.receive who = some (got, b)) :
    Tuned ⟨b, .received who got :: r.history⟩ := by
  have names : b.cursors.map (·.1) = r.bus.cursors.map (·.1) := by
    obtain ⟨cursor, -, ⟨a, -, -, rfl⟩ | ⟨-, -, rfl⟩⟩ := receive_cases received
    · rw [List.map_map]
      refine List.map_congr_left fun x _ => ?_
      by_cases own : x.1 = who <;> simp [own]
    · rfl
  have there : who < r.bus.fresh := by
    obtain ⟨cursor, mem, -⟩ := receive_cases received
    exact t.below (List.mem_map_of_mem mem)
  have frame : b.kept = r.bus.kept ∧ b.fresh = r.bus.fresh ∧ b.closed = r.bus.closed := by
    obtain ⟨cursor, -, ⟨a, -, -, rfl⟩ | ⟨-, -, rfl⟩⟩ := receive_cases received <;>
      exact ⟨rfl, rfl, rfl⟩
  obtain ⟨kept, fresh, closed⟩ := frame
  have answers_other {w : Nat} (other : who ≠ w) :
      answers w (.received who got :: r.history) = answers w r.history := by
    simp [answers, Happening.answer?, other]
  refine { room := kept ▸ t.room, numbered := ?_, once := names ▸ t.once, present := ?_,
           shut := ?_, waits := fun w cursor mem => t.waits_receive received mem, heard := ?_,
           silent := ?_ }
  · intro w mem
    exact fresh ▸ t.numbered w ((List.mem_cons.mp mem).resolve_left nofun)
  · intro w
    rw [attends_cons, ← t.present, names]
    simp
  · rw [closed, t.shut]
    simp
  · intro w
    rw [kept]
    by_cases own : who = w
    · subst own
      have more : answers who (.received who got :: r.history) = got :: answers who r.history := by
        simp [answers, Happening.answer?]
      have course_self : course who (.received who got :: r.history) =
          .read :: course who r.history := if_pos rfl
      rw [more, course_self, hears, ← t.found received, t.heard]
    · have course_other : course w (.received who got :: r.history) = course w r.history :=
        if_neg own
      rw [answers_other own, course_other, t.heard]
  · intro w later
    rw [fresh] at later
    rw [answers_other (by omega), t.silent w later]

/-- Every step keeps the subscribers in tune: the place of each in the ring is what its cues say. -/
theorem step (t : Tuned r) {a : Action α} (stepped : r.step a = some r') : Tuned r' := by
  cases a with
  | subscribe =>
    cases going : r.bus.closed with
    | true => simp [Run.step, going] at stepped
    | false =>
      simp only [Run.step, going, Bool.false_eq_true, if_false, Option.some.injEq] at stepped
      exact stepped ▸ t.subscribe going
  | drop gone =>
    cases stepped
    exact t.drop gone
  | publish a =>
    cases going : r.bus.closed with
    | true => simp [Run.step, going] at stepped
    | false =>
      simp only [Run.step, going, Bool.false_eq_true, if_false, Option.some.injEq] at stepped
      exact stepped ▸ t.publish going a
  | receive who =>
    obtain ⟨⟨got, b⟩, received, rfl⟩ := Option.map_eq_some_iff.mp stepped
    exact t.receive received
  | close =>
    cases going : r.bus.closed with
    | true => simp [Run.step, going] at stepped
    | false =>
      simp only [Run.step, going, Bool.false_eq_true, if_false, Option.some.injEq] at stepped
      exact stepped ▸ t.close

end Tuned

/-- No step changes how many messages a bus holds. -/
theorem kept_of_step {r r' : Run α} {a : Action α} (stepped : r.step a = some r') :
    r'.bus.kept = r.bus.kept := by
  cases a with
  | subscribe =>
    simp only [Run.step] at stepped
    split at stepped
    · cases stepped
    · cases stepped
      rfl
  | drop gone =>
    cases stepped
    rfl
  | publish a =>
    simp only [Run.step] at stepped
    split at stepped
    · cases stepped
    · cases stepped
      unfold Bus.publish
      split <;> rfl
  | receive who =>
    obtain ⟨⟨got, b⟩, received, rfl⟩ := Option.map_eq_some_iff.mp stepped
    obtain ⟨cursor, -, ⟨a, -, -, rfl⟩ | ⟨-, -, rfl⟩⟩ := receive_cases received <;> rfl
  | close =>
    simp only [Run.step] at stepped
    split at stepped
    · cases stepped
    · cases stepped
      rfl

theorem Reachable.kept {capacity : Nat} {r : Run α} (reachable : Reachable capacity r) :
    r.bus.kept = roundUp capacity := by
  induction reachable with
  | new made =>
    unfold ofCapacity? at made
    split at made
    · cases made
    · cases made
      rfl
  | step a _ stepped ih => exact (kept_of_step stepped).trans ih

/-- In every reachable state the subscribers are in tune. -/
theorem Reachable.tuned {capacity : Nat} {r : Run α} (reachable : Reachable capacity r) :
    Tuned r := by
  induction reachable with
  | new made =>
    unfold ofCapacity? at made
    split at made
    · cases made
    · cases made
      have room : 0 < roundUp capacity := by
        obtain ⟨k, eq, -⟩ := roundUp_eq_pow capacity
        rw [eq]
        exact Nat.two_pow_pos k
      refine { room := room, numbered := nofun, once := List.nodup_nil, present := ?_,
               shut := ⟨nofun, nofun⟩, waits := nofun, heard := fun _ => rfl,
               silent := fun _ _ => rfl }
      intro who
      refine ⟨nofun, ?_⟩
      rintro ⟨later, earlier, split, -⟩
      exact absurd split.symm (by simp)
  | step a _ stepped ih => exact ih.step stepped

/-- A subscriber always finds something, and what it finds leaves the rest unread. -/
theorem Tuned.reads {r : Run α} {who : Nat} (t : Tuned r) (attends : Attends r.history who) :
    ∃ got r', r.step (.receive who) = some r' ∧ r'.history = .received who got :: r.history ∧
      Reads r.bus.kept r.bus.closed (unread r.bus.kept (course who r.history)) got
        (unread r.bus.kept (course who r'.history)) := by
  have there := (t.present who).mpr attends
  obtain ⟨⟨got, b⟩, received⟩ := Option.isSome_iff_exists.mp (receive_isSome there)
  refine ⟨got, ⟨b, .received who got :: r.history⟩, ?_, rfl, ?_⟩
  · rw [Run.step, received]
    rfl
  · obtain ⟨cursor, mem, -⟩ := receive_cases received
    have shut := (t.waits who cursor mem).2.2
    have course_self : course who (.received who got :: r.history) =
        .read :: course who r.history := if_pos rfl
    have reads := reads_finds t.room (course who r.history)
    rw [← course_self, shut, ← t.found received] at reads
    exact reads

/-- The subscribers of a bus are counted. -/
theorem Tuned.counted {r : Run α} (t : Tuned r) :
    ∃ present : List Nat, present.Nodup ∧ (∀ who, who ∈ present ↔ Attends r.history who) ∧
      r.bus.subscriberCount = present.length :=
  ⟨r.bus.cursors.map (·.1), t.once, t.present, (List.length_map _).symm⟩

/-- **What subscribers hear.** A bus holds as many messages as the least power of two that is not
below its capacity. Whoever attends it can read at any time: it gets the oldest of what it has not
read, all but the last of the messages held being lost before, or learns that nothing waits, and of
the end only from a closed bus. What a subscriber heard is a part, in order, of what was published
since it came and does not wait. What its reads found depends on its own course alone, and those
that attend are counted. -/
theorem subscribers_hear {capacity : Nat} {r : Run α} (reachable : Reachable capacity r) :
    (∃ k, r.bus.kept = Nat.pow 2 k ∧ capacity ≤ Nat.pow 2 k ∧
      ∀ j, capacity ≤ Nat.pow 2 j → k ≤ j) ∧
    (∀ who, Attends r.history who →
      ∃ got r', r.step (.receive who) = some r' ∧ r'.history = .received who got :: r.history ∧
        Reads r.bus.kept r.bus.closed (unread r.bus.kept (course who r.history)) got
          (unread r.bus.kept (course who r'.history))) ∧
    (r.bus.closed = true ↔ .closed ∈ r.history) ∧
    (∀ who, ∃ passed,
      passed ++ unread r.bus.kept (course who r.history) = since (course who r.history) ∧
        (r.received who).Sublist passed) ∧
    (∀ r', Reachable capacity r' → ∀ who who',
      course who r.history = course who' r'.history →
        answers who r.history = answers who' r'.history) ∧
    ∃ present : List Nat, present.Nodup ∧ (∀ who, who ∈ present ↔ Attends r.history who) ∧
      r.bus.subscriberCount = present.length := by
  have t := reachable.tuned
  refine ⟨?_, fun who attends => t.reads attends, t.shut, ?_, ?_, t.counted⟩
  · rw [reachable.kept]
    exact roundUp_eq_pow capacity
  · intro who
    rw [received_eq, t.heard]
    exact hears_sublist r.bus.kept (course who r.history)
  · intro r' reachable' who who' same
    rw [t.heard, reachable'.tuned.heard, same, reachable.kept, reachable'.kept]

/-- The run after a list of actions; none where one of them is not possible. -/
def after (r : Run α) (as : List (Action α)) : Option (Run α) := as.foldlM step r

theorem Reachable.after {capacity : Nat} {r r' : Run α} {as : List (Action α)}
    (reachable : Reachable capacity r) (run : r.after as = some r') : Reachable capacity r' := by
  induction as generalizing r with
  | nil => cases run; exact reachable
  | cons a as ih =>
    obtain ⟨next, stepped, rest⟩ := Option.bind_eq_some_iff.mp run
    exact ih (reachable.step a stepped) rest

/-- On a bus that holds two messages, one of two subscribers reads nothing of three. -/
def overtaken : List (Action Nat) :=
  [.subscribe, .subscribe, .publish 1, .receive 1, .publish 2, .publish 3, .receive 0, .drop 1,
    .receive 0]

/-- The late reader lost the first message, which the other had. -/
theorem overtaken_hears : ∃ r, Reachable 2 r ∧ r.received 0 = [2, 3] ∧ r.received 1 = [1] ∧
    r.bus.subscriberCount = 1 ∧
    (∃ passed, passed ++ unread r.bus.kept (course 0 r.history) = since (course 0 r.history) ∧
      (r.received 0).Sublist passed) := by
  have ran : ((⟨{ kept := 2 }, []⟩ : Run Nat).after overtaken).map (fun r =>
      (r.received 0, r.received 1, r.bus.subscriberCount)) = some ([2, 3], [1], 1) := by
    decide +kernel
  obtain ⟨r, run, outcome⟩ := Option.map_eq_some_iff.mp ran
  obtain ⟨first, outcome⟩ := Prod.mk.inj outcome
  obtain ⟨second, count⟩ := Prod.mk.inj outcome
  have reachable : Reachable 2 r := (Reachable.new rfl).after run
  exact ⟨r, reachable, first, second, count, (subscribers_hear reachable).2.2.2.1 0⟩

end Run

end StationPool.Bus
