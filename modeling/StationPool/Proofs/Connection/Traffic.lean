import StationPool.Proofs.Connection.Views

/-!
# The traffic of a connection

What happens to frames between a caller and a socket. The lane of a session is the part of it that
frames go through: the queue, the waiting ping, the writer. A `Transit` is all the lanes with what
the history tells of frames, and a `Passage` is what one step may do to it.

Two invariants are kept by every passage. `Carries`: what the writer of a session gave to the socket
from the queue, followed by what waits there, is what that queue accepted. `Owned`: what waits or was
accepted is the send of one call, at one session, once.
-/

namespace StationPool

/-- The part of a session that frames go through. -/
structure Lane where
  items : List Frame := []
  /-- Whether nobody takes from the queue any more. -/
  gone : Bool := false
  /-- The sends that wait for a slot. -/
  waiting : List (Nat × Frame) := []
  pingWaiting : Bool := false
  writer : Writer := .idle

/-- The lane of a session. -/
def Session.lane (s : Session) : Lane :=
  { items := s.queue.items
    gone := s.queue.receiverGone
    waiting := s.queue.blocked.map fun b => (b.ticket, b.item)
    pingWaiting := s.pingWaiting
    writer := s.writer }

/-- The frame that the socket was given and has not taken. -/
def Writer.pending : Writer → List (Origin × Frame)
  | .writing origin frame _ => [(origin, frame)]
  | _ => []

namespace Connection

/-! ## Views of the history -/

/-- The queue of a session accepted the frame of a call. -/
structure Acceptance where
  session : Nat
  call : Nat
  frame : Frame

/-- The acceptance of a frame, if something is one. -/
def Happening.acceptance? : Happening → Option Acceptance
  | .accepted session call frame => some ⟨session, call, frame⟩
  | _ => none

/-- The frames that queues accepted, the last first. -/
def acceptances (history : List Entry) : List Acceptance :=
  history.filterMap (·.what.acceptance?)

/-- The writer of a session gave a frame to the socket, or the socket took it. -/
structure Handing where
  session : Nat
  origin : Origin
  frame : Frame

/-- The handing of a frame to the socket, if something is one. -/
def Happening.handing? : Happening → Option Handing
  | .handed session origin frame => some ⟨session, origin, frame⟩
  | _ => none

/-- The frames that sockets were given, the last first. -/
def handings (history : List Entry) : List Handing := history.filterMap (·.what.handing?)

/-- The handing that the socket completed, if something tells of one. -/
def Happening.writing? : Happening → Option Handing
  | .wrote session origin frame => some ⟨session, origin, frame⟩
  | _ => none

/-- The frames that sockets took, the last first. -/
def writings (history : List Entry) : List Handing := history.filterMap (·.what.writing?)

/-- What the queue of one session accepted, in order. -/
def acceptedBy (i : Nat) (all : List Acceptance) : List Frame :=
  ((all.filter (·.session == i)).map (·.frame)).reverse

/-- What went to the socket of one session, in order. -/
def sentOn (i : Nat) (all : List Handing) : List (Origin × Frame) :=
  ((all.filter (·.session == i)).map fun h => (h.origin, h.frame)).reverse

/-- The frame if it comes from the queue. -/
def queued? : Origin × Frame → Option Frame
  | (.queue, frame) => some frame
  | (.keeper, _) => none

/-- The frames among some that come from the queue. -/
def queued (sent : List (Origin × Frame)) : List Frame := sent.filterMap queued?

/-- A frame that a session's queue accepts comes last among those it accepted. -/
@[simp] theorem acceptedBy_own (i call : Nat) (frame : Frame) (all : List Acceptance) :
    acceptedBy i (⟨i, call, frame⟩ :: all) = acceptedBy i all ++ [frame] := by
  simp [acceptedBy]

/-- What the queue of another session accepts is nothing to this one. -/
theorem acceptedBy_other {i j : Nat} (other : j ≠ i) (call : Nat) (frame : Frame)
    (all : List Acceptance) : acceptedBy i (⟨j, call, frame⟩ :: all) = acceptedBy i all := by
  simp [acceptedBy, other]

/-- A frame that a session's socket is given comes last among those it was given. -/
@[simp] theorem sentOn_own (i : Nat) (origin : Origin) (frame : Frame) (all : List Handing) :
    sentOn i (⟨i, origin, frame⟩ :: all) = sentOn i all ++ [(origin, frame)] := by
  simp [sentOn]

/-- What the socket of another session is given is nothing to this one. -/
theorem sentOn_other {i j : Nat} (other : j ≠ i) (origin : Origin) (frame : Frame)
    (all : List Handing) : sentOn i (⟨j, origin, frame⟩ :: all) = sentOn i all := by
  simp [sentOn, other]

/-- The frames of the queue among two lists are those of the first and then those of the second. -/
@[simp] theorem queued_append (front rest : List (Origin × Frame)) :
    queued (front ++ rest) = queued front ++ queued rest :=
  List.filterMap_append

/-- A frame of the keeper is none of the queue. -/
@[simp] theorem queued_keeper (frame : Frame) : queued [(.keeper, frame)] = [] := rfl

/-- A frame of the queue is one of the queue. -/
@[simp] theorem queued_queue (frame : Frame) : queued [(.queue, frame)] = [frame] := rfl

/-! ## Passages -/

/-- The lanes of a connection, and what its history tells of frames. -/
structure Transit where
  lanes : List Lane
  accepted : List Acceptance
  handed : List Handing
  written : List Handing

/-- The lanes of a connection as they are, and the frames of its history. -/
def transit (c : Connection) : Transit where
  lanes := c.sessions.map Session.lane
  accepted := acceptances c.history
  handed := handings c.history
  written := writings c.history

/-- What an action may do to the frames, where `call` is the number of the call that it may make. -/
inductive Passage (a : Action) (call : Nat) (x : Transit) : Transit → Prop where
  | calm : Passage a call x x
  /-- A session is installed. -/
  | opens : Passage a call x { x with lanes := x.lanes ++ [{}] }
  /-- A send begins to wait for a slot. -/
  | joins {i : Nat} {l : Lane} {frame : Frame} (at_ : x.lanes[i]? = some l)
      (own : a = .send frame) :
      Passage a call x
        { x with lanes := x.lanes.set i { l with waiting := l.waiting ++ [(call, frame)] } }
  /-- A send is accepted at once. -/
  | passes {i : Nat} {l : Lane} {frame : Frame} (at_ : x.lanes[i]? = some l)
      (own : a = .send frame) (there : l.gone = false) :
      Passage a call x
        { x with
          lanes := x.lanes.set i { l with items := l.items ++ [frame] }
          accepted := ⟨i, call, frame⟩ :: x.accepted }
  /-- A send that waited is accepted. -/
  | admits {i ticket : Nat} {l : Lane} {frame : Frame} (at_ : x.lanes[i]? = some l)
      (waits : (ticket, frame) ∈ l.waiting) (there : l.gone = false)
      (own : a = .lookSend i ticket) :
      Passage a call x
        { x with
          lanes := x.lanes.set i
            { l with
              items := l.items ++ [frame]
              waiting := l.waiting.filter (·.1 != ticket) }
          accepted := ⟨i, ticket, frame⟩ :: x.accepted }
  /-- A send waits no longer. -/
  | leaves {i : Nat} {l : Lane} (ticket : Nat) (at_ : x.lanes[i]? = some l) :
      Passage a call x
        { x with
          lanes := x.lanes.set i { l with waiting := l.waiting.filter (·.1 != ticket) } }
  /-- The keeper asks for a ping. -/
  | asks {i : Nat} {l : Lane} (at_ : x.lanes[i]? = some l) (own : a = .lookKeeper i) :
      Passage a call x { x with lanes := x.lanes.set i { l with pingWaiting := true } }
  /-- The writer gives the ping that waits to the socket. -/
  | pings {i : Nat} {l : Lane} (deadline : Nat) (at_ : x.lanes[i]? = some l)
      (own : a = .lookWriter i) (idle : l.writer = .idle) (waits : l.pingWaiting = true) :
      Passage a call x
        { x with
          lanes := x.lanes.set i
            { l with pingWaiting := false, writer := .writing .keeper (.ping []) deadline }
          handed := ⟨i, .keeper, .ping []⟩ :: x.handed }
  /-- No ping waits, and the writer gives the first frame of the queue to the socket. -/
  | hands {i : Nat} {l : Lane} {frame : Frame} {rest : List Frame} (deadline : Nat)
      (at_ : x.lanes[i]? = some l) (own : a = .lookWriter i) (idle : l.writer = .idle)
      (none_ : l.pingWaiting = false) (first : l.items = frame :: rest) :
      Passage a call x
        { x with
          lanes := x.lanes.set i
            { l with items := rest, writer := .writing .queue frame deadline }
          handed := ⟨i, .queue, frame⟩ :: x.handed }
  /-- The socket took the frame. -/
  | takes {i deadline : Nat} {l : Lane} {origin : Origin} {frame : Frame}
      (at_ : x.lanes[i]? = some l) (writing : l.writer = .writing origin frame deadline) :
      Passage a call x
        { x with
          lanes := x.lanes.set i { l with writer := .idle }
          written := ⟨i, origin, frame⟩ :: x.written }
  | closes {i : Nat} {l : Lane} (deadline : Nat) (at_ : x.lanes[i]? = some l)
      (idle : l.writer = .idle) :
      Passage a call x { x with lanes := x.lanes.set i { l with writer := .closing deadline } }
  /-- The writer stops, and what waits in the queue is lost. -/
  | stops {i : Nat} {l : Lane} (at_ : x.lanes[i]? = some l) :
      Passage a call x
        { x with
          lanes := x.lanes.set i { l with items := [], gone := true, writer := .stopped } }

/-- What the writer of one session gives to its socket in a step: the ping that waits, or else the
first frame of the queue, or nothing. -/
theorem Passage.gives {a : Action} {call : Nat} {x y : Transit} (passage : Passage a call x y)
    {i : Nat} {l : Lane} (at_ : x.lanes[i]? = some l) :
    sentOn i y.handed = sentOn i x.handed ∨ a = .lookWriter i ∧ l.writer = .idle ∧
      (l.pingWaiting = true ∧ sentOn i y.handed = sentOn i x.handed ++ [(.keeper, .ping [])] ∧
        (∀ l', y.lanes[i]? = some l' → l'.pingWaiting = false) ∨
      l.pingWaiting = false ∧ ∃ frame rest, l.items = frame :: rest ∧
        sentOn i y.handed = sentOn i x.handed ++ [(.queue, frame)]) := by
  cases passage with
  | @pings j k deadline at' own idle waits =>
    by_cases same : j = i
    · subst same
      rw [at_] at at'
      cases at'
      refine .inr ⟨own, idle, .inl ⟨waits, sentOn_own _ _ _ _, fun l' after => ?_⟩⟩
      simp only [List.getElem?_set, if_true] at after
      split at after
      · cases after
        rfl
      · cases after
    · exact .inl (sentOn_other same _ _ _)
  | @hands j k frame rest deadline at' own idle none_ first =>
    by_cases same : j = i
    · subst same
      rw [at_] at at'
      cases at'
      exact .inr ⟨own, idle, .inr ⟨none_, frame, rest, first, sentOn_own _ _ _ _⟩⟩
    · exact .inl (sentOn_other same _ _ _)
  | _ => exact .inl rfl

/-- Only the keeper asks for a ping. -/
theorem Passage.asks_of_keeper {a : Action} {call : Nat} {x y : Transit}
    (passage : Passage a call x y) {i : Nat} {l l' : Lane} (at_ : x.lanes[i]? = some l)
    (after : y.lanes[i]? = some l') (before : l.pingWaiting = false)
    (waits : l'.pingWaiting = true) : a = .lookKeeper i := by
  have same {j : Nat} {k k' : Lane} (at' : x.lanes[j]? = some k)
      (after : (x.lanes.set j k')[i]? = some l')
      (kept : k'.pingWaiting = true → k.pingWaiting = true) : a = .lookKeeper i := by
    rw [List.getElem?_set] at after
    by_cases own : j = i
    · subst own
      rw [at_] at at'
      cases at'
      rw [if_pos rfl] at after
      split at after
      · cases after
        rw [kept waits] at before
        cases before
      · cases after
    · rw [if_neg own, at_] at after
      cases after
      rw [waits] at before
      cases before
  cases passage with
  | calm =>
    rw [at_] at after
    cases after
    rw [waits] at before
    cases before
  | opens =>
    rw [List.getElem?_append_left (List.getElem?_eq_some_iff.mp at_).1, at_] at after
    cases after
    rw [waits] at before
    cases before
  | @asks j k at' own =>
    by_cases here : j = i
    · exact here ▸ own
    · rw [List.getElem?_set, if_neg here, at_] at after
      cases after
      rw [waits] at before
      cases before
  | joins at' own => exact same at' after id
  | passes at' own there => exact same at' after id
  | admits at' member there own => exact same at' after id
  | leaves ticket at' => exact same at' after id
  | pings deadline at' own idle ping => exact same at' after nofun
  | hands deadline at' own idle none_ first => exact same at' after id
  | takes at' writing => exact same at' after id
  | closes deadline at' idle => exact same at' after id
  | stops at' => exact same at' after id

/-! ## What a lane carries -/

/-- What the history tells of the frames of one session. -/
structure Account where
  accepted : List Frame
  handed : List (Origin × Frame)
  written : List (Origin × Frame)

/-- The account of one session. -/
def Transit.account (x : Transit) (i : Nat) : Account where
  accepted := acceptedBy i x.accepted
  handed := sentOn i x.handed
  written := sentOn i x.written

/-- The account of a session agrees with its lane. -/
structure Carried (a : Account) (l : Lane) : Prop where
  /-- The socket was given what the queue accepted, in order; the rest waits, or was lost when the
  writer stopped. -/
  in_order : ∃ lost, queued a.handed ++ l.items ++ lost = a.accepted ∧ (l.gone = false → lost = [])
  /-- What else the socket was given are empty pings. -/
  between : ∀ frame, (.keeper, frame) ∈ a.handed → frame = .ping []
  /-- The socket took all that it was given but perhaps the last. -/
  completed : ∃ cut, a.written ++ cut = a.handed ∧ cut.length ≤ 1 ∧
    (l.writer ≠ .stopped → cut = l.writer.pending)
  stopped : l.gone = true ↔ l.writer = .stopped
  dropped : l.gone = true → l.items = []

namespace Carried

variable {a : Account} {l : Lane}

/-- A new lane carries nothing. -/
theorem new : Carried ⟨[], [], []⟩ {} :=
  ⟨⟨[], rfl, fun _ => rfl⟩, nofun, ⟨[], rfl, by simp, fun _ => rfl⟩, by simp, nofun⟩

/-- The queue accepts a frame. -/
theorem accepts (h : Carried a l) (there : l.gone = false) (frame : Frame)
    (waiting : List (Nat × Frame)) :
    Carried { a with accepted := a.accepted ++ [frame] }
      { l with items := l.items ++ [frame], waiting } := by
  obtain ⟨lost, split, none_⟩ := h.in_order
  refine { h with in_order := ⟨[], ?_, fun _ => rfl⟩, dropped := ?_ }
  · rw [none_ there, List.append_nil] at split
    simp only [List.append_nil, ← split, List.append_assoc]
  · intro gone
    rw [there] at gone
    cases gone

/-- Who waits for a slot has no part in what was accepted, handed and written. -/
theorem waits (h : Carried a l) (waiting : List (Nat × Frame)) :
    Carried a { l with waiting } :=
  { h with }

/-- A ping that is asked for has no part in it before the writer takes it. -/
theorem asks (h : Carried a l) : Carried a { l with pingWaiting := true } := { h with }

/-- Nothing is pending at an idle writer. -/
theorem written_eq (h : Carried a l) (idle : l.writer = .idle) : a.written = a.handed := by
  obtain ⟨cut, split, -, pending⟩ := h.completed
  have none_ : cut = [] := by
    rw [pending (by simp [idle]), idle]
    rfl
  rwa [none_, List.append_nil] at split

/-- A writer that is idle has not left its queue. -/
theorem there (h : Carried a l) (idle : l.writer = .idle) : l.gone = false := by
  have stopped := h.stopped
  cases gone : l.gone with
  | false => rfl
  | true =>
    rw [stopped.mp gone] at idle
    cases idle

/-- A ping that the writer hands to the socket goes before the frames in the queue and is not
counted among them. -/
theorem pings (h : Carried a l) (idle : l.writer = .idle) (deadline : Nat) :
    Carried { a with handed := a.handed ++ [(.keeper, .ping [])] }
      { l with pingWaiting := false, writer := .writing .keeper (.ping []) deadline } where
  in_order := by
    obtain ⟨lost, split, none_⟩ := h.in_order
    exact ⟨lost, by simpa using split, none_⟩
  between frame mem := by
    rcases List.mem_append.mp mem with old | new
    · exact h.between frame old
    · cases List.mem_singleton.mp new
      rfl
  completed := ⟨[(.keeper, .ping [])], by rw [h.written_eq idle], by simp, fun _ => rfl⟩
  stopped := by simp [h.there idle]
  dropped := by simp [h.there idle]

/-- The frame that the writer hands to the socket is the first of the queue: what was handed and
what is left are together what was accepted. -/
theorem hands (h : Carried a l) (idle : l.writer = .idle) {frame : Frame} {rest : List Frame}
    (first : l.items = frame :: rest) (deadline : Nat) :
    Carried { a with handed := a.handed ++ [(.queue, frame)] }
      { l with items := rest, writer := .writing .queue frame deadline } where
  in_order := by
    obtain ⟨lost, split, none_⟩ := h.in_order
    refine ⟨lost, ?_, none_⟩
    rw [first] at split
    simpa using split
  between frame' mem := by
    rcases List.mem_append.mp mem with old | new
    · exact h.between frame' old
    · cases List.mem_singleton.mp new
  completed := ⟨[(.queue, frame)], by rw [h.written_eq idle], by simp, fun _ => rfl⟩
  stopped := by simp [h.there idle]
  dropped := by simp [h.there idle]

/-- The frame that the socket takes is the one it was handed last. -/
theorem takes (h : Carried a l) {origin : Origin} {frame : Frame} {deadline : Nat}
    (writing : l.writer = .writing origin frame deadline) :
    Carried { a with written := a.written ++ [(origin, frame)] } { l with writer := .idle } where
  in_order := h.in_order
  between := h.between
  completed := by
    obtain ⟨cut, split, -, pending⟩ := h.completed
    have one : cut = [(origin, frame)] := by
      rw [pending (by simp [writing]), writing]
      rfl
    exact ⟨[], by rw [List.append_nil, ← one, split], by simp, fun _ => rfl⟩
  stopped := by simpa [writing] using h.stopped
  dropped := h.dropped

/-- A writer that closes has handed nothing that is not written. -/
theorem closes (h : Carried a l) (idle : l.writer = .idle) (deadline : Nat) :
    Carried a { l with writer := .closing deadline } where
  in_order := h.in_order
  between := h.between
  completed := ⟨[], by rw [List.append_nil, h.written_eq idle], by simp, fun _ => rfl⟩
  stopped := by simp [h.there idle]
  dropped := by simp [h.there idle]

/-- A writer that stops drops what is left in the queue. What it handed over stays a front part of
what was accepted. -/
theorem stops (h : Carried a l) :
    Carried a { l with items := [], gone := true, writer := .stopped } where
  in_order := by
    obtain ⟨lost, split, -⟩ := h.in_order
    exact ⟨l.items ++ lost, by simpa using split, nofun⟩
  between := h.between
  completed := by
    obtain ⟨cut, split, short, -⟩ := h.completed
    exact ⟨cut, split, short, fun going => absurd rfl going⟩
  stopped := by simp
  dropped _ := rfl

end Carried

/-- Every session carries its own frames, and there are frames of no other. -/
structure Carries (x : Transit) : Prop where
  lanes : ∀ i l, x.lanes[i]? = some l → Carried (x.account i) l
  nowhere : ∀ i, x.lanes.length ≤ i → x.account i = ⟨[], [], []⟩

/-- What one session does to its frames is no concern of the others. -/
theorem Carries.update {x y : Transit} (h : Carries x) {i : Nat} {l l' : Lane}
    (at_ : x.lanes[i]? = some l) (lanes : y.lanes = x.lanes.set i l')
    (others : ∀ j, j ≠ i → y.account j = x.account j) (own : Carried (y.account i) l') :
    Carries y where
  lanes j k at' := by
    rw [lanes, List.getElem?_set] at at'
    by_cases same : i = j
    · subst same
      simp only [if_true] at at'
      split at at'
      · cases at'
        exact own
      · cases at'
    · rw [if_neg same] at at'
      exact others j (Ne.symm same) ▸ h.lanes j k at'
  nowhere j beyond := by
    rw [lanes, List.length_set] at beyond
    have inside := (List.getElem?_eq_some_iff.mp at_).1
    rw [others j (by omega)]
    exact h.nowhere j beyond

/-- Every passage keeps what the lanes carry. A passage changes one lane, so the others are carried
as they were. -/
theorem Carries.passage {x y : Transit} (h : Carries x) {a : Action} {call : Nat}
    (passage : Passage a call x y) : Carries y := by
  cases passage with
  | calm => exact h
  | opens =>
    refine ⟨fun i l at_ => ?_, fun i beyond => ?_⟩
    · rw [List.getElem?_append] at at_
      split at at_
      · exact h.lanes i l at_
      · have new : i = x.lanes.length := by
          have := (List.getElem?_eq_some_iff.mp at_).1
          simp only [List.length_singleton] at this
          omega
        subst new
        simp only [Nat.sub_self, List.getElem?_cons_zero, Option.some.injEq] at at_
        subst at_
        have none_ := h.nowhere x.lanes.length (Nat.le_refl _)
        exact none_ ▸ Carried.new
    · rw [List.length_append] at beyond
      exact h.nowhere i (by omega)
  | joins at_ own =>
    exact h.update at_ rfl (fun _ _ => rfl) ((h.lanes _ _ at_).waits _)
  | @passes i l frame at_ own there =>
    refine h.update at_ rfl (fun j other => ?_) ?_
    · simp only [Transit.account, acceptedBy_other (Ne.symm other)]
    · simpa [Transit.account] using (h.lanes _ _ at_).accepts there frame l.waiting
  | @admits i ticket l frame at_ waits there own =>
    refine h.update at_ rfl (fun j other => ?_) ?_
    · simp only [Transit.account, acceptedBy_other (Ne.symm other)]
    · simpa [Transit.account] using (h.lanes _ _ at_).accepts there frame _
  | leaves ticket at_ =>
    exact h.update at_ rfl (fun _ _ => rfl) ((h.lanes _ _ at_).waits _)
  | asks at_ own => exact h.update at_ rfl (fun _ _ => rfl) (h.lanes _ _ at_).asks
  | pings deadline at_ own idle waits =>
    refine h.update at_ rfl (fun j other => ?_) ?_
    · simp only [Transit.account, sentOn_other (Ne.symm other)]
    · simpa [Transit.account] using (h.lanes _ _ at_).pings idle deadline
  | hands deadline at_ own idle none_ first =>
    refine h.update at_ rfl (fun j other => ?_) ?_
    · simp only [Transit.account, sentOn_other (Ne.symm other)]
    · simpa [Transit.account] using (h.lanes _ _ at_).hands idle first deadline
  | takes at_ writing =>
    refine h.update at_ rfl (fun j other => ?_) ?_
    · simp only [Transit.account, sentOn_other (Ne.symm other)]
    · simpa [Transit.account] using (h.lanes _ _ at_).takes writing
  | closes deadline at_ idle =>
    exact h.update at_ rfl (fun _ _ => rfl) ((h.lanes _ _ at_).closes idle deadline)
  | stops at_ => exact h.update at_ rfl (fun _ _ => rfl) (h.lanes _ _ at_).stops

/-! ## Whose frames they are -/

/-- A send waits at a session. -/
def Waits (lanes : List Lane) (i : Nat) (w : Nat × Frame) : Prop :=
  ∃ l, lanes[i]? = some l ∧ w ∈ l.waiting

/-- Where one lane is replaced, a send waits in the new lane or in another. -/
theorem waits_set {lanes : List Lane} {i j : Nat} {l : Lane} {w : Nat × Frame}
    (waits : Waits (lanes.set i l) j w) : i = j ∧ w ∈ l.waiting ∨ i ≠ j ∧ Waits lanes j w := by
  obtain ⟨l', at_, mem⟩ := waits
  rw [List.getElem?_set] at at_
  by_cases same : i = j
  · rw [if_pos same] at at_
    split at at_
    · cases at_
      exact .inl ⟨same, mem⟩
    · cases at_
  · rw [if_neg same] at at_
    exact .inr ⟨same, l', at_, mem⟩

/-- What waits at a session or was accepted by one is the send of a call, and a call waits at one
session or was accepted once. -/
structure Owned (asked : List (Nat × Request)) (x : Transit) : Prop where
  waits : ∀ i w, Waits x.lanes i w → (w.1, .send w.2) ∈ asked
  accepted : ∀ e ∈ x.accepted, (e.call, .send e.frame) ∈ asked
  once : (x.accepted.map (·.call)).Nodup
  apart : ∀ i w, Waits x.lanes i w → ∀ e ∈ x.accepted, e.call ≠ w.1
  single : ∀ i w, Waits x.lanes i w → ∀ j v, Waits x.lanes j v → w.1 = v.1 → i = j

namespace Owned

variable {asked asked' : List (Nat × Request)} {x : Transit}

/-- A transit without lanes owns nothing. -/
theorem new (asked : List (Nat × Request)) : Owned asked ⟨[], [], [], []⟩ where
  waits i w := by simp [Waits]
  accepted := nofun
  once := .nil
  apart i w := by simp [Waits]
  single i w := by simp [Waits]

/-- Nothing more is accepted, and no more wait. -/
theorem fewer (h : Owned asked x) (more : ∀ q ∈ asked, q ∈ asked') {lanes : List Lane}
    {handed written : List Handing} (fewer : ∀ i w, Waits lanes i w → Waits x.lanes i w) :
    Owned asked' ⟨lanes, x.accepted, handed, written⟩ where
  waits i w waits := more _ (h.waits i w (fewer i w waits))
  accepted e mem := more _ (h.accepted e mem)
  once := h.once
  apart i w waits := h.apart i w (fewer i w waits)
  single i w waits j v waits' := h.single i w (fewer i w waits) j v (fewer j v waits')

/-- A send is accepted and waits nowhere any more. -/
theorem accepts (h : Owned asked x) {i ticket : Nat} {frame : Frame}
    (own : (ticket, .send frame) ∈ asked) (first : ∀ e ∈ x.accepted, e.call ≠ ticket)
    {lanes : List Lane}
    (fewer : ∀ j w, Waits lanes j w → Waits x.lanes j w ∧ w.1 ≠ ticket) :
    Owned asked { x with lanes, accepted := ⟨i, ticket, frame⟩ :: x.accepted } where
  waits j w waits := h.waits j w (fewer j w waits).1
  accepted e mem := by
    rcases List.mem_cons.mp mem with rfl | old
    · exact own
    · exact h.accepted e old
  once := by
    refine List.nodup_cons.mpr ⟨?_, h.once⟩
    rintro mem
    obtain ⟨e, old, same⟩ := List.mem_map.mp mem
    exact first e old same
  apart j w waits e mem := by
    rcases List.mem_cons.mp mem with rfl | old
    · exact Ne.symm (fewer j w waits).2
    · exact h.apart j w (fewer j w waits).1 e old
  single j w waits k v waits' := h.single j w (fewer j w waits).1 k v (fewer k v waits').1

/-- A new call waits at one session. -/
theorem joins (h : Owned asked x) {i call : Nat} {l : Lane} {frame : Frame}
    (at_ : x.lanes[i]? = some l) (own : (call, .send frame) ∈ asked)
    (fresh : ∀ j w, Waits x.lanes j w → w.1 ≠ call) (first : ∀ e ∈ x.accepted, e.call ≠ call) :
    Owned asked
      { x with lanes := x.lanes.set i { l with waiting := l.waiting ++ [(call, frame)] } } := by
  have cases_ {j : Nat} {w : Nat × Frame}
      (waits : Waits (x.lanes.set i { l with waiting := l.waiting ++ [(call, frame)] }) j w) :
      Waits x.lanes j w ∨ i = j ∧ w = (call, frame) := by
    rcases waits_set waits with ⟨same, mem⟩ | ⟨-, old⟩
    · rcases List.mem_append.mp mem with old | new
      · exact .inl (same ▸ ⟨l, at_, old⟩)
      · exact .inr ⟨same, List.mem_singleton.mp new⟩
    · exact .inl old
  refine ⟨?_, h.accepted, h.once, ?_, ?_⟩
  · intro j w waits
    rcases cases_ waits with old | ⟨-, rfl⟩
    · exact h.waits j w old
    · exact own
  · intro j w waits
    rcases cases_ waits with old | ⟨-, rfl⟩
    · exact h.apart j w old
    · exact first
  · intro j w waits k v waits' same
    rcases cases_ waits with old | ⟨here, rfl⟩ <;> rcases cases_ waits' with old' | ⟨here', rfl⟩
    · exact h.single j w old k v old' same
    · exact absurd same (fresh j w old)
    · exact absurd same.symm (fresh k v old')
    · exact here.symm.trans here'

/-- Every passage keeps each frame with the call that asked for it. A call that is new can own no
frame from before. -/
theorem passage {y : Transit} (h : Owned asked x) {a : Action} {call : Nat}
    (passage : Passage a call x y) (more : ∀ q ∈ asked, q ∈ asked')
    (own : ∀ frame, a = .send frame → (call, .send frame) ∈ asked')
    (fresh : ∀ q ∈ asked, q.1 ≠ call) : Owned asked' y := by
  have later : Owned asked' x := h.fewer more fun _ _ => id
  have new : ∀ j w, Waits x.lanes j w → w.1 ≠ call := fun j w waits => fresh _ (h.waits j w waits)
  have first : ∀ e ∈ x.accepted, e.call ≠ call := fun e mem => fresh _ (h.accepted e mem)
  -- the sends that wait at a session stay, or some of them leave
  have subset {i : Nat} {l l' : Lane} (at_ : x.lanes[i]? = some l)
      (fewer : ∀ w ∈ l'.waiting, w ∈ l.waiting) :
      ∀ j w, Waits (x.lanes.set i l') j w → Waits x.lanes j w := by
    intro j w waits
    rcases waits_set waits with ⟨rfl, mem⟩ | ⟨-, old⟩
    · exact ⟨l, at_, fewer w mem⟩
    · exact old
  have same {i : Nat} {l l' : Lane} (at_ : x.lanes[i]? = some l) (eq : l'.waiting = l.waiting) :=
    subset at_ fun w mem => (eq ▸ mem : w ∈ l.waiting)
  cases passage with
  | calm => exact later
  | opens =>
    refine h.fewer more fun i w waits => ?_
    obtain ⟨l, at_, mem⟩ := waits
    rcases List.mem_append.mp (List.mem_of_getElem? at_) with old | new
    · rw [List.getElem?_append] at at_
      split at at_
      · exact ⟨l, at_, mem⟩
      · have := (List.getElem?_eq_some_iff.mp at_).2
        simp only [List.getElem_singleton] at this
        rw [← this] at mem
        cases mem
    · rw [List.mem_singleton.mp new] at mem
      cases mem
  | joins at_ sends => exact later.joins at_ (own _ sends) new first
  | passes at_ sends there =>
    refine later.accepts (own _ sends) first fun j w waits => ?_
    have old : Waits x.lanes j w := same at_ (by rfl) j w waits
    exact ⟨old, new j w old⟩
  | @admits i ticket l frame at_ waits there own =>
    refine later.accepts (more _ (h.waits i _ ⟨l, at_, waits⟩)) (h.apart i _ ⟨l, at_, waits⟩) ?_
    intro j w waits'
    rcases waits_set waits' with ⟨rfl, mem⟩ | ⟨apart, old⟩
    · obtain ⟨mem, other⟩ := List.mem_filter.mp mem
      exact ⟨⟨l, at_, mem⟩, by simpa using other⟩
    · exact ⟨old, fun eq => apart (h.single i _ ⟨l, at_, waits⟩ j w old eq.symm)⟩
  | leaves ticket at_ => exact h.fewer more (subset at_ fun w mem => (List.mem_filter.mp mem).1)
  | asks at_ own => exact h.fewer more (same at_ rfl)
  | pings deadline at_ own idle waits => exact h.fewer more (same at_ rfl)
  | hands deadline at_ own idle none_ first => exact h.fewer more (same at_ rfl)
  | takes at_ writing => exact h.fewer more (same at_ rfl)
  | closes deadline at_ idle => exact h.fewer more (same at_ rfl)
  | stops at_ => exact h.fewer more (same at_ rfl)

end Owned

end Connection

end StationPool
