import Mathlib.Data.List.Perm.Basic
import StationPool.Registry.Scripted

/-!
# Broadcasts

A payload for every station that is connected. What a broadcast does is told by watching its sends:
`recorded` writes down each of them with what came of it and changes nothing else (`each_recorded`).
The sends go to the connections that were connected, one after the other, whatever came of the
earlier ones, and the result counts the failures among them.

In which order a registry gives its connections shows neither in the result nor in the sends, where
a send concerns its own connection only (`Confined`): two neighbours change places, and the rest of
the sends find every connection as before (`sends_perm`).
-/

namespace StationPool

/-- A send that was made, and what came of it. -/
structure Sent (κ : Type) where
  connection : κ
  payload : Bytes
  outcome : Outcome
  deriving DecidableEq

/-- Whether a send failed. -/
def Sent.failed {κ : Type} (x : Sent κ) : Bool := x.outcome.toOption.isNone

namespace Registry

variable {κ σ τ : Type} {send : Bytes → κ → σ → Outcome × σ} {view : κ → σ → τ}
  {payload : Bytes} {c d : κ} {s s' : σ}

/-- Sends that are written down, in order. -/
def recorded (send : Bytes → κ → σ → Outcome × σ) (payload : Bytes) (c : κ)
    (w : σ × List (Sent κ)) : Outcome × σ × List (Sent κ) :=
  let (outcome, s) := send payload c w.1
  (outcome, s, w.2 ++ [⟨c, payload, outcome⟩])

/-- The sends of a payload to some connections, one after the other, and what comes of each. -/
def sends (send : Bytes → κ → σ → Outcome × σ) (payload : Bytes) : List κ → σ → List (Sent κ)
  | [], _ => []
  | c :: rest, s =>
    ⟨c, payload, (send payload c s).1⟩ :: sends send payload rest (send payload c s).2

/-! ## Watching -/

/-- A call on several connections is made one after the other, and counts those that failed. -/
theorem each_cons (call : κ → σ → Outcome × σ) (c : κ) (rest : List κ) (s : σ) :
    each call (c :: rest) s =
      ((each call rest (call c s).2).1 + (if (call c s).1.toOption.isNone then 1 else 0),
        (each call rest (call c s).2).2) := rfl

/-- To watch changes nothing, and what is written down are the sends. -/
theorem each_recorded (send : Bytes → κ → σ → Outcome × σ) (payload : Bytes) (targets : List κ)
    (s : σ) (before : List (Sent κ)) :
    each (recorded send payload) targets (s, before) =
      ((each (send payload) targets s).1, (each (send payload) targets s).2,
        before ++ sends send payload targets s) := by
  induction targets generalizing s before with
  | nil => simp [each, sends]
  | cons c rest ih =>
    have step : recorded send payload c (s, before) =
        ((send payload c s).1, (send payload c s).2,
          before ++ [⟨c, payload, (send payload c s).1⟩]) := rfl
    rw [each_cons, each_cons, step, ih, sends, List.append_assoc, List.singleton_append]

/-- Each connection is sent to once, in order, whatever comes of it. -/
theorem map_connection_sends (targets : List κ) (s : σ) :
    (sends send payload targets s).map (·.connection) = targets := by
  induction targets generalizing s with
  | nil => rfl
  | cons c rest ih => rw [sends, List.map_cons, ih]

/-- All sends of a broadcast have the same payload. -/
theorem payload_of_mem_sends {targets : List κ} {x : Sent κ}
    (mem : x ∈ sends send payload targets s) : x.payload = payload := by
  induction targets generalizing s with
  | nil => cases mem
  | cons c rest ih =>
    rcases List.mem_cons.mp mem with rfl | later
    · rfl
    · exact ih later

/-- The failures are counted. -/
theorem fst_each (send : Bytes → κ → σ → Outcome × σ) (payload : Bytes) (targets : List κ) (s : σ) :
    (each (send payload) targets s).1 = (sends send payload targets s).countP Sent.failed := by
  induction targets generalizing s with
  | nil => rfl
  | cons c rest ih => rw [each_cons, ih, sends, List.countP_cons]; rfl

/-- A broadcast succeeds exactly if no send failed. A broadcast to nobody succeeds. -/
theorem summary_eq_ok_iff {failed attempted : Nat} :
    summary failed attempted = .ok () ↔ failed = 0 := by
  unfold summary
  split
  · exact iff_of_true rfl ‹_›
  · exact iff_of_false nofun ‹_›

/-! ## The order of the sends -/

/-- A send concerns its own connection only: what comes of it, and what it makes of the connection,
depends on how that connection was, and every other connection stays as it was. -/
structure Confined (send : Bytes → κ → σ → Outcome × σ) (view : κ → σ → τ) : Prop where
  outcome : ∀ payload c s s', view c s = view c s' → (send payload c s).1 = (send payload c s').1
  own : ∀ payload c s s', view c s = view c s' →
    view c (send payload c s).2 = view c (send payload c s').2
  others : ∀ payload c d s, d ≠ c → view d (send payload c s).2 = view d s

/-- Every connection is the same in two worlds. -/
def Alike (view : κ → σ → τ) (s s' : σ) : Prop := ∀ c, view c s = view c s'

namespace Confined

/-- Two worlds in which every connection is the same are still so after a send. -/
theorem alike (confined : Confined send view) (same : Alike view s s') (payload : Bytes) (c : κ) :
    Alike view (send payload c s).2 (send payload c s').2 := by
  intro d
  by_cases own : d = c
  · rw [own]
    exact confined.own payload c s s' (same c)
  · rw [confined.others payload c d s own, confined.others payload c d s' own]
    exact same d

/-- Two sends to different connections leave the same, whichever is first. -/
theorem alike_swap (confined : Confined send view) (same : Alike view s s') (payload : Bytes)
    (apart : c ≠ d) :
    Alike view (send payload c (send payload d s).2).2
      (send payload d (send payload c s').2).2 := by
  have first (e : κ) (other : e ≠ c) (s : σ) :
      view e (send payload c s).2 = view e s := confined.others payload c e s other
  have second (e : κ) (other : e ≠ d) (s : σ) :
      view e (send payload d s).2 = view e s := confined.others payload d e s other
  intro e
  by_cases own : e = c
  · subst own
    rw [second e apart]
    exact confined.own payload e _ _ ((second e apart s).trans (same e))
  · rw [first e own]
    by_cases other : e = d
    · subst other
      exact confined.own payload e _ _ ((same e).trans (first e own s').symm)
    · rw [second e other, second e other, first e own]
      exact same e

end Confined

/-- Worlds that are alike before the same sends are alike after them, and the sends come to the
same. -/
theorem sends_alike (confined : Confined send view) (same : Alike view s s') (payload : Bytes)
    (targets : List κ) :
    sends send payload targets s = sends send payload targets s' ∧
      Alike view (each (send payload) targets s).2 (each (send payload) targets s').2 := by
  induction targets generalizing s s' with
  | nil => exact ⟨rfl, same⟩
  | cons c rest ih =>
    obtain ⟨made, left⟩ := ih (confined.alike same payload c)
    rw [sends, sends, made, confined.outcome payload c s s' (same c)]
    exact ⟨rfl, left⟩

/-- Sends to the same connections in another order come to the same, and leave the same. -/
theorem sends_perm (confined : Confined send view) (payload : Bytes) {targets targets' : List κ}
    (order : targets.Perm targets') (same : Alike view s s') :
    (sends send payload targets s).Perm (sends send payload targets' s') ∧
      Alike view (each (send payload) targets s).2 (each (send payload) targets' s').2 := by
  induction order generalizing s s' with
  | nil => exact ⟨.nil, same⟩
  | cons c _ ih =>
    obtain ⟨made, left⟩ := ih (confined.alike same payload c)
    rw [sends, sends, confined.outcome payload c s s' (same c)]
    exact ⟨made.cons _, left⟩
  | trans _ _ first second =>
    obtain ⟨made, left⟩ := first same
    obtain ⟨made', left'⟩ := second fun _ => rfl
    exact ⟨made.trans made', fun c => (left c).trans (left' c)⟩
  | swap c d rest =>
    by_cases own : c = d
    · subst own
      obtain ⟨made, left⟩ := sends_alike confined same payload (c :: c :: rest)
      exact ⟨.of_eq made, left⟩
    · obtain ⟨made, left⟩ :=
        sends_alike confined (confined.alike_swap same payload own) payload rest
      have first : (send payload c (send payload d s).2).1 = (send payload c s').1 :=
        confined.outcome payload c _ _ ((confined.others payload d c s own).trans (same c))
      have second : (send payload d s).1 = (send payload d (send payload c s').2).1 :=
        confined.outcome payload d _ _
          ((same d).trans (confined.others payload c d s' (Ne.symm own)).symm)
      simp only [sends, made, first, second]
      exact ⟨.swap _ _ _, left⟩

/-! ## Broadcasts -/

/-- The connections that are connected, in the order of the registry. -/
def targets (r : Registry κ) (state : κ → Lifecycle) : List κ :=
  (r.entries.map (·.2)).filter fun c => (state c).isConnected

/-- The targets of a broadcast are the connected entries without their ids. -/
theorem map_snd_connected (r : Registry κ) (state : κ → Lifecycle) :
    (r.connected state).map (·.2) = r.targets state := by
  rw [connected, targets, List.filter_map]
  rfl

/-- A broadcast has as many targets as connections are connected. -/
theorem length_targets (r : Registry κ) (state : κ → Lifecycle) :
    (r.targets state).length = r.connectedCount state := by
  rw [← map_snd_connected, List.length_map, connectedCount]

/-- The targets of a broadcast are the same, up to their order, in whatever order the registry is
read. -/
theorem targets_perm {r r' : Registry κ} (order : r.entries.Perm r'.entries)
    (state : κ → Lifecycle) : (r.targets state).Perm (r'.targets state) :=
  (order.map _).filter _

/-- A broadcast sends to its targets, and sums up what came of it. -/
theorem broadcast_eq (r : Registry κ) (state : κ → Lifecycle)
    (send : Bytes → κ → σ → Outcome × σ) (payload : Bytes) (s : σ) :
    r.broadcast state send payload s =
      (summary ((sends send payload (r.targets state) s).countP Sent.failed)
        (r.connectedCount state), (each (send payload) (r.targets state) s).2) := by
  rw [← fst_each, ← length_targets, ← map_snd_connected]
  rfl

/-- To write the sends down changes neither the broadcast nor the world, and gives `sends`. -/
theorem broadcast_recorded (r : Registry κ) (state : κ → Lifecycle)
    (send : Bytes → κ → σ → Outcome × σ) (payload : Bytes) (s : σ) :
    r.broadcast state (recorded send) payload (s, []) =
      ((r.broadcast state send payload s).1, (r.broadcast state send payload s).2,
        sends send payload (r.targets state) s) := by
  simp only [broadcast, each_recorded, List.nil_append, map_snd_connected]

/-- Whatever a registry holds, whatever states its connections are in when the call begins and
whatever comes of the sends: to watch a broadcast changes nothing, and what is seen is one send of
the payload to each connection that was connected, one after the other, and no other. The result is
success where none of them failed, and otherwise tells how many of how many did. Where a send
concerns its own connection only, neither the result nor the sends nor what they leave depend on the
order in which the registry gives its connections. -/
theorem broadcast_reaches_connected (r : Registry κ) (state : κ → Lifecycle)
    (send : Bytes → κ → σ → Outcome × σ) (payload : Bytes) (s : σ) :
    ∃ made : List (Sent κ),
      r.broadcast state (recorded send) payload (s, []) =
        ((r.broadcast state send payload s).1, (r.broadcast state send payload s).2, made) ∧
      made.map (·.connection) =
        (r.entries.map (·.2)).filter (fun c => (state c).isConnected) ∧
      (∀ x ∈ made, x.payload = payload) ∧
      ((r.broadcast state send payload s).1 = .ok () ↔ ∀ x ∈ made, x.failed = false) ∧
      ((∃ x ∈ made, x.failed = true) → (r.broadcast state send payload s).1 =
        .error (.partly (made.countP Sent.failed) (r.connectedCount state))) ∧
      ∀ (r' : Registry κ) (τ : Type) (view : κ → σ → τ), r.entries.Perm r'.entries →
        Confined send view →
        (r'.broadcast state send payload s).1 = (r.broadcast state send payload s).1 ∧
        Alike view (r.broadcast state send payload s).2 (r'.broadcast state send payload s).2 ∧
        made.Perm (r'.broadcast state (recorded send) payload (s, [])).2.2 := by
  have none_failed : (sends send payload (r.targets state) s).countP Sent.failed = 0 ↔
      ∀ x ∈ sends send payload (r.targets state) s, x.failed = false := by
    simp only [List.countP_eq_zero, Bool.not_eq_true]
  refine ⟨_, broadcast_recorded r state send payload s, map_connection_sends _ s,
    fun x => payload_of_mem_sends, ?succeeds, ?fails, ?order⟩
  case succeeds =>
    rw [broadcast_eq, ← none_failed]
    exact summary_eq_ok_iff
  case fails =>
    rintro ⟨x, mem, failed⟩
    have some_failed : (sends send payload (r.targets state) s).countP Sent.failed ≠ 0 := by
      intro none_
      rw [none_failed.mp none_ x mem] at failed
      cases failed
    rw [broadcast_eq]
    exact if_neg some_failed
  case order =>
    intro r' τ view order confined
    have targets := targets_perm order state
    obtain ⟨made, left⟩ := sends_perm confined payload targets (s := s) fun _ => rfl
    rw [broadcast_recorded, broadcast_eq, broadcast_eq, ← length_targets, ← length_targets,
      made.countP_eq, targets.length_eq]
    exact ⟨rfl, left, made⟩

end Registry

namespace Scripted.World

open Registry

/-- A send to a scripted station concerns that station only. -/
theorem confined_send : Confined send fun place (w : World) => w.stations[place]? := by
  have changes (payload : Bytes) (place : Nat) (w : World) :
      (send payload place w).2.stations = w.stations ∨
        ∃ s, (send payload place w).2.stations = w.stations.set place s := by
    unfold send
    split
    · exact .inl rfl
    · split
      · exact .inl rfl
      · split
        · exact .inl rfl
        · exact .inr ⟨_, rfl⟩
  refine ⟨fun payload place w w' same => ?_, fun payload place w w' same => ?_,
    fun payload place other w apart => ?_⟩
  · have same : w.stations[place]? = w'.stations[place]? := same
    unfold send
    rw [same]
    split
    · rfl
    · split
      · rfl
      · split <;> rfl
  · have same : w.stations[place]? = w'.stations[place]? := same
    have bound {s : Scripted} (at_ : w'.stations[place]? = some s) (s' : Scripted) :
        (w.stations.set place s')[place]? = (w'.stations.set place s')[place]? := by
      rw [List.getElem?_set_self (List.getElem?_eq_some_iff.mp at_).1,
        List.getElem?_set_self (List.getElem?_eq_some_iff.mp (same.trans at_)).1]
    unfold send
    rw [same]
    split
    · exact same
    · rename_i s at_
      split
      · exact same
      · split
        · exact same
        · exact bound at_ _
  · rcases changes payload place w with kept | ⟨s, set_⟩
    · exact congrArg (·[other]?) kept
    · exact (congrArg (·[other]?) set_).trans (List.getElem?_set_ne (Ne.symm apart))

/-- Two stations that are connected, one of which refuses, and one that waits to be redialed. -/
def mixed : World where
  stations := [⟨"A", .connected, true, false, {}⟩, ⟨"B", .reconnecting, false, false, {}⟩,
    ⟨"C", .connected, false, false, {}⟩]

/-- In either order of the registry one of two sends fails, and the station behind it is reached. -/
theorem broadcast_reaches_connected_of_mixed :
    let r : Registry Nat := ⟨[("A", 0), ("B", 1), ("C", 2)], by decide⟩
    let r' : Registry Nat := ⟨[("C", 2), ("B", 1), ("A", 0)], by decide⟩
    r.entries.Perm r'.entries ∧
    ∃ made, (r.broadcast mixed.state (recorded send) [7] (mixed, [])).2.2 = made ∧
      made.map (·.connection) = [0, 2] ∧
      (r.broadcast mixed.state send [7] mixed).1 = .error (.partly 1 2) ∧
      (r'.broadcast mixed.state send [7] mixed).1 = .error (.partly 1 2) ∧
      made.Perm (r'.broadcast mixed.state (recorded send) [7] (mixed, [])).2.2 := by
  intro r r'
  have order : r.entries.Perm r'.entries := by decide
  obtain ⟨made, watched, reached, -, -, -, any⟩ :=
    broadcast_reaches_connected r mixed.state send [7] mixed
  obtain ⟨same, -, alike⟩ := any r' _ _ order confined_send
  have partly : (r.broadcast mixed.state send [7] mixed).1 = .error (.partly 1 2) := by decide
  exact ⟨order, made, congrArg (·.2.2) watched, reached.trans (by decide), partly,
    same.trans partly, alike⟩

end Scripted.World

end StationPool
