import StationPool.Proofs.Connection.Answers
import StationPool.Proofs.Pool.House

/-!
# Enrolment

Stations whose ids are all different and not blank, added to a new pool: every one of them is
registered, and an add that fails does so with an error of its connection (`enrolled_of_run`). The
refusals of an id, that it is taken or blank, are none of them, however the dials end and in whatever
order the calls and the dials go on (`adds_are_taken`).
-/

namespace StationPool.Pool

open Connection (Heeds Own)

variable {p p' : Pool} {left : List (Nat × Waiting)} {n k : Nat} {id : String} {w : Waiting}
  {s : StationSettings} {done : List StationSettings} {fine : ConnectionError → Prop}

/-- The request of a call. -/
def Action.request? : Action → Option Request
  | .call request => some request
  | _ => none

/-- What callers ask for, in order. -/
def requested (as : List Action) : List Request := as.filterMap Action.request?

/-- The error that an action brings to a dial from outside. -/
def Action.brings? : Action → Option ConnectionError
  | .link _ a => a.brings?
  | _ => none

/-- The error of a blank id. -/
def unnamed : ConnectionError := .invalidRequest "empty station id"

/-- Connections do not make this error: what is wrong with a request is told with its URL or its
header. -/
theorem own_ne_unnamed : Own (· ≠ unnamed) := by
  intro a e verdict
  cases verdict with
  | brought outside => exact .inl outside
  | @unfit settings e bad =>
    refine .inr ?_
    unfold Handshake.ofSettings at bad
    split at bad
    · rename_i e' _
      cases bad
      intro same
      have texts := congrArg String.toList (ConnectionError.invalidRequest.inj same)
      have colon : ':' ∈ (settings.url ++ ": " ++ e'.message).toList := by simp
      rw [texts] at colon
      exact absurd colon (by decide)
    · split at bad
      · cases bad
      · split at bad
        · cases bad
          decide
        · cases bad
  | _ => exact .inr nofun

/-! ## What an enrolling pool keeps -/

/-- What a call that adds waits for; a station that is taken out again failed with some error. -/
def Patient (fine : ConnectionError → Prop) : Waiting → Prop
  | .connecting .. => True
  | .withdrawing _ e => fine e
  | .takingDown _ | .one _ | .broadcasting .. => False

/-- Of a pool that was asked to add some stations and nothing else: every one was registered, and
errors are those of connections, of some kind. -/
structure Enrolled (fine : ConnectionError → Prop) (done : List StationSettings) (p : Pool)
    (left : List (Nat × Waiting)) : Prop where
  up : p.shutDown = false
  called : ∀ n request, .called n request ∈ p.history → ∃ s ∈ done, request = .add s
  kept : ∀ n request, .called n request ∈ p.history → ∃ k, .registered n k ∈ p.history
  heeds : ∀ c ∈ p.connections, Heeds fine c
  patient : ∀ x ∈ left ++ p.waiting, Patient fine x.2
  errors : ∀ n e, .returned n (.error e) ∈ p.history → ∃ e', e = .connection e' ∧ fine e'

/-- What calls to connections keep of each they keep of all. -/
theorem onLinks_forall {P : Connection → Prop} {f : Connection → Connection}
    (keeps : ∀ c, P c → P (f c)) (links : List Nat) {p : Pool} (all : ∀ c ∈ p.connections, P c) :
    ∀ c ∈ (p.onLinks f links).2.connections, P c := by
  induction links generalizing p with
  | nil => exact all
  | cons j links ih =>
    refine ih (p := (p.onLink j f).2) ?_
    unfold onLink
    split
    · exact all
    · rename_i c at_
      intro d mem
      rcases List.mem_or_eq_of_mem_set mem with old | rfl
      · exact all d old
      · exact keeps c (all c (List.mem_of_getElem? at_))

namespace Enrolled

/-- A call that is about to go on. -/
theorem pop {x : Nat × Waiting} (h : Enrolled fine done p (x :: left)) :
    Enrolled fine done p left ∧ Patient fine x.2 :=
  ⟨{ h with patient := fun y mem => h.patient y (List.mem_cons_of_mem x mem) },
    h.patient x List.mem_cons_self⟩

/-- A call that waits keeps the enrolment. -/
theorem wait (h : Enrolled fine done p left) (patient : Patient fine w) :
    Enrolled fine done (p.wait n w) left := by
  refine { h with patient := fun x mem => ?_ }
  rcases List.mem_append.mp mem with mem | mem
  · exact h.patient x (List.mem_append_left _ mem)
  · rcases List.mem_append.mp mem with old | new
    · exact h.patient x (List.mem_append_right _ old)
    · rw [List.mem_singleton.mp new]
      exact patient

/-- A call that ends keeps the enrolment, if its error is of the kind. -/
theorem finish (h : Enrolled fine done p left) {result : Except PoolError Unit}
    (good : ∀ e, result = .error e → ∃ e', e = .connection e' ∧ fine e') :
    Enrolled fine done (p.finish n result) left := by
  refine { h with
    called := fun n request mem => h.called n request ((List.mem_cons.mp mem).resolve_left nofun)
    kept := fun n request mem => ?kept
    errors := fun m e mem => ?errors }
  case kept =>
    obtain ⟨k, registered⟩ := h.kept n request ((List.mem_cons.mp mem).resolve_left nofun)
    exact ⟨k, List.mem_cons_of_mem _ registered⟩
  case errors =>
    rcases List.mem_cons.mp mem with new | old
    · cases new
      exact good e rfl
    · exact h.errors m e old

/-- A call takes connections out. -/
theorem takeDown (h : Enrolled fine done p left) (own : Own fine) (taken : List Nat)
    (registry : Registry Nat) (tells : Bool) :
    Enrolled fine done (p.takeDown n taken registry tells).2 left := by
  have heeds := onLinks_forall (P := Heeds fine) (f := Connection.disconnect)
    (fun c heeds => heeds.step (a := .disconnect) own nofun rfl) taken
    (p := { p with registry, history := taken.reverse.map (.tookOut n) ++ p.history }) h.heeds
  have old {x : Happening} (other : ∀ k, x ≠ .tookOut n k)
      (mem : x ∈ taken.reverse.map (.tookOut n) ++ p.history) : x ∈ p.history := by
    refine (List.mem_append.mp mem).resolve_left fun new => ?_
    obtain ⟨k, -, rfl⟩ := List.mem_map.mp new
    exact other k rfl
  simp only [Pool.takeDown, foldl_tookOut]
  rw [onLinks_frame]
  refine {
    up := h.up
    called := fun n request mem => h.called n request (old (by rintro k ⟨⟩) mem)
    kept := fun n request mem => ?kept
    heeds
    patient := h.patient
    errors := fun n e mem => h.errors n e (old (by rintro k ⟨⟩) mem) }
  obtain ⟨k, registered⟩ := h.kept n request (old (by rintro k ⟨⟩) mem)
  exact ⟨k, List.mem_append_right _ registered⟩

/-! ## Going on -/

/-- A withdrawal that goes on ends with the error of the dial, which is of the kind. -/
theorem goOnWithdrawing (h : Enrolled fine done p left) (t : Takedown LinkCall)
    {e : ConnectionError} (good : fine e) :
    Enrolled fine done (p.goOnWithdrawing n t e) left := by
  unfold Pool.goOnWithdrawing
  split
  · refine h.finish ?_
    rintro _ ⟨⟩
    exact ⟨e, rfl, good⟩
  · exact h.wait good

/-- A station that is withdrawn keeps the enrolment. The errors that its disconnect brings on are the
connections' own, and those are of the kind. -/
theorem withdraw (h : Enrolled fine done p left) (own : Own fine) {e : ConnectionError}
    (good : fine e) : Enrolled fine done (p.withdraw n id e) left := by
  unfold Pool.withdraw
  split
  · refine h.finish ?_
    rintro _ ⟨⟩
    exact ⟨e, rfl, good⟩
  · rename_i connection registry _
    have down := h.takeDown own (n := n) [connection] registry false
    dsimp only
    generalize p.takeDown n [connection] registry false = pair at down
    exact down.goOnWithdrawing pair.1 good

/-- A first connect that goes on keeps the enrolment: it waits, succeeds, or is withdrawn with the
error that the dial was brought. -/
theorem goOnConnecting (h : Enrolled fine done p left) (own : Own fine) (link : LinkCall) :
    Enrolled fine done (p.goOnConnecting n link id) left := by
  unfold Pool.goOnConnecting
  cases outcome : p.outcomeOf link with
  | none => exact h.wait trivial
  | some result =>
    cases result with
    | ok _ => exact h.finish nofun
    | error e =>
      obtain ⟨c, at_, ended⟩ := Option.bind_eq_some_iff.mp outcome
      refine h.withdraw own ?_
      exact h.heeds c (List.mem_of_getElem? at_) _ (Connection.outcome?_mem ended) e rfl

/-- Any call that goes on keeps the enrolment. -/
theorem goOn (h : Enrolled fine done p ((n, w) :: left)) (own : Own fine) :
    Enrolled fine done (p.goOn n w) left := by
  obtain ⟨rest, patient⟩ := h.pop
  cases w with
  | connecting link id => exact rest.goOnConnecting own link
  | withdrawing t e => exact rest.goOnWithdrawing t patient
  | takingDown t => exact patient.elim
  | one link => exact patient.elim
  | broadcasting link rest payload failed attempted => exact patient.elim

/-- When all that can have gone on, nobody is left, and the enrolment holds. -/
theorem goOnEach (h : Enrolled fine done p left) (own : Own fine) :
    Enrolled fine done (left.foldl (fun p (n, w) => p.goOn n w) p) [] := by
  induction left generalizing p with
  | nil => exact h
  | cons x left ih => exact ih (h.goOn own)

/-! ## Steps -/

/-- A connection takes a step of its own, and all calls that wait are about to go on. -/
theorem link (h : Enrolled fine done p []) (own : Own fine) {a : Connection.Action}
    {c c' : Connection} (outside : ∀ e ∈ a.brings?, fine e) (at_ : p.connections[k]? = some c)
    (stepped : c.step a = some c') :
    Enrolled fine done { p with connections := p.connections.set k c', waiting := [] }
      p.waiting := by
  refine { h with heeds := fun d mem => ?_, patient := ?_ }
  · rcases List.mem_or_eq_of_mem_set mem with old | rfl
    · exact h.heeds d old
    · exact (h.heeds c (List.mem_of_getElem? at_)).step own outside stepped
  · rw [List.append_nil]
    exact h.patient

/-- A station is registered, and its connection told to connect. -/
theorem registered (h : Enrolled fine done p []) {c : Connection} (heeds : Heeds fine c)
    (reg : Registers p.fresh s c (p.calling (.add s)) p') :
    Enrolled fine (done ++ [s]) p' [] := by
  have old {x : Happening} (mem : x ∈ p'.history) (other : ∀ m k, x ≠ .registered m k) :
      x = .called p.fresh (.add s) ∨ x ∈ p.history :=
    mem_history_calling.mp (reg.old mem (other _ _))
  have own : .registered p.fresh (p.calling (.add s)).connections.length ∈ p'.history := by
    rw [reg.history]
    exact List.mem_cons_self
  refine {
    up := reg.shutDown.trans h.up
    called := fun n request mem => ?called
    kept := fun n request mem => ?kept
    heeds := fun d mem => ?heeds
    patient := ?patient
    errors := fun n e mem => ?errors }
  case called =>
    rcases old mem nofun with new | old
    · cases new
      exact ⟨s, by simp, rfl⟩
    · obtain ⟨s', there, rfl⟩ := h.called n request old
      exact ⟨s', List.mem_append_left _ there, rfl⟩
  case kept =>
    rcases old mem nofun with new | old
    · cases new
      exact ⟨_, own⟩
    · obtain ⟨k, registered⟩ := h.kept n request old
      exact ⟨k, reg.stands.mem (mem_history_calling.mpr (.inr registered))⟩
  case heeds =>
    rw [reg.connections] at mem
    rcases List.mem_append.mp mem with old | new
    · exact h.heeds d old
    · exact List.mem_singleton.mp new ▸ heeds
  case patient =>
    rw [reg.waiting]
    exact h.patient
  case errors =>
    exact h.errors n e ((old mem nofun).resolve_left nofun)

end Enrolled

/-- A station with an id that is neither blank nor taken is registered. -/
theorem add_of_vacant (p : Pool) (n : Nat) (up : p.shutDown = false)
    (visible : Text.isBlankText s.stationId = false)
    (vacant : ∀ k, (s.stationId, k) ∉ p.registry.entries) :
    ∃ p', Registers n s (p.newcomer s).connect p p' ∧
      p.add n s = p'.goOnConnecting n (p.connections.length, (p.newcomer s).fresh) s.stationId := by
  have missing : p.registry.get? s.stationId = none := by
    cases there : p.registry.get? s.stationId with
    | none => rfl
    | some k => exact absurd (Registry.mem_of_get? there) (vacant k)
  obtain ⟨registry, added, listed⟩ := Registry.add_of_missing missing p.connections.length
  refine ⟨{ p with
    registry
    connections := p.connections ++ [(p.newcomer s).connect]
    history := .registered n p.connections.length :: p.history },
    ⟨rfl, rfl, rfl, rfl, listed, rfl, vacant⟩, ?_⟩
  simp [add, up, visible, added, onLink, note, newcomer]

namespace Enrolled

/-- A station is added that is not blank and has an id of its own. -/
theorem add (h : Enrolled fine done p []) (own : Own fine) (r : Roster p [])
    (visible : Text.isBlankText s.stationId = false)
    (apart : s.stationId ∉ done.map (·.stationId)) :
    Enrolled fine (done ++ [s]) (p.begin (.add s)) [] := by
  have vacant (k : Nat) : (s.stationId, k) ∉ (p.calling (.add s)).registry.entries := by
    intro mem
    obtain ⟨n, s', -, called, same⟩ := r.listed mem
    obtain ⟨s'', there, is⟩ := h.called n _ called
    cases is
    exact apart (same ▸ List.mem_map_of_mem there)
  obtain ⟨p', reg, added⟩ := (p.calling (.add s)).add_of_vacant p.fresh h.up visible vacant
  have heeds : Heeds fine ((p.calling (.add s)).newcomer s) := nofun
  have registered := h.registered (heeds.step (a := .connect) own nofun rfl) reg
  have begun : p.begin (.add s) = (p.calling (.add s)).add p.fresh s := rfl
  rw [begun, added]
  exact registered.goOnConnecting own _

/-- A step that is no call keeps the enrolment, if the error that it brings from outside is of the
kind. -/
theorem step (h : Enrolled fine done p []) (own : Own fine) {a : Action}
    (quiet : a.request? = none) (outside : ∀ e ∈ a.brings?, fine e)
    (stepped : p.step a = some p') : Enrolled fine done p' [] := by
  cases a with
  | call request => cases quiet
  | link k a =>
    obtain ⟨c, c', at_, -, there, rfl⟩ := linkStep_some stepped
    exact (h.link own outside at_ there).goOnEach own
  | advance nanos =>
    cases stepped
    refine { h with heeds := fun c mem => ?_ }
    obtain ⟨d, there, rfl⟩ := List.mem_map.mp mem
    exact h.heeds d there

end Enrolled

/-! ## Runs -/

/-- Along a run whose calls add stations, with ids that are all different and not blank, the pool
enrols them. -/
theorem enrolled_of_run {as : List Action} {stations : List StationSettings} (own : Own fine)
    (h : Enrolled fine done p []) (r : Roster p []) (adds : requested as = stations.map .add)
    (visible : ∀ s ∈ stations, Text.isBlankText s.stationId = false)
    (apart : ((done ++ stations).map (·.stationId)).Nodup)
    (outside : ∀ a ∈ as, ∀ e ∈ a.brings?, fine e) (run : p.after as = some p') :
    Enrolled fine (done ++ stations) p' [] := by
  induction as generalizing p done stations with
  | nil =>
    cases run
    cases stations with
    | nil => exact (List.append_nil done).symm ▸ h
    | cons s rest => cases adds
  | cons a as ih =>
    rw [after_cons] at run
    obtain ⟨next, stepped, rest⟩ := Option.bind_eq_some_iff.mp run
    obtain ⟨now, later⟩ := List.forall_mem_cons.mp outside
    cases asked : a.request? with
    | none =>
      rw [requested, List.filterMap_cons_none asked] at adds
      refine ih (h.step own asked now stepped) (r.step ?_ stepped) adds visible apart later rest
      cases a with
      | call request => cases asked
      | _ => trivial
    | some request =>
      rw [requested, List.filterMap_cons_some asked] at adds
      cases stations with
      | nil => cases adds
      | cons s stations =>
        obtain ⟨rfl, more⟩ := List.cons.inj adds
        cases a with
        | call request =>
          cases asked
          obtain ⟨first, others⟩ := List.forall_mem_cons.mp visible
          rw [List.append_cons] at apart ⊢
          have alone : s.stationId ∉ done.map (·.stationId) := by
            rw [List.map_append, List.map_append, List.nodup_append] at apart
            have apart := (List.nodup_append.mp apart.1).2.2
            exact fun mem => apart _ mem _ (List.mem_singleton_self _) rfl
          have added := h.add own r first alone
          have stepped' : p.begin (.add s) = next := Option.some.inj stepped
          exact ih (stepped' ▸ added) (r.step (a := .call (.add s)) trivial stepped) more
            others apart later rest
        | _ => cases asked

/-- Of a new pool that is asked to add stations whose ids are all different and not blank: every add
registers its station, and where one fails its connection has. No add is refused for its id, unless a
dial brings that error from outside. -/
theorem adds_are_taken {base : String} {defaults : ConnectionSettings} {as : List Action}
    {stations : List StationSettings} (adds : requested as = stations.map .add)
    (visible : ∀ s ∈ stations, Text.isBlankText s.stationId = false)
    (apart : (stations.map (·.stationId)).Nodup)
    (run : after { base, defaults } as = some p) {request : Request}
    (called : .called n request ∈ p.history) :
    (∃ k, .registered n k ∈ p.history) ∧
    ∀ e, .returned n (.error e) ∈ p.history →
      (∀ id, e ≠ .alreadyExists id) ∧
      ((∀ a ∈ as, a.brings? ≠ some unnamed) → e ≠ .connection unnamed) := by
  have new (fine : ConnectionError → Prop) : Enrolled fine [] { base, defaults } [] := {
    up := rfl
    called := fun _ _ mem => absurd mem List.not_mem_nil
    kept := fun _ _ mem => absurd mem List.not_mem_nil
    heeds := fun _ mem => absurd mem List.not_mem_nil
    patient := fun _ mem => absurd mem List.not_mem_nil
    errors := fun _ _ mem => absurd mem List.not_mem_nil }
  have started : after { base, defaults } [] = some { base, defaults } := rfl
  have roster : Roster { base, defaults } [] :=
    roster_of_run (fun _ none_ => absurd none_ List.not_mem_nil) started
  have any := enrolled_of_run (fun _ _ _ => .inr trivial) (new fun _ => True) roster adds visible
    apart (fun _ _ _ _ => trivial) run
  refine ⟨any.kept n request called, fun e failed => ⟨?_, fun outside => ?_⟩⟩
  · obtain ⟨e', rfl, -⟩ := any.errors n e failed
    exact nofun
  · have named := enrolled_of_run own_ne_unnamed (new _) roster adds visible apart
      (fun a mem e brings same => outside a mem (same ▸ brings)) run
    obtain ⟨e', rfl, fine⟩ := named.errors n e failed
    exact fun same => fine (PoolError.connection.inj same)

end StationPool.Pool
