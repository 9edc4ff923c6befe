import Mathlib.Logic.Relation
import StationPool.Proofs.Connection.Soundness

/-!
# The beats of a connection

What a move does to the sessions and to the history is a sequence of beats: a session is installed,
a session ends, a message arrives or is passed on, or something is written down that is about none
of these. A `Scene` is all that a beat changes, and `Move.beats` reads the beats off a move. What
the observer may rely on is then proved of five kinds of beats and not of every move.
-/

namespace StationPool

/-- The face of a session: whether it is over, and what still waits in its inbox for the
application. -/
structure Face where
  ended : Bool
  unread : List Bytes
  deriving DecidableEq

/-- What an observer can see of a session. -/
def Session.face (s : Session) : Face := ⟨s.ended, s.unread⟩

namespace Connection

/-- The faces of the sessions, and the history. -/
structure Scene where
  faces : List Face
  history : List Entry
  deriving DecidableEq

/-- What an observer can see of a connection, and all that it was told. -/
def scene (c : Connection) : Scene := ⟨c.sessions.map Session.face, c.history⟩

/-- An entry that tells nothing of a session but perhaps its error. -/
def Happening.Aside : Happening → Prop
  | .observed _ .connected | .observed _ (.disconnected _) | .observed _ (.message _)
  | .arrived .. => False
  | _ => True

/-- What changes at once in the sessions and the history. -/
inductive Beat : Scene → Scene → Prop where
  | aside {faces : List Face} {history : List Entry} (e : Entry) (aside : e.what.Aside) :
      Beat ⟨faces, history⟩ ⟨faces, e :: history⟩
  /-- A session is installed after all others have ended. -/
  | installs {faces : List Face} {history : List Entry} (moment : Nat)
      (dead : ∀ face ∈ faces, face.ended = true) :
      Beat ⟨faces, history⟩
        ⟨faces ++ [⟨false, []⟩],
          ⟨moment, .observed (some faces.length) .connected⟩ :: history⟩
  /-- A session ends; if by an error, the observer was told of the error right before. -/
  | ends {faces : List Face} {history : List Entry} {i : Nat} {unread : List Bytes}
      (moment : Nat) (error : Option ConnectionError) (at_ : faces[i]? = some ⟨false, unread⟩)
      (cause : ∀ e, error = some e →
        ∃ rest, history = ⟨moment, .observed (some i) (.failed e)⟩ :: rest) :
      Beat ⟨faces, history⟩
        ⟨faces.set i ⟨true, unread⟩,
          ⟨moment, .observed (some i) (.disconnected error)⟩ :: history⟩
  | arrives {faces : List Face} {history : List Entry} {i : Nat} {face : Face}
      (moment : Nat) (item : Inbound) (at_ : faces[i]? = some face) :
      Beat ⟨faces, history⟩
        ⟨faces.set i { face with unread := face.unread ++ item.payload?.toList },
          ⟨moment, .arrived i item⟩ :: history⟩
  /-- The first of the messages that wait is passed on while its session goes on. -/
  | delivers {faces : List Face} {history : List Entry} {i : Nat} {payload : Bytes}
      {unread : List Bytes} (moment : Nat)
      (at_ : faces[i]? = some ⟨false, payload :: unread⟩) :
      Beat ⟨faces, history⟩
        ⟨faces.set i ⟨false, unread⟩,
          ⟨moment, .observed (some i) (.message payload)⟩ :: history⟩

/-- One beat after another. -/
def Beats : Scene → Scene → Prop := Relation.ReflTransGen Beat

namespace Beats

variable {x y z : Scene}

/-- No beat is a sequence of beats. -/
theorem refl (x : Scene) : Beats x x := Relation.ReflTransGen.refl

/-- Two sequences of beats make one. -/
theorem trans (first : Beats x y) (second : Beats y z) : Beats x z :=
  Relation.ReflTransGen.trans first second

/-- One beat more makes a sequence of beats. -/
theorem tail (first : Beats x y) (last : Beat y z) : Beats x z :=
  Relation.ReflTransGen.tail first last

/-- The history only grows. -/
theorem grown (beats : Beats x y) : ∃ new, y.history = new ++ x.history := by
  induction beats with
  | refl => exact ⟨[], rfl⟩
  | tail _ beat ih =>
    obtain ⟨new, grown⟩ := ih
    cases beat with
    | aside e _ => exact ⟨e :: new, congrArg (e :: ·) grown⟩
    | _ => exact ⟨_ :: new, congrArg (_ :: ·) grown⟩

/-- An aside more. -/
theorem note {faces : List Face} {history : List Entry} (beats : Beats x ⟨faces, history⟩)
    {e : Entry} (aside : e.what.Aside) : Beats x ⟨faces, e :: history⟩ :=
  beats.tail (.aside e aside)

end Beats

variable {c : Connection} {i : Nat}

/-! ## Faces -/

/-- To put back what is there changes nothing. -/
theorem set_of_getElem? {α : Type} {l : List α} {a : α} (at_ : l[i]? = some a) : l.set i a = l := by
  obtain ⟨bound, rfl⟩ := List.getElem?_eq_some_iff.mp at_
  exact List.set_getElem_self bound

/-- The face of a session stands where the session does. -/
theorem face_at {s : Session} (at_ : c.sessions[i]? = some s) :
    c.scene.faces[i]? = some s.face := by
  rw [scene, List.getElem?_map, at_]
  rfl

/-- A change of one session is a change of one face. -/
theorem faces_modifySession {s : Session} (at_ : c.sessions[i]? = some s)
    (f : Session → Session) :
    (c.modifySession i f).scene.faces = c.scene.faces.set i (f s).face := by
  show (c.sessions.modify i f).map Session.face = _
  apply List.ext_getElem?
  intro j
  rw [List.getElem?_map, List.getElem?_modify, List.getElem?_set, scene,
    List.getElem?_map, List.length_map]
  by_cases own : i = j
  · subst own
    obtain ⟨bound, _⟩ := List.getElem?_eq_some_iff.mp at_
    simp only [at_, bound, if_true, Option.map_eq_map, Option.map_some]
  · simp only [own, if_false, Option.map_eq_map, Option.map_id']

/-- A change that leaves the face alone. -/
theorem faces_modifySession_of_near {f : Session → Session}
    (near : ∀ s, c.sessions[i]? = some s → s.Near (f s)) :
    (c.modifySession i f).scene.faces = c.scene.faces := by
  cases at_ : c.sessions[i]? with
  | none =>
    have same : c.sessions.modify i f = c.sessions :=
      List.modify_eq_self (List.getElem?_eq_none_iff.mp at_)
    rw [modifySession, same]
  | some s =>
    have same : (f s).face = s.face := by
      rw [Session.face, (near s at_).ended, (near s at_).unread]
      rfl
    rw [faces_modifySession at_, same]
    exact set_of_getElem? (face_at at_)

/-- A change that no observer can see leaves the scene. -/
theorem scene_modifySession {f : Session → Session}
    (near : ∀ s, c.sessions[i]? = some s → s.Near (f s)) :
    (c.modifySession i f).scene = c.scene :=
  congrArg (Scene.mk · c.history) (faces_modifySession_of_near near)

/-- The session that was vacated is over. -/
theorem vacate_at {s : Session} (at_ : c.sessions[i]? = some s) :
    (c.vacate i).sessions[i]? = some s.finish := by
  have finished : (c.vacate i).sessions[i]? = (c.sessions.modify i Session.finish)[i]? := rfl
  rw [finished, List.getElem?_modify_eq, at_]
  rfl

/-- What arrives at a session waits in its inbox, if it is for the application. -/
theorem face_arrived {s : Session} (item : Inbound) :
    Session.face { s with inbox := s.inbox ++ [item] } =
      { s.face with unread := s.face.unread ++ item.payload?.toList } := by
  have unread : ({ s with inbox := s.inbox ++ [item] } : Session).unread =
      s.unread ++ item.payload?.toList := by
    rw [Session.unread, Session.unread, List.filterMap_append, List.filterMap_cons]
    cases item.payload? <;> rfl
  rw [Session.face, unread]
  rfl

/-! ## The pieces of a move -/

/-- What follows the end of a session is told of no session. -/
theorem beats_scheduleReconnect : Beats c.scene c.scheduleReconnect.scene := by
  unfold scheduleReconnect
  split
  · exact (Beats.refl c.scene).note (e := ⟨c.now, .observed none (.failed _)⟩) trivial
  · dsimp only
    split <;> exact Beats.refl _

/-- What follows the end of a session is a state that nobody is told of, or a redial that is
scheduled. -/
theorem beats_settleEnd : Beats c.scene c.settleEnd.scene := by
  unfold settleEnd
  split
  · exact Beats.refl _
  · exact beats_scheduleReconnect

/-- To take a session out of the slot ends its face without a word. -/
theorem scene_vacate {s : Session} (at_ : c.sessions[i]? = some s) :
    (c.vacate i).scene = ⟨c.scene.faces.set i ⟨true, s.unread⟩, c.history⟩ :=
  congrArg (Scene.mk · c.history) (faces_modifySession at_ Session.finish)

/-- The installed session ends without an error. -/
theorem beats_vacate (live : c.Live i) :
    Beats c.scene ((c.vacate i).tell (some i) (.disconnected none)).scene := by
  obtain ⟨s, at_, going⟩ := live
  have face : c.scene.faces[i]? = some ⟨false, s.unread⟩ := by
    rw [face_at at_, Session.face, going]
  have beat : Beat ⟨c.scene.faces, c.history⟩ _ := .ends c.now none face nofun
  have same : ((c.vacate i).tell (some i) (.disconnected none)).scene =
      ⟨(c.vacate i).scene.faces, ⟨c.now, .observed (some i) (.disconnected none)⟩ :: c.history⟩ :=
    rfl
  rw [same, scene_vacate at_]
  exact (Beats.refl _).tail beat

/-- A session that is taken out to make room is ended in one beat. What it told before stays. -/
theorem beats_retireCurrent (h : Sound c) : Beats c.scene c.retireCurrent.scene := by
  cases installed : c.slot with
  | none =>
    rw [retireCurrent_of_empty installed]
    exact Beats.refl _
  | some i =>
    have live := h.slot_live i installed
    rw [retireCurrent_of_slot installed live]
    exact beats_vacate live

/-- To make room for a dial ends the session in the slot at most. -/
theorem beats_giveWay (h : Sound c) : Beats c.scene c.giveWay.scene := by
  rw [giveWay_eq]
  exact beats_retireCurrent h

/-- A session ends by one of its tasks. -/
theorem beats_afterEnd (live : c.Live i) (e : Option ConnectionError) :
    Beats c.scene ((c.vacate i).afterEnd i e).scene := by
  cases e with
  | none =>
    rw [afterEnd_none]
    exact (beats_vacate live).trans
      (beats_settleEnd (c := ((c.vacate i).enter .disconnected).tell (some i) (.disconnected none)))
  | some e =>
    obtain ⟨s, at_, going⟩ := live
    rw [afterEnd_some]
    refine Beats.trans ?_ beats_settleEnd
    have face : c.scene.faces[i]? = some ⟨false, s.unread⟩ := by
      rw [face_at at_, Session.face, going]
    have failed : Beats c.scene
        ⟨c.scene.faces, ⟨c.now, .observed (some i) (.failed e)⟩ :: c.history⟩ :=
      (Beats.refl c.scene).note trivial
    have ended := failed.tail (.ends c.now (some e) face fun _ same => by cases same; exact ⟨_, rfl⟩)
    have same : ((((c.vacate i).enter .disconnected).fail (some i) e).tell (some i)
        (.disconnected (some e))).scene = ⟨(c.vacate i).scene.faces,
          ⟨c.now, .observed (some i) (.disconnected (some e))⟩ ::
          ⟨c.now, .observed (some i) (.failed e)⟩ :: c.history⟩ := rfl
    rw [same, scene_vacate at_]
    exact ended

/-- A session that finds the slot empty is installed in one beat, all others having ended. -/
theorem beats_install_of_empty (h : Sound c) (up : c.cancelled = false) (empty : c.slot = none) :
    Beats c.scene c.install.scene := by
  have dead : ∀ face ∈ c.scene.faces, face.ended = true := by
    intro face shown
    obtain ⟨s, mem, rfl⟩ := List.mem_map.mp shown
    obtain ⟨i, at_⟩ := List.mem_iff_getElem?.mp mem
    cases ended : s.ended with
    | true => exact ended
    | false =>
      have installed := h.installed up i ⟨s, at_, ended⟩
      rw [empty] at installed
      cases installed
  have beat : Beat ⟨c.scene.faces, c.history⟩ _ := .installs c.now dead
  have length : c.scene.faces.length = c.sessions.length := List.length_map _
  have grown : (c.sessions ++ [c.newSession]).map Session.face =
      c.scene.faces ++ [⟨false, []⟩] := List.map_append
  rw [length, ← grown] at beat
  rw [install_of_empty empty (h.unclosed up)]
  exact (Beats.refl _).tail beat

/-- A session that is installed over another comes after the end of that one. -/
theorem beats_install (h : Sound c) (up : c.cancelled = false) :
    Beats c.scene c.install.scene := by
  have up' : c.retireCurrent.cancelled = false := beside_retireCurrent.cancelled.trans up
  rw [h.install_eq up]
  exact (beats_retireCurrent h).trans (beats_install_of_empty h.retireCurrent up' retireCurrent_slot)

/-- A quiet step shows another face of no session. -/
theorem Quiet.beats {c' : Connection} (q : Quiet c c') : Beats c.scene c'.scene := by
  have faces : c'.scene.faces = c.scene.faces := by
    apply List.ext_getElem?
    intro j
    rw [scene, scene, List.getElem?_map, List.getElem?_map]
    cases at' : c'.sessions[j]? with
    | none =>
      have bound := List.getElem?_eq_none_iff.mp at'
      rw [q.length] at bound
      rw [List.getElem?_eq_none_iff.mpr bound]
    | some s' =>
      obtain ⟨s, at_, near, _⟩ := q.sessions j s' at'
      rw [at_, Option.map_some, Option.map_some, Session.face, near.ended, near.unread]
      rfl
  obtain ⟨new, grown, minor⟩ := q.history
  have same : c'.scene = ⟨c.scene.faces, new ++ c.history⟩ := by
    rw [← faces, ← grown]
    rfl
  rw [same]
  clear same grown
  induction new with
  | nil => exact Beats.refl _
  | cons e new ih =>
    refine (ih fun e mem => minor e (List.mem_cons_of_mem _ mem)).note ?_
    have minor := minor e List.mem_cons_self
    cases what : e.what with
    | observed session what' => rw [what] at minor; exact minor.elim
    | arrived session item => rw [what] at minor; exact minor.elim
    | _ => trivial

/-! ## Every move -/

/-- A session that is retired while the connection goes down ends without an error. -/
theorem beats_retire (h : Sound c) (gone : c.cancelled = true) :
    Beats c.scene (c.retire i).scene := by
  by_cases live : c.Live i
  · have same : c.vacate i = c.closeBooks i := by
      unfold Connection.vacate
      rw [← h.empty gone]
      rfl
    rw [retire_of_live live, ← same]
    exact beats_vacate live
  · rw [retire_of_over live]
    exact Beats.refl _

/-- A disconnect that is finished ends the session it took out and closes the connection. -/
theorem beats_finishTeardown (h : Sound c) (gone : c.cancelled = true) (t : Teardown) :
    Beats c.scene (c.finishTeardown t).scene := by
  have cleared : Sound { c with teardown := none } := { h with teardown := nofun }
  have retired := beats_retire (i := t.session) cleared gone
  exact retired.note trivial

/-- What a move does to the sessions and to the history is a sequence of beats. -/
theorem Move.beats (h : Sound c) {a : Action} {c' : Connection} (m : Move c a c') :
    Beats c.scene c'.scene := by
  have begun (request : Request) : Beats c.scene (c.begin request).scene :=
    (Beats.refl c.scene).note (e := ⟨c.now, .called ..⟩) trivial
  have opened (request : Request) := (begun request).trans (beats_giveWay (h.begin request))
  cases m with
  | refused gone => exact (begun _).note trivial
  | unfit e up bad =>
    exact ((opened _).note (e := ⟨_, .observed none (.failed e)⟩) trivial).note trivial
  | loads up => exact opened _
  | dials deadline up fit => exact (opened _).note trivial
  | redialLoads mem redial up => exact beats_giveWay (h.dropDialer _)
  | redialDials deadline mem redial up => exact (beats_giveWay (h.dropDialer _)).note trivial
  | loaded deadline mem up fit => exact (Beats.refl c.scene).note trivial
  | @dialClosed d a own mem gone =>
    unfold Connection.dialClosed
    split
    · exact (Beats.refl c.scene).note trivial
    · exact Beats.refl c.scene
  | callerFails e own mem caller up =>
    have failed := (Beats.refl c.scene).note (e := ⟨c.now, .observed none (.failed e)⟩) trivial
    exact failed.note trivial
  | @redialFails d a e own mem redial up =>
    have failed : Beats c.scene ((c.dropDialer d.number).fail none e).scene :=
      (Beats.refl c.scene).note trivial
    exact failed.trans beats_scheduleReconnect
  | callerInstalls mem caller up fit =>
    exact (beats_install (h.dropDialer _) up).note trivial
  | redialInstalls mem redial up fit => exact beats_install (h.dropDialer _) up
  | @arrives i item there =>
    have at_ := List.getElem?_eq_getElem there
    have faces := faces_modifySession at_ fun s => { s with inbox := s.inbox ++ [item] }
    have same : ((c.modifySession i fun s => { s with inbox := s.inbox ++ [item] }).note
        (.arrived i item)).scene = ⟨(c.modifySession i fun s =>
          { s with inbox := s.inbox ++ [item] }).scene.faces, ⟨c.now, .arrived i item⟩ :: c.history⟩ := rfl
    rw [same, faces, face_arrived]
    exact (Beats.refl c.scene).tail (.arrives c.now item (face_at at_))
  | @delivers i s payload rest at_ going up head =>
    have face := face_at at_
    rw [Session.face, going, Session.unread, head] at face
    have popped := faces_modifySession at_ ({ · with inbox := rest })
    have renewed : ((c.modifySession i ({ · with inbox := rest })).renewRead i).scene.faces =
        (c.modifySession i ({ · with inbox := rest })).scene.faces :=
      faces_modifySession_of_near fun _ _ => ⟨rfl, rfl⟩
    have same : (((c.modifySession i ({ · with inbox := rest })).renewRead i).receive i
        payload).scene = ⟨((c.modifySession i ({ · with inbox := rest })).renewRead i).scene.faces,
          ⟨c.now, .observed (some i) (.message payload)⟩ :: c.history⟩ := rfl
    have beat : Beat ⟨c.scene.faces, c.history⟩ _ := .delivers c.now face
    rw [same, renewed, popped, Session.face, going]
    exact (Beats.refl c.scene).tail beat
  | @ends i a g e own live tame =>
    have ended := beats_afterEnd live e
    rw [h.endSession_eq live, scene_modifySession]
    · exact ended
    · intro s' at'
      obtain ⟨s, at_, _⟩ := live
      rw [(afterEnd_frame e).1, vacate_at at_] at at'
      cases at'
      exact (tame s at_).1
  | sends quiet => exact (begun _).trans quiet.beats
  | quiet look quiet => exact quiet.beats
  | disconnectsAgain gone => exact (begun _).note trivial
  | disconnectsIdle up idle => exact (begun _).note trivial
  | disconnects teardown up installed own => exact begun _
  | @tornDown t g waiting close =>
    rw [scene_modifySession fun s _ => (close s).toNear]
    exact beats_finishTeardown h (h.teardown _ waiting).1 t

end Connection

end StationPool
