import StationPool.Event.Basic
import StationPool.Event.Run
import StationPool.Frame
import StationPool.Proofs.Text.Parts

/-!
# Payloads on their way out and in

A payload that a caller sends goes out as text or as binary, and a payload that comes in is shown as
text in an event. The first way asks whether the bytes are well-formed, the second replaces what is
not: both mean the same by it, and neither loses a byte that is.
-/

namespace StationPool

open Text.Utf8

/-- Well-formed text goes out as a text message. -/
theorem Frame.message_of_wellFormed {p : Bytes} (good : WellFormed p) :
    (Frame.data p).message = .text p := if_pos (wellFormed_iff.mpr good)

/-- All other bytes go out as a binary message. -/
theorem Frame.message_of_not_wellFormed {p : Bytes} (bad : ¬ WellFormed p) :
    (Frame.data p).message = .binary p := if_neg (mt wellFormed_iff.mp bad)

/-- Every payload, sent or received: it goes out as text with its bytes if it is well-formed, and
else as binary with its bytes. The event of one that came in tells the number of its bytes and, cut
into parts in the one way there is, its text with U+FFFD in the place of each maximal ill-formed
part; the bytes of that text are the payload just if it is well-formed. -/
theorem payloads_go_both_ways (p : Bytes) :
    (WellFormed p → (Frame.data p).message = .text p) ∧
    (¬ WellFormed p → (Frame.data p).message = .binary p) ∧
    ∀ (r : Bus.Run EventMessage) (id station : String) (sent moment : Timestamp),
      r.bus.closed = false →
      ∃ payload r', r.step (.publish ⟨id, sent, (Observation.message p).event station moment⟩) =
          some r' ∧
        r'.bus.log =
          ⟨id, sent, station, .messageReceived payload p.length, moment⟩ :: r.bus.log ∧
        (encode payload = p ↔ WellFormed p) ∧
        ∃ ps, Cut p ps ∧ (∀ ps', Cut p ps' → ps' = ps) ∧
          payload = String.ofList (ps.map Part.shown) := by
  refine ⟨Frame.message_of_wellFormed, Frame.message_of_not_wellFormed,
    fun r id station sent moment going => ?_⟩
  let m : EventMessage := ⟨id, sent, (Observation.message p).event station moment⟩
  have published : r.step (.publish m) = some ⟨r.bus.publish m, .published m :: r.history⟩ := by
    rw [Bus.Run.step, if_neg (by rw [going]; exact Bool.false_ne_true)]
  have logged : (r.bus.publish m).log = m :: r.bus.log := by
    rw [Bus.publish, if_neg (by rw [going]; exact Bool.false_ne_true)]
  exact ⟨lossy p, _, published, logged, encode_lossy_iff, parts p, cut_parts p,
    fun _ cut => cut.unique (cut_parts p), rfl⟩

/-- A euro sign without its last byte, behind a letter and in front of a surrogate. -/
def brokenEuro : Bytes := [0x61, 0xE2, 0x82, 0xED, 0xA0, 0x80]

/-- A bus on which nothing was published. -/
def quietBus : Bus.Run EventMessage := ⟨{ kept := 1 }, []⟩

/-- The first moment of a year. -/
def newYear : Timestamp := ⟨⟨2024, 1, 1⟩, 0, 0, 0, 0, by decide⟩

/-- A euro sign goes out as text. The broken one goes out as binary, and is shown as one U+FFFD; the
three bytes of the surrogate are shown as one each. -/
theorem payloads_go_both_ways_of_broken_euro :
    (WellFormed [0xE2, 0x82, 0xAC] ∧
      (Frame.data [0xE2, 0x82, 0xAC]).message = .text [0xE2, 0x82, 0xAC]) ∧
    (¬ WellFormed brokenEuro ∧ (Frame.data brokenEuro).message = .binary brokenEuro) ∧
    ∃ payload r', quietBus.step (.publish
        ⟨"1", newYear, (Observation.message brokenEuro).event "A" newYear⟩) = some r' ∧
      r'.bus.log = [⟨"1", newYear, "A", .messageReceived payload 6, newYear⟩] ∧
      payload = "a\uFFFD\uFFFD\uFFFD\uFFFD" := by
  have good : WellFormed [0xE2, 0x82, 0xAC] := wellFormed_iff.mp (by decide)
  have bad : ¬ WellFormed brokenEuro := mt wellFormed_iff.mpr (by decide)
  obtain ⟨payload, r', published, logged, -, ps, cut, -, shown⟩ :=
    (payloads_go_both_ways brokenEuro).2.2 quietBus "1" "A" newYear newYear rfl
  refine ⟨⟨good, (payloads_go_both_ways _).1 good⟩, ⟨bad, (payloads_go_both_ways _).2.1 bad⟩,
    payload, r', published, logged, ?_⟩
  rw [shown, cut.unique (cut_parts _)]
  rfl

end StationPool
