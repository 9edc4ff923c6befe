import Mathlib.Data.List.Perm.Basic
import StationPool.Sleep

/-!
# When a sleep ends

A sleep ends at the first look after its time has come or the cancellation has fired, and tells
which of the two it was. Nothing else ends it, and in whatever order sleeps are started, the clock
moves on and the cancellation fires, every sleep goes on or has ended, and that once
(`sleeps_end_for_a_reason`).
-/

namespace StationPool.Sleep

variable {now due : Nat} {cancelled : Bool}

/-- A sleep goes on while it is early and nobody has cancelled it. -/
theorem outcome?_eq_none_iff :
    outcome? now due cancelled = none ↔ cancelled = false ∧ now < due := by
  unfold outcome?
  cases cancelled <;> simp

/-- Only a sleep that was not cancelled has slept to its end, at the moment it was due or later. -/
theorem outcome?_eq_true_iff :
    outcome? now due cancelled = some true ↔ cancelled = false ∧ due ≤ now := by
  unfold outcome?
  cases cancelled <;> simp

/-- The cancellation cuts a sleep short, also one that is due. -/
theorem outcome?_eq_false_iff : outcome? now due cancelled = some false ↔ cancelled = true := by
  unfold outcome?
  cases cancelled <;> simp

namespace Run

variable {r : Run} {number due : Nat} {slept : Bool}

/-! ## A look -/

/-- After a look the sleeps go on that are early and not cancelled. -/
theorem mem_asleep_settle : (number, due) ∈ r.settle.asleep ↔
    (number, due) ∈ r.asleep ∧ r.cancelled = false ∧ r.now < due := by
  simp only [settle, ending?, List.mem_filter, Option.isNone_map, Option.isNone_iff_eq_none,
    outcome?_eq_none_iff]

/-- After a look the sleeps have ended that had before, and those that had a reason. -/
theorem mem_ended_settle : (number, slept) ∈ r.settle.ended ↔ (number, slept) ∈ r.ended ∨
    ∃ due, (number, due) ∈ r.asleep ∧ outcome? r.now due r.cancelled = some slept := by
  simp only [settle, ending?, List.mem_append, List.mem_filterMap, Option.map_eq_some_iff,
    Prod.exists, Prod.mk.injEq]
  refine or_congr_right ⟨?_, ?_⟩
  · rintro ⟨n, due, mem, slept', ends, rfl, rfl⟩
    exact ⟨due, mem, ends⟩
  · rintro ⟨due, mem, ends⟩
    exact ⟨number, due, mem, slept, ends, rfl, rfl⟩

/-! ## Runs -/

/-- What may happen to sleeps. -/
inductive Action where
  | start (nanos : Nat)
  | advance (nanos : Nat)
  | cancel
  /-- All sleeps look. -/
  | settle

/-- The sleeps after an action. -/
def act (r : Run) : Action → Run
  | .start nanos => r.start nanos
  | .advance nanos => r.advance nanos
  | .cancel => r.cancel
  | .settle => r.settle

/-- The sleeps after some actions. -/
def after (r : Run) (as : List Action) : Run := as.foldl act r

/-- The numbers of the sleeps that go on and of those that have ended. -/
def numbers (r : Run) : List Nat := r.asleep.map (·.1) ++ r.ended.map (·.1)

/-- Of some sleeps, those that go on and those that end now are all. -/
theorem perm_of_endings (r : Run) (sleeps : List (Nat × Nat)) :
    ((sleeps.filter fun s => (r.ending? s).isNone).map (·.1) ++
      (sleeps.filterMap r.ending?).map (·.1)).Perm (sleeps.map (·.1)) := by
  induction sleeps with
  | nil => exact .nil
  | cons s sleeps ih =>
    cases ends : outcome? r.now s.2 r.cancelled with
    | none => simpa [ending?, ends] using ih
    | some slept => simpa [ending?, ends] using List.perm_middle.trans (ih.cons s.1)

/-- A look moves sleeps from those that go on to those that have ended. -/
theorem numbers_settle (r : Run) : r.settle.numbers.Perm r.numbers := by
  have regrouped : r.settle.numbers.Perm
      ((r.asleep.filter fun s => (r.ending? s).isNone).map (·.1) ++
        (r.asleep.filterMap r.ending?).map (·.1) ++ r.ended.map (·.1)) := by
    simp only [numbers, settle, List.map_append, List.append_assoc]
    exact List.Perm.append_left _ List.perm_append_comm
  exact regrouped.trans ((r.perm_of_endings r.asleep).append_right _)

/-- Every number given out is the number of one sleep, which goes on or has ended. -/
def Numbered (r : Run) : Prop := r.numbers.Perm (List.range r.fresh)

/-- Every action keeps the sleeps numbered: a sleep that is started has the next number, and a look
moves sleeps without losing one. -/
theorem Numbered.act (all : r.Numbered) (a : Action) : (r.act a).Numbered := by
  cases a with
  | start nanos =>
    have more : (r.start nanos).numbers.Perm (r.fresh :: r.numbers) := by
      simp [start, numbers, List.perm_middle]
    show (r.start nanos).numbers.Perm (List.range (r.fresh + 1))
    rw [List.range_succ]
    exact more.trans ((all.cons _).trans (List.perm_append_singleton _ _).symm)
  | settle => exact r.numbers_settle.trans all
  | advance nanos => exact all
  | cancel => exact all

/-- Every run keeps the sleeps numbered. -/
theorem Numbered.after (all : r.Numbered) (as : List Action) : (r.after as).Numbered := by
  induction as generalizing r with
  | nil => exact all
  | cons a as ih => exact ih (all.act a)

/-- In whatever order sleeps are started, the clock moves on, the cancellation fires and sleeps
look: every sleep goes on or has ended, and that once. The next look of one that goes on ends it as
cut short if the cancellation has fired, else as slept to the end if its time has come, and else
not at all. -/
theorem sleeps_end_for_a_reason (as : List Action) :
    let r := ({} : Run).after as
    r.Numbered ∧ ∀ number due, (number, due) ∈ r.asleep →
      (r.cancelled = true → (number, false) ∈ r.settle.ended) ∧
      (r.cancelled = false → due ≤ r.now → (number, true) ∈ r.settle.ended) ∧
      (r.cancelled = false → r.now < due → (number, due) ∈ r.settle.asleep) := by
  have none_yet : Numbered {} := .nil
  refine ⟨none_yet.after as, fun number due mem => ⟨fun fired => ?_, fun quiet late => ?_,
    fun quiet early => ?_⟩⟩
  · exact mem_ended_settle.mpr (.inr ⟨due, mem, outcome?_eq_false_iff.mpr fired⟩)
  · exact mem_ended_settle.mpr (.inr ⟨due, mem, outcome?_eq_true_iff.mpr ⟨quiet, late⟩⟩)
  · exact mem_asleep_settle.mpr ⟨mem, quiet, early⟩

end Run

end StationPool.Sleep
