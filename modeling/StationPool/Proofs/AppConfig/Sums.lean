import StationPool.AppConfig.Basic
import StationPool.Proofs.Connection.Attempts
import StationPool.Proofs.Connection.Sums
import StationPool.Proofs.Pool.Provenance

/-!
# The sums of a configuration

Which of the sums that the sessions of a pool need exist, by its configuration and its clock.
Validation does not look at the settings that they are made of. The time of a write leaves room for
the slack, since it is in whole seconds; the keepalive period and its timeout may be too long
together, and the period alone may reach past the end of the clock. In either case a session of the
pool has no keeper (`sums_of_configuration`).
-/

namespace StationPool.AppConfig

open Connection (redialsSince requests outcomes signals)

variable {c : AppConfig} {horizon : Horizon}

/-- The keepalive period in nanoseconds. -/
def period (c : AppConfig) : Nat := (Duration.ofSecs c.defaults.keepaliveIntervalSecs).nanos

/-- The limit of silence in seconds. -/
def silenceSecs (c : AppConfig) : Nat :=
  c.defaults.keepaliveIntervalSecs.toNat + c.defaults.keepaliveTimeoutSecs.toNat

/-- The limit of silence is a duration exactly where its seconds fit a word of 64 bits: neither of
its two parts has a fraction that could carry. -/
theorem limited_iff : c.connectionDefaults.Limited ↔ c.silenceSecs < UInt64.size := by
  show c.defaults.keepaliveIntervalSecs.toNat * 1000000000 +
      c.defaults.keepaliveTimeoutSecs.toNat * 1000000000 < 18446744073709551616000000000 ↔
    c.defaults.keepaliveIntervalSecs.toNat + c.defaults.keepaliveTimeoutSecs.toNat <
      18446744073709551616
  omega

/-- The longest time of a write is a second short of the limit. -/
theorem graced : c.connectionDefaults.grace < Duration.limit := by
  have short := c.defaults.writeTimeoutSecs.toNat_lt
  show c.defaults.writeTimeoutSecs.toNat * 1000000000 + 250 * 1000000 <
    18446744073709551616000000000
  omega

/-! ## Connections -/

/-- What has come of the sums and the count of a connection. -/
structure Reckoned (c : AppConfig) (horizon : Horizon) (settings : ConnectionSettings)
    (link : Connection) : Prop where
  /-- A session whose tasks are not told to stop began once. It has lost its keeper exactly where
  the limit of silence is no duration, or keepalive is on and the clock cannot name the first tick;
  and no tick is further away than the period. -/
  keepers : ∀ i s, link.sessions[i]? = some s → link.isCut s = false → ∃ start,
    (∀ m, (m, .began i) ∈ signals link.history ↔ m = start) ∧
    (s.keeper = .stopped ↔ UInt64.size ≤ c.silenceSecs ∨
      0 < c.period ∧ horizon.reaches (start + c.period) = false) ∧
    ∀ due, s.keeper = .ticking due → due ≤ link.now + c.period
  /-- A disconnect has returned, or waits no longer than for a write and the slack. -/
  disconnects : ∀ call, (call, .disconnect) ∈ requests link.history →
    link.Returns ((Duration.ofSecs c.defaults.writeTimeoutSecs).nanos +
      Connection.teardownSlack.nanos) call
  /-- When that time is over it can return. -/
  overdue : ∀ t, link.teardown = some t → t.deadline ≤ link.now →
    ∃ link', link.step .lookTeardown = some link' ∧ (t.call, .ok ()) ∈ outcomes link'.history
  /-- Whichever run has led to it. -/
  attempts : ∀ as, (Connection.new settings horizon).after as = some link →
    link.attempts.toNat = redialsSince 0 (.new settings horizon) as
  bounded : link.attempts.toNat ≤ c.defaults.maxReconnectAttempts.toNat

/-- Every connection of a station is reckoned with, whatever the station sets for itself: none of
the durations is among it. -/
theorem reckoned {base : String} {s : StationSettings} {link : Connection}
    (reachable : Connection.Reachable (s.withDefaults base c.connectionDefaults) link)
    (clock : link.horizon = horizon) :
    Reckoned c horizon (s.withDefaults base c.connectionDefaults) link := by
  refine {
    keepers := fun i session at_ uncut => ?keepers
    disconnects := fun call asked => ?disconnects
    overdue := fun t waiting late => Connection.returns_of_overdue waiting late
    attempts := fun as run => Connection.toNat_attempts_of_run run
    bounded := ?bounded }
  case keepers =>
    obtain ⟨start, began, keeping⟩ := reachable.keeping_of_uncut at_ uncut
    rw [clock] at keeping
    refine ⟨start, began, ?_, fun due ticking => ?_⟩
    · have same : (s.withDefaults base c.connectionDefaults).Limited ↔
          c.silenceSecs < UInt64.size := limited_iff
      rw [keeping.stopped_iff, same, Nat.not_lt]
      exact Iff.rfl
    · rw [ticking] at keeping
      exact keeping.due_le
  case disconnects =>
    have prompt := reachable.prompt graced call asked
    rwa [reachable.settings_eq] at prompt
  case bounded =>
    have bounded := UInt32.le_iff_toNat_le.mp reachable.tallied.bounded
    rwa [reachable.settings_eq] at bounded

/-! ## Configurations -/

/-- Whatever a configuration has for the keepalive period and its timeout, the time of a write and
the attempts, validation answers the same. The sum of the first two exists exactly where they are
less than 2^64 seconds together; the time of a write and the slack always have one. However a pool
with these defaults is run, and however far its clock can count, each of its connections has come
where it is by a run of its own, and:

* a session has lost its keeper exactly where the first sum does not exist, or where the clock
  cannot name the moment one period after the session's start;
* every disconnect returns, when the tasks of its session have stopped or their time is over;
* the attempts are the redials since the last session began, however many are allowed. -/
theorem sums_of_configuration (c : AppConfig) :
    (∀ (interval timeout write : UInt64) (attempts : UInt32),
      { c with defaults := { c.defaults with
        keepaliveIntervalSecs := interval
        keepaliveTimeoutSecs := timeout
        writeTimeoutSecs := write
        maxReconnectAttempts := attempts } : AppConfig }.validate = c.validate) ∧
    ((c.connectionDefaults.keepaliveInterval.add? c.connectionDefaults.keepaliveTimeout).isSome ↔
      c.silenceSecs < UInt64.size) ∧
    (c.connectionDefaults.writeTimeout.add? Connection.teardownSlack).isSome ∧
    ∀ (base : String) (horizon : Horizon) (as : List Pool.Action) (p : Pool),
      Pool.after { base, defaults := c.connectionDefaults, horizon } as = some p →
      ∀ link ∈ p.connections, ∃ s : StationSettings,
        (∃ bs, (Connection.new (s.withDefaults base c.connectionDefaults) horizon).after bs =
          some link) ∧
        Reckoned c horizon (s.withDefaults base c.connectionDefaults) link := by
  refine ⟨fun _ _ _ _ => rfl, ?_, ?_, fun base horizon as p run link mem => ?_⟩
  · rw [← limited_iff, Option.isSome_iff_ne_none, Ne, Duration.add?_eq_none_iff, Nat.not_le]
    exact Iff.rfl
  · rw [Duration.add?_eq_some graced]
    rfl
  · have same : p.horizon = horizon := congrArg (·.2.2) (Pool.lot_of_run run)
    obtain ⟨clock, s, reachable⟩ := (Pool.Reachable.new.after run).connections mem
    have clock := clock.trans same
    exact ⟨s, clock ▸ reachable.run, reckoned reachable clock⟩

/-- A pool with the defaults of a configuration. -/
def pool (c : AppConfig) (horizon : Horizon) : Pool :=
  { base := "ws://host", defaults := c.connectionDefaults, horizon }

/-- The longest time of a write, and the longest limit of silence that exists. -/
def longest : AppConfig :=
  { defaults :=
      { writeTimeoutSecs := 18446744073709551615
        keepaliveIntervalSecs := 1
        keepaliveTimeoutSecs := 18446744073709551614 } }

/-- Two stations are connected, and the second is removed. -/
def parting : List Pool.Action :=
  [.call (.add { stationId := "A" }), .link 0 (.dial 0 (.ok ())),
    .call (.add { stationId := "B" }), .link 1 (.dial 0 (.ok ())), .call (.remove "B")]

/-- A run with the longest settings that leave room for both sums: the session of the first station
has its keeper, also on a machine that has run for a second and counts seconds in a signed word, and
the disconnect of the second station waits with a deadline. -/
theorem sums_of_configuration_of_longest : longest.validate = .ok () ∧ ∃ p,
    (longest.pool (.ofUptime 1000000000)).after parting = some p ∧
    (∃ link ∈ p.connections, ∃ s, link.sessions[0]? = some s ∧ link.isCut s = false ∧
      s.keeper ≠ .stopped) ∧
    ∃ link ∈ p.connections, ∃ t, link.teardown = some t ∧ t.call = 1 ∧
      t.deadline ≤ link.now + 18446744073709551615250000000 := by
  have outcome : ((longest.pool (.ofUptime 1000000000)).after parting).map (fun p => decide (
        (∃ link ∈ p.connections, link.sessions[0]?.map link.isCut = some false ∧
          signals link.history = [(0, .began 0)]) ∧
        ∃ link ∈ p.connections, outcomes link.history = [(0, .ok ())] ∧
          (1, .disconnect) ∈ requests link.history)) = some true := by
    decide +kernel
  obtain ⟨p, run, outcome⟩ := Option.map_eq_some_iff.mp outcome
  obtain ⟨⟨first, mem, going, told⟩, second, mem', waits, asked⟩ := of_decide_eq_true outcome
  obtain ⟨session, at_, uncut⟩ := Option.map_eq_some_iff.mp going
  obtain ⟨-, -, -, sums⟩ := sums_of_configuration longest
  refine ⟨by decide +kernel, p, run, ⟨first, mem, session, at_, uncut, ?_⟩, second, mem', ?_⟩
  · obtain ⟨_, -, reckoned⟩ := sums "ws://host" _ parting p run first mem
    obtain ⟨start, began, lost, -⟩ := reckoned.keepers 0 session at_ uncut
    obtain rfl : 0 = start := (began 0).mp (told ▸ List.mem_singleton_self _)
    exact mt lost.mp (by decide)
  · obtain ⟨_, -, reckoned⟩ := sums "ws://host" _ parting p run second mem'
    exact (reckoned.disconnects 1 asked).resolve_left (by rw [waits]; decide)

/-! ## Sums that do not exist -/

/-- A station is connected in a pool with the defaults of a configuration, and its session goes on
without a keeper. -/
def LacksKeeper (c : AppConfig) (horizon : Horizon) : Prop :=
  ∃ p, (c.pool horizon).after [.call (.add { stationId := "A" }), .link 0 (.dial 0 (.ok ()))] =
      some p ∧
    ∃ link ∈ p.connections, link.state = .connected ∧
      ∃ s ∈ link.sessions, link.isCut s = false ∧ s.keeper = .stopped

/-- The run is evaluated, and so is what it leads to. -/
theorem lacksKeeper_of_run
    (outcome : ((c.pool horizon).after [.call (.add { stationId := "A" }),
      .link 0 (.dial 0 (.ok ()))]).map (fun p => decide (
        ∃ link ∈ p.connections, link.state = .connected ∧
          ∃ s ∈ link.sessions, link.isCut s = false ∧ s.keeper = .stopped)) = some true) :
    LacksKeeper c horizon := by
  obtain ⟨p, run, outcome⟩ := Option.map_eq_some_iff.mp outcome
  exact ⟨p, run, of_decide_eq_true outcome⟩

/-- A limit of silence that does not exist. -/
def overlong : AppConfig :=
  { defaults := { keepaliveIntervalSecs := 1, keepaliveTimeoutSecs := 18446744073709551615 } }

/-- A limit of silence that exists, and a first tick that a clock cannot name that counts seconds in
a signed word of 64 bits and has counted one. -/
def faraway : AppConfig :=
  { defaults := { keepaliveIntervalSecs := 9223372036854775807, keepaliveTimeoutSecs := 0 } }

/-- Two configurations are accepted, and a session of a pool with them goes on without a keeper: for
the want of a limit of silence, and for the want of a first tick. -/
theorem accepted_configuration_lacks_keeper :
    (overlong.validate = .ok () ∧
      overlong.connectionDefaults.keepaliveInterval.add?
        overlong.connectionDefaults.keepaliveTimeout = none ∧
      LacksKeeper overlong .endless) ∧
    faraway.validate = .ok () ∧
      (faraway.connectionDefaults.keepaliveInterval.add?
        faraway.connectionDefaults.keepaliveTimeout).isSome ∧
      LacksKeeper faraway (.ofUptime 1000000000) :=
  ⟨⟨by decide +kernel, by decide +kernel, lacksKeeper_of_run (by decide +kernel)⟩,
    by decide +kernel, by decide +kernel, lacksKeeper_of_run (by decide +kernel)⟩

end StationPool.AppConfig
