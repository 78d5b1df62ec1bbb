import NetworkControl.ConnectionLifecycle

/-!
# How often the watchdog retries

`WatchdogWorker` with its clock: `Connection` with a steady clock that
moves on between the steps and during the watchdog's, and the thread's own
`nextRetryTime`, which a new thread starts at the clock's epoch.

The history variable is the watchdog's log: the losses it noticed and its
attempts to reconnect, with their times. `retries_spaced` says that an
attempt only ever follows a loss or a failed attempt, `ReconnectInterval`
or more after its end, whoever connects and disconnects meanwhile, and how
many attempts fit into a window.
-/

/-! ## Times kept apart -/

/-- How many times `d` apart a window holds. -/
theorem length_le_of_apart {d : Nat} (hd : 0 < d) :
    ∀ (times : List Nat) (start length : Nat),
      times.Pairwise (fun t t' => t + d ≤ t') →
      (∀ t ∈ times, start ≤ t ∧ t < start + length) →
      times.length ≤ length / d + 1
  | [], _, _, _, _ => Nat.zero_le _
  | t :: times, start, length, hapart, hwindow => by
      obtain ⟨hfirst, hapart⟩ := List.pairwise_cons.mp hapart
      have ht := hwindow t List.mem_cons_self
      have hlater : ∀ t' ∈ times, start + d ≤ t' ∧ t' < start + length := by
        intro t' ht'
        have hgap := hfirst t' ht'
        exact ⟨by omega, (hwindow t' (List.mem_cons_of_mem _ ht')).2⟩
      rcases Nat.lt_or_ge length d with hshort | hlong
      · rcases times with _ | ⟨t', times⟩
        · exact Nat.le_add_left _ _
        · have hnone := hlater t' List.mem_cons_self
          omega
      · have hrest := length_le_of_apart hd times (start + d) (length - d)
          hapart fun t' ht' => by
            have hboth := hlater t' ht'
            exact ⟨hboth.1, by omega⟩
        have hdiv : length / d = (length - d) / d + 1 := by
          rw [← Nat.add_div_right _ hd, Nat.sub_add_cancel hlong]
        rw [List.length_cons, hdiv]
        omega

namespace NetworkControl

/-! ## The watchdog and its clock -/

/-- `ReconnectInterval`, in nanoseconds. -/
def reconnectInterval : Nat := 2000 * 1000000

structure TimedConnection where
  connection : Connection := {}
  now : Nat := 0
  nextRetryTime : Nat := 0

/-- `elapsed` passes before the next step, or in the watchdog's. -/
inductive TimedConnectionAction where
  | wait (elapsed : Nat)
  | watchdog (elapsed : Nat) (fails : Option ConnectStep)
  | other (action : ConnectionAction)

/-- What the watchdog did, from when to when. -/
inductive WatchdogEvent where
  | lost (time : Nat)
  | attempted (start stop : Nat) (connected : Bool)
deriving DecidableEq, Repr

namespace WatchdogEvent

def start : WatchdogEvent → Nat
  | lost time => time
  | attempted start _ _ => start

def stop : WatchdogEvent → Nat
  | lost time => time
  | attempted _ stop _ => stop

def isAttempt : WatchdogEvent → Bool
  | lost _ => false
  | attempted _ _ _ => true

/-- What leaves the client reconnecting. -/
def isFailure : WatchdogEvent → Bool
  | lost _ => true
  | attempted _ _ connected => !connected

end WatchdogEvent

namespace TimedConnection

/-- An iteration of `WatchdogWorker`, after its sleep. -/
def watchdog (s : TimedConnection) (elapsed : Nat)
    (fails : Option ConnectStep) : TimedConnection :=
  let client := s.connection.client
  let retryTimeReached := decide (s.nextRetryTime ≤ s.now)
  let now := s.now + elapsed
  { connection := { s.connection with
      client := client.watchdogIteration retryTimeReached fails }
    now
    nextRetryTime :=
      if !client.isWatchdogRunning then s.nextRetryTime
      else
        match client.connectionState with
        | .connected =>
            match client.tcpMessageReceiver with
            | some receiver =>
                if receiver.hasFailedUnexpectedly then now + reconnectInterval
                else s.nextRetryTime
            | none => s.nextRetryTime
        | .reconnecting =>
            if retryTimeReached then
              if !(client.connectLocked fails).1 then now + reconnectInterval
              else s.nextRetryTime
            else s.nextRetryTime
        | .disconnected => s.nextRetryTime }

/-- What that iteration does, if anything. -/
def event (s : TimedConnection) (elapsed : Nat) (fails : Option ConnectStep) :
    Option WatchdogEvent :=
  let client := s.connection.client
  if !client.isWatchdogRunning then none
  else
    match client.connectionState with
    | .connected =>
        if client.tcpMessageReceiver.any (·.hasFailedUnexpectedly) then
          some (.lost (s.now + elapsed))
        else none
    | .reconnecting =>
        if s.nextRetryTime ≤ s.now then
          some (.attempted s.now (s.now + elapsed)
            (client.connectLocked fails).1)
        else none
    | .disconnected => none

/-- A thread that is started begins with `time_point{}`. -/
def step (s : TimedConnection) :
    TimedConnectionAction → Option TimedConnection
  | .wait elapsed => some { s with now := s.now + elapsed }
  | .watchdog elapsed fails => some (s.watchdog elapsed fails)
  | .other (.watchdog _ _) => none
  | .other action =>
      (s.connection.step action).map fun connection =>
        { s with
          connection
          nextRetryTime :=
            if !s.connection.client.isWatchdogRunning
                && connection.client.isWatchdogRunning then 0
            else s.nextRetryTime }

def log (s : TimedConnection) (a : TimedConnectionAction)
    (events : List WatchdogEvent) : List WatchdogEvent :=
  match a with
  | .watchdog elapsed fails => events ++ (s.event elapsed fails).toList
  | _ => events

def system : Lts (TimedConnection × List WatchdogEvent)
    TimedConnectionAction :=
  Lts.recording { init := fun s => s = {}, step := step } log []

/-- The watchdog's next attempt waits for `nextRetryTime`. -/
def Retrying (s : TimedConnection) : Prop :=
  s.connection.client.isWatchdogRunning = true
    ∧ s.connection.client.connectionState = .reconnecting

/-! ## What an iteration does -/

section

variable {s t : TimedConnection} {elapsed : Nat} {fails : Option ConnectStep}
  {events : List WatchdogEvent}

/-- The iterations of `WatchdogWorker` by what they do. -/
theorem watchdog_cases (s : TimedConnection) (elapsed : Nat)
    (fails : Option ConnectStep) :
    (s.event elapsed fails = none
      ∧ ((s.watchdog elapsed fails).Retrying → s.Retrying)
      ∧ (s.watchdog elapsed fails).nextRetryTime = s.nextRetryTime)
    ∨ (s.event elapsed fails = some (.lost (s.now + elapsed))
      ∧ (s.watchdog elapsed fails).nextRetryTime
        = s.now + elapsed + reconnectInterval)
    ∨ ∃ connected, s.event elapsed fails
        = some (.attempted s.now (s.now + elapsed) connected)
      ∧ s.Retrying ∧ s.nextRetryTime ≤ s.now
      ∧ (connected = true → ¬ (s.watchdog elapsed fails).Retrying)
      ∧ (connected = false → (s.watchdog elapsed fails).nextRetryTime
        = s.now + elapsed + reconnectInterval) := by
  cases hrunning : s.connection.client.isWatchdogRunning with
  | false =>
      left
      simp [event, watchdog, Retrying, GameClient.watchdogIteration, hrunning]
  | true =>
      cases hstate : s.connection.client.connectionState with
      | disconnected =>
          left
          simp [event, watchdog, Retrying, GameClient.watchdogIteration,
            hrunning, hstate]
      | connected =>
          cases hreceiver : s.connection.client.tcpMessageReceiver with
          | none =>
              left
              simp [event, watchdog, Retrying, GameClient.watchdogIteration,
                hrunning, hstate, hreceiver]
          | some receiver =>
              cases hfailed : receiver.hasFailedUnexpectedly with
              | false =>
                  left
                  simp [event, watchdog, Retrying,
                    GameClient.watchdogIteration, hrunning, hstate, hreceiver,
                    hfailed]
              | true =>
                  right
                  left
                  simp [event, watchdog, hrunning, hstate, hreceiver, hfailed]
      | reconnecting =>
          by_cases htime : s.nextRetryTime ≤ s.now
          · right
            right
            refine ⟨(s.connection.client.connectLocked fails).1, ?_,
              ⟨hrunning, hstate⟩, htime, ?_, ?_⟩
            · simp [event, hrunning, hstate, htime]
            · intro hconnected hretrying
              have hnone : fails = none := by
                cases fails with
                | none => rfl
                | some step => cases step <;> cases hconnected
              have hstate' := hretrying.2
              simp [watchdog, GameClient.watchdogIteration, hrunning, hstate,
                htime, hnone, GameClient.connectLocked_connectionState]
                at hstate'
            · intro hfailed
              simp [watchdog, hrunning, hstate, htime, hfailed]
          · left
            simp [event, watchdog, Retrying, GameClient.watchdogIteration,
              hrunning, hstate, htime]

/-! ## The invariant -/

/-- `events` is what the watchdog has done by now, and while it retries
`nextRetryTime` is late enough. -/
structure Spaced (s : TimedConnection) (events : List WatchdogEvent) :
    Prop where
  past : ∀ e ∈ events, e.start ≤ e.stop ∧ e.stop ≤ s.now
  due : s.Retrying → (∃ e ∈ events.getLast?, e.isFailure = true)
    ∧ ∀ e ∈ events, e.stop + reconnectInterval ≤ s.nextRetryTime
  follows : ∀ before e after, events = before ++ e :: after →
    e.isAttempt = true → ∃ e' ∈ before.getLast?, e'.isFailure = true
  apart : events.Pairwise fun e e' =>
    e'.isAttempt = true → e.stop + reconnectInterval ≤ e'.start

/-- One more event, at its place in the log. -/
theorem follows_concat {events before after : List WatchdogEvent}
    {e e' : WatchdogEvent} (h : events ++ [e'] = before ++ e :: after) :
    before = events ∧ e = e' ∨ ∃ after', events = before ++ e :: after' := by
  rcases List.eq_nil_or_concat' after with rfl | ⟨after', last, rfl⟩
  · obtain ⟨hbefore, he⟩ := List.append_inj' h rfl
    exact Or.inl ⟨hbefore.symm, (List.singleton_inj.mp he).symm⟩
  · rw [← List.cons_append, ← List.append_assoc] at h
    exact Or.inr ⟨after', (List.append_inj' h rfl).1⟩

theorem Spaced.concat {e : WatchdogEvent} (hs : s.Spaced events)
    (hnow : s.now ≤ t.now) (hpast : e.start ≤ e.stop ∧ e.stop ≤ t.now)
    (hdue : t.Retrying → e.isFailure = true
      ∧ t.now + reconnectInterval ≤ t.nextRetryTime)
    (hattempt : e.isAttempt = true →
      s.Retrying ∧ s.nextRetryTime ≤ e.start) :
    t.Spaced (events ++ [e]) := by
  refine ⟨?_, ?_, ?_, ?_⟩
  · intro e' he'
    rcases List.mem_append.mp he' with hold | hnew
    · exact (hs.past e' hold).imp_right fun hstop => hstop.trans hnow
    · obtain rfl := List.mem_singleton.mp hnew
      exact hpast
  · intro hretrying
    obtain ⟨hfailure, htime⟩ := hdue hretrying
    refine ⟨⟨e, by simp, hfailure⟩, fun e' he' => ?_⟩
    rcases List.mem_append.mp he' with hold | hnew
    · have hstop := (hs.past e' hold).2
      omega
    · obtain rfl := List.mem_singleton.mp hnew
      have hstop := hpast.2
      omega
  · intro before e' after hsplit hisAttempt
    rcases follows_concat hsplit with ⟨rfl, rfl⟩ | ⟨after', hold⟩
    · exact (hs.due (hattempt hisAttempt).1).1
    · exact hs.follows before e' after' hold hisAttempt
  · refine List.pairwise_append.mpr ⟨hs.apart, List.pairwise_singleton .., ?_⟩
    intro e' he' e'' he'' hisAttempt
    obtain rfl := List.mem_singleton.mp he''
    obtain ⟨hretrying, hstart⟩ := hattempt hisAttempt
    exact ((hs.due hretrying).2 e' he').trans hstart

theorem spaced_watchdog (hs : s.Spaced events) :
    (s.watchdog elapsed fails).Spaced
      (events ++ (s.event elapsed fails).toList) := by
  have hnow : s.now ≤ (s.watchdog elapsed fails).now := Nat.le_add_right _ _
  rcases watchdog_cases s elapsed fails with ⟨hevent, hretrying, htime⟩
    | ⟨hevent, htime⟩ | ⟨connected, hevent, hretrying, hreached, hup, hdown⟩
  · rw [hevent, Option.toList_none, List.append_nil]
    refine ⟨fun e he => (hs.past e he).imp_right fun hstop => hstop.trans hnow,
      fun hagain => ?_, hs.follows, hs.apart⟩
    rw [htime]
    exact hs.due (hretrying hagain)
  · rw [hevent]
    exact hs.concat hnow ⟨Nat.le_refl _, Nat.le_refl _⟩
      (fun _ => ⟨rfl, htime.ge⟩)
      fun hisAttempt => by cases hisAttempt
  · rw [hevent]
    refine hs.concat hnow ⟨Nat.le_add_right _ _, Nat.le_refl _⟩
      (fun hagain => ?_)
      fun _ => ⟨hretrying, hreached⟩
    cases connected with
    | true => exact absurd hagain (hup rfl)
    | false => exact ⟨rfl, (hdown rfl).ge⟩

/-- `Connect` connects, or leaves the state and the watchdog as they are. -/
theorem connect_retrying (c : GameClient) (config : ClientConfig)
    (fails : Option ConnectStep) :
    (c.connect config fails).2.connectionState = .connected
      ∨ ((c.connect config fails).2.connectionState = c.connectionState
        ∧ (c.connect config fails).2.isWatchdogRunning
          = c.isWatchdogRunning) := by
  cases fails with
  | none =>
      left
      rfl
  | some step =>
      right
      rw [GameClient.connect]
      by_cases hstate : c.connectionState = .disconnected
      · simp only [hstate, ne_eq, not_true_eq_false, if_false]
        cases step <;> exact ⟨hstate, rfl⟩
      · simp only [ne_eq, hstate, not_false_eq_true, if_true]
        cases step <;> exact ⟨rfl, rfl⟩

/-- The other threads do not make it retry. -/
theorem other_retrying {c c' : Connection} {a : ConnectionAction}
    (ha : ∀ retryTimeReached fails, a ≠ .watchdog retryTimeReached fails)
    (h : c.step a = some c') (hrunning : c'.client.isWatchdogRunning = true)
    (hstate : c'.client.connectionState = .reconnecting) :
    c.client.isWatchdogRunning = true
      ∧ c.client.connectionState = .reconnecting := by
  cases a with
  | connect config fails =>
      obtain rfl := Option.some.inj h
      rcases connect_retrying c.client config fails with hup | ⟨hsame, hkept⟩
      · have hstate : (c.client.connect config fails).2.connectionState
            = .reconnecting := hstate
        rw [hup] at hstate
        cases hstate
      · exact ⟨hkept.symm.trans hrunning, hsame.symm.trans hstate⟩
  | disconnect =>
      obtain rfl := Option.some.inj h
      cases hrunning
  | disconnectLocked =>
      rw [Connection.step] at h
      split at h
      · cases h
      · obtain rfl := Option.some.inj h
        cases hstate
  | watchdog retryTimeReached fails => exact absurd rfl (ha _ _)
  | receiverFails =>
      obtain rfl := Option.some.inj h
      exact ⟨hrunning, hstate⟩
  | command command sendOk now =>
      obtain rfl := Option.some.inj h
      obtain ⟨udpReceiver, hrun⟩ := command.run_receiver c.client sendOk now
      dsimp only at hrunning hstate
      rw [hrun] at hrunning hstate
      exact ⟨hrunning, hstate⟩

theorem spaced_other {c' : Connection} {a : ConnectionAction}
    (hs : s.Spaced events)
    (ha : ∀ retryTimeReached fails, a ≠ .watchdog retryTimeReached fails)
    (h : s.connection.step a = some c') :
    Spaced { s with
      connection := c'
      nextRetryTime :=
        if !s.connection.client.isWatchdogRunning
            && c'.client.isWatchdogRunning then 0
        else s.nextRetryTime } events := by
  refine ⟨hs.past, ?_, hs.follows, hs.apart⟩
  rintro ⟨hrunning, hstate⟩
  obtain ⟨hrunning', hstate'⟩ := other_retrying ha h hrunning hstate
  simp only [hrunning', Bool.not_true, Bool.false_and, Bool.false_eq_true,
    if_false]
  exact hs.due ⟨hrunning', hstate'⟩

theorem spaced_step {a : TimedConnectionAction} (hs : s.Spaced events)
    (h : s.step a = some t) : t.Spaced (s.log a events) := by
  cases a with
  | wait elapsed =>
      obtain rfl := Option.some.inj h
      refine ⟨fun e he => (hs.past e he).imp_right fun hstop => ?_, hs.due,
        hs.follows, hs.apart⟩
      exact hstop.trans (Nat.le_add_right _ _)
  | watchdog elapsed fails =>
      obtain rfl := Option.some.inj h
      exact spaced_watchdog hs
  | other action =>
      by_cases ha : ∃ retryTimeReached fails,
          action = .watchdog retryTimeReached fails
      · obtain ⟨retryTimeReached, fails, rfl⟩ := ha
        cases h
      · have hother : ∀ retryTimeReached fails,
            action ≠ .watchdog retryTimeReached fails :=
          fun r f heq => ha ⟨r, f, heq⟩
        have hstep : s.step (.other action)
            = (s.connection.step action).map fun connection =>
              { s with
                connection
                nextRetryTime :=
                  if !s.connection.client.isWatchdogRunning
                      && connection.client.isWatchdogRunning then 0
                  else s.nextRetryTime } := by
          cases action with
          | watchdog retryTimeReached fails => exact absurd rfl (hother _ _)
          | _ => rfl
        rw [hstep] at h
        obtain ⟨c', hc', rfl⟩ := Option.map_eq_some_iff.mp h
        exact spaced_other hs hother hc'

theorem spaced_reachable (h : system.Reachable (s, events)) :
    s.Spaced events := by
  refine Lts.ReachableUnder.invariant (I := fun x => x.1.Spaced x.2) h ?_ ?_
  · rintro ⟨s, events⟩ ⟨hinit, hevents⟩
    cases hinit
    cases hevents
    refine ⟨fun e he => (by cases he), fun hretrying => ?_,
      fun before e after hsplit => ?_, List.Pairwise.nil⟩
    · cases hretrying.1
    · cases before <;> cases hsplit
  · intro x a y hx _ hstep
    obtain ⟨hstep, hevents⟩ := Lts.recording_step hstep
    rw [hevents]
    exact spaced_step hx hstep

/-- In every run, whoever else connects and disconnects: each attempt of
the watchdog directly follows a loss or a failed attempt in its log, and
comes `ReconnectInterval` or more after the end of everything before it;
so a window of `length` nanoseconds holds at most one attempt for each
whole `ReconnectInterval` in it, and one more. -/
theorem retries_spaced (h : system.Reachable (s, events)) :
    (∀ before e after, events = before ++ e :: after → e.isAttempt = true →
      (∃ e' ∈ before.getLast?, e'.isFailure = true)
        ∧ ∀ e' ∈ before, e'.stop + reconnectInterval ≤ e.start)
    ∧ ∀ start length : Nat,
      (events.filter fun e => e.isAttempt && decide (start ≤ e.start)
        && decide (e.start < start + length)).length
        ≤ length / reconnectInterval + 1 := by
  have hs := spaced_reachable h
  refine ⟨fun before e after hsplit hattempt => ⟨?_, ?_⟩,
    fun start length => ?_⟩
  · exact hs.follows before e after hsplit hattempt
  · intro e' he'
    have hapart := hs.apart
    rw [hsplit, List.pairwise_append] at hapart
    exact hapart.2.2 e' he' e List.mem_cons_self hattempt
  · have hstarts : ((events.filter fun e => e.isAttempt
        && decide (start ≤ e.start)
        && decide (e.start < start + length)).map (·.start)).Pairwise
        fun t t' => t + reconnectInterval ≤ t' := by
      refine List.pairwise_map.mpr ((hs.apart.filter _).imp_of_mem ?_)
      intro e e' he he' happart
      have hfirst := (hs.past e (List.mem_of_mem_filter he)).1
      have hkept := List.of_mem_filter he'
      simp only [Bool.and_eq_true] at hkept
      have hgap := happart hkept.1.1
      omega
    have hcount := length_le_of_apart (by decide) _ start length hstarts
      fun t ht => by
        obtain ⟨e, he, rfl⟩ := List.mem_map.mp ht
        have hkept := List.of_mem_filter he
        simp only [Bool.and_eq_true, decide_eq_true_eq] at hkept
        exact ⟨hkept.1.2, hkept.2⟩
    rwa [List.length_map] at hcount

end

/-- The server goes away; an iteration comes too early, the next one's
attempt fails and the one after it connects. -/
theorem retries_spaced_second :
    ∃ events : List WatchdogEvent,
      events = [.lost 1, .attempted 2000000003 2000000008 false,
        .attempted 4000000008 4000000008 true]
      ∧ (events.filter fun e => e.isAttempt && decide (0 ≤ e.start)
        && decide (e.start < 0 + 4000000000)).length
        ≤ 4000000000 / reconnectInterval + 1 := by
  obtain ⟨⟨s, events⟩, hs, hp⟩ := Lts.exists_reachable system
    (s := ({}, [])) ⟨rfl, rfl⟩
    [.other (.connect {} none), .wait 1, .other .receiverFails,
      .watchdog 0 none, .wait 1999999999, .watchdog 3 none,
      .watchdog 5 (some .tcpConnect), .wait 2000000000, .watchdog 0 none]
    (fun x => x.2 == [.lost 1, .attempted 2000000003 2000000008 false,
      .attempted 4000000008 4000000008 true])
    (by decide +kernel)
  exact ⟨events, beq_iff_eq.mp hp, (retries_spaced hs).2 0 4000000000⟩

end TimedConnection

end NetworkControl
