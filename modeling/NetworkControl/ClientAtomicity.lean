import NetworkControl.ClientOrder
import NetworkControl.ConnectionLifecycle

/-!
# Connect, Disconnect and the watchdog look atomic

`Connection` takes a whole critical section in one step; `ClientThreads`
takes it statement by statement, with the other threads in between.
`threads_refine` says that this makes no difference to whoever looks while
the mutex is free: every such state is one of `Connection`.

What both models say of the client is its `ClientSkeleton`. `completed`
runs a list of statements on it without interruption, up to the step that
fails. The atomic step is taken where the outcome is decided: at the
failing step of `ConnectLocked` or behind the last one that can fail, for
a teardown at its beginning, and for the clearing of the watchdog's flag
where the watchdog is joined.
-/

namespace NetworkControl

/-! ## What both models say -/

/-- `isWatchdogRunning` is here whether there is a watchdog to join. -/
structure ClientSkeleton where
  connectionState : ConnectionState
  lastConfig : ClientConfig
  isWatchdogRunning : Bool
  tcpSocketOpen : Bool
  udpSocketOpen : Bool
  udpIsRunning : Bool
  tcpMessageReceiver : Option ReceiverThread
deriving DecidableEq, Repr

def GameClient.skeleton (c : GameClient) : ClientSkeleton where
  connectionState := c.connectionState
  lastConfig := c.lastConfig
  isWatchdogRunning := c.isWatchdogRunning
  tcpSocketOpen := c.tcpSocketOpen
  udpSocketOpen := c.udpReceiver.socketOpen
  udpIsRunning := c.udpReceiver.isRunning
  tcpMessageReceiver := c.tcpMessageReceiver

def ReceiverMember.thread (r : ReceiverMember) : ReceiverThread where
  isRunning := r.isRunning
  hasFailedUnexpectedly := r.hasFailedUnexpectedly
  inLoop := r.worker.isAlive

def ClientThreads.skeleton (s : ClientThreads) : ClientSkeleton where
  connectionState := s.connectionState
  lastConfig := s.lastConfig
  isWatchdogRunning := s.watchdog ≠ .absent
  tcpSocketOpen := s.tcpSocketOpen
  udpSocketOpen := s.udpSocketOpen
  udpIsRunning := s.udpIsRunning
  tcpMessageReceiver := s.tcpMessageReceiver.map ReceiverMember.thread

/-! ## Statements without interruption -/

namespace ClientSkeleton

open LockedStatement

def attempted (k : ClientSkeleton) (fails : Bool) :
    ConnectStep → ClientSkeleton
  | .udpStart => { k with udpSocketOpen := !fails }
  | .tcpCreate => { k with tcpSocketOpen := !fails }
  | _ => k

def modifyReceiver (k : ClientSkeleton) (f : ReceiverThread → ReceiverThread) :
    ClientSkeleton :=
  { k with tcpMessageReceiver := k.tcpMessageReceiver.map f }

def after (k : ClientSkeleton) : LockedStatement → ClientSkeleton
  | stopReceiver => k.modifyReceiver fun r => { r with isRunning := false }
  | closeTcpSocket => { k with tcpSocketOpen := false }
  | joinReceiver => k.modifyReceiver fun r => { r with inLoop := false }
  | destroyReceiver => { k with tcpMessageReceiver := none }
  | stopUdp => { k with udpIsRunning := false }
  | joinUdp => k
  | closeUdpSocket => { k with udpSocketOpen := false }
  | attempt _ => k
  | startUdp => { k with udpIsRunning := true }
  | makeReceiver =>
      { k with
        tcpMessageReceiver := some { isRunning := false, inLoop := false } }
  | startReceiver =>
      k.modifyReceiver fun r => { r with isRunning := true, inLoop := true }
  | setState state => { k with connectionState := state }
  | saveConfig config => { k with lastConfig := config }
  | startWatchdog => { k with isWatchdogRunning := true }

/-- `fails` is the step that fails, if it is still to come. -/
def completed : ClientSkeleton → List LockedStatement → Option ConnectStep →
    ClientSkeleton
  | k, [], _ => k
  | k, attempt step :: rest, fails =>
      if fails = some step then k.attempted true step
      else completed (k.attempted false step) rest fails
  | k, statement :: rest, fails => completed (k.after statement) rest fails

end ClientSkeleton

namespace ClientThreads

open LockedStatement ClientSkeleton

section

variable {s t : ClientThreads} {fails : Bool} {statement : LockedStatement}
  {rest work : List LockedStatement}

/-- The steps that may still fail. -/
def attempts (work : List LockedStatement) : List ConnectStep :=
  work.filterMap fun
    | attempt step => some step
    | _ => none

theorem attempted_skeleton (step : ConnectStep) :
    (s.attempted fails step).skeleton = s.skeleton.attempted fails step := by
  cases step <;> rfl

/-- A statement that cannot fail. -/
theorem perform_skeleton {p q : Phase} (hp : p.Holds s)
    (hafter : p.after statement = some q)
    (hwatching : s.isWatchdogRunning = true → s.watchdog ≠ .absent)
    (hperform : s.perform fails rest statement = some (t, work)) :
    t.skeleton = s.skeleton.after statement := by
  obtain ⟨-, hreceiver, -, -⟩ := hp
  cases statement with
  | stopReceiver =>
      obtain ⟨rfl, -⟩ := Prod.mk.inj (Option.some.inj hperform)
      cases hr : s.tcpMessageReceiver <;>
        simp [skeleton, ClientSkeleton.after, ClientSkeleton.modifyReceiver,
          modifyReceiver, hr, ReceiverMember.thread]
  | joinReceiver =>
      rw [perform] at hperform
      split at hperform
      · cases hperform
      · obtain ⟨rfl, -⟩ := Prod.mk.inj (Option.some.inj hperform)
        cases hr : s.tcpMessageReceiver <;>
          simp [skeleton, ClientSkeleton.after, ClientSkeleton.modifyReceiver,
            modifyReceiver, hr, ReceiverMember.thread, TcpWorkerPc.isAlive]
  | joinUdp =>
      rw [perform] at hperform
      split at hperform
      · cases hperform
      · obtain ⟨rfl, -⟩ := Prod.mk.inj (Option.some.inj hperform)
        rfl
  | attempt step => cases hafter
  | makeReceiver =>
      rw [Phase.after] at hafter
      split at hafter
      · rename_i hnone
        rw [hnone] at hreceiver
        rw [perform, show s.tcpMessageReceiver = none from hreceiver]
          at hperform
        obtain ⟨rfl, -⟩ := Prod.mk.inj (Option.some.inj hperform)
        rfl
      · cases hafter
  | startReceiver =>
      obtain ⟨rfl, -⟩ := Prod.mk.inj (Option.some.inj hperform)
      cases hr : s.tcpMessageReceiver <;>
        simp [skeleton, ClientSkeleton.after, ClientSkeleton.modifyReceiver,
          modifyReceiver, hr, ReceiverMember.thread, TcpWorkerPc.isAlive]
  | startWatchdog =>
      rw [perform] at hperform
      split at hperform
      · rename_i hrunning
        obtain ⟨rfl, -⟩ := Prod.mk.inj (Option.some.inj hperform)
        simp [skeleton, ClientSkeleton.after, hwatching hrunning]
      · obtain ⟨rfl, -⟩ := Prod.mk.inj (Option.some.inj hperform)
        simp [skeleton, ClientSkeleton.after]
  | _ =>
      obtain ⟨rfl, -⟩ := Prod.mk.inj (Option.some.inj hperform)
      rfl

end

end ClientThreads

/-! ## The atomic steps -/

/-- `Connect` behind its teardown. -/
def GameClient.connectSaving (c : GameClient) (config : ClientConfig)
    (fails : Option ConnectStep) : GameClient :=
  if (c.connectLocked fails).1 then
    { (c.connectLocked fails).2 with
      lastConfig := config
      isWatchdogRunning := true }
  else (c.connectLocked fails).2

section

open ClientThreads ClientSkeleton

variable {c : GameClient}

theorem connectLocked_skeleton (hnone : c.tcpMessageReceiver = none)
    (fails : Option ConnectStep) :
    (c.connectLocked fails).2.skeleton
      = c.skeleton.completed connectLocked fails := by
  obtain ⟨_, ⟨_, _, _, _, _⟩, _, receiver, _, _, _⟩ := c
  obtain rfl : receiver = none := hnone
  cases fails with
  | none => rfl
  | some step => cases step <;> rfl

/-- A teardown and what follows it: the receiver it stops is gone. -/
theorem teardown_skeleton {s : ClientThreads} (h : s.skeleton = c.skeleton)
    (work : List LockedStatement) (fails : Option ConnectStep) :
    c.skeleton.completed (s.teardownConnectionLocked ++ work) fails
      = c.teardownConnectionLocked.skeleton.completed work fails := by
  have hsome : s.tcpMessageReceiver.isSome = c.tcpMessageReceiver.isSome := by
    have := congrArg (·.tcpMessageReceiver.isSome) h
    simpa [ClientThreads.skeleton, GameClient.skeleton] using this
  obtain ⟨_, ⟨_, _, _, _, _⟩, _, receiver, _, _, _⟩ := c
  cases receiver with
  | none =>
      rw [teardownConnectionLocked, hsome]
      rfl
  | some r =>
      rw [teardownConnectionLocked, hsome]
      rfl

theorem connect_eq (config : ClientConfig) (fails : Option ConnectStep) :
    (c.connect config fails).2
      = (if c.connectionState ≠ .disconnected then c.teardownConnectionLocked
        else c).connectSaving config fails := by
  rw [GameClient.connect, GameClient.connectSaving]
  dsimp only
  generalize GameClient.connectLocked _ fails = r
  obtain ⟨connected, b⟩ := r
  cases connected <;> rfl

theorem connectSaving_skeleton (hnone : c.tcpMessageReceiver = none)
    (config : ClientConfig) (fails : Option ConnectStep) :
    c.skeleton.completed (connectLocked ++ [.saveConfig config,
        .startWatchdog]) fails
      = (c.connectSaving config fails).skeleton := by
  obtain ⟨_, ⟨_, _, _, _, _⟩, _, receiver, _, _, _⟩ := c
  obtain rfl : receiver = none := hnone
  cases fails with
  | none => rfl
  | some step => cases step <;> rfl

theorem connect_skeleton {s : ClientThreads} (h : s.skeleton = c.skeleton)
    (hnone : c.connectionState = .disconnected → c.tcpMessageReceiver = none)
    (config : ClientConfig) (fails : Option ConnectStep) :
    c.skeleton.completed (s.connect config) fails
      = (c.connect config fails).2.skeleton := by
  have hstate : s.connectionState = c.connectionState :=
    congrArg (·.connectionState) h
  rw [connect_eq, ClientThreads.connect, hstate]
  split
  · rw [List.append_assoc, teardown_skeleton h]
    exact connectSaving_skeleton rfl config fails
  · rename_i hidle
    exact connectSaving_skeleton (hnone (by simpa using hidle)) config fails

theorem disconnect_skeleton {s : ClientThreads} (h : s.skeleton = c.skeleton)
    (fails : Option ConnectStep) :
    c.skeleton.completed s.disconnect fails
      = c.disconnectLocked.skeleton := by
  rw [ClientThreads.disconnect, teardown_skeleton h]
  rfl

end

namespace ClientThreads

open LockedStatement ClientSkeleton

/-! ## What a worker changes -/

/-- A statement that leaves the receiver alone. -/
def plain : LockedStatement → Bool
  | setState _ => true
  | saveConfig _ => true
  | startWatchdog => true
  | _ => false

/-- The receiver is destroyed before anything else becomes of it. -/
def drops : List LockedStatement → Bool
  | destroyReceiver :: _ => true
  | stopReceiver :: rest => drops rest
  | closeTcpSocket :: rest => drops rest
  | joinReceiver :: rest => drops rest
  | setState _ :: rest => drops rest
  | saveConfig _ :: rest => drops rest
  | startWatchdog :: rest => drops rest
  | _ => false

section

variable {k : ClientSkeleton} {p : Phase} {final : Phase → Bool}
  {work : List LockedStatement}

theorem completed_drops (hdrops : drops work = true)
    (a b : ReceiverThread) (fails : Option ConnectStep) :
    completed { k with tcpMessageReceiver := some a } work fails
      = completed { k with tcpMessageReceiver := some b } work fails := by
  induction work generalizing k a b with
  | nil => cases hdrops
  | cons statement rest ih =>
      cases statement with
      | destroyReceiver => rfl
      | stopReceiver => exact ih hdrops _ _
      | closeTcpSocket => exact ih (k := k.after closeTcpSocket) hdrops a b
      | joinReceiver => exact ih hdrops _ _
      | setState state => exact ih (k := k.after (setState state)) hdrops a b
      | saveConfig config =>
          exact ih (k := k.after (saveConfig config)) hdrops a b
      | startWatchdog => exact ih (k := k.after startWatchdog) hdrops a b
      | _ => cases hdrops

theorem completed_plain (hplain : work.all plain = true)
    (f : ReceiverThread → ReceiverThread) (fails : Option ConnectStep) :
    completed (k.modifyReceiver f) work fails
      = (completed k work fails).modifyReceiver f := by
  induction work generalizing k with
  | nil => rfl
  | cons statement rest ih =>
      rw [List.all_cons, Bool.and_eq_true] at hplain
      cases statement with
      | setState state => exact ih (k := k.after (setState state)) hplain.2
      | saveConfig config =>
          exact ih (k := k.after (saveConfig config)) hplain.2
      | startWatchdog => exact ih (k := k.after startWatchdog) hplain.2
      | _ => cases hplain.1

theorem attempts_plain (hplain : work.all plain = true) :
    attempts work = [] := by
  induction work with
  | nil => rfl
  | cons statement rest ih =>
      rw [List.all_cons, Bool.and_eq_true] at hplain
      cases statement with
      | attempt step => cases hplain.1
      | _ => exact ih hplain.2

/-- A receiver half taken apart is taken apart first. -/
theorem drops_of_stopping (hfinal : ∀ p, final p = true → p.settled = true)
    (hp : p.receiver = .stopping ∨ p.receiver = .resting)
    (hsafe : p.safe final work = true) : drops work = true := by
  induction work generalizing p with
  | nil =>
      have hsettled := hfinal p hsafe
      rcases Phase.settled_cases hsettled with ⟨-, hnone⟩ | hlive
      · simp [hnone] at hp
      · simp [hlive] at hp
  | cons statement rest ih =>
      cases statement with
      | destroyReceiver => rfl
      | stopReceiver =>
          obtain ⟨q, hq, hrest⟩ := (Option.any_eq_true _ _).mp hsafe
          rw [Phase.after] at hq
          split at hq
          · cases hq
          · obtain rfl := Option.some.inj hq
            exact ih (Or.inl rfl) hrest
      | closeTcpSocket =>
          obtain ⟨q, hq, hrest⟩ := (Option.any_eq_true _ _).mp hsafe
          rw [Phase.after] at hq
          split at hq
          · cases hq
          · obtain rfl := Option.some.inj hq
            exact ih (p := { p with tcpSocketOpen := false }) hp hrest
      | joinReceiver =>
          obtain ⟨q, hq, hrest⟩ := (Option.any_eq_true _ _).mp hsafe
          rw [Phase.after] at hq
          split at hq
          · obtain rfl := Option.some.inj hq
            exact ih (Or.inr rfl) hrest
          · cases hq
      | attempt step =>
          simp only [Phase.safe, Bool.and_eq_true, Option.any_eq_true] at hsafe
          obtain ⟨q, hq, -⟩ := hsafe.1
          rcases hp with hp | hp <;> simp [Phase.attempted, hp] at hq
      | _ =>
          obtain ⟨q, hq, -⟩ := (Option.any_eq_true _ _).mp hsafe
          rcases hp with hp | hp <;>
            simp [Phase.after, Phase.udpAfter, Phase.settledAfter, hp] at hq

/-- A live receiver is left alone or taken apart first. -/
theorem drops_of_live (hfinal : ∀ p, final p = true → p.settled = true)
    (hp : p.receiver = .live) (hsafe : p.safe final work = true) :
    drops work = true ∨ work.all plain = true := by
  induction work generalizing p with
  | nil => exact Or.inr rfl
  | cons statement rest ih =>
      have hplain : ∀ q : Phase, q.receiver = .live →
          q.safe final rest = true → plain statement = true →
          drops (statement :: rest) = drops rest →
          drops (statement :: rest) = true
            ∨ (statement :: rest).all plain = true := by
        intro q hq hrest hone hdrops
        rcases ih hq hrest with h | h
        · exact Or.inl (hdrops.trans h)
        · exact Or.inr (by rw [List.all_cons, hone, h]; rfl)
      cases statement with
      | stopReceiver =>
          obtain ⟨q, hq, hrest⟩ := (Option.any_eq_true _ _).mp hsafe
          rw [Phase.after] at hq
          split at hq
          · cases hq
          · obtain rfl := Option.some.inj hq
            have hdrops : drops rest = true :=
              drops_of_stopping hfinal (Or.inl rfl) hrest
            exact Or.inl hdrops
      | setState state =>
          obtain ⟨q, hq, hrest⟩ := (Option.any_eq_true _ _).mp hsafe
          obtain rfl := Phase.settledAfter_some hq
          exact hplain { p with state } hp hrest rfl rfl
      | saveConfig config =>
          obtain ⟨q, hq, hrest⟩ := (Option.any_eq_true _ _).mp hsafe
          obtain rfl := Phase.settledAfter_some hq
          exact hplain _ hp hrest rfl rfl
      | startWatchdog =>
          obtain ⟨q, hq, hrest⟩ := (Option.any_eq_true _ _).mp hsafe
          obtain rfl := Phase.settledAfter_some hq
          exact hplain _ hp hrest rfl rfl
      | attempt step =>
          simp only [Phase.safe, Bool.and_eq_true, Option.any_eq_true] at hsafe
          obtain ⟨q, hq, -⟩ := hsafe.1
          simp [Phase.attempted, hp] at hq
      | _ =>
          obtain ⟨q, hq, -⟩ := (Option.any_eq_true _ _).mp hsafe
          simp [Phase.after, Phase.udpAfter, hp] at hq

end

/-! ## How far the atomic client is -/

/-- In no step or in one of `Connection`. -/
def Reaches (client client' : GameClient) : Prop :=
  client' = client
    ∨ ∀ n, ∃ a, Connection.step ⟨client, n⟩ a = some ⟨client', n⟩

/-- The atomic client is where the statements lead, or where each outcome
of them is still one step away. -/
inductive View (k : ClientSkeleton) (work : List LockedStatement)
    (client : GameClient) : Prop where
  | decided : attempts work = [] →
      completed k work none = client.skeleton → View k work client
  | pending (next : Option ConnectStep → GameClient) :
      attempts work ≠ [] → (attempts work).Nodup →
      (∀ fails n, ∃ a,
        Connection.step ⟨client, n⟩ a = some ⟨next fails, n⟩) →
      (∀ fails, (∀ step, fails = some step → step ∈ attempts work) →
        completed k work fails = (next fails).skeleton) →
      View k work client

section

variable {s t : ClientThreads} {client : GameClient} {final : Phase → Bool}
  {fails : Bool} {statement : LockedStatement}
  {rest work : List LockedStatement}

theorem View.skeleton_eq {k : ClientSkeleton} (h : View k [] client) :
    k = client.skeleton := by
  cases h with
  | decided _ hview => exact hview
  | pending next hsome => exact absurd rfl hsome

theorem attempts_cons (hnot : ∀ step, statement ≠ attempt step) :
    attempts (statement :: rest) = attempts rest := by
  cases statement with
  | attempt step => exact absurd rfl (hnot step)
  | _ => rfl

theorem completed_cons {k : ClientSkeleton}
    (hnot : ∀ step, statement ≠ attempt step) (fails : Option ConnectStep) :
    completed k (statement :: rest) fails
      = completed (k.after statement) rest fails := by
  cases statement with
  | attempt step => exact absurd rfl (hnot step)
  | _ => rfl

/-- A statement that cannot fail decides nothing. -/
theorem View.after {k : ClientSkeleton}
    (hnot : ∀ step, statement ≠ attempt step)
    (h : View k (statement :: rest) client) :
    View (k.after statement) rest client := by
  have hsame : attempts (statement :: rest) = attempts rest :=
    attempts_cons hnot
  cases h with
  | decided hnone hview =>
      rw [hsame] at hnone
      rw [completed_cons hnot] at hview
      exact .decided hnone hview
  | pending next hsome hnodup hsteps hview =>
      rw [hsame] at hsome hnodup hview
      refine .pending next hsome hnodup hsteps fun fails hfails => ?_
      rw [← completed_cons hnot]
      exact hview fails hfails

/-- One that can may decide everything. -/
theorem View.attempted {k : ClientSkeleton} {step : ConnectStep}
    (h : View k (attempt step :: rest) client) :
    ∃ client', Reaches client client'
      ∧ View (k.attempted fails step) (if fails then [] else rest)
        client' := by
  cases h with
  | decided hnone => cases hnone
  | pending next hsome hnodup hsteps hview =>
      have hcons : attempts (attempt step :: rest) = step :: attempts rest :=
        rfl
      rw [hcons] at hnodup hview
      obtain ⟨hnew, hnodup⟩ := List.nodup_cons.mp hnodup
      cases fails with
      | true =>
          refine ⟨next (some step), Or.inr (hsteps (some step)),
            .decided rfl ?_⟩
          have hfailed := hview (some step) (by simp)
          rw [completed, if_pos rfl] at hfailed
          exact hfailed
      | false =>
          by_cases hlast : attempts rest = []
          · refine ⟨next none, Or.inr (hsteps none), .decided hlast ?_⟩
            have hpassed := hview none (by simp)
            rw [completed, if_neg (by simp)] at hpassed
            exact hpassed
          · refine ⟨client, Or.inl rfl, .pending next hlast hnodup hsteps ?_⟩
            intro fails hfails
            have hne : fails ≠ some step := fun hsame =>
              hnew (hfails step hsame)
            have hlater := hview fails fun other hother =>
              List.mem_cons_of_mem _ (hfails other hother)
            rw [completed, if_neg hne] at hlater
            exact hlater

theorem View.perform (h : View s.skeleton (statement :: rest) client)
    (hsafe : s.Safe final (statement :: rest))
    (hwatching : s.isWatchdogRunning = true → s.watchdog ≠ .absent)
    (hwatchdog : statement = startWatchdog →
      s.isWatchdogRunning = false → s.watchdog = .absent)
    (hperform : s.perform fails rest statement = some (t, work)) :
    ∃ client', Reaches client client' ∧ View t.skeleton work client' := by
  obtain ⟨hterminated, p, hp, hsafe⟩ := hsafe
  by_cases hattempt : ∃ step, statement = attempt step
  · obtain ⟨step, rfl⟩ := hattempt
    obtain ⟨rfl, rfl⟩ := Prod.mk.inj (Option.some.inj hperform)
    rw [attempted_skeleton]
    exact h.attempted
  · have hnot := not_exists.mp hattempt
    have hafter : ∃ q, p.after statement = some q := by
      cases statement with
      | attempt step => exact absurd rfl (hnot step)
      | _ =>
          obtain ⟨q, hq, -⟩ := (Option.any_eq_true _ _).mp hsafe
          exact ⟨q, hq⟩
    obtain ⟨q, hq⟩ := hafter
    obtain ⟨-, -, rfl⟩ :=
      perform_holds hp hterminated hwatchdog hq hperform
    have hview := h.after hnot
    rw [← perform_skeleton hp hq hwatching hperform] at hview
    exact ⟨client, Or.inl rfl, hview⟩

/-! ## A worker's step -/

/-- A receiver's worker ends, unnoticed by `Connection` unless it fails. -/
theorem View.receiver {k : ClientSkeleton} {p : Phase}
    (h : View k work client)
    (hfinal : ∀ p, final p = true → p.settled = true)
    (hsafe : p.safe final work = true) {a b : ReceiverThread}
    (hk : k.tcpMessageReceiver = some a)
    (hphase : p.receiver = .live ∧ b = a.fail
      ∨ p.receiver = .stopping ∨ p.receiver = .resting) :
    ∃ client', Reaches client client'
      ∧ View { k with tcpMessageReceiver := some b } work client' := by
  have hkept : drops work = true →
      View { k with tcpMessageReceiver := some b } work client := by
    intro hdrops
    have hsame : ∀ fails,
        completed { k with tcpMessageReceiver := some b } work fails
          = completed k work fails := by
      intro fails
      have hback : k = { k with tcpMessageReceiver := some a } := by
        rw [← hk]
      rw [completed_drops hdrops b a fails, ← hback]
    cases h with
    | decided hnone hview => exact .decided hnone ((hsame none).trans hview)
    | pending next hsome hnodup hsteps hview =>
        exact .pending next hsome hnodup hsteps fun fails hfails =>
          (hsame fails).trans (hview fails hfails)
  rcases hphase with ⟨hlive, rfl⟩ | hstopping
  · rcases drops_of_live hfinal hlive hsafe with hdrops | hplain
    · exact ⟨client, Or.inl rfl, hkept hdrops⟩
    · cases h with
      | pending next hsome => exact absurd (attempts_plain hplain) hsome
      | decided hnone hview =>
          refine ⟨client.receiverFails, Or.inr fun n => ⟨.receiverFails, rfl⟩,
            .decided hnone ?_⟩
          have hfails : { k with tcpMessageReceiver := some a.fail }
              = k.modifyReceiver ReceiverThread.fail := by
            rw [ClientSkeleton.modifyReceiver, hk]
            rfl
          rw [hfails, completed_plain hplain, hview]
          rfl
  · exact ⟨client, Or.inl rfl, hkept (drops_of_stopping hfinal hstopping
      hsafe)⟩

end

end ClientThreads

namespace ReceiverMember

variable {r r' : ReceiverMember} {tcpSocketOpen : Bool}

theorem next_thread (h : r.next tcpSocketOpen = some r') :
    r'.thread = r.thread ∨ r.isRunning = true ∧ r'.thread = r.thread.fail
      ∨ r.isRunning = false := by
  cases hrunning : r.isRunning with
  | false => exact Or.inr (Or.inr rfl)
  | true =>
      unfold next at h
      split at h
      · rename_i hpc
        obtain rfl := Option.some.inj h
        refine Or.inl ?_
        simp [thread, hpc, hrunning, TcpWorkerPc.isAlive]
      · rename_i hpc
        split at h
        · cases h
        · obtain rfl := Option.some.inj h
          refine Or.inl ?_
          simp [thread, hpc, TcpWorkerPc.isAlive]
      · rename_i hpc
        obtain rfl := Option.some.inj h
        exact Or.inr (Or.inl ⟨rfl, rfl⟩)
      · cases h
      · cases h

theorem receive_thread {handled : Bool}
    (h : r.receive handled tcpSocketOpen = some r') :
    r'.thread = r.thread := by
  rw [receive] at h
  split at h
  · rename_i hpc
    obtain rfl := Option.some.inj h
    cases handled <;> simp [thread, hpc.1, TcpWorkerPc.isAlive]
  · cases h

end ReceiverMember

namespace ClientThreads

open LockedStatement ClientSkeleton

/-! ## The simulation -/

structure Simulates (s : ClientThreads) (c : Connection) : Prop where
  disconnecting :
    c.disconnecting = if s.caller = .disconnectLocking then 1 else 0
  view : View s.skeleton s.work c.client

/-- `t` is simulated from `c` on. -/
def Follows (c : Connection) (t : ClientThreads) : Prop :=
  ∃ c', (c' = c ∨ ∃ a, Connection.step c a = some c') ∧ Simulates t c'

section

variable {s t : ClientThreads} {c : Connection} {fails : Bool}

/-- A step of the client alone. -/
theorem Follows.of_reaches {client : GameClient}
    (hreaches : Reaches c.client client)
    (hcount : c.disconnecting
      = if t.caller = .disconnectLocking then 1 else 0)
    (hview : View t.skeleton t.work client) : Follows c t := by
  refine ⟨⟨client, c.disconnecting⟩, ?_, ⟨hcount, hview⟩⟩
  rcases hreaches with rfl | hstep
  · exact Or.inl rfl
  · exact Or.inr (hstep c.disconnecting)

/-- A step `Connection` does not see. -/
theorem Simulates.unseen (h : Simulates s c)
    (hcaller : t.caller = .disconnectLocking ↔ s.caller = .disconnectLocking)
    (hskeleton : t.skeleton = s.skeleton) (hwork : t.work = s.work) :
    Follows c t := by
  refine .of_reaches (Or.inl rfl) ?_ ?_
  · rw [h.disconnecting]
    simp only [hcaller]
  · rw [hskeleton, hwork]
    exact h.view

theorem final_settled (pc : CallerPc) (p : Phase) (h : pc.final p = true) :
    p.settled = true := by
  cases pc with
  | disconnecting work => exact Phase.settled_of_quiet h
  | _ => exact h

theorem Simulates.receiverStep (h : Simulates s c) (hs : s.Orderly)
    {next : ReceiverMember → Bool → Option ReceiverMember}
    (hmoved : ∀ r tcpSocketOpen r', next r tcpSocketOpen = some r' →
      r.Moved r')
    (hthread : ∀ r tcpSocketOpen r', next r tcpSocketOpen = some r' →
      r'.thread = r.thread ∨ r.isRunning = true ∧ r'.thread = r.thread.fail
        ∨ r.isRunning = false)
    (hstep : s.receiverStep next = some t) : Follows c t := by
  obtain ⟨r, r', hr, hnext, rfl⟩ := receiverStep_cases hstep
  obtain ⟨-, p, hp, hsafe⟩ := hs.safe
  have hk : s.skeleton.tcpMessageReceiver = some r.thread := by
    rw [skeleton, hr]
    rfl
  rcases hthread _ _ _ hnext with hsame | hchanges
  · refine h.unseen Iff.rfl ?_ rfl
    rw [skeleton, skeleton, hr]
    simp only [Option.map_some, hsame]
  · have hphase : p.receiver = .live ∧ r'.thread = r.thread.fail
        ∨ p.receiver = .stopping ∨ p.receiver = .resting := by
      obtain ⟨-, hreceiver, -, -⟩ := hp
      have hmoves := hmoved _ _ _ hnext
      cases hphase : p.receiver with
      | none =>
          rw [hphase] at hreceiver
          exact absurd (hr.symm.trans hreceiver) (Option.some_ne_none r)
      | fresh =>
          rw [hphase] at hreceiver
          obtain ⟨r₀, hr₀, rfl⟩ := hreceiver
          obtain rfl := Option.some.inj (hr₀.symm.trans hr)
          exact absurd rfl hmoves.started
      | live =>
          rw [hphase] at hreceiver
          obtain ⟨r₀, hr₀, hrunning, -⟩ := hreceiver
          obtain rfl := Option.some.inj (hr₀.symm.trans hr)
          rcases hchanges with ⟨-, hfails⟩ | hstopped
          · exact Or.inl ⟨rfl, hfails⟩
          · rw [hrunning] at hstopped
            cases hstopped
      | stopping => exact Or.inr (Or.inl rfl)
      | resting => exact Or.inr (Or.inr rfl)
    obtain ⟨client, hreaches, hview⟩ :=
      h.view.receiver (final_settled s.caller) hsafe hk hphase
    exact .of_reaches hreaches h.disconnecting hview

/-- Between two lists of statements, a receiver means connected. -/
theorem Orderly.receiver_none (hs : s.Orderly) (hwork : s.work = [])
    (hstate : s.connectionState ≠ .connected) :
    s.tcpMessageReceiver = none := by
  obtain ⟨-, p, ⟨-, hreceiver, -, hphase⟩, hsafe⟩ := hs.safe
  rw [hwork] at hsafe
  rcases Phase.settled_cases (final_settled s.caller p hsafe) with
    ⟨-, hnone⟩ | rfl
  · rw [hnone] at hreceiver
    exact hreceiver
  · exact absurd hphase hstate

/-- The caller does a statement. -/
theorem Simulates.callerPerforms (h : Simulates s c) (hs : s.Orderly)
    {statement : LockedStatement} {rest work : List LockedStatement}
    {pc : CallerPc} {u : ClientThreads} (hholds : s.caller.holds = true)
    (hwork : s.caller.work = statement :: rest) (hpc : pc.holds = true)
    (hpcWork : pc.work = work)
    (hwatchdog : statement = startWatchdog →
      s.isWatchdogRunning = false → s.watchdog = .absent)
    (hperform : s.perform fails rest statement = some (u, work)) :
    Follows c { u with caller := pc } := by
  have hmutex := hs.caller.mpr hholds
  have hsafe := hs.safe
  have hview := h.view
  simp only [ClientThreads.work, hmutex, hwork] at hsafe hview
  obtain ⟨client, hreaches, hdone⟩ :=
    hview.perform hsafe hs.watchdog_ne_absent hwatchdog hperform
  have hstill : u.connectionMutex = some .caller :=
    (perform_frame hperform).1.trans hmutex
  have hcount : ∀ pc : CallerPc, pc.holds = true →
      pc ≠ .disconnectLocking := by
    rintro _ hholds rfl
    cases hholds
  refine .of_reaches hreaches ?_ ?_
  · rw [h.disconnecting, if_neg (hcount _ hholds), if_neg (hcount _ hpc)]
  · simp only [ClientThreads.work, hstill, hpcWork]
    exact hdone

theorem attempts_connect (config : ClientConfig) :
    attempts (s.connect config)
      = [.udpStart, .tcpEndpoint, .udpEndpoint, .tcpCreate, .tcpConnect,
        .registerSend] := by
  unfold ClientThreads.connect teardownConnectionLocked
  split
  · split <;> rfl
  · rfl

theorem attempts_teardown (state : ConnectionState) :
    attempts (s.teardownConnectionLocked ++ [setState state]) = [] := by
  unfold teardownConnectionLocked
  split <;> rfl

theorem Simulates.callerStep (h : Simulates s c) (hs : s.Orderly)
    (hstep : s.callerStep fails = some t) : Follows c t := by
  have hwatching := hs.watching
  unfold ClientThreads.callerStep at hstep
  split at hstep
  · cases hstep
  · rename_i config hpc
    split at hstep
    · rename_i hfree
      obtain rfl := Option.some.inj hstep
      have hview := h.view
      rw [ClientThreads.work, hfree] at hview
      have hsame := hview.skeleton_eq
      have hnone : c.client.connectionState = .disconnected →
          c.client.tcpMessageReceiver = none := by
        intro hidle
        have hstate : s.connectionState = c.client.connectionState :=
          congrArg (·.connectionState) hsame
        have hgone := hs.receiver_none (by simp [ClientThreads.work, hfree])
          (by simp [hstate, hidle])
        have hreceiver := congrArg (·.tcpMessageReceiver) hsame
        simpa [skeleton, GameClient.skeleton, hgone] using hreceiver.symm
      refine .of_reaches (Or.inl rfl) ?_ ?_
      · rw [h.disconnecting, hpc]
        rfl
      · refine .pending (fun fails => (c.client.connect config fails).2) ?_ ?_
          (fun fails n => ⟨.connect config fails, rfl⟩) fun fails _ => ?_
        · show attempts (s.connect config) ≠ []
          rw [attempts_connect]
          decide
        · show (attempts (s.connect config)).Nodup
          rw [attempts_connect]
          decide
        · show completed s.skeleton (s.connect config) fails = _
          rw [hsame]
          exact connect_skeleton hsame hnone config fails
    · cases hstep
  · rename_i statement rest hpc
    obtain ⟨⟨u, work⟩, hperform, rfl⟩ := Option.map_eq_some_iff.mp hstep
    refine h.callerPerforms hs (by rw [hpc]; rfl) (by rw [hpc]; rfl) rfl rfl
      (fun _ hflag => ?_) hperform
    rw [hpc, hflag] at hwatching
    rcases hwatching with ⟨hrunning, -⟩ | ⟨-, habsent⟩
    · cases hrunning
    · exact habsent
  · rename_i hpc
    obtain rfl := Option.some.inj hstep
    have hmutex := hs.caller.mpr (by rw [hpc]; rfl)
    refine h.unseen (by simp [hpc]) rfl ?_
    simp only [ClientThreads.work, hmutex, hpc, CallerPc.work]
  · rename_i hpc
    split at hstep
    · cases hstep
    · rename_i hended
      obtain rfl := Option.some.inj hstep
      have hfree := hs.mutex_free (by rw [hpc]; rfl)
        (holds_of_not_isAlive hended)
      have hview := h.view
      rw [ClientThreads.work, hfree] at hview
      have hsame := hview.skeleton_eq
      have hcount := h.disconnecting
      rw [hpc, if_neg (by decide)] at hcount
      refine ⟨⟨c.client.stopWatchdog, 1⟩, Or.inr ⟨.disconnect, ?_⟩, rfl, ?_⟩
      · rw [Connection.step, hcount]
      · have hidle : ClientThreads.work { s with
            watchdog := .absent
            caller := .disconnectLocking } = [] := by
          simp only [ClientThreads.work, hfree]
        rw [hidle]
        refine .decided rfl ?_
        show { s.skeleton with isWatchdogRunning := false } = _
        rw [hsame]
        rfl
  · rename_i hpc
    split at hstep
    · rename_i hfree
      obtain rfl := Option.some.inj hstep
      have hview := h.view
      rw [ClientThreads.work, hfree] at hview
      have hsame := hview.skeleton_eq
      have hcount := h.disconnecting
      rw [hpc, if_pos rfl] at hcount
      refine ⟨⟨c.client.disconnectLocked, 0⟩,
        Or.inr ⟨.disconnectLocked, ?_⟩, rfl, ?_⟩
      · rw [Connection.step, hcount]
        rfl
      · refine .decided ?_ ?_
        · exact attempts_teardown .disconnected
        · show completed s.skeleton s.disconnect none = _
          rw [hsame]
          exact disconnect_skeleton hsame none
    · cases hstep
  · rename_i statement rest hpc
    obtain ⟨⟨u, work⟩, hperform, rfl⟩ := Option.map_eq_some_iff.mp hstep
    rw [hpc] at hwatching
    exact h.callerPerforms hs (by rw [hpc]; rfl) (by rw [hpc]; rfl) rfl rfl
      (fun _ _ => hwatching.2) hperform
  · rename_i hpc
    obtain rfl := Option.some.inj hstep
    have hmutex := hs.caller.mpr (by rw [hpc]; rfl)
    refine h.unseen (by simp [hpc]) rfl ?_
    simp only [ClientThreads.work, hmutex, hpc, CallerPc.work]

/-- The watchdog does a statement. -/
theorem Simulates.watchdogPerforms (h : Simulates s c) (hs : s.Orderly)
    {statement : LockedStatement} {rest work : List LockedStatement}
    {u : ClientThreads} (hpc : s.watchdog = .holding (statement :: rest))
    (hperform : s.perform fails rest statement = some (u, work)) :
    Follows c { u with watchdog := .holding work } := by
  have hmutex := hs.watchdog.mpr (by rw [hpc]; rfl)
  have hsafe := hs.safe
  have hview := h.view
  have hiteration := hs.iteration
  rw [hpc] at hiteration
  simp only [ClientThreads.work, hmutex, hpc, WatchdogPc.work] at hsafe hview
  have hnot : statement ≠ startWatchdog := by
    rintro rfl
    exact hiteration List.mem_cons_self
  obtain ⟨client, hreaches, hdone⟩ := hview.perform hsafe
    hs.watchdog_ne_absent (fun hstart => absurd hstart hnot) hperform
  obtain ⟨hkept, hcaller, hwatch, -⟩ := perform_frame hperform
  have hstill : u.connectionMutex = some .watchdog := hkept.trans hmutex
  refine .of_reaches hreaches ?_ ?_
  · rw [h.disconnecting, hcaller]
  · have hskeleton : skeleton { u with watchdog := .holding work }
        = u.skeleton := by
      rcases hwatch with ⟨hsame, -⟩ | ⟨hstart, -⟩
      · simp [skeleton, hsame, hpc]
      · exact absurd hstart hnot
    rw [hskeleton]
    simp only [ClientThreads.work, hstill, WatchdogPc.work]
    exact hdone

/-- What the watchdog decides to do is one step of `Connection`. -/
theorem Simulates.inspects (h : Simulates s c) (hs : s.Orderly)
    (hpc : s.watchdog = .inspecting) (retryTimeReached : Bool) :
    Follows c { s with
      watchdog := .holding (s.watchdogIteration retryTimeReached) } := by
  have hmutex := hs.watchdog.mpr (by rw [hpc]; rfl)
  have hview := h.view
  simp only [ClientThreads.work, hmutex, hpc, WatchdogPc.work] at hview
  have hsame := hview.skeleton_eq
  have hrunning : c.client.isWatchdogRunning = true := by
    have hflag := congrArg (·.isWatchdogRunning) hsame
    simpa [skeleton, GameClient.skeleton, hpc] using hflag.symm
  have hstate : s.connectionState = c.client.connectionState :=
    congrArg (·.connectionState) hsame
  have hreceiver : s.tcpMessageReceiver.map ReceiverMember.thread
      = c.client.tcpMessageReceiver :=
    congrArg (·.tcpMessageReceiver) hsame
  have hafter : ∀ work client, Reaches c.client client →
      View s.skeleton work client →
      Follows c { s with watchdog := .holding work } := by
    intro work client hreaches hwork
    refine .of_reaches hreaches h.disconnecting ?_
    have hskeleton : skeleton { s with watchdog := .holding work }
        = s.skeleton := by
      simp [skeleton, hpc]
    rw [hskeleton]
    simp only [ClientThreads.work, hmutex, WatchdogPc.work]
    exact hwork
  have hstay : View s.skeleton [] c.client := .decided rfl hsame
  unfold ClientThreads.watchdogIteration
  split
  · rename_i hconnected
    split
    · rename_i r hr
      split
      · rename_i hfailed
        refine hafter _ { c.client.teardownConnectionLocked with
            connectionState := .reconnecting } (Or.inr fun n =>
          ⟨.watchdog false none, ?_⟩) (.decided ?_ ?_)
        · rw [hr] at hreceiver
          rw [Connection.step, GameClient.watchdogIteration, hrunning,
            ← hstate, hconnected, ← hreceiver]
          simp [ReceiverMember.thread, hfailed]
        · exact attempts_teardown .reconnecting
        · rw [hsame, teardown_skeleton hsame]
          rfl
      · exact hafter _ _ (Or.inl rfl) hstay
    · exact hafter _ _ (Or.inl rfl) hstay
  · rename_i hreconnecting
    split
    · refine hafter _ _ (Or.inl rfl) (.pending
        (fun fails => (c.client.connectLocked fails).2) (by decide)
        (by decide) (fun fails n => ⟨.watchdog true fails, ?_⟩)
        fun fails _ => ?_)
      · rw [Connection.step, GameClient.watchdogIteration, hrunning,
          ← hstate, hreconnecting]
        rfl
      · rw [hsame]
        refine (connectLocked_skeleton ?_ fails).symm
        have hgone := hs.receiver_none
          (by simp [ClientThreads.work, hmutex, hpc, WatchdogPc.work])
          (by simp [hreconnecting])
        rw [hgone] at hreceiver
        exact hreceiver.symm
    · exact hafter _ _ (Or.inl rfl) hstay
  · exact hafter _ _ (Or.inl rfl) hstay

theorem Simulates.watchdogStep {retryTimeReached : Bool}
    (h : Simulates s c) (hs : s.Orderly)
    (hstep : s.watchdogStep retryTimeReached fails = some t) :
    Follows c t := by
  have hplace : ∀ {holder : Option MutexHolder} {pc : WatchdogPc},
      s.watchdog ≠ .absent → pc ≠ .absent → s.watchdog.work = [] →
      pc.work = [] → (holder = s.connectionMutex
        ∨ (holder = none ∨ holder = some .watchdog)
          ∧ s.connectionMutex ≠ some .caller) →
      Follows c { s with connectionMutex := holder, watchdog := pc } := by
    intro holder pc hhere hthere hnow hthen hmutex
    refine h.unseen Iff.rfl ?_ ?_
    · simp [skeleton, hhere, hthere]
    · rcases hmutex with rfl | ⟨hholder, hother⟩
      · simp only [ClientThreads.work, hnow, hthen]
      · have hbefore : s.work = [] := by
          rw [ClientThreads.work]
          split
          · contradiction
          · exact hnow
          · rfl
        rw [hbefore, ClientThreads.work]
        rcases hholder with rfl | rfl
        · rfl
        · exact hthen
  unfold ClientThreads.watchdogStep at hstep
  split at hstep
  · rename_i hpc
    obtain rfl := Option.some.inj hstep
    refine hplace (by simp [hpc]) ?_ (by rw [hpc]; rfl) ?_ (Or.inl rfl)
    · split <;> decide
    · split <;> rfl
  · rename_i hpc
    obtain rfl := Option.some.inj hstep
    refine hplace (by simp [hpc]) ?_ (by rw [hpc]; rfl) ?_ (Or.inl rfl)
    · split <;> decide
    · split <;> rfl
  · rename_i hpc
    split at hstep
    · rename_i hfree
      obtain rfl := Option.some.inj hstep
      exact hplace (by simp [hpc]) (by decide) (by rw [hpc]; rfl) rfl
        (Or.inr ⟨Or.inr rfl, by simp [hfree]⟩)
    · cases hstep
  · rename_i hpc
    obtain rfl := Option.some.inj hstep
    exact h.inspects hs hpc retryTimeReached
  · rename_i statement rest hpc
    obtain ⟨⟨u, work⟩, hperform, rfl⟩ := Option.map_eq_some_iff.mp hstep
    exact h.watchdogPerforms hs hpc hperform
  · rename_i hpc
    obtain rfl := Option.some.inj hstep
    have hmutex := hs.watchdog.mpr (by rw [hpc]; rfl)
    exact hplace (by simp [hpc]) (by decide) (by rw [hpc]; rfl) rfl
      (Or.inr ⟨Or.inl rfl, by simp [hmutex]⟩)
  · cases hstep
  · cases hstep

theorem Simulates.step {a : Action} (h : Simulates s c) (hs : s.Orderly)
    (hstep : s.step a = some t) : Follows c t := by
  unfold ClientThreads.step at hstep
  split at hstep
  · cases hstep
  · cases a with
    | connect config =>
        dsimp only at hstep
        split at hstep
        · rename_i hidle
          obtain rfl := Option.some.inj hstep
          refine h.unseen (by simp [hidle]) rfl ?_
          rw [ClientThreads.work, ClientThreads.work, hidle]
          rfl
        · cases hstep
    | disconnect =>
        dsimp only at hstep
        split at hstep
        · rename_i hidle
          obtain rfl := Option.some.inj hstep
          refine h.unseen (by simp [hidle]) rfl ?_
          rw [ClientThreads.work, ClientThreads.work, hidle]
          rfl
        · cases hstep
    | caller fails => exact h.callerStep hs hstep
    | watchdog retryTimeReached fails => exact h.watchdogStep hs hstep
    | tcpWorker =>
        exact h.receiverStep hs (fun _ _ _ => ReceiverMember.next_moved)
          (fun _ _ _ => ReceiverMember.next_thread) hstep
    | received handled =>
        exact h.receiverStep hs (fun _ _ _ => ReceiverMember.receive_moved)
          (fun _ _ _ hnext => Or.inl (ReceiverMember.receive_thread hnext))
          hstep
    | udpWorker =>
        obtain ⟨pc, rfl, -⟩ := udpWorkerStep_cases hstep
        exact h.unseen Iff.rfl rfl rfl

/-- Whoever looks while the mutex is free sees a state of `Connection`. -/
theorem threads_refine (h : system.Reachable s) :
    ∃ c, Connection.system.Reachable c
      ∧ (s.connectionMutex = none → s.skeleton = c.client.skeleton) := by
  have hboth : s.Orderly
      ∧ ∃ c, Connection.system.Reachable c ∧ Simulates s c := by
    refine h.invariant (I := fun s => s.Orderly
      ∧ ∃ c, Connection.system.Reachable c ∧ Simulates s c) ?_ ?_
    · rintro _ rfl
      refine ⟨orderly_of_reachable (.init rfl), {}, .init rfl, rfl, ?_⟩
      exact .decided rfl rfl
    · rintro s a t ⟨hs, c, hc, hview⟩ - hstep
      obtain ⟨c', hstep', hnext⟩ := hview.step hs hstep
      refine ⟨hs.step hstep, c', ?_, hnext⟩
      rcases hstep' with rfl | ⟨b, hb⟩
      · exact hc
      · exact hc.step trivial hb
  obtain ⟨-, c, hc, hview⟩ := hboth
  refine ⟨c, hc, fun hfree => ?_⟩
  have hdone := hview.view
  rw [ClientThreads.work, hfree] at hdone
  exact hdone.skeleton_eq

/-- A reconnection, interrupted by the receivers it starts. -/
theorem threads_refine_reconnected :
    ∃ s c, system.Reachable s ∧ Connection.system.Reachable c
      ∧ s.skeleton = c.client.skeleton
      ∧ c.client.connectionState = .connected
      ∧ c.client.tcpMessageReceiver
        = some { hasFailedUnexpectedly := true, inLoop := false } := by
  obtain ⟨s, hs, hp⟩ := Lts.exists_reachable system
    (show system.init {} from rfl)
    ([.connect {}] ++ List.replicate 17 (.caller false)
      ++ [.tcpWorker, .received false, .tcpWorker]
      ++ List.replicate 12 (.watchdog true false) ++ [.udpWorker]
      ++ List.replicate 21 (.watchdog true false)
      ++ [.tcpWorker, .received false, .tcpWorker]
      ++ List.replicate 2 (.watchdog true false))
    (fun s => s.connectionMutex == none
      && s.connectionState == .connected
      && s.tcpMessageReceiver == some { isRunning := true
                                        hasFailedUnexpectedly := true
                                        worker := .ended })
    (by decide +kernel)
  simp only [Bool.and_eq_true, beq_iff_eq] at hp
  obtain ⟨⟨hfree, hstate⟩, hreceiver⟩ := hp
  obtain ⟨c, hc, hsame⟩ := threads_refine hs
  refine ⟨s, c, hs, hc, hsame hfree, ?_, ?_⟩
  · rw [← hstate]
    exact (congrArg (·.connectionState) (hsame hfree)).symm
  · have hview := congrArg (·.tcpMessageReceiver) (hsame hfree)
    simp only [skeleton, hreceiver] at hview
    exact hview.symm

end

end ClientThreads

end NetworkControl
