import Mathlib.Data.UInt
import NetworkControl.Lts
import NetworkControl.Ownership

/-!
# Who owns a socket

`Common/TcpSocket.cpp` and `Common/UdpSocket.cpp` as owners of a Winsock
handle: `TcpSocket` and `UdpSocket` are the cells of `Ownership`, and the
calls made to Winsock its log. A program is any sequence of member
functions on objects that are alive, moves of an object to itself
included; the system may give a closed handle's number out again.

Programs are sequential, one member function after the other, and their
handles come from `Create` and `Accept`: the constructors from a `SOCKET`
are for `Accept` only, and nobody takes a handle out of its object
(`GetNativeSocket`), so that no two objects are made from one handle.

What a call on a socket transfers is in `TcpSocket` and `Framing`.
-/

namespace NetworkControl

open Ownership

/-! ## Winsock -/

/-- A `SOCKET`, an unsigned number of 64 bits. -/
abbrev Socket := UInt64

/-- `INVALID_SOCKET`. -/
def invalidSocket : Socket := ~~~0

/-- What `Create` asks for: a `TcpSocket` is of type `stream`. -/
inductive SocketType where
  | stream
  | datagram
deriving DecidableEq, Repr

inductive SocketCall where
  | bind
  | listen
  | connect
  | send
  | recv
  | sendto
  | recvfrom
  | setsockopt
deriving DecidableEq, Repr

inductive WinsockCall where
  | wsaStartup
  | wsaCleanup
  | socket (type : SocketType) (result : Socket)
  | accept (listener result : Socket)
  | on (call : SocketCall) (socket : Socket)
  | closesocket (socket : Socket)
deriving DecidableEq, Repr

namespace WinsockCall

def opened (result : Socket) : List (Use Socket) :=
  if result = invalidSocket then [] else [.opens result]

/-- Newest first. `Accept` is the one member that does not look whether its
socket is valid: `accept` fails on `INVALID_SOCKET`, and uses nothing. -/
def uses : WinsockCall → List (Use Socket)
  | .wsaStartup => []
  | .wsaCleanup => []
  | .socket _ result => opened result
  | .accept listener result =>
      opened result
        ++ if listener = invalidSocket then [] else [.uses listener]
  | .on _ s => [.uses s]
  | .closesocket s => [.closes s]

end WinsockCall

/-! ## The objects -/

structure SocketObject where
  type : SocketType
  socket : Socket
deriving DecidableEq, Repr

def SocketObject.held (o : SocketObject) : Option Socket :=
  if o.socket = invalidSocket then none else some o.socket

/-- The objects that are alive, by where they are, and the calls that were
made, newest first. -/
structure SocketHeap (ι : Type) where
  object : ι → Option SocketObject
  calls : List WinsockCall

namespace SocketHeap

section

variable {ι : Type}

def log (s : SocketHeap ι) : List (Use Socket) :=
  s.calls.flatMap WinsockCall.uses

def held (s : SocketHeap ι) (i : ι) : Option Socket :=
  (s.object i).bind SocketObject.held

/-- `IsValid`. -/
def isValid (s : SocketHeap ι) (i : ι) : Bool := (s.held i).isSome

def made (s : SocketHeap ι) (calls : List WinsockCall) : SocketHeap ι :=
  { s with calls := calls ++ s.calls }

/-- What `socket` and `accept` may return: no handle that is in use. -/
def Returns (s : SocketHeap ι) (result : Socket) : Prop :=
  result = invalidSocket ∨ result ∉ inUse s.log

instance (s : SocketHeap ι) (result : Socket) : Decidable (s.Returns result) :=
  inferInstanceAs (Decidable (_ ∨ _))

variable [DecidableEq ι]

def put (s : SocketHeap ι) (i : ι) (o : Option SocketObject) :
    SocketHeap ι :=
  { s with object := Function.update s.object i o }

/-! ### The member functions -/

/-- The default constructor. -/
def construct (s : SocketHeap ι) (i : ι) (type : SocketType) :
    SocketHeap ι :=
  s.put i (some { type, socket := invalidSocket })

def close (s : SocketHeap ι) (i : ι) : SocketHeap ι :=
  match s.object i with
  | none => s
  | some o =>
      if o.socket = invalidSocket then s
      else
        (s.put i (some { o with socket := invalidSocket })).made
          [.closesocket o.socket]

/-- `Create`; `result` is what `socket` returns. -/
def create (s : SocketHeap ι) (i : ι) (result : Socket) : SocketHeap ι :=
  match (s.close i).object i with
  | none => s
  | some o =>
      ((s.close i).put i (some { o with socket := result })).made
        [.socket o.type result]

/-- A member that calls `call` so many times, if its socket is valid. -/
def callOn (s : SocketHeap ι) (i : ι) (call : SocketCall) (times : Nat) :
    SocketHeap ι :=
  match s.object i with
  | none => s
  | some o =>
      if o.socket = invalidSocket then s
      else s.made (List.replicate times (.on call o.socket))

def bind (s : SocketHeap ι) (i : ι) : SocketHeap ι := s.callOn i .bind 1

def listen (s : SocketHeap ι) (i : ι) : SocketHeap ι := s.callOn i .listen 1

def connect (s : SocketHeap ι) (i : ι) : SocketHeap ι :=
  s.callOn i .connect 1

def setReceiveTimeout (s : SocketHeap ι) (i : ι) : SocketHeap ι :=
  s.callOn i .setsockopt 1

/-- `accepted`: the buffer is there and of a positive size. -/
def receive (s : SocketHeap ι) (i : ι) (accepted : Bool) : SocketHeap ι :=
  s.callOn i .recv accepted.toNat

def sendTo (s : SocketHeap ι) (i : ι) (accepted : Bool) : SocketHeap ι :=
  s.callOn i .sendto accepted.toNat

def receiveFrom (s : SocketHeap ι) (i : ι) (accepted : Bool) : SocketHeap ι :=
  s.callOn i .recvfrom accepted.toNat

/-- In so many pieces; in none when the arguments are refused. -/
def sendAll (s : SocketHeap ι) (i : ι) (pieces : Nat) : SocketHeap ι :=
  s.callOn i .send pieces

def receiveAll (s : SocketHeap ι) (i : ι) (pieces : Nat) : SocketHeap ι :=
  s.callOn i .recv pieces

/-- `Accept` on `i`; what it returns becomes the object `j`. -/
def accept (s : SocketHeap ι) (i j : ι) (result : Socket) : SocketHeap ι :=
  match s.object i with
  | none => s
  | some o =>
      (s.put j (some { type := .stream, socket := result })).made
        [.accept o.socket result]

/-- The move constructor: `i` from `j`. -/
def moveConstruct (s : SocketHeap ι) (i j : ι) : SocketHeap ι :=
  match s.object j with
  | none => s
  | some o =>
      (s.put i (some o)).put j (some { o with socket := invalidSocket })

/-- The move assignment: `i = std::move(j)`. -/
def moveAssign (s : SocketHeap ι) (i j : ι) : SocketHeap ι :=
  if i = j then s else (s.close i).moveConstruct i j

/-- The destructor. -/
def destroy (s : SocketHeap ι) (i : ι) : SocketHeap ι :=
  (s.close i).put i none

end

/-! ### Programs -/

/-- `callOn` stands for every member that is defined by it. -/
inductive SocketAction (ι : Type) where
  | construct (i : ι) (type : SocketType)
  | create (i : ι) (result : Socket)
  | callOn (i : ι) (call : SocketCall) (times : Nat)
  | accept (i j : ι) (result : Socket)
  | moveConstruct (i j : ι)
  | moveAssign (i j : ι)
  | close (i : ι)
  | destroy (i : ι)
deriving DecidableEq, Repr

section

variable {ι : Type} [DecidableEq ι]

def step (s : SocketHeap ι) : SocketAction ι → Option (SocketHeap ι)
  | .construct i type =>
      if s.object i = none then some (s.construct i type) else none
  | .create i result =>
      if s.object i ≠ none ∧ (s.close i).Returns result then
        some (s.create i result)
      else none
  | .callOn i call times =>
      if s.object i ≠ none then some (s.callOn i call times) else none
  | .accept i j result =>
      if s.object i ≠ none ∧ s.object j = none ∧ s.Returns result
          ∧ (s.isValid i = false → result = invalidSocket) then
        some (s.accept i j result)
      else none
  | .moveConstruct i j =>
      if s.object i = none ∧ s.object j ≠ none then
        some (s.moveConstruct i j)
      else none
  | .moveAssign i j =>
      if s.object i ≠ none ∧ s.object j ≠ none then some (s.moveAssign i j)
      else none
  | .close i => if s.object i ≠ none then some (s.close i) else none
  | .destroy i => if s.object i ≠ none then some (s.destroy i) else none

def empty : SocketHeap ι where
  object _ := none
  calls := []

def system : Lts (SocketHeap ι) (SocketAction ι) where
  init s := s = empty
  step := step

end

/-! ## Calls, and what they leave alone -/

section

variable {ι : Type} {s t : SocketHeap ι} {i j : ι}

@[simp] theorem made_object (calls : List WinsockCall) :
    (s.made calls).object = s.object := rfl

@[simp] theorem made_held (calls : List WinsockCall) :
    (s.made calls).held = s.held := rfl

@[simp] theorem made_log (calls : List WinsockCall) :
    (s.made calls).log = calls.flatMap WinsockCall.uses ++ s.log :=
  List.flatMap_append ..

theorem held_of_none (h : s.object i = none) : s.held i = none := by
  rw [held, h]
  rfl

theorem held_invalid (type : SocketType) :
    SocketObject.held { type, socket := invalidSocket } = none := rfl

theorem held_of_object {o : SocketObject} (h : s.object i = some o) :
    s.held i = o.held := by
  rw [held, h]
  rfl

structure Owned (s : SocketHeap ι) : Prop where
  proper : Proper s.log
  exclusive : Exclusive s.held (inUse s.log)

theorem owned_empty : (empty : SocketHeap ι).Owned where
  proper := trivial
  exclusive := Exclusive.empty

/-- When nothing is held, everything was closed. -/
theorem Owned.balanced (h : s.Owned) (hheld : ∀ i, s.held i = none)
    (k : Socket) : s.log.count (.opens k) = s.log.count (.closes k) := by
  have hempty := h.exclusive.eq_empty hheld
  rw [h.proper.count_opens k, hempty, if_neg (Finset.notMem_empty k),
    Nat.add_zero]

/-- Calls on a handle in use change nothing. -/
theorem Owned.uses (h : s.Owned) {k : Socket} (hk : k ∈ inUse s.log)
    (call : SocketCall) (times : Nat) :
    (s.made (List.replicate times (.on call k))).Owned := by
  have hlog : (s.made (List.replicate times (.on call k))).log
      = List.replicate times (.uses k) ++ s.log := by
    rw [made_log, List.flatMap_replicate]
    exact congrArg (· ++ s.log) List.flatten_replicate_singleton
  constructor
  · rw [hlog]
    exact h.proper.replicate_uses hk times
  · rw [hlog, inUse_replicate_uses]
    exact h.exclusive

theorem Owned.callOn (h : s.Owned) (i : ι) (call : SocketCall)
    (times : Nat) : (s.callOn i call times).Owned := by
  unfold SocketHeap.callOn
  cases ho : s.object i with
  | none => exact h
  | some o =>
      dsimp only
      split
      · exact h
      · rename_i hvalid
        refine h.uses (h.exclusive.live_of_held (i := i) ?_) call times
        rw [held_of_object ho]
        exact if_neg hvalid

/-! ### Work on one object -/

/-- What `t` has to do with `s` when member functions of the object `i` ran
in between: every object is alive that was, and the others are the same. -/
structure Works (i : ι) (s t : SocketHeap ι) : Prop where
  owned : s.Owned → t.Owned
  calls : s.calls <:+ t.calls
  others : ∀ j, j ≠ i → t.object j = s.object j
  alive : ∀ j, t.object j = none ↔ s.object j = none

namespace Works

theorem refl (i : ι) (s : SocketHeap ι) : Works i s s :=
  ⟨id, List.suffix_rfl, fun _ _ => rfl, fun _ => Iff.rfl⟩

theorem trans {u : SocketHeap ι} (h : Works i s t) (h' : Works i t u) :
    Works i s u where
  owned hs := h'.owned (h.owned hs)
  calls := h.calls.trans h'.calls
  others j hj := (h'.others j hj).trans (h.others j hj)
  alive j := (h'.alive j).trans (h.alive j)

theorem held (h : Works i s t) (hj : j ≠ i) : t.held j = s.held j := by
  rw [SocketHeap.held, h.others j hj, SocketHeap.held]

end Works

theorem callOn_object (s : SocketHeap ι) (i : ι) (call : SocketCall)
    (times : Nat) : (s.callOn i call times).object = s.object := by
  unfold callOn
  split
  · rfl
  · split <;> rfl

theorem works_callOn (s : SocketHeap ι) (i : ι) (call : SocketCall)
    (times : Nat) : Works i s (s.callOn i call times) where
  owned h := h.callOn i call times
  calls := by
    unfold callOn
    split
    · exact List.suffix_rfl
    · split
      · exact List.suffix_rfl
      · exact List.suffix_append ..
  others j _ := by rw [callOn_object]
  alive j := by rw [callOn_object]

/-- A call that is about no socket. -/
theorem works_mark (s : SocketHeap ι) (i : ι) {call : WinsockCall}
    (hcall : call.uses = []) : Works i s (s.made [call]) where
  owned h := by
    have hlog : (s.made [call]).log = s.log := by
      rw [made_log, List.flatMap_singleton, hcall, List.nil_append]
    exact ⟨hlog ▸ h.proper, hlog ▸ h.exclusive⟩
  calls := List.suffix_append ..
  others _ _ := rfl
  alive _ := Iff.rfl

end

/-! ## Every handle has one owner -/

section

variable {ι : Type} [DecidableEq ι] {s t : SocketHeap ι} {i j : ι}

@[simp] theorem put_object (o : Option SocketObject) :
    (s.put i o).object = Function.update s.object i o := rfl

@[simp] theorem put_log (o : Option SocketObject) : (s.put i o).log = s.log :=
  rfl

@[simp] theorem put_held (o : Option SocketObject) :
    (s.put i o).held
      = Function.update s.held i (o.bind SocketObject.held) :=
  Function.comp_update (fun x : Option SocketObject =>
    x.bind SocketObject.held) s.object i o

/-- An object that holds nothing comes, changes or goes. -/
theorem Owned.put (h : s.Owned) (hheld : s.held i = none)
    {o : Option SocketObject} (ho : o.bind SocketObject.held = none) :
    (s.put i o).Owned where
  proper := h.proper
  exclusive := by
    rw [put_held, put_log, ho, ← hheld, Function.update_eq_self]
    exact h.exclusive

/-- An object that holds nothing takes what `socket` or `accept` returned. -/
theorem Owned.take (h : s.Owned) (hheld : s.held i = none)
    {o : SocketObject} (ho : s.Returns o.socket) {call : WinsockCall}
    {before : List (Use Socket)}
    (hcall : call.uses = WinsockCall.opened o.socket ++ before)
    (hbefore : inUse (before ++ s.log) = inUse s.log)
    (hproper : Proper (before ++ s.log)) :
    ((s.put i (some o)).made [call]).Owned := by
  have hlog : ((s.put i (some o)).made [call]).log
      = WinsockCall.opened o.socket ++ (before ++ s.log) := by
    rw [made_log, put_log, List.flatMap_singleton, hcall, List.append_assoc]
  have hobject : ((s.put i (some o)).made [call]).held
      = Function.update s.held i o.held := put_held _
  by_cases hinvalid : o.socket = invalidSocket
  · have hnone : o.held = none := if_pos hinvalid
    rw [WinsockCall.opened, if_pos hinvalid, List.nil_append] at hlog
    rw [hnone, ← hheld, Function.update_eq_self] at hobject
    refine ⟨hlog ▸ hproper, ?_⟩
    rw [hlog, hobject, hbefore]
    exact h.exclusive
  · have hfresh : o.socket ∉ inUse s.log := ho.resolve_left hinvalid
    have hsome : o.held = some o.socket := if_neg hinvalid
    rw [WinsockCall.opened, if_neg hinvalid, List.singleton_append] at hlog
    rw [hsome] at hobject
    refine ⟨hlog ▸ ⟨hbefore ▸ hfresh, hproper⟩, ?_⟩
    rw [hlog, hobject, inUse, hbefore]
    exact h.exclusive.gain hheld hfresh

/-! ### One member function -/

theorem close_of_invalid (h : s.held i = none) : s.close i = s := by
  unfold close
  cases ho : s.object i with
  | none => rfl
  | some o =>
      rw [held_of_object ho, SocketObject.held] at h
      dsimp only
      split
      · rfl
      · rename_i hvalid
        rw [if_neg hvalid] at h
        cases h

theorem close_of_valid {o : SocketObject} (ho : s.object i = some o)
    (hvalid : o.socket ≠ invalidSocket) :
    s.close i = (s.put i (some { o with socket := invalidSocket })).made
      [.closesocket o.socket] := by
  unfold close
  rw [ho]
  exact if_neg hvalid

/-- `Close` leaves an object that holds nothing. -/
theorem close_held (s : SocketHeap ι) (i : ι) :
    (s.close i).held = Function.update s.held i none := by
  cases hheld : s.held i with
  | none =>
      rw [close_of_invalid hheld, ← hheld, Function.update_eq_self]
  | some k =>
      cases ho : s.object i with
      | none =>
          rw [held_of_none ho] at hheld
          cases hheld
      | some o =>
          have hvalid : o.socket ≠ invalidSocket := by
            intro hinvalid
            rw [held_of_object ho, SocketObject.held, if_pos hinvalid] at hheld
            cases hheld
          rw [close_of_valid ho hvalid, made_held, put_held]
          rfl

theorem close_object_of_ne (h : j ≠ i) :
    (s.close i).object j = s.object j := by
  unfold close
  split
  · rfl
  · split
    · rfl
    · exact Function.update_of_ne h ..

theorem close_object_none :
    (s.close i).object j = none ↔ s.object j = none := by
  by_cases hji : j = i
  · subst hji
    unfold close
    cases ho : s.object j with
    | none => simp [ho]
    | some o =>
        dsimp only
        split
        · simp [ho]
        · simp
  · rw [close_object_of_ne hji]

theorem Owned.close (h : s.Owned) (i : ι) : (s.close i).Owned := by
  cases hheld : s.held i with
  | none =>
      rw [close_of_invalid hheld]
      exact h
  | some k =>
      have hlive := h.exclusive.live_of_held hheld
      have hlog : (s.close i).log = .closes k :: s.log := by
        cases ho : s.object i with
        | none =>
            rw [held_of_none ho] at hheld
            cases hheld
        | some o =>
            rw [held_of_object ho, SocketObject.held] at hheld
            split at hheld
            · cases hheld
            · rename_i hvalid
              rw [close_of_valid ho hvalid, Option.some.inj hheld]
              rfl
      constructor
      · rw [hlog]
        exact ⟨hlive, h.proper⟩
      · rw [close_held, hlog]
        exact h.exclusive.lose hheld

theorem Owned.create (h : s.Owned) {result : Socket}
    (hresult : (s.close i).Returns result) : (s.create i result).Owned := by
  unfold SocketHeap.create
  cases ho : (s.close i).object i with
  | none => exact h
  | some o =>
      have hheld : (s.close i).held i = none := by
        rw [close_held, Function.update_self]
      have hproper : Proper ([] ++ (s.close i).log) := (h.close i).proper
      refine (h.close i).take (o := { o with socket := result }) hheld
        hresult ?_ rfl hproper
      rw [List.append_nil]
      rfl

theorem Owned.accept (h : s.Owned) (hj : s.held j = none)
    {result : Socket} (hresult : s.Returns result) :
    (s.accept i j result).Owned := by
  unfold SocketHeap.accept
  cases ho : s.object i with
  | none => exact h
  | some o =>
      refine h.take (o := { type := .stream, socket := result }) hj
        hresult rfl ?_ ?_
      · split <;> rfl
      · split
        · exact h.proper
        · rename_i hvalid
          refine ⟨h.exclusive.live_of_held (i := i) ?_, h.proper⟩
          rw [held_of_object ho]
          exact if_neg hvalid

/-- The number of the handle changes hands; the log does not show it. -/
theorem Owned.moveConstruct (h : s.Owned) (hi : s.held i = none) :
    (s.moveConstruct i j).Owned := by
  unfold SocketHeap.moveConstruct
  cases ho : s.object j with
  | none => exact h
  | some o =>
      refine ⟨h.proper, ?_⟩
      rw [put_held, put_held]
      have hmove := h.exclusive.move (i := j) hi
      rwa [held_of_object ho] at hmove

theorem Owned.moveAssign (h : s.Owned) (i j : ι) :
    (s.moveAssign i j).Owned := by
  unfold SocketHeap.moveAssign
  split
  · exact h
  · refine (h.close i).moveConstruct ?_
    rw [close_held, Function.update_self]

theorem Owned.destroy (h : s.Owned) (i : ι) : (s.destroy i).Owned := by
  refine (h.close i).put ?_ rfl
  rw [close_held, Function.update_self]

theorem Owned.step (h : s.Owned) {a : SocketAction ι}
    (hstep : s.step a = some t) : t.Owned := by
  cases a <;>
    obtain ⟨hok, ht⟩ := Option.ite_none_right_eq_some.mp hstep <;>
    obtain rfl := Option.some.inj ht
  case construct i type => exact h.put (held_of_none hok) rfl
  case create i result => exact h.create hok.2
  case callOn i call times => exact h.callOn i call times
  case accept i j result => exact h.accept (held_of_none hok.2.1) hok.2.2.1
  case moveConstruct i j => exact h.moveConstruct (held_of_none hok.1)
  case moveAssign i j => exact h.moveAssign i j
  case close i => exact h.close i
  case destroy i => exact h.destroy i

theorem owned_reachable (h : (system (ι := ι)).Reachable s) : s.Owned := by
  refine h.invariant ?_ fun s a t hs _ hstep => hs.step hstep
  rintro s rfl
  exact owned_empty

/-! ### The frame of a member function -/

theorem works_close (s : SocketHeap ι) (i : ι) : Works i s (s.close i) where
  owned h := h.close i
  calls := by
    unfold close
    split
    · exact List.suffix_rfl
    · split
      · exact List.suffix_rfl
      · exact List.suffix_append ..
  others j hj := close_object_of_ne hj
  alive j := close_object_none

theorem works_create {result : Socket}
    (hresult : (s.close i).Returns result) : Works i s (s.create i result) where
  owned h := h.create hresult
  calls := by
    unfold create
    split
    · exact List.suffix_rfl
    · exact (works_close s i).calls.trans (List.suffix_append ..)
  others j hj := by
    unfold create
    split
    · rfl
    · rw [made_object, put_object, Function.update_of_ne hj]
      exact close_object_of_ne hj
  alive j := by
    unfold create
    cases ho : (s.close i).object i with
    | none => rfl
    | some o =>
        rw [made_object, put_object]
        by_cases hji : j = i
        · subst hji
          rw [Function.update_self, ← close_object_none (i := j), ho]
          simp
        · rw [Function.update_of_ne hji]
          exact close_object_none

/-! ### Objects that come and go -/

theorem construct_held (h : s.held i = none) (type : SocketType) :
    (s.construct i type).held = s.held := by
  rw [construct, put_held, ← Function.update_eq_self i s.held, h]
  simp [held_invalid]

theorem accept_calls {result : Socket} :
    s.calls <:+ (s.accept i j result).calls := by
  unfold accept
  split
  · exact List.suffix_rfl
  · exact List.suffix_append ..

theorem accept_object_of_ne {k : ι} (h : k ≠ j) {result : Socket} :
    (s.accept i j result).object k = s.object k := by
  unfold accept
  split
  · rfl
  · exact Function.update_of_ne h ..

theorem accept_invalid (h : s.held j = none) :
    (s.accept i j invalidSocket).held j = none := by
  unfold accept
  split
  · exact h
  · rw [made_held, put_held, Function.update_self]
    rfl

theorem moveConstruct_calls : (s.moveConstruct i j).calls = s.calls := by
  unfold moveConstruct
  split <;> rfl

theorem moveConstruct_object_of_ne {k : ι} (hi : k ≠ i) (hj : k ≠ j) :
    (s.moveConstruct i j).object k = s.object k := by
  unfold moveConstruct
  split
  · rfl
  · rw [put_object, put_object, Function.update_of_ne hj,
      Function.update_of_ne hi]

/-- What was moved from holds nothing. -/
theorem moveConstruct_source : (s.moveConstruct i j).held j = none := by
  unfold moveConstruct
  split
  · rename_i hnone
    exact held_of_none hnone
  · rw [put_held, Function.update_self]
    rfl

theorem destroy_calls : s.calls <:+ (s.destroy i).calls :=
  (works_close s i).calls

theorem destroy_object : (s.destroy i).object i = none :=
  Function.update_self ..

theorem destroy_object_of_ne (h : j ≠ i) :
    (s.destroy i).object j = s.object j := by
  rw [destroy, put_object, Function.update_of_ne h]
  exact close_object_of_ne h

/-! ## Any program -/

/-- In every sequential program whose handles come from `Create` and
`Accept`: a handle is used and closed only between its opening and its
closing, each handle in use has one owner, and when no object is alive any
more, each opening was closed once. -/
theorem handles_owned (h : (system (ι := ι)).Reachable s) :
    Proper s.log ∧ Exclusive s.held (inUse s.log)
      ∧ ((∀ i, s.object i = none) →
        ∀ k, s.log.count (.opens k) = s.log.count (.closes k)) := by
  have hs := owned_reachable h
  exact ⟨hs.proper, hs.exclusive,
    fun hgone => hs.balanced fun i => held_of_none (hgone i)⟩

end

/-- A listener and two connections, the second under the first one's
number; an object is moved to itself on the way. -/
def serveTwo : List (SocketAction (Fin 4)) :=
  [.construct 0 .stream, .create 0 40, .callOn 0 .bind 1,
    .callOn 0 .listen 1, .accept 0 1 44, .moveConstruct 2 1, .destroy 1,
    .callOn 2 .recv 3, .moveAssign 2 2, .close 2, .callOn 2 .send 1,
    .accept 0 3 44, .moveAssign 2 3, .close 0, .accept 0 1 invalidSocket,
    .destroy 1, .destroy 3, .destroy 2, .destroy 0]

theorem handles_owned_two :
    ∃ s : SocketHeap (Fin 4), Proper s.log ∧ Exclusive s.held (inUse s.log)
      ∧ s.log.count (.opens 44) = 2
      ∧ ∀ k, s.log.count (.opens k) = s.log.count (.closes k) := by
  obtain ⟨s, hs, hp⟩ := Lts.exists_reachable (system (ι := Fin 4)) rfl
    serveTwo (fun s => decide ((∀ i, s.object i = none)
      ∧ s.log.count (.opens 44) = 2)) (by decide)
  obtain ⟨hgone, htwice⟩ := of_decide_eq_true hp
  obtain ⟨hproper, hexclusive, hclosed⟩ := handles_owned hs
  exact ⟨s, hproper, hexclusive, htwice, hclosed hgone⟩

end SocketHeap

end NetworkControl
