import Mathlib.Data.List.Flatten
import Mathlib.Data.List.Perm.Basic
import NetworkControl.Lts

/-!
# Several writers on one stream

Any number of writers, each in the middle of writing one message to the
same stream, over arbitrary messages and elements and independent of any
particular program. A write goes out in pieces: one `send` appends a
nonempty prefix of what is left of one writer's message, and the sends of
different writers interleave freely.

Nothing keeps the messages whole in general. They stay whole under
`Exclusive`, the discipline that a writer sends only while no other
writer is partway through its message: `whole_of_exclusive` gives the
stream as the finished messages followed by a piece of the one under way,
and `quiet_of_exclusive` as exactly the messages begun once nobody is
writing.
-/

namespace SharedStream

variable {μ α : Type*}

/-- A message being written, and what is left of it. -/
structure Call (μ α : Type*) where
  message : μ
  rest : List α
deriving DecidableEq

/-- `calls` are the writes in progress, one per active writer; `started`
and `done` record the order in which messages were begun and finished. -/
structure State (μ α : Type*) where
  written : List α := []
  calls : List (Call μ α) := []
  started : List μ := []
  done : List μ := []
deriving DecidableEq

inductive Action (μ : Type*) where
  | start (message : μ)
  | send (call : Nat) (sent : Nat)
deriving DecidableEq

variable (enc : μ → List α)

/-- One action. `send` needs `0 < sent ≤` what is left; the call whose
last piece this was returns. -/
def step (s : State μ α) : Action μ → Option (State μ α)
  | .start m =>
      if 0 < (enc m).length then
        some { s with
          calls := s.calls ++ [⟨m, enc m⟩]
          started := s.started ++ [m] }
      else none
  | .send n sent =>
      match s.calls[n]? with
      | none => none
      | some call =>
          if 0 < sent ∧ sent ≤ call.rest.length then
            if sent = call.rest.length then
              some { s with
                written := s.written ++ call.rest
                calls := s.calls.eraseIdx n
                done := s.done ++ [call.message] }
            else
              some { s with
                written := s.written ++ call.rest.take sent
                calls := s.calls.set n
                  { call with rest := call.rest.drop sent } }
          else none

def system : Lts (State μ α) (Action μ) where
  init s := s = {}
  step := step enc

/-- The writer has not sent anything of its message yet. -/
def Untouched (call : Call μ α) : Prop := call.rest = enc call.message

instance [DecidableEq α] (call : Call μ α) : Decidable (Untouched enc call) :=
  inferInstanceAs (Decidable (_ = _))

/-- A send happens only while no other writer is partway. -/
def Exclusive (s : State μ α) : Action μ → Prop
  | .start _ => True
  | .send n _ => ∀ call ∈ s.calls.eraseIdx n, Untouched enc call

instance [DecidableEq α] (s : State μ α) (a : Action μ) :
    Decidable (Exclusive enc s a) :=
  match a with
  | .start _ => .isTrue trivial
  | .send n _ => inferInstanceAs (Decidable (∀ call ∈ s.calls.eraseIdx n, _))

variable {enc} {s t : State μ α}

/-- What a step can do. -/
theorem step_cases {a : Action μ} (h : step enc s a = some t) :
    (∃ m, a = .start m ∧ 0 < (enc m).length
      ∧ t = { s with
          calls := s.calls ++ [⟨m, enc m⟩]
          started := s.started ++ [m] })
    ∨ (∃ n call, a = .send n call.rest.length ∧ s.calls[n]? = some call
      ∧ t = { s with
          written := s.written ++ call.rest
          calls := s.calls.eraseIdx n
          done := s.done ++ [call.message] })
    ∨ ∃ n sent call, a = .send n sent ∧ s.calls[n]? = some call
      ∧ 0 < sent ∧ sent < call.rest.length
      ∧ t = { s with
          written := s.written ++ call.rest.take sent
          calls := s.calls.set n { call with rest := call.rest.drop sent } } := by
  cases a with
  | start m =>
      simp only [step] at h
      split at h
      · rename_i hpos
        exact Or.inl ⟨m, rfl, hpos, (Option.some.inj h).symm⟩
      · cases h
  | send n sent =>
      simp only [step] at h
      split at h
      · cases h
      · rename_i call hcall
        split at h
        · rename_i hsent
          split at h
          · rename_i hall
            subst hall
            exact Or.inr (Or.inl ⟨n, call, rfl, hcall,
              (Option.some.inj h).symm⟩)
          · rename_i hsome
            exact Or.inr (Or.inr ⟨n, sent, call, rfl, hcall, hsent.1,
              Nat.lt_of_le_of_ne hsent.2 hsome, (Option.some.inj h).symm⟩)
        · cases h

/-! ## Every message is accounted for -/

theorem perm_cons_eraseIdx {β : Type*} {l : List β} {n : Nat} {x : β}
    (h : l[n]? = some x) : (x :: l.eraseIdx n).Perm l := by
  obtain ⟨hlt, rfl⟩ := List.getElem?_eq_some_iff.mp h
  exact List.getElem_cons_eraseIdx_perm hlt

/-- The messages begun are those finished and those in progress. -/
def Accounted (s : State μ α) : Prop :=
  s.started.Perm (s.done ++ s.calls.map Call.message)

theorem step_accounted {a : Action μ} (hs : Accounted s)
    (h : step enc s a = some t) : Accounted t := by
  rcases step_cases h with ⟨m, -, -, rfl⟩ | ⟨n, call, -, hcall, rfl⟩
    | ⟨n, sent, call, -, hcall, -, -, rfl⟩
  · have happ := hs.append_right [m]
    simpa [Accounted] using happ
  · have hperm := (perm_cons_eraseIdx hcall).map Call.message
    rw [Accounted, List.append_assoc]
    exact hs.trans (hperm.symm.append_left s.done)
  · have hset : (s.calls.set n { call with rest := call.rest.drop sent }).map
        Call.message = s.calls.map Call.message := by
      obtain ⟨hlt, rfl⟩ := List.getElem?_eq_some_iff.mp hcall
      rw [List.map_set]
      exact List.ext_getElem (by simp) fun j hj hj' => by
        rw [List.getElem_set]
        split <;> simp_all
    rw [Accounted, hset]
    exact hs

/-! ## Exclusive writers keep messages whole -/

/-- The stream is the finished messages and then `piece`, the part of the
one message under way; nobody else has sent anything. -/
def Whole (enc : μ → List α) (s : State μ α) : Prop :=
  ∃ piece, s.written = s.done.flatMap enc ++ piece
    ∧ ((piece = [] ∧ ∀ call ∈ s.calls, Untouched enc call)
      ∨ ∃ n call, s.calls[n]? = some call
        ∧ piece ++ call.rest = enc call.message
        ∧ ∀ other ∈ s.calls.eraseIdx n, Untouched enc other)

/-- Under the discipline the piece on the stream belongs to the sender. -/
theorem Whole.sender (hs : Whole enc s) {n : Nat} {call : Call μ α}
    (hcall : s.calls[n]? = some call)
    (hok : ∀ other ∈ s.calls.eraseIdx n, Untouched enc other) :
    ∃ piece, s.written = s.done.flatMap enc ++ piece
      ∧ piece ++ call.rest = enc call.message := by
  obtain ⟨piece, hwritten, ⟨rfl, hall⟩ | ⟨k, other, hother, hpiece, hrest⟩⟩ :=
    hs
  · exact ⟨[], hwritten, hall call (List.mem_of_getElem? hcall)⟩
  · by_cases hk : k = n
    · subst hk
      obtain rfl : other = call := Option.some.inj (hother.symm.trans hcall)
      exact ⟨piece, hwritten, hpiece⟩
    · -- two different writers: neither has sent anything
      have huntouched : other.rest = enc other.message :=
        hok other (List.mem_eraseIdx_iff_getElem?.mpr ⟨k, hk, hother⟩)
      rw [← huntouched] at hpiece
      obtain rfl : piece = [] := List.append_left_eq_self.mp hpiece
      exact ⟨[], hwritten, hrest call
        (List.mem_eraseIdx_iff_getElem?.mpr ⟨n, Ne.symm hk, hcall⟩)⟩

theorem step_whole {a : Action μ} (hs : Whole enc s)
    (hok : Exclusive enc s a) (h : step enc s a = some t) : Whole enc t := by
  rcases step_cases h with ⟨m, rfl, -, rfl⟩ | ⟨n, call, rfl, hcall, rfl⟩
    | ⟨n, sent, call, rfl, hcall, -, -, rfl⟩
  · obtain ⟨piece, hwritten, ⟨rfl, hall⟩ | ⟨k, other, hother, hpiece, hrest⟩⟩ :=
      hs
    · refine ⟨[], hwritten, Or.inl ⟨rfl, fun call hcall => ?_⟩⟩
      rcases List.mem_append.mp hcall with hold | hnew
      · exact hall call hold
      · obtain rfl := List.mem_singleton.mp hnew
        rfl
    · have hlt := (List.getElem?_eq_some_iff.mp hother).1
      refine ⟨piece, hwritten, Or.inr ⟨k, other, ?_, hpiece, fun d hd => ?_⟩⟩
      · rw [List.getElem?_append_left hlt]
        exact hother
      · rw [List.eraseIdx_append_of_lt_length hlt] at hd
        rcases List.mem_append.mp hd with hold | hnew
        · exact hrest d hold
        · obtain rfl := List.mem_singleton.mp hnew
          rfl
  · obtain ⟨piece, hwritten, hpiece⟩ := hs.sender hcall hok
    refine ⟨[], ?_, Or.inl ⟨rfl, hok⟩⟩
    rw [hwritten, List.append_assoc, hpiece, List.flatMap_append,
      List.append_nil, List.flatMap_singleton]
  · obtain ⟨piece, hwritten, hpiece⟩ := hs.sender hcall hok
    have hlt := (List.getElem?_eq_some_iff.mp hcall).1
    refine ⟨piece ++ call.rest.take sent, ?_, Or.inr
      ⟨n, _, List.getElem?_set_self hlt, ?_, ?_⟩⟩
    · rw [hwritten, List.append_assoc]
    · rw [List.append_assoc, List.take_append_drop]
      exact hpiece
    · rw [List.eraseIdx_set_eq]
      exact hok

theorem whole_of_exclusive
    (h : (system enc).ReachableUnder (Exclusive enc) s) : Whole enc s := by
  refine h.invariant ?_ fun _ _ _ hs hok hstep => step_whole hs hok hstep
  rintro _ rfl
  exact ⟨[], rfl, Or.inl ⟨rfl, fun call hcall => nomatch hcall⟩⟩

theorem accounted_of_reachable {ok : State μ α → Action μ → Prop}
    (h : (system enc).ReachableUnder ok s) : Accounted s := by
  refine h.invariant ?_ fun _ _ _ hs _ hstep => step_accounted hs hstep
  rintro _ rfl
  exact List.Perm.refl _

/-- When nobody is writing, the stream is exactly the finished messages,
and these are all that were ever begun. -/
theorem quiet_of_exclusive
    (h : (system enc).ReachableUnder (Exclusive enc) s)
    (hquiet : s.calls = []) :
    s.written = s.done.flatMap enc ∧ s.done.Perm s.started := by
  obtain ⟨piece, hwritten, ⟨rfl, -⟩ | ⟨k, call, hcall, -⟩⟩ :=
    whole_of_exclusive h
  · refine ⟨by rw [hwritten, List.append_nil], ?_⟩
    have hacc := accounted_of_reachable h
    rw [Accounted, hquiet, List.map_nil, List.append_nil] at hacc
    exact hacc.symm
  · rw [hquiet] at hcall
    cases hcall

end SharedStream
