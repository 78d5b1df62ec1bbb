import NetworkControl.Framing

/-!
# Reading, one element at a time

Headed messages over an arbitrary element type, independent of any
particular program: the header says how much payload follows, and acting
on a message says whether to go on. A `Reader` fed one element at a time
cannot see how a network cuts its stream; `Follows` says of a loop that
blocks for whole pieces that it does what the reader does, on any stream
whatsoever. `Follows.iterate` is the rule: the loop has consumed a prefix
and done what the reader does with it, and `Follows.ended` that it ends
when the stream does.
-/

namespace Framing

variable {α σ τ μ : Type*}

/-- `act` is told the header and the payload; its first component says
whether to go on. -/
structure Reader (α τ : Type*) where
  size : α → Nat
  act : τ → α → List α → Bool × τ

/-- A reader between two elements. -/
inductive Scan (α τ : Type*) where
  | header (t : τ)
  | payload (t : τ) (h : α) (received : List α)
  | ended (t : τ)
deriving DecidableEq

def Scan.value : Scan α τ → τ
  | header t | payload t _ _ | ended t => t

namespace Reader

def after : Bool × τ → Scan α τ
  | (true, t) => .header t
  | (false, t) => .ended t

@[simp] theorem after_value (result : Bool × τ) :
    (after (α := α) result).value = result.2 := by
  rcases result with ⟨_ | _, t⟩ <;> rfl

variable (R : Reader α τ)

def feed : Scan α τ → α → Scan α τ
  | .header t, h =>
      if R.size h = 0 then after (R.act t h []) else .payload t h []
  | .payload t h received, a =>
      if received.length + 1 = R.size h then
        after (R.act t h (received ++ [a]))
      else .payload t h (received ++ [a])
  | .ended t, _ => .ended t

/-- The stream, from a header on. -/
def feedAll (t : τ) (stream : List α) : Scan α τ :=
  stream.foldl R.feed (.header t)

theorem feedAll_append (t : τ) (xs ys : List α) :
    R.feedAll t (xs ++ ys) = ys.foldl R.feed (R.feedAll t xs) :=
  List.foldl_append

theorem foldl_ended (t : τ) (xs : List α) :
    xs.foldl R.feed (.ended t) = .ended t := by
  induction xs with
  | nil => rfl
  | cons x xs ih => exact ih

theorem foldl_payload_short (t : τ) (h : α) (xs : List α) :
    ∀ received : List α, received.length + xs.length < R.size h →
      xs.foldl R.feed (.payload t h received)
        = .payload t h (received ++ xs) := by
  induction xs with
  | nil => intro received _; simp
  | cons x xs ih =>
      intro received hshort
      rw [List.length_cons] at hshort
      have hnext : R.feed (.payload t h received) x
          = .payload t h (received ++ [x]) := if_neg (by omega)
      rw [List.foldl_cons, hnext, ih _ (by simp; omega), List.append_assoc,
        List.singleton_append]

theorem foldl_payload_whole (t : τ) (h : α) {xs received : List α}
    (hne : xs ≠ []) (hlen : received.length + xs.length = R.size h) :
    xs.foldl R.feed (.payload t h received)
      = after (R.act t h (received ++ xs)) := by
  rcases List.eq_nil_or_concat' xs with rfl | ⟨ys, x, rfl⟩
  · exact absurd rfl hne
  · rw [List.length_append, List.length_singleton] at hlen
    rw [List.foldl_append, R.foldl_payload_short t h ys received (by omega),
      ← List.append_assoc]
    exact if_pos (by rw [List.length_append]; omega)

/-- A message that is not there in full does nothing. -/
theorem feedAll_short (t : τ) {h : α} {rest : List α}
    (hshort : rest.length < R.size h) :
    (R.feedAll t (h :: rest)).value = t := by
  have hheader : R.feed (.header t) h = .payload t h [] :=
    if_neg (Nat.ne_zero_of_lt hshort)
  rw [feedAll, List.foldl_cons, hheader,
    R.foldl_payload_short t h rest [] (by simpa using hshort)]
  rfl

/-- One that is acts. -/
theorem feedAll_whole (t : τ) {h : α} {body : List α}
    (hlen : body.length = R.size h) :
    R.feedAll t (h :: body) = after (R.act t h body) := by
  rw [feedAll, List.foldl_cons]
  rcases List.eq_nil_or_concat' body with rfl | ⟨xs, x, rfl⟩
  · exact if_pos hlen.symm
  · have hheader : R.feed (.header t) h = .payload t h [] :=
      if_neg (by rw [← hlen, List.length_append]; simp)
    rw [hheader, R.foldl_payload_whole t h (by simp) (by simpa using hlen),
      List.nil_append]

end Reader

/-! ## A loop that blocks for whole pieces -/

/-- One call of `next` does what `R` does with the next message, or ends
on what is left of the stream. -/
structure Follows (R : Reader α τ) (Ready Ended : σ → Prop)
    (pending : σ → List α) (view : σ → τ) (next : σ → σ) : Prop where
  stays : ∀ s, Ended s → next s = s
  atEnd : ∀ s, Ready s → pending s = [] →
    Ended (next s) ∧ view (next s) = view s
  short : ∀ s h rest, Ready s → pending s = h :: rest →
    rest.length < R.size h → Ended (next s) ∧ view (next s) = view s
  goesOn : ∀ s h body rest, Ready s → pending s = h :: (body ++ rest) →
    body.length = R.size h → (R.act (view s) h body).1 = true →
      Ready (next s) ∧ view (next s) = (R.act (view s) h body).2
        ∧ pending (next s) = rest
  givesUp : ∀ s h body rest, Ready s → pending s = h :: (body ++ rest) →
    body.length = R.size h → (R.act (view s) h body).1 = false →
      Ended (next s) ∧ view (next s) = (R.act (view s) h body).2

/-- After `k` calls from `s₀` the loop is still `reading`, with `consumed`
off the stream and done, or it is `finished`, with all of the stream. -/
inductive Follows.At (R : Reader α τ) (Ready Ended : σ → Prop)
    (pending : σ → List α) (view : σ → τ) (s₀ : σ) (k : Nat) (s : σ) :
    Prop where
  | reading (consumed : List α) (ready : Ready s) (least : k ≤ consumed.length)
      (split : pending s₀ = consumed ++ pending s)
      (done : R.feedAll (view s₀) consumed = .header (view s))
  | finished (ended : Ended s)
      (done : (R.feedAll (view s₀) (pending s₀)).value = view s)

namespace Follows

variable {R : Reader α τ} {Ready Ended : σ → Prop} {pending : σ → List α}
  {view : σ → τ} {next : σ → σ} {s₀ s : σ} {k : Nat}

theorem at_next (h : Follows R Ready Ended pending view next)
    (hs : At R Ready Ended pending view s₀ k s) :
    At R Ready Ended pending view s₀ (k + 1) (next s) := by
  cases hs with
  | finished hended hdone =>
      rw [h.stays s hended]
      exact .finished hended hdone
  | reading consumed hready hleast hsplit hdone =>
      -- by what is left of the stream
      rcases hpending : pending s with _ | ⟨header, rest⟩
      · obtain ⟨hended, hview⟩ := h.atEnd s hready hpending
        refine .finished hended ?_
        rw [hsplit, hpending, List.append_nil, hdone, hview]
        rfl
      · have hall : R.feedAll (view s₀) (pending s₀)
            = R.feedAll (view s) (header :: rest) := by
          rw [hsplit, hpending, R.feedAll_append, hdone]
          rfl
        by_cases hshort : rest.length < R.size header
        · obtain ⟨hended, hview⟩ := h.short s header rest hready hpending hshort
          refine .finished hended ?_
          rw [hall, R.feedAll_short _ hshort, hview]
        · have hlen : (rest.take (R.size header)).length = R.size header := by
            rw [List.length_take]
            omega
          have hmessage : pending s = header :: (rest.take (R.size header)
              ++ rest.drop (R.size header)) := by
            rw [hpending, List.take_append_drop]
          have hacted := R.feedAll_whole (view s) hlen
          rcases hact : R.act (view s) header (rest.take (R.size header)) with
            ⟨_ | _, t⟩
          · obtain ⟨hended, hview⟩ := h.givesUp s header _ _ hready
              hmessage hlen (by rw [hact])
            refine .finished hended ?_
            rw [hall, ← List.take_append_drop (R.size header) rest,
              ← List.cons_append, R.feedAll_append, hacted, hview, hact]
            exact congrArg Scan.value (R.foldl_ended t _)
          · obtain ⟨hready', hview, hrest⟩ := h.goesOn s header _ _ hready
              hmessage hlen (by rw [hact])
            refine .reading (consumed ++ header :: rest.take (R.size header))
              hready' ?_ ?_ ?_
            · rw [List.length_append, List.length_cons]
              omega
            · rw [hsplit, hmessage, hrest, List.append_assoc, List.cons_append]
            · rw [R.feedAll_append, hdone, hview, hact]
              exact hacted.trans (by rw [hact]; rfl)

/-- Reading any stream. -/
theorem iterate (h : Follows R Ready Ended pending view next)
    (hready : Ready s₀) :
    ∀ k, At R Ready Ended pending view s₀ k (next^[k] s₀)
  | 0 => .reading [] hready (Nat.zero_le _) rfl rfl
  | k + 1 => by
      rw [Function.iterate_succ_apply']
      exact h.at_next (h.iterate hready k)

/-- The stream's end ends the loop: no call reads less than a header. -/
theorem ended (h : Follows R Ready Ended pending view next)
    (hready : Ready s₀) (hk : (pending s₀).length < k) :
    Ended (next^[k] s₀)
      ∧ view (next^[k] s₀) = (R.feedAll (view s₀) (pending s₀)).value := by
  cases h.iterate hready k with
  | reading consumed _ hleast hsplit _ =>
      rw [hsplit, List.length_append] at hk
      omega
  | finished hended hdone => exact ⟨hended, hdone.symm⟩

end Follows

/-! ## A stream of messages, broken off -/

/-- The messages that lie within the first `n` elements. -/
def whole (enc : μ → List α) : Nat → List μ → List μ
  | _, [] => []
  | n, m :: ms =>
      if (enc m).length ≤ n then m :: whole enc (n - (enc m).length) ms else []

/-- Encoded messages are headed ones, on which `R` acts as `f`. -/
def Reader.Decodes (R : Reader α τ) (enc : μ → List α) (f : τ → μ → τ) :
    Prop :=
  ∀ t m, ∃ h body, enc m = h :: body ∧ body.length = R.size h
    ∧ R.act t h body = (true, f t m)

/-- Wherever the stream breaks off, the messages before are done and the
one it breaks does nothing. -/
theorem Reader.Decodes.feedAll_take {R : Reader α τ} {enc : μ → List α}
    {f : τ → μ → τ} (h : R.Decodes enc f) (ms : List μ) :
    ∀ (t : τ) (n : Nat), (R.feedAll t ((ms.flatMap enc).take n)).value
      = (whole enc n ms).foldl f t := by
  induction ms with
  | nil =>
      intro t n
      rw [List.flatMap_nil, List.take_nil]
      rfl
  | cons m ms ih =>
      intro t n
      obtain ⟨header, body, henc, hlen, hact⟩ := h t m
      rw [List.flatMap_cons, whole]
      split
      · rename_i hle
        rw [List.take_append, List.take_of_length_le hle, R.feedAll_append,
          List.foldl_cons, ← ih, henc, R.feedAll_whole t hlen, hact]
        rfl
      · rename_i hgt
        rw [List.take_append_of_le_length (by omega), henc]
        cases n with
        | zero => rfl
        | succ n =>
            rw [henc, List.length_cons] at hgt
            rw [List.take_succ_cons]
            refine R.feedAll_short t ?_
            rw [List.length_take]
            omega

end Framing
