import Mathlib.Data.List.DropRight

/-!
# Texts in lines

Two things a reader of line-based text does, for any characters.

- `trim` takes off both ends whatever satisfies `p`. A character that does
  not satisfy it is where both stop (`trim_append_stop`).
- A text made of lines, each with its own line end and the last perhaps
  without one (`Lines`), splits at the newlines into these lines, give or
  take a carriage return (`foldl_splitOn`).
-/

namespace TextLines

/-! ## Trimming -/

section

variable {α : Type*} (p : α → Bool)

def trim (l : List α) : List α := (l.dropWhile p).rdropWhile p

variable {p} {l m : List α} {x : α}

theorem dropWhile_append_stop (l : List α) (hx : p x = false) (m : List α) :
    (l ++ x :: m).dropWhile p = l.dropWhile p ++ x :: m := by
  induction l with
  | nil => exact List.dropWhile_cons_of_neg (by simp [hx])
  | cons a l ih =>
      rw [List.cons_append, List.dropWhile_cons, List.dropWhile_cons]
      split
      · exact ih
      · rfl

theorem rdropWhile_append_stop (l : List α) (hx : p x = false) (m : List α) :
    (l ++ x :: m).rdropWhile p = l ++ x :: m.rdropWhile p := by
  unfold List.rdropWhile
  rw [List.reverse_append, List.reverse_cons, List.append_assoc,
    List.singleton_append, dropWhile_append_stop _ hx, List.reverse_append,
    List.reverse_cons, List.reverse_reverse, List.append_assoc,
    List.singleton_append]

theorem trim_append_stop (l : List α) (hx : p x = false) (m : List α) :
    trim p (l ++ x :: m) = l.dropWhile p ++ x :: m.rdropWhile p := by
  unfold trim
  rw [dropWhile_append_stop l hx, rdropWhile_append_stop _ hx]

theorem trim_dropWhile (l : List α) : trim p (l.dropWhile p) = trim p l := by
  unfold trim
  rw [List.dropWhile_idempotent]

theorem trim_append_left (h : ∀ y ∈ l, p y = true) (m : List α) :
    trim p (l ++ m) = trim p m := by
  unfold trim
  rw [List.dropWhile_append_of_pos h]

theorem trim_append_right (l : List α) (h : ∀ y ∈ m, p y = true) :
    trim p (l ++ m) = trim p l := by
  unfold trim
  rw [List.dropWhile_append]
  split
  · rename_i hempty
    rw [List.isEmpty_iff] at hempty
    rw [hempty, List.dropWhile_eq_nil_iff.mpr h]
  · unfold List.rdropWhile
    rw [List.reverse_append, List.dropWhile_append_of_pos]
    intro y hy
    exact h y (List.mem_reverse.mp hy)

theorem trim_rdropWhile (l : List α) : trim p (l.rdropWhile p) = trim p l := by
  have hsplit : l.rdropWhile p ++ l.rtakeWhile p = l :=
    List.rdropWhile_append_rtakeWhile
  calc trim p (l.rdropWhile p)
      = trim p (l.rdropWhile p ++ l.rtakeWhile p) :=
        (trim_append_right _ fun _ hy => List.mem_rtakeWhile_imp hy).symm
    _ = trim p l := by rw [hsplit]

theorem dropWhile_eq_self (h : ∀ y ∈ l.head?, p y = false) :
    l.dropWhile p = l := by
  cases l with
  | nil => rfl
  | cons a l =>
      exact List.dropWhile_cons_of_neg (by simp [h a rfl])

theorem rdropWhile_eq_self (h : ∀ y ∈ l.getLast?, p y = false) :
    l.rdropWhile p = l := by
  refine List.rdropWhile_eq_self_iff.mpr fun hl => ?_
  rw [h _ (List.getLast?_eq_some_getLast hl)]
  exact Bool.false_ne_true

/-- Nothing to take off at either end. -/
theorem trim_eq_self (hhead : ∀ y ∈ l.head?, p y = false)
    (hlast : ∀ y ∈ l.getLast?, p y = false) : trim p l = l := by
  unfold trim
  rw [dropWhile_eq_self hhead, rdropWhile_eq_self hlast]

/-- A text that does not vanish keeps its first character. -/
theorem head?_trim (l : List α) : (trim p l).head? = (l.dropWhile p).head? := by
  unfold trim
  cases h : l.dropWhile p with
  | nil => rfl
  | cons a m =>
      have ha : p a = false := by
        have hnot := List.head?_dropWhile_not p l
        rw [h] at hnot
        simpa using hnot
      rw [show a :: m = [] ++ a :: m from rfl, rdropWhile_append_stop [] ha]
      rfl

/-- What is trimmed was there before. -/
theorem mem_of_mem_trim {y : α} (h : y ∈ trim p l) : y ∈ l :=
  (List.dropWhile_sublist p).subset
    ((List.rdropWhile_prefix p _).subset h)

end

/-! ## Lines -/

inductive LineEnd where
  | lf
  | crlf
deriving DecidableEq, Repr

def LineEnd.text : LineEnd → List Char
  | .lf => ['\n']
  | .crlf => ['\r', '\n']

/-- `contents` is made of `lines`. -/
inductive Lines : List (List Char) → List Char → Prop
  | nil : Lines [] []
  | last (line : List Char) : Lines [line] line
  | cons (line : List Char) (lineEnd : LineEnd) {lines : List (List Char)}
      {rest : List Char} (h : Lines lines rest) :
      Lines (line :: lines) (line ++ (lineEnd.text ++ rest))

/-- A fold that looks at no carriage return and at no empty line sees the
lines the text is made of. -/
theorem foldl_splitOn {β : Type*} {f : β → List Char → β}
    (hempty : ∀ b, f b [] = b)
    (hreturn : ∀ b line, f b (line ++ ['\r']) = f b line)
    {lines : List (List Char)} {contents : List Char}
    (h : Lines lines contents) (hlines : ∀ line ∈ lines, '\n' ∉ line)
    (b : β) :
    (contents.splitOn '\n').foldl f b = lines.foldl f b := by
  induction h generalizing b with
  | nil => exact hempty b
  | last line =>
      rw [List.splitOn_eq_singleton (hlines line List.mem_cons_self)]
  | @cons line lineEnd lines rest h ih =>
      have hline : '\n' ∉ line := hlines line List.mem_cons_self
      have hrest := ih fun line' hmem =>
        hlines line' (List.mem_cons_of_mem _ hmem)
      cases lineEnd with
      | lf =>
          show ((line ++ '\n' :: rest).splitOn '\n').foldl f b = _
          rw [List.splitOn_append_cons_self_of_not_mem hline,
            List.foldl_cons, List.foldl_cons, hrest]
      | crlf =>
          have hreturned : '\n' ∉ line ++ ['\r'] := by
            rw [List.mem_append, not_or]
            exact ⟨hline, by decide⟩
          have hsplit : line ++ (LineEnd.crlf.text ++ rest)
              = (line ++ ['\r']) ++ '\n' :: rest := by
            rw [List.append_assoc]
            rfl
          rw [hsplit, List.splitOn_append_cons_self_of_not_mem hreturned,
            List.foldl_cons, List.foldl_cons, hrest, hreturn]

end TextLines
