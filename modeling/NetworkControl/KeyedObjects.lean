import Mathlib.Data.List.AList
import Mathlib.Data.List.Induction
import Mathlib.Data.List.Nodup

/-!
# Objects in a list and in a dictionary

Mutable objects kept twice by reference: in a list, for whoever shows them,
and in a dictionary, for whoever looks one up by its key. The objects
themselves are on a heap that only grows; two references are the same
object if they are the same number.

The two sides can drift apart, since each operation changes both.
`InStep` says that they have not, and every operation keeps it. What an
operation does is said on two levels: to the references (`find`) and to
the objects found by their keys (`valueAt`).
-/

structure KeyedObjects (K V : Type*) where
  objects : List V := []
  lookup : AList fun _ : K => Nat := ∅
  shown : List Nat := []

namespace KeyedObjects

variable {K V E : Type*} [DecidableEq K]

section

variable (t : KeyedObjects K V)

/-- The reference the dictionary has for a key. -/
def find (k : K) : Option Nat := t.lookup.lookup k

def valueAt (k : K) : Option V := (t.find k).bind fun ref => t.objects[ref]?

/-- The objects of the list, in order. -/
def items : List V := t.shown.filterMap fun ref => t.objects[ref]?

/-! ## Operations -/

/-- A new object goes to the end of the list. -/
def add (k : K) (v : V) : KeyedObjects K V where
  objects := t.objects ++ [v]
  lookup := t.lookup.insert k t.objects.length
  shown := t.shown ++ [t.objects.length]

def findOrAdd (k : K) (v : V) : Nat × KeyedObjects K V :=
  match t.find k with
  | some ref => (ref, t)
  | none => (t.objects.length, t.add k v)

def modify (ref : Nat) (f : V → V) : KeyedObjects K V :=
  { t with objects := t.objects.modify ref f }

/-- The object under a key is changed, a new one where there is none. -/
def upsert (k : K) (v : V) (f : V → V) : KeyedObjects K V :=
  let (ref, t) := t.findOrAdd k v
  t.modify ref f

def upsertAll (keyOf : E → K) (new : E → V) (f : E → V → V)
    (entries : List E) : KeyedObjects K V :=
  entries.foldl (fun t e => t.upsert (keyOf e) (new e) (f e)) t

def remove (k : K) : KeyedObjects K V :=
  match t.find k with
  | some ref =>
      { t with lookup := t.lookup.erase k, shown := t.shown.erase ref }
  | none => t

def removeAll (ks : List K) : KeyedObjects K V := ks.foldl remove t

/-- The references the dictionary has. -/
def refs : List Nat := t.lookup.entries.map fun entry => entry.2

def modifyAll (f : V → V) : KeyedObjects K V :=
  { t with
    objects := t.refs.foldl (fun objects ref => objects.modify ref f)
      t.objects }

def clear : KeyedObjects K V := { t with lookup := ∅, shown := [] }

end

/-! ## The references -/

variable {t : KeyedObjects K V} {k k' : K} {v : V} {f : V → V} {ref : Nat}

theorem mem_lookup_iff : k ∈ t.lookup ↔ ∃ ref, t.find k = some ref := by
  rw [← AList.lookup_isSome, Option.isSome_iff_exists]
  rfl

theorem ne_of_find (hk : t.find k = none) (hk' : t.find k' = some ref) :
    k' ≠ k := by
  rintro rfl
  rw [hk] at hk'
  cases hk'

theorem find_add (k' : K) : (t.add k v).find k'
    = if k' = k then some t.objects.length else t.find k' := by
  unfold find add
  split
  · rename_i hk
    rw [hk, AList.lookup_insert]
  · rename_i hk
    rw [AList.lookup_insert_ne hk]

theorem find_findOrAdd (k' : K) : (t.findOrAdd k v).2.find k'
    = if k' = k then some (t.findOrAdd k v).1 else t.find k' := by
  unfold findOrAdd
  split
  · rename_i ref href
    split
    · rename_i hk
      rw [hk, href]
    · rfl
  · exact find_add k'

/-- An object that was there stays the same object. -/
theorem find_upsert_of_some (h : t.find k' = some ref) :
    (t.upsert k v f).find k' = some ref := by
  refine (find_findOrAdd k').trans ?_
  split
  · rename_i hk
    subst hk
    unfold findOrAdd
    rw [h]
  · exact h

theorem mem_upsert : k' ∈ (t.upsert k v f).lookup
    ↔ k' = k ∨ k' ∈ t.lookup := by
  have hfind : (t.upsert k v f).find k' = _ := find_findOrAdd k'
  rw [mem_lookup_iff, mem_lookup_iff, hfind]
  split
  · rename_i hk
    exact iff_of_true ⟨_, rfl⟩ (.inl hk)
  · rename_i hk
    exact (or_iff_right hk).symm

theorem find_remove (k' : K) : (t.remove k).find k'
    = if k' = k then none else t.find k' := by
  unfold remove
  split
  · rename_i ref href
    unfold find
    dsimp only
    split
    · rename_i hk
      rw [hk, AList.lookup_erase]
    · rename_i hk
      rw [AList.lookup_erase_ne hk]
  · rename_i hnone
    split
    · rename_i hk
      rw [hk, hnone]
    · rfl

/-- Who has another reference to it still sees the object. -/
theorem objects_remove (t : KeyedObjects K V) (k : K) :
    (t.remove k).objects = t.objects := by
  unfold remove
  split <;> rfl

theorem removeAll_concat (ks : List K) (k : K) :
    t.removeAll (ks ++ [k]) = (t.removeAll ks).remove k := by
  rw [removeAll, List.foldl_append, ← removeAll]
  rfl

theorem find_removeAll (ks : List K) (k' : K) : (t.removeAll ks).find k'
    = if k' ∈ ks then none else t.find k' := by
  induction ks using List.reverseRecOn with
  | nil => rw [if_neg List.not_mem_nil]; rfl
  | append_singleton ks k ih =>
      rw [removeAll_concat, find_remove, ih]
      by_cases hk : k' = k <;> by_cases hks : k' ∈ ks <;> simp [hk, hks]

theorem objects_removeAll (ks : List K) :
    (t.removeAll ks).objects = t.objects := by
  induction ks using List.reverseRecOn with
  | nil => rfl
  | append_singleton ks k ih => rw [removeAll_concat, objects_remove, ih]

section

variable {keyOf : E → K} {new : E → V} {g : E → V → V} {entries : List E}

theorem upsertAll_concat (e : E) :
    t.upsertAll keyOf new g (entries ++ [e])
      = (t.upsertAll keyOf new g entries).upsert (keyOf e) (new e) (g e) := by
  rw [upsertAll, List.foldl_append, ← upsertAll]
  rfl

theorem find_upsertAll_of_some (h : t.find k = some ref) :
    (t.upsertAll keyOf new g entries).find k = some ref := by
  induction entries using List.reverseRecOn with
  | nil => exact h
  | append_singleton entries e ih =>
      rw [upsertAll_concat]
      exact find_upsert_of_some ih

theorem mem_upsertAll : k ∈ (t.upsertAll keyOf new g entries).lookup
    ↔ k ∈ entries.map keyOf ∨ k ∈ t.lookup := by
  induction entries using List.reverseRecOn with
  | nil => exact (or_iff_right List.not_mem_nil).symm
  | append_singleton entries e ih =>
      rw [upsertAll_concat, mem_upsert, ih, List.map_append, List.mem_append,
        List.map_singleton, List.mem_singleton, or_left_comm, or_assoc]

end

/-! ## In step -/

/-- The list has what the dictionary has and has it once, and every object
is found under its own key. -/
structure InStep (key : V → K) (t : KeyedObjects K V) : Prop where
  nodup : t.shown.Nodup
  mem_shown : ∀ ref, ref ∈ t.shown ↔ ∃ k, t.find k = some ref
  keyed : ∀ k ref, t.find k = some ref →
    ∃ v, t.objects[ref]? = some v ∧ key v = k

namespace InStep

variable {key : V → K}

theorem clear (t : KeyedObjects K V) : t.clear.InStep key where
  nodup := List.nodup_nil
  mem_shown _ := iff_of_false List.not_mem_nil fun ⟨_, h⟩ => nomatch h
  keyed _ _ h := nomatch h

theorem empty : ({} : KeyedObjects K V).InStep key := clear {}

theorem lookup_eq_empty (h : t.InStep key) (hshown : t.shown = []) :
    t.lookup = ∅ := by
  have hkeys : t.lookup.keys = [] := by
    refine List.eq_nil_iff_forall_not_mem.mpr fun k hk => ?_
    obtain ⟨ref, href⟩ := mem_lookup_iff.mp hk
    have hmem := (h.mem_shown ref).mpr ⟨k, href⟩
    rw [hshown] at hmem
    cases hmem
  exact AList.ext (List.map_eq_nil_iff.mp hkeys)

theorem ref_lt (h : t.InStep key) (href : t.find k = some ref) :
    ref < t.objects.length := by
  obtain ⟨v, hv, -⟩ := h.keyed k ref href
  exact (List.getElem?_eq_some_iff.mp hv).1

/-- One object has one key. -/
theorem key_unique (h : t.InStep key) (href : t.find k = some ref)
    (href' : t.find k' = some ref) : k = k' := by
  obtain ⟨v, hv, hk⟩ := h.keyed k ref href
  obtain ⟨v', hv', hk'⟩ := h.keyed k' ref href'
  obtain rfl := Option.some.inj (hv.symm.trans hv')
  exact hk.symm.trans hk'

theorem add (h : t.InStep key) (hk : t.find k = none) (hv : key v = k) :
    (t.add k v).InStep key := by
  have hnew : t.objects.length ∉ t.shown := by
    intro hmem
    obtain ⟨k', href⟩ := (h.mem_shown _).mp hmem
    exact absurd (h.ref_lt href) (Nat.lt_irrefl _)
  refine ⟨?_, fun ref => ?_, fun k' ref href => ?_⟩
  · have hshown : (t.add k v).shown = t.shown.concat t.objects.length :=
      List.concat_eq_append.symm
    rw [hshown]
    exact h.nodup.concat hnew
  · rw [KeyedObjects.add, List.mem_append, List.mem_singleton, h.mem_shown,
      ← KeyedObjects.add]
    constructor
    · rintro (⟨k', href⟩ | rfl)
      · exact ⟨k', by rw [find_add, if_neg (ne_of_find hk href), href]⟩
      · exact ⟨k, by rw [find_add, if_pos rfl]⟩
    · rintro ⟨k', href⟩
      rw [find_add] at href
      split at href
      · exact .inr (Option.some.inj href).symm
      · exact .inl ⟨k', href⟩
  · rw [find_add] at href
    split at href
    · rename_i hk'
      obtain rfl := Option.some.inj href
      exact ⟨v, List.getElem?_concat_length, hv.trans hk'.symm⟩
    · obtain ⟨v', hv', hkey⟩ := h.keyed k' ref href
      refine ⟨v', ?_, hkey⟩
      rw [KeyedObjects.add, List.getElem?_append_left (h.ref_lt href), hv']

theorem findOrAdd (h : t.InStep key) (hv : key v = k) :
    (t.findOrAdd k v).2.InStep key := by
  unfold KeyedObjects.findOrAdd
  split
  · exact h
  · rename_i hk
    exact h.add hk hv

/-- Changes that leave the keys alone. -/
theorem modify (h : t.InStep key) (hf : ∀ v, key (f v) = key v) (ref : Nat) :
    (t.modify ref f).InStep key := by
  refine ⟨h.nodup, h.mem_shown, fun k ref' href => ?_⟩
  obtain ⟨v, hv, hkey⟩ := h.keyed k ref' href
  rw [KeyedObjects.modify, List.getElem?_modify, hv]
  refine ⟨_, rfl, ?_⟩
  split
  · exact (hf v).trans hkey
  · exact hkey

theorem upsert (h : t.InStep key) (hv : key v = k)
    (hf : ∀ v, key (f v) = key v) : (t.upsert k v f).InStep key :=
  (h.findOrAdd hv).modify hf _

theorem upsertAll {keyOf : E → K} {new : E → V} {g : E → V → V}
    (h : t.InStep key) (hnew : ∀ e, key (new e) = keyOf e)
    (hg : ∀ e v, key (g e v) = key v) (entries : List E) :
    (t.upsertAll keyOf new g entries).InStep key := by
  induction entries using List.reverseRecOn with
  | nil => exact h
  | append_singleton entries e ih =>
      rw [upsertAll_concat]
      exact ih.upsert (hnew e) (hg e)

theorem remove (h : t.InStep key) (k : K) : (t.remove k).InStep key := by
  cases hfind : t.find k with
  | none =>
      rw [KeyedObjects.remove, hfind]
      exact h
  | some ref =>
      have hrefs : ∀ k' ref', (t.remove k).find k' = some ref'
          ↔ ref' ≠ ref ∧ t.find k' = some ref' := by
        intro k' ref'
        rw [find_remove]
        split
        · rename_i hk
          subst hk
          rw [hfind]
          exact iff_of_false (nomatch ·)
            fun ⟨hne, href⟩ => hne (Option.some.inj href).symm
        · rename_i hk
          refine (and_iff_right_of_imp ?_).symm
          rintro href rfl
          exact hk (h.key_unique href hfind)
      have hshown : (t.remove k).shown = t.shown.erase ref := by
        rw [KeyedObjects.remove, hfind]
      refine ⟨?_, fun ref' => ?_, fun k' ref' href => ?_⟩
      · rw [hshown]
        exact h.nodup.erase ref
      · rw [hshown, h.nodup.mem_erase_iff, h.mem_shown]
        simp only [hrefs, exists_and_left]
      · rw [objects_remove]
        exact h.keyed k' ref' ((hrefs k' ref').mp href).2

theorem removeAll (h : t.InStep key) (ks : List K) :
    (t.removeAll ks).InStep key := by
  induction ks generalizing t with
  | nil => exact h
  | cons k ks ih => exact ih (h.remove k)

/-- Different keys have different objects. -/
theorem refs_nodup (h : t.InStep key) : t.refs.Nodup := by
  have hentries : t.lookup.entries.Pairwise (fun a b => a.1 ≠ b.1) :=
    List.nodupKeys_iff_pairwise.mp t.lookup.nodupKeys
  refine List.pairwise_map.mpr (hentries.imp_of_mem ?_)
  intro a b ha hb hne href
  have hfind : ∀ entry ∈ t.lookup.entries, t.find entry.1 = some entry.2 :=
    fun entry hentry => AList.mem_lookup_iff.mpr hentry
  exact hne (h.key_unique ((hfind a ha).trans (congrArg some href))
    (hfind b hb))

end InStep

/-! ## The objects -/

theorem mem_refs : ref ∈ t.refs ↔ ∃ k, t.find k = some ref := by
  rw [refs, List.mem_map]
  constructor
  · rintro ⟨⟨k, ref⟩, hentry, rfl⟩
    exact ⟨k, AList.mem_lookup_iff.mpr hentry⟩
  · rintro ⟨k, href⟩
    exact ⟨⟨k, ref⟩, AList.mem_lookup_iff.mp href, rfl⟩

theorem getElem?_foldl_modify (f : V → V) {refs : List Nat}
    (hrefs : refs.Nodup) (objects : List V) (i : Nat) :
    (refs.foldl (fun objects ref => objects.modify ref f) objects)[i]?
      = if i ∈ refs then objects[i]?.map f else objects[i]? := by
  induction refs generalizing objects with
  | nil => rw [if_neg List.not_mem_nil]; rfl
  | cons ref refs ih =>
      obtain ⟨hnew, hrefs⟩ := List.nodup_cons.mp hrefs
      rw [List.foldl_cons, ih hrefs]
      by_cases hi : i = ref
      · subst hi
        rw [if_neg hnew, if_pos List.mem_cons_self, List.getElem?_modify_eq]
        rfl
      · rw [List.getElem?_modify_ne _ _ (Ne.symm hi)]
        simp only [List.mem_cons, hi, false_or]

theorem valueAt_of_find (href : t.find k = some ref) :
    t.valueAt k = t.objects[ref]? := by
  rw [valueAt, href, Option.bind_some]

theorem valueAt_removeAll {ks : List K} (hk : k ∉ ks) :
    (t.removeAll ks).valueAt k = t.valueAt k := by
  rw [valueAt, find_removeAll, if_neg hk, objects_removeAll, ← valueAt]

namespace InStep

variable {key : V → K}

theorem valueAt_modifyAll (h : t.InStep key) (f : V → V) (k : K) :
    (t.modifyAll f).valueAt k = (t.valueAt k).map f := by
  cases href : t.find k with
  | none =>
      have hnone : (t.modifyAll f).find k = none := href
      rw [valueAt, valueAt, href, hnone]
      rfl
  | some ref =>
      have href' : (t.modifyAll f).find k = some ref := href
      rw [valueAt_of_find href', valueAt_of_find href, modifyAll,
        getElem?_foldl_modify f h.refs_nodup, if_pos (mem_refs.mpr ⟨k, href⟩)]

theorem modifyAll (h : t.InStep key) (hf : ∀ v, key (f v) = key v) :
    (t.modifyAll f).InStep key := by
  refine ⟨h.nodup, h.mem_shown, fun k ref href => ?_⟩
  have href' : t.find k = some ref := href
  obtain ⟨v, hv, hkey⟩ := h.keyed k ref href'
  refine ⟨f v, ?_, (hf v).trans hkey⟩
  rw [← valueAt_of_find href, h.valueAt_modifyAll, valueAt_of_find href', hv]
  rfl

/-- An object is found if its key is. -/
theorem valueAt_isSome (h : t.InStep key) (hk : k ∈ t.lookup) :
    ∃ v, t.valueAt k = some v ∧ key v = k := by
  obtain ⟨ref, href⟩ := mem_lookup_iff.mp hk
  obtain ⟨v, hv, hkey⟩ := h.keyed k ref href
  exact ⟨v, (valueAt_of_find href).trans hv, hkey⟩

/-- Changing one object changes nothing under another key. -/
theorem valueAt_modify (h : t.InStep key) (href : t.find k = some ref)
    (f : V → V) (k' : K) : (t.modify ref f).valueAt k'
      = if k' = k then (t.valueAt k).map f else t.valueAt k' := by
  cases href' : t.find k' with
  | none =>
      have hk : k' ≠ k := (ne_of_find href' href).symm
      have hnone : (t.modify ref f).find k' = none := href'
      rw [if_neg hk, valueAt, valueAt, href', hnone]
      rfl
  | some ref' =>
      have hsome : (t.modify ref f).find k' = some ref' := href'
      rw [valueAt_of_find hsome, KeyedObjects.modify]
      split
      · rename_i hk
        subst hk
        obtain rfl := Option.some.inj (href.symm.trans href')
        rw [List.getElem?_modify_eq, valueAt_of_find href]
        rfl
      · rename_i hk
        have hne : ref ≠ ref' := by
          rintro rfl
          exact hk (h.key_unique href' href)
        rw [List.getElem?_modify_ne _ _ hne, valueAt_of_find href']

theorem valueAt_findOrAdd (h : t.InStep key) (k' : K) :
    (t.findOrAdd k v).2.valueAt k'
      = if k' = k then some ((t.valueAt k).getD v) else t.valueAt k' := by
  unfold KeyedObjects.findOrAdd
  split
  · rename_i ref href
    split
    · rename_i hk
      obtain ⟨v', hv', -⟩ := h.keyed k ref href
      rw [hk, valueAt_of_find href, hv']
      rfl
    · rfl
  · rename_i hnone
    cases href : t.find k' with
    | none =>
        rw [valueAt, find_add]
        split
        · rw [Option.bind_some, valueAt, hnone]
          exact List.getElem?_concat_length
        · rw [valueAt, href]
          rfl
    | some ref' =>
        have hk : k' ≠ k := ne_of_find hnone href
        rw [if_neg hk, valueAt, find_add, if_neg hk, href, Option.bind_some,
          KeyedObjects.add, List.getElem?_append_left (h.ref_lt href),
          valueAt_of_find href]

theorem valueAt_upsert (h : t.InStep key) (hv : key v = k) (k' : K) :
    (t.upsert k v f).valueAt k'
      = if k' = k then some (f ((t.valueAt k).getD v)) else t.valueAt k' := by
  have href : (t.findOrAdd k v).2.find k = some (t.findOrAdd k v).1 := by
    rw [find_findOrAdd, if_pos rfl]
  refine ((h.findOrAdd hv).valueAt_modify href f k').trans ?_
  rw [h.valueAt_findOrAdd, h.valueAt_findOrAdd, if_pos rfl]
  split <;> rfl

/-- What every change makes of the object of its entry holds of the objects
of all entries in the end. -/
theorem upsertAll_holds {keyOf : E → K} {new : E → V} {g : E → V → V}
    {Q : K → V → Prop} (h : t.InStep key)
    (hnew : ∀ e, key (new e) = keyOf e) (hg : ∀ e v, key (g e v) = key v)
    (entries : List E) (hQ : ∀ e ∈ entries, ∀ v, Q (keyOf e) (g e v)) :
    ∀ k ∈ entries.map keyOf, ∀ v,
      (t.upsertAll keyOf new g entries).valueAt k = some v → Q k v := by
  induction entries using List.reverseRecOn with
  | nil => exact fun k hk => absurd hk List.not_mem_nil
  | append_singleton entries e ih =>
      intro k hk v hv
      rw [upsertAll_concat,
        (h.upsertAll hnew hg entries).valueAt_upsert (hnew e)] at hv
      split at hv
      · rename_i hke
        rw [← Option.some.inj hv, hke]
        exact hQ e (List.mem_append_right _ (List.mem_singleton_self e)) _
      · rename_i hke
        have hinit : ∀ e ∈ entries, ∀ v, Q (keyOf e) (g e v) :=
          fun e he => hQ e (List.mem_append_left _ he)
        rw [List.map_append, List.mem_append, List.map_singleton,
          List.mem_singleton] at hk
        exact ih hinit k (hk.resolve_right hke) v hv

/-! ## The list -/

theorem mem_items (h : t.InStep key) :
    v ∈ t.items ↔ ∃ k, t.valueAt k = some v := by
  rw [items, List.mem_filterMap]
  constructor
  · rintro ⟨ref, hmem, hv⟩
    obtain ⟨k, href⟩ := (h.mem_shown ref).mp hmem
    exact ⟨k, (valueAt_of_find href).trans hv⟩
  · rintro ⟨k, hv⟩
    obtain ⟨ref, href, hobject⟩ := Option.bind_eq_some_iff.mp hv
    exact ⟨ref, (h.mem_shown ref).mpr ⟨k, href⟩, hobject⟩

theorem valueAt_key (h : t.InStep key) (hv : t.valueAt k = some v) :
    key v = k := by
  obtain ⟨ref, href, hobject⟩ := Option.bind_eq_some_iff.mp hv
  obtain ⟨v', hv', hkey⟩ := h.keyed k ref href
  obtain rfl := Option.some.inj (hv'.symm.trans hobject)
  exact hkey

theorem mem_keys (h : t.InStep key) (k : K) :
    k ∈ t.items.map key ↔ k ∈ t.lookup := by
  rw [List.mem_map]
  constructor
  · rintro ⟨v, hv, rfl⟩
    obtain ⟨k, hvalue⟩ := h.mem_items.mp hv
    obtain ⟨ref, href, -⟩ := Option.bind_eq_some_iff.mp hvalue
    rw [h.valueAt_key hvalue]
    exact mem_lookup_iff.mpr ⟨ref, href⟩
  · intro hk
    obtain ⟨v, hv, hkey⟩ := h.valueAt_isSome hk
    exact ⟨v, h.mem_items.mpr ⟨k, hv⟩, hkey⟩

/-- No two objects in the list have one key. -/
theorem keys_nodup (h : t.InStep key) : (t.items.map key).Nodup := by
  rw [items, List.map_filterMap]
  refine List.pairwise_filterMap.mpr (h.nodup.imp_of_mem ?_)
  intro ref ref' hmem hmem' hne k hk k' hk' heq
  obtain ⟨v, hv, rfl⟩ := Option.map_eq_some_iff.mp hk
  obtain ⟨v', hv', rfl⟩ := Option.map_eq_some_iff.mp hk'
  obtain ⟨k, href⟩ := (h.mem_shown ref).mp hmem
  obtain ⟨k', href'⟩ := (h.mem_shown ref').mp hmem'
  have hkey := h.valueAt_key ((valueAt_of_find href).trans hv)
  have hkey' := h.valueAt_key ((valueAt_of_find href').trans hv')
  obtain rfl : k = k' := hkey.symm.trans (heq.trans hkey')
  exact hne (Option.some.inj (href.symm.trans href'))

end InStep

end KeyedObjects
