import BundleInstaller.Json.Value

/-!
# Well-formed values

The entries of a JSON object stand in ascending order of their keys, and an integer takes 64 bits.
Setting and removing a key keep a value so, and change nothing but what stands under that key.

* `lookup_eq_head?`: a lookup finds the first of all that stands under a key.
* `lookup_setEntry`: setting a key changes nothing under the other keys.
* `lookup_foldl_setEntry`: of entries that are put in order, the last one of a key counts.
* `setEntry_of_lookup`: setting a key to the value that it has changes nothing.
* `ofEntries_of_ascending`: entries in order make the object that has them.
* `WellFormed`: in a value, and in all that it holds, keys ascend and integers fit.
* `WellFormed.setEntry`, `WellFormed.filter`, `wellFormed_ofEntries`: how objects stay well-formed.
-/

namespace BundleInstaller

theorem map_ok_iff {ε α β : Type} {x : Except ε α} {f : α → β} {b : β} :
    x.map f = .ok b ↔ ∃ a, x = .ok a ∧ f a = b := by
  cases x with
  | error e => simp [Except.map]
  | ok a => simp [Except.map]

section

variable {κ α : Type} [BEq κ]

/-- What stands under a key, in the order of the entries. -/
def valuesOf (key : κ) (entries : List (κ × α)) : List α :=
  (entries.filter (·.1 == key)).map Prod.snd

theorem valuesOf_reverse (key : κ) (entries : List (κ × α)) :
    valuesOf key entries.reverse = (valuesOf key entries).reverse := by
  rw [valuesOf, List.filter_reverse, List.map_reverse]
  rfl

theorem lookup_map_snd {β : Type} (f : α → β) (key : κ) (entries : List (κ × α)) :
    (entries.map fun e => (e.1, f e.2)).lookup key = (entries.lookup key).map f := by
  induction entries with
  | nil => rfl
  | cons e rest ih =>
    obtain ⟨k, v⟩ := e
    rw [List.map_cons, List.lookup_cons, List.lookup_cons, ih]
    cases key == k <;> rfl

variable [LawfulBEq κ]

theorem lookup_cons_of_ne {key key' : κ} (h : key' ≠ key) (value : α) (entries : List (κ × α)) :
    ((key, value) :: entries).lookup key' = entries.lookup key' := by
  rw [List.lookup_cons, beq_eq_false_iff_ne.mpr h]

theorem mem_of_lookup {key : κ} {value : α} {entries : List (κ × α)}
    (h : entries.lookup key = some value) : (key, value) ∈ entries := by
  obtain ⟨before, after, rfl, -⟩ := List.lookup_eq_some_iff.mp h
  exact List.mem_append_right before List.mem_cons_self

theorem valuesOf_cons_self (key : κ) (value : α) (entries : List (κ × α)) :
    valuesOf key ((key, value) :: entries) = value :: valuesOf key entries := by
  rw [valuesOf, List.filter_cons_of_pos (by simp)]
  rfl

theorem valuesOf_cons_of_ne {key key' : κ} (h : key' ≠ key) (value : α) (entries : List (κ × α)) :
    valuesOf key ((key', value) :: entries) = valuesOf key entries := by
  rw [valuesOf, List.filter_cons_of_neg (by simpa using h)]
  rfl

theorem lookup_eq_head? (key : κ) (entries : List (κ × α)) :
    entries.lookup key = (valuesOf key entries).head? := by
  induction entries with
  | nil => rfl
  | cons e rest ih =>
    obtain ⟨k, v⟩ := e
    by_cases h : k = key
    · rw [h, valuesOf_cons_self, List.lookup_cons_self, List.head?_cons]
    · rw [valuesOf_cons_of_ne h, lookup_cons_of_ne (Ne.symm h), ih]

theorem lookup_filter_of_forall_not {p : κ × α → Bool} {key : κ} {entries : List (κ × α)}
    (h : ∀ value, p (key, value) = false) : (entries.filter p).lookup key = none := by
  rw [List.lookup_eq_none_iff]
  intro e he
  have hp := (List.mem_filter.mp he).2
  rw [bne_iff_ne]
  rintro rfl
  rw [h e.2] at hp
  cases hp

theorem lookup_filter_of_forall {p : κ × α → Bool} {key : κ} {entries : List (κ × α)}
    (h : ∀ value, p (key, value) = true) : (entries.filter p).lookup key = entries.lookup key := by
  rw [lookup_eq_head?, lookup_eq_head?, valuesOf, valuesOf, List.filter_filter]
  congr 3
  funext e
  by_cases he : e.1 = key
  · subst he
    rw [h e.2, Bool.and_true]
  · rw [beq_eq_false_iff_ne.mpr he, Bool.false_and]

end

namespace Json

/-- The keys of the entries ascend. -/
def Ascending (entries : List (String × Json)) : Prop := entries.Pairwise (·.1 < ·.1)

instance (entries : List (String × Json)) : Decidable (Ascending entries) :=
  inferInstanceAs (Decidable (entries.Pairwise _))

theorem ascending_iff {entries : List (String × Json)} :
    Ascending entries ↔ (entries.map Prod.fst).Pairwise (· < ·) := List.pairwise_map.symm

theorem lookup_eq_none {key : String} {entries : List (String × Json)}
    (h : ∀ e ∈ entries, e.1 ≠ key) : entries.lookup key = none := by
  rw [List.lookup_eq_none_iff]
  intro e he
  simpa using (h e he).symm

theorem Ascending.ne_of_mem {key : String} {value : Json} {rest : List (String × Json)}
    (h : Ascending ((key, value) :: rest)) : ∀ e ∈ rest, e.1 ≠ key := by
  intro e he heq
  have hlt : key < e.1 := (List.pairwise_cons.mp h).1 e he
  rw [heq] at hlt
  exact String.lt_irrefl key hlt

theorem Ascending.ne_of_lt {key k : String} {v : Json} {rest : List (String × Json)}
    (h : Ascending ((k, v) :: rest)) (hkey : key < k) : ∀ e ∈ (k, v) :: rest, e.1 ≠ key := by
  intro e he heq
  rcases List.mem_cons.mp he with rfl | he
  · exact String.lt_irrefl key (heq ▸ hkey)
  · exact String.lt_asymm hkey (by rw [← heq]; exact (List.pairwise_cons.mp h).1 e he)

theorem lookup_setEntry (key key' : String) (value : Json) (entries : List (String × Json)) :
    (setEntry key value entries).lookup key' =
      if key' = key then some value else entries.lookup key' := by
  induction entries with
  | nil =>
    rw [setEntry]
    split
    · next h => rw [h, List.lookup_cons_self]
    · next h => rw [lookup_cons_of_ne h]
  | cons e rest ih =>
    obtain ⟨k, v⟩ := e
    rw [setEntry]
    by_cases hkey : key' = key
    · subst hkey
      split
      · rw [if_pos rfl, List.lookup_cons_self]
      · split
        · rw [if_pos rfl, List.lookup_cons_self]
        · next hk => rw [lookup_cons_of_ne hk, ih, if_pos rfl, if_pos rfl]
    · rw [if_neg hkey] at ih ⊢
      split
      · rw [lookup_cons_of_ne hkey]
      · split
        · next hk => rw [lookup_cons_of_ne hkey, lookup_cons_of_ne (hk ▸ hkey)]
        · rw [List.lookup_cons, List.lookup_cons, ih]

/-- **Setting a key to the value that it has changes nothing.** -/
theorem setEntry_of_lookup {key : String} {value : Json} :
    ∀ {entries : List (String × Json)}, Ascending entries → entries.lookup key = some value →
      setEntry key value entries = entries
  | [], _, h => by cases h
  | (k, v) :: rest, hkeys, h => by
    rw [setEntry]
    split
    · next hlt =>
      rw [lookup_eq_none (hkeys.ne_of_lt hlt)] at h
      cases h
    · split
      · next hk =>
        rw [hk, List.lookup_cons_self] at h
        rw [hk, Option.some.inj h]
      · next hk =>
        rw [lookup_cons_of_ne hk] at h
        rw [setEntry_of_lookup (List.pairwise_cons.mp hkeys).2 h]

theorem mem_setEntry {key : String} {value : Json} {e : String × Json} :
    ∀ {entries : List (String × Json)}, e ∈ setEntry key value entries →
      e = (key, value) ∨ e ∈ entries
  | [], h => .inl (List.mem_singleton.mp h)
  | (k, v) :: rest, h => by
    rw [setEntry] at h
    split at h
    · exact List.mem_cons.mp h
    · split at h
      · exact (List.mem_cons.mp h).imp_right (List.mem_cons_of_mem _)
      · rcases List.mem_cons.mp h with rfl | h
        · exact .inr List.mem_cons_self
        · exact (mem_setEntry h).imp_right (List.mem_cons_of_mem _)

theorem Ascending.setEntry {key : String} {value : Json} :
    ∀ {entries : List (String × Json)}, Ascending entries →
      Ascending (setEntry key value entries)
  | [], _ => List.pairwise_singleton _ _
  | (k, v) :: rest, h => by
    obtain ⟨hfirst, hrest⟩ := List.pairwise_cons.mp h
    rw [Json.setEntry]
    split
    · next hlt =>
      refine List.pairwise_cons.mpr ⟨fun e he => ?_, h⟩
      rcases List.mem_cons.mp he with rfl | he
      · exact hlt
      · exact String.lt_trans hlt (hfirst e he)
    · next hlt =>
      split
      · next hk => exact List.pairwise_cons.mpr ⟨fun e he => hk ▸ hfirst e he, hrest⟩
      · next hk =>
        refine List.pairwise_cons.mpr ⟨fun e he => ?_, Ascending.setEntry hrest⟩
        rcases mem_setEntry he with rfl | he
        · exact Std.lt_of_le_of_ne hlt (Ne.symm hk)
        · exact hfirst e he

theorem setEntry_of_forall_lt {key : String} (value : Json) :
    ∀ {entries : List (String × Json)}, (∀ e ∈ entries, e.1 < key) →
      setEntry key value entries = entries ++ [(key, value)]
  | [], _ => rfl
  | (k, v) :: rest, h => by
    have hk : k < key := h (k, v) List.mem_cons_self
    rw [setEntry, if_neg (String.lt_asymm hk),
      if_neg (by rintro rfl; exact String.lt_irrefl _ hk),
      setEntry_of_forall_lt value fun e he => h e (List.mem_cons_of_mem _ he)]
    rfl

/-- **Entries with ascending keys make the object that has them.** -/
theorem ofEntries_of_ascending {entries : List (String × Json)} (h : Ascending entries) :
    ofEntries entries = .obj entries := by
  suffices hfold : ∀ acc, Ascending (acc ++ entries) →
      entries.foldl (fun acc e => setEntry e.1 e.2 acc) acc = acc ++ entries from
    congrArg Json.obj (hfold [] h)
  clear h
  induction entries with
  | nil => exact fun acc _ => (List.append_nil acc).symm
  | cons e rest ih =>
    intro acc hacc
    have hlast : ∀ x ∈ acc, x.1 < e.1 := fun x hx =>
      (List.pairwise_append.mp hacc).2.2 x hx e List.mem_cons_self
    rw [List.append_cons] at hacc ⊢
    rw [List.foldl_cons, setEntry_of_forall_lt e.2 hlast]
    exact ih _ hacc

theorem lookup_foldl_setEntry (key : String) (entries acc : List (String × Json)) :
    (entries.foldl (fun acc e => Json.setEntry e.1 e.2 acc) acc).lookup key =
      (entries.reverse.lookup key).or (acc.lookup key) := by
  induction entries generalizing acc with
  | nil => rfl
  | cons e rest ih =>
    obtain ⟨k, v⟩ := e
    rw [List.foldl_cons, ih, lookup_setEntry, List.reverse_cons, List.lookup_append, Option.or_assoc]
    congr 1
    by_cases hkey : key = k
    · rw [if_pos hkey, hkey, List.lookup_cons_self, Option.some_or]
    · rw [if_neg hkey, lookup_cons_of_ne hkey]
      rfl

theorem Ascending.foldl_setEntry {acc : List (String × Json)} (h : Ascending acc)
    (entries : List (String × Json)) :
    Ascending (entries.foldl (fun acc e => Json.setEntry e.1 e.2 acc) acc) := by
  induction entries generalizing acc with
  | nil => exact h
  | cons e rest ih => exact ih h.setEntry

/-! ## Well-formed values -/

/-- An integer that can stand in a text: of 64 bits, with a sign or without. -/
def Fits (n : Int) : Prop := -(Nat.pow 2 63 : Nat) ≤ n ∧ n < Nat.pow 2 64

instance (n : Int) : Decidable (Fits n) := inferInstanceAs (Decidable (_ ∧ _))

/-- An integer of 64 bits with a sign. -/
def FitsSigned (n : Int) : Prop := -(Nat.pow 2 63 : Nat) ≤ n ∧ n < Nat.pow 2 63

instance (n : Int) : Decidable (FitsSigned n) := inferInstanceAs (Decidable (_ ∧ _))

theorem FitsSigned.fits {n : Int} (h : FitsSigned n) : Fits n :=
  ⟨h.1, Int.lt_trans h.2 (by decide)⟩

/-- In a value, and in all that it holds, the keys of objects ascend and integers fit. -/
inductive WellFormed : Json → Prop
  | null : WellFormed .null
  | bool (b : Bool) : WellFormed (.bool b)
  | int {n : Int} (h : Fits n) : WellFormed (.int n)
  | float (x : Double) : WellFormed (.float x)
  | str (s : String) : WellFormed (.str s)
  | arr {items : List Json} (h : ∀ j ∈ items, WellFormed j) : WellFormed (.arr items)
  | obj {entries : List (String × Json)} (hkeys : Ascending entries)
      (h : ∀ e ∈ entries, WellFormed e.2) : WellFormed (.obj entries)

theorem wellFormed_int_iff {n : Int} : WellFormed (.int n) ↔ Fits n := by
  constructor
  · intro h
    cases h with
    | int h => exact h
  · exact .int

theorem wellFormed_arr_iff {items : List Json} :
    WellFormed (.arr items) ↔ ∀ j ∈ items, WellFormed j := by
  constructor
  · intro h
    cases h with
    | arr h => exact h
  · exact .arr

theorem wellFormed_obj_iff {entries : List (String × Json)} :
    WellFormed (.obj entries) ↔ Ascending entries ∧ ∀ e ∈ entries, WellFormed e.2 := by
  constructor
  · intro h
    cases h with
    | obj hkeys h => exact ⟨hkeys, h⟩
  · rintro ⟨hkeys, h⟩
    exact .obj hkeys h

mutual

def decideWellFormed : (j : Json) → Decidable (WellFormed j)
  | .null => isTrue .null
  | .bool b => isTrue (.bool b)
  | .int n => @decidable_of_iff _ _ wellFormed_int_iff.symm (inferInstanceAs (Decidable (Fits n)))
  | .float x => isTrue (.float x)
  | .str s => isTrue (.str s)
  | .arr items => @decidable_of_iff _ _ wellFormed_arr_iff.symm (decideItems items)
  | .obj entries =>
    @decidable_of_iff _ _ wellFormed_obj_iff.symm (@instDecidableAnd _ _ _ (decideEntries entries))

def decideItems : (items : List Json) → Decidable (∀ j ∈ items, WellFormed j)
  | [] => isTrue (by simp)
  | j :: rest =>
    @decidable_of_iff _ _ List.forall_mem_cons.symm
      (@instDecidableAnd _ _ (decideWellFormed j) (decideItems rest))

def decideEntries : (entries : List (String × Json)) → Decidable (∀ e ∈ entries, WellFormed e.2)
  | [] => isTrue (by simp)
  | (_, j) :: rest =>
    @decidable_of_iff _ _ List.forall_mem_cons.symm
      (@instDecidableAnd _ _ (decideWellFormed j) (decideEntries rest))

end

instance : DecidablePred WellFormed := decideWellFormed

theorem WellFormed.ascending {entries : List (String × Json)} (h : WellFormed (.obj entries)) :
    Ascending entries := (wellFormed_obj_iff.mp h).1

theorem WellFormed.of_mem {entries : List (String × Json)} (h : WellFormed (.obj entries))
    {e : String × Json} (he : e ∈ entries) : WellFormed e.2 := (wellFormed_obj_iff.mp h).2 e he

theorem WellFormed.of_lookup {entries : List (String × Json)} (h : WellFormed (.obj entries))
    {key : String} {value : Json} (hl : entries.lookup key = some value) : WellFormed value :=
  h.of_mem (mem_of_lookup hl)

theorem WellFormed.setEntry {entries : List (String × Json)} (h : WellFormed (.obj entries))
    {value : Json} (hvalue : WellFormed value) (key : String) :
    WellFormed (.obj (setEntry key value entries)) := by
  refine .obj h.ascending.setEntry fun e he => ?_
  rcases mem_setEntry he with rfl | he
  · exact hvalue
  · exact h.of_mem he

theorem WellFormed.filter {entries : List (String × Json)} (h : WellFormed (.obj entries))
    (p : String × Json → Bool) : WellFormed (.obj (entries.filter p)) :=
  .obj (h.ascending.filter p) fun _ he => h.of_mem (List.mem_filter.mp he).1

theorem wellFormed_ofEntries {entries : List (String × Json)} (h : ∀ e ∈ entries, WellFormed e.2) :
    WellFormed (ofEntries entries) := by
  suffices hfold : ∀ acc, WellFormed (.obj acc) →
      WellFormed (.obj (entries.foldl (fun acc e => Json.setEntry e.1 e.2 acc) acc)) from
    hfold [] (.obj List.Pairwise.nil (by simp))
  induction entries with
  | nil => exact fun _ hacc => hacc
  | cons e rest ih =>
    intro acc hacc
    exact ih (fun e he => h e (List.mem_cons_of_mem _ he)) _
      (hacc.setEntry (h e List.mem_cons_self) e.1)

end Json
end BundleInstaller
