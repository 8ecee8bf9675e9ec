import BundleInstaller.Json.Cursor
import BundleInstaller.Proofs.Entries

/-!
# What an object says of a field

A record is read from an object by a step for each entry.  Where a field is kept in a part of the
state of its own, what comes of the object can be told when that field changes: only its part does.

* `readFields_ok_iff`: reading the entries of a value takes a state step by step to another one.
* `readRecord_obj_iff`, `readRecord_keyed`: which values a record is read from.
* `exists_of_readRecord`: what every step keeps holds of what was read.
* `ReadsTo.part_cases`: the part of a field comes from what stands under its key.
* `ReadsTo.setEntry`, `ReadsTo.filter`: reading an object in which a field was set, or removed.
-/

namespace BundleInstaller.Json

open Decode

theorem read_bind_ok {α β : Type} {x : Read α} {f : α → Read β} {b : β} :
    (x >>= f) = .ok b ↔ ∃ a, x = .ok a ∧ f a = .ok b := by
  cases x with
  | error e => simp [bind, Except.bind]
  | ok a => simp [bind, Except.bind]

theorem read_map_ok {α τ : Type} {x : Read α} {g : α → τ} {t : τ} (f : τ → τ)
    (h : (x >>= fun a => pure (g a)) = .ok t) : (x >>= fun a => pure (f (g a))) = .ok (f t) := by
  cases x with
  | error e => cases h
  | ok a =>
    cases h
    rfl

theorem read_ok_bind {α β : Type} (a : α) (f : α → Read β) : (Except.ok a >>= f) = f a := rfl

namespace Cursor

/-! ## Values that come from no text -/

theorem locate_none {α : Type} (result : Read α) : locate none result = result := by
  unfold locate
  split <;> rfl

theorem ofExceptAt_ok_iff {α : Type} {spot : Option Spot} {result : Except Mismatch α} {a : α} :
    ofExceptAt spot result = .ok a ↔ result = .ok a := by
  cases result with
  | ok b => simp [ofExceptAt]
  | error m => simp [ofExceptAt]

theorem readOption_some {α : Type} {read : Cursor → Read α} {c : Cursor} {a : α}
    (h : readOption read c = .ok (some a)) : read c = .ok a := by
  unfold readOption at h
  split at h
  · cases h
  · cases hread : read c with
    | error f => rw [hread] at h; cases h
    | ok b => rw [hread] at h; cases h; rfl

mutual

theorem skipNode_ofJson : ∀ j : Json, skipNode (Node.ofJson j) = .ok ()
  | .null | .bool _ | .int _ | .float _ | .str _ => rfl
  | .arr items => by rw [Node.ofJson, skipNode, skipItems_ofItems items]
  | .obj entries => by rw [Node.ofJson, skipNode, skipEntries_ofEntries entries]

theorem skipItems_ofItems : ∀ items : List Json, skipItems (Node.ofItems items) = .ok ()
  | [] => rfl
  | j :: rest => by rw [Node.ofItems, skipItems, skipNode_ofJson j, skipItems_ofItems rest]

theorem skipEntries_ofEntries :
    ∀ entries : List (String × Json), skipEntries (Node.ofEntries entries) = .ok ()
  | [] => rfl
  | (_, j) :: rest => by
    rw [Node.ofEntries, skipEntries, skipNode_ofJson j, skipEntries_ofEntries rest]

end

/-! ## Reading a record -/

section Record

variable {τ α : Type} {step : String → Option (τ → Cursor → Read τ)} {depth : Nat}

/-- Reading the entries one after another takes a state to another one. -/
inductive ReadsTo (step : String → Option (τ → Cursor → Read τ)) (depth : Nat) :
    τ → List (String × Json) → τ → Prop
  | nil {t : τ} : ReadsTo step depth t [] t
  | known {name : String} {j : Json} {rest : List (String × Json)} {t t₁ t' : τ}
      {read : τ → Cursor → Read τ} (hstep : step name = some read)
      (hread : read t ⟨Node.ofJson j, depth⟩ = .ok t₁) (hrest : ReadsTo step depth t₁ rest t') :
      ReadsTo step depth t ((name, j) :: rest) t'
  | unknown {name : String} {j : Json} {rest : List (String × Json)} {t t' : τ}
      (hstep : step name = none) (hrest : ReadsTo step depth t rest t') :
      ReadsTo step depth t ((name, j) :: rest) t'

theorem readFields_ok_iff {c : Cursor} {entries : List (String × Json)} {t t' : τ} :
    readFields step c t (Node.ofEntries entries) = .ok t' ↔ ReadsTo step c.depth t entries t' := by
  induction entries generalizing t with
  | nil =>
    constructor
    · intro h
      cases h
      exact .nil
    · intro h
      cases h
      rfl
  | cons e rest ih =>
    obtain ⟨name, j⟩ := e
    rw [Node.ofEntries, readFields, read_ok_bind]
    dsimp only
    cases hstep : step name with
    | none =>
      dsimp only
      rw [skipNode_ofJson, read_ok_bind]
      constructor
      · exact fun h => .unknown hstep (ih.mp h)
      · intro h
        cases h with
        | known hknown => rw [hstep] at hknown; cases hknown
        | unknown _ hrest => exact ih.mpr hrest
    | some read =>
      dsimp only
      rw [locate_none, read_bind_ok]
      constructor
      · rintro ⟨t₁, hread, h⟩
        exact .known hstep hread (ih.mp h)
      · intro h
        cases h with
        | unknown hunknown => rw [hstep] at hunknown; cases hunknown
        | known hknown hread hrest =>
          rw [hstep] at hknown
          cases hknown
          exact ⟨_, hread, ih.mpr hrest⟩

theorem readRecord_obj_iff (shape : RecordShape) {init : τ} {finish : τ → Except Mismatch α}
    {entries : List (String × Json)} {a : α} :
    readRecord shape init step finish ⟨Node.ofJson (.obj entries), depth + 1⟩ = .ok a ↔
      ∃ t, ReadsTo step depth init entries t ∧ finish t = .ok a := by
  show (readFields step ⟨Node.ofJson (.obj entries), depth⟩ init (Node.ofEntries entries) >>=
    fun t => ofExceptAt none (finish t)) = .ok a ↔ _
  simp only [read_bind_ok, readFields_ok_iff]
  exact exists_congr fun t => and_congr_right fun _ => ofExceptAt_ok_iff

theorem readRecord_keyed {expected : String} {init : τ} {finish : τ → Except Mismatch α} {j : Json}
    {a : α} (h : readRecord (.keyed expected) init step finish ⟨Node.ofJson j, depth⟩ = .ok a) :
    ∃ entries, j = .obj entries := by
  cases j with
  | obj entries => exact ⟨entries, rfl⟩
  | _ => cases h

/-! ## What all steps keep -/

section Invariant

variable {P : τ → Prop}
  (hstep : ∀ name read, step name = some read → ∀ t j depth t', WellFormed j → P t →
    read t ⟨Node.ofJson j, depth⟩ = .ok t' → P t')

include hstep

theorem ReadsTo.keeps {entries : List (String × Json)} {t t' : τ}
    (h : ReadsTo step depth t entries t') (hentries : ∀ e ∈ entries, WellFormed e.2) (ht : P t) :
    P t' := by
  induction h with
  | nil => exact ht
  | known hname hread hrest ih =>
    exact ih (fun e he => hentries e (List.mem_cons_of_mem _ he))
      (hstep _ _ hname _ _ _ _ (hentries _ List.mem_cons_self) ht hread)
  | unknown hname hrest ih => exact ih (fun e he => hentries e (List.mem_cons_of_mem _ he)) ht

theorem readPositions_keeps {expected : String} {stop : Option Spot}
    {ending : Option (Fault × Fault)} {node : Node} :
    ∀ {fields : List (String × Bool)} {items : List Json} {index : Nat} {t t' : τ},
      (∀ j ∈ items, WellFormed j) → P t →
      readPositions expected stop ending step ⟨node, depth⟩ index t fields (Node.ofItems items) =
        .ok t' → P t'
  | [], [], _, t, t', _, ht, h => by
    rw [Node.ofItems, readPositions] at h
    cases hclosing : checkClosing ending with
    | error f => rw [hclosing] at h; cases h
    | ok => rw [hclosing] at h; cases h; exact ht
  | [], _ :: _, _, _, _, _, _, h => by
    unfold Node.ofItems readPositions at h
    cases h
  | (_, optional) :: fields, [], index, t, t', hitems, ht, h => by
    rw [Node.ofItems, readPositions] at h
    obtain ⟨_, -, h⟩ := read_bind_ok.mp h
    cases optional with
    | true => exact readPositions_keeps hitems ht h
    | false => cases h
  | (name, _) :: fields, j :: rest, index, t, t', hitems, ht, h => by
    have hrest : ∀ j ∈ rest, WellFormed j := fun j hj => hitems j (List.mem_cons_of_mem _ hj)
    rw [Node.ofItems, readPositions] at h
    dsimp only at h
    cases hread : step name with
    | none =>
      rw [hread] at h
      exact readPositions_keeps hrest ht h
    | some read =>
      rw [hread] at h
      obtain ⟨t₁, ht₁, h⟩ := read_bind_ok.mp h
      exact readPositions_keeps hrest
        (hstep name read hread t j depth t₁ (hitems j List.mem_cons_self) ht ht₁) h

/-- **What holds at first and is kept by every step holds of what was read.** -/
theorem exists_of_readRecord {shape : RecordShape} {init : τ} {finish : τ → Except Mismatch α}
    {j : Json} (hj : WellFormed j) {a : α} (hinit : P init)
    (h : readRecord shape init step finish ⟨Node.ofJson j, depth⟩ = .ok a) :
    ∃ t, P t ∧ finish t = .ok a := by
  unfold readRecord at h
  cases j with
  | obj entries =>
    obtain ⟨c, -, h⟩ := read_bind_ok.mp h
    obtain ⟨t, ht, h⟩ := read_bind_ok.mp h
    exact ⟨t, (readFields_ok_iff.mp ht).keeps hstep (fun e he => hj.of_mem he) hinit,
      ofExceptAt_ok_iff.mp h⟩
  | arr items =>
    cases hpositional : shape.positional with
    | none => rw [hpositional] at h; cases h
    | some fields =>
      rw [hpositional] at h
      obtain ⟨c, -, h⟩ := read_bind_ok.mp h
      obtain ⟨t, ht, h⟩ := read_bind_ok.mp h
      exact ⟨t, readPositions_keeps hstep (wellFormed_arr_iff.mp hj) hinit ht,
        ofExceptAt_ok_iff.mp h⟩
  | _ => cases h

end Invariant

/-! ## Fields with a part of their own -/

/-- The values of a field are kept in a part of the state.  The step of the field changes nothing
else, as `gives` tells it: from the part so far and a value to the part from then on.  The steps of
other fields neither look at that part nor change it. -/
structure Keeps {β : Type} (step : String → Option (τ → Cursor → Read τ)) (field : String)
    (part : τ → β) (set : β → τ → τ) (gives : β → Cursor → β → Prop) : Prop where
  part_set : ∀ b t, part (set b t) = b
  set_part : ∀ t, set (part t) t = t
  set_set : ∀ b b' t, set b (set b' t) = set b t
  own : ∃ read, step field = some read ∧
    ∀ t c t', read t c = .ok t' ↔ ∃ b, gives (part t) c b ∧ t' = set b t
  others : ∀ name read, name ≠ field → step name = some read →
    ∀ b t c t', read t c = .ok t' → read (set b t) c = .ok (set b t')

/-- What a field that may stand once gives: its first value. -/
def once {β : Type} (read : Cursor → Read β) (current : Option β) (c : Cursor) (b : Option β) :
    Prop :=
  current = none ∧ ∃ value, read c = .ok value ∧ b = some value

theorem readOnce_ok_iff {β : Type} {name : String} {current : Option β} {read : Cursor → Read β}
    {c : Cursor} {value : β} :
    readOnce name current read c = .ok value ↔ current = none ∧ read c = .ok value := by
  cases current with
  | none => simp [readOnce]
  | some b =>
    constructor
    · intro h
      cases h
    · rintro ⟨h, -⟩
      cases h

theorem once_iff {β : Type} {name : String} {current : Option β} {read : Cursor → Read β}
    {c : Cursor} {t' : τ} (set : Option β → τ) :
    (readOnce name current read c >>= fun value => pure (set (some value))) = .ok t' ↔
      ∃ b, once read current c b ∧ t' = set b := by
  rw [read_bind_ok]
  simp only [readOnce_ok_iff]
  constructor
  · rintro ⟨value, ⟨hcurrent, hread⟩, h⟩
    cases h
    exact ⟨some value, ⟨hcurrent, value, hread, rfl⟩, rfl⟩
  · rintro ⟨_, ⟨hcurrent, value, hread, rfl⟩, rfl⟩
    exact ⟨value, ⟨hcurrent, hread⟩, rfl⟩

section Keeps

variable {β : Type} {field : String} {part : τ → β} {set : β → τ → τ}
  {gives : β → Cursor → β → Prop} (k : Keeps step field part set gives)

include k

theorem Keeps.part_of_ne {name : String} {read : τ → Cursor → Read τ} (hname : name ≠ field)
    (hstep : step name = some read) {t t' : τ} {c : Cursor} (h : read t c = .ok t') :
    part t' = part t := by
  have hset := k.others name read hname hstep (part t) t c t' h
  rw [k.set_part, h] at hset
  rw [Except.ok.inj hset, k.part_set]

theorem ReadsTo.set_of_ne {entries : List (String × Json)} {t t' : τ}
    (h : ReadsTo step depth t entries t') (hne : ∀ e ∈ entries, e.1 ≠ field) (b : β) :
    ReadsTo step depth (set b t) entries (set b t') := by
  induction h with
  | nil => exact .nil
  | known hstep hread hrest ih =>
    exact .known hstep (k.others _ _ (hne _ List.mem_cons_self) hstep b _ _ _ hread)
      (ih fun e he => hne e (List.mem_cons_of_mem _ he))
  | unknown hstep hrest ih =>
    exact .unknown hstep (ih fun e he => hne e (List.mem_cons_of_mem _ he))

theorem ReadsTo.part_of_ne {entries : List (String × Json)} {t t' : τ}
    (h : ReadsTo step depth t entries t') (hne : ∀ e ∈ entries, e.1 ≠ field) :
    part t' = part t := by
  induction h with
  | nil => rfl
  | known hstep hread hrest ih =>
    rw [ih fun e he => hne e (List.mem_cons_of_mem _ he)]
    exact k.part_of_ne (hne _ List.mem_cons_self) hstep hread
  | unknown hstep hrest ih => exact ih fun e he => hne e (List.mem_cons_of_mem _ he)

theorem ReadsTo.own {j : Json} {rest : List (String × Json)} {t t' : τ} :
    ReadsTo step depth t ((field, j) :: rest) t' ↔
      ∃ b, gives (part t) ⟨Node.ofJson j, depth⟩ b ∧ ReadsTo step depth (set b t) rest t' := by
  obtain ⟨read, hfield, hread⟩ := k.own
  constructor
  · intro h
    cases h with
    | unknown hstep _ => rw [hfield] at hstep; cases hstep
    | known hstep h hrest =>
      rw [hfield] at hstep
      cases hstep
      obtain ⟨b, hb, rfl⟩ := (hread _ _ _).mp h
      exact ⟨b, hb, hrest⟩
  · rintro ⟨b, hb, hrest⟩
    exact .known hfield ((hread _ _ _).mpr ⟨b, hb, rfl⟩) hrest

theorem ReadsTo.other {name : String} {j : Json} {rest : List (String × Json)} {t t' : τ}
    (hname : name ≠ field) (h : ReadsTo step depth t ((name, j) :: rest) t') :
    ∃ t₁, part t₁ = part t ∧ ReadsTo step depth t₁ rest t' ∧
      ∀ rest' u, ReadsTo step depth t₁ rest' u → ReadsTo step depth t ((name, j) :: rest') u := by
  cases h with
  | known hstep hread hrest =>
    exact ⟨_, k.part_of_ne hname hstep hread, hrest, fun _ _ h => .known hstep hread h⟩
  | unknown hstep hrest => exact ⟨_, rfl, hrest, fun _ _ h => .unknown hstep h⟩

/-- **The part of a field comes from what stands under its key.** -/
theorem ReadsTo.part_cases {entries : List (String × Json)} (hkeys : Ascending entries) {t t' : τ}
    (h : ReadsTo step depth t entries t') :
    (entries.lookup field = none ∧ part t' = part t) ∨
      ∃ j, entries.lookup field = some j ∧
        gives (part t) ⟨Node.ofJson j, depth⟩ (part t') := by
  induction entries generalizing t with
  | nil => exact .inl ⟨rfl, h.part_of_ne k (by simp)⟩
  | cons e rest ih =>
    obtain ⟨name, j⟩ := e
    by_cases hname : name = field
    · subst hname
      obtain ⟨b, hb, hrest⟩ := (ReadsTo.own k).mp h
      rw [List.lookup_cons_self, hrest.part_of_ne k hkeys.ne_of_mem, k.part_set]
      exact .inr ⟨j, rfl, hb⟩
    · obtain ⟨t₁, hpart, hrest, -⟩ := h.other k hname
      rw [lookup_cons_of_ne (Ne.symm hname), ← hpart]
      exact ih (List.pairwise_cons.mp hkeys).2 hrest

/-- **Reading an object in which a field was set**: its part becomes what the new value gives, and
all else stays as it was. -/
theorem ReadsTo.setEntry {entries : List (String × Json)} (hkeys : Ascending entries) {t t' : τ}
    (h : ReadsTo step depth t entries t') {j : Json} {b : β}
    (hb : gives (part t) ⟨Node.ofJson j, depth⟩ b) :
    ReadsTo step depth t (setEntry field j entries) (set b t') := by
  induction entries generalizing t with
  | nil =>
    cases h
    exact (ReadsTo.own k).mpr ⟨b, hb, .nil⟩
  | cons e rest ih =>
    obtain ⟨name, j'⟩ := e
    rw [Json.setEntry]
    -- The field comes before the first entry, in its place, or somewhere behind it.
    split
    · next hlt =>
      exact (ReadsTo.own k).mpr ⟨b, hb, h.set_of_ne k (hkeys.ne_of_lt hlt) b⟩
    · split
      · next hname =>
        subst hname
        obtain ⟨b', -, hrest⟩ := (ReadsTo.own k).mp h
        have hset := hrest.set_of_ne k hkeys.ne_of_mem b
        rw [k.set_set] at hset
        exact (ReadsTo.own k).mpr ⟨b, hb, hset⟩
      · next hname =>
        obtain ⟨t₁, hpart, hrest, hgo⟩ := h.other k (Ne.symm hname)
        exact hgo _ _ (ih (List.pairwise_cons.mp hkeys).2 hrest (hpart ▸ hb))

/-- **Reading an object from which a field was removed**: its part stays what it was at first. -/
theorem ReadsTo.filter {entries : List (String × Json)} (hkeys : Ascending entries) {t t' : τ}
    (h : ReadsTo step depth t entries t') :
    ReadsTo step depth t (entries.filter (·.1 != field)) (set (part t) t') := by
  induction entries generalizing t with
  | nil =>
    cases h
    rw [k.set_part]
    exact .nil
  | cons e rest ih =>
    obtain ⟨name, j⟩ := e
    by_cases hname : name = field
    · subst hname
      rw [List.filter_cons_of_neg (by simp),
        List.filter_eq_self.mpr fun e he => by simpa using hkeys.ne_of_mem e he]
      obtain ⟨b, -, hrest⟩ := (ReadsTo.own k).mp h
      have hset := hrest.set_of_ne k hkeys.ne_of_mem (part t)
      rwa [k.set_set, k.set_part] at hset
    · rw [List.filter_cons_of_pos (by simpa using hname)]
      obtain ⟨t₁, hpart, hrest, hgo⟩ := h.other k hname
      rw [← hpart]
      exact hgo _ _ (ih (List.pairwise_cons.mp hkeys).2 hrest)

end Keeps
end Record
end Cursor
end BundleInstaller.Json
