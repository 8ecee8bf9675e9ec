import BundleInstaller.Yaml.Cursor

/-!
# What a record says of a field

Two readers of one document count the aliases that they follow differently, and fail in different
places.  What a reader that succeeds finds does not depend on that: it is said here by functions of
the value alone.

* `readText?_ok`: a text that may be null is `Cursor.nullable?`.
* `readRecord_made`, `readRecord_last`: of the entries of a record, the last one of a field counts.
* `readRecord_keeps`: what every step keeps holds of what a record is made from.
-/

namespace BundleInstaller.Yaml

open Decode

theorem read_bind_ok {α β : Type} {x : Read α} {f : α → Read β} {n : Nat} {r : β × Nat} :
    (x >>= f) n = .ok r ↔ ∃ a n₁, x n = .ok (a, n₁) ∧ f a n₁ = .ok r := by
  show (x n).bind (fun y => f y.1 y.2) = .ok r ↔ _
  cases hx : x n with
  | error e => simp [Except.bind]
  | ok y =>
    obtain ⟨a, n₁⟩ := y
    constructor
    · exact fun h => ⟨a, n₁, rfl, h⟩
    · rintro ⟨_, _, heq, h⟩
      cases heq
      exact h

theorem read_pure_ok {α : Type} {a b : α} {n n' : Nat} :
    (pure a : Read α) n = .ok (b, n') ↔ a = b ∧ n = n' := by
  show (Except.ok (a, n) : Except Fault _) = .ok (b, n') ↔ _
  simp

namespace Cursor

/-- The value that an alias leads to; any other value itself. -/
def target (c : Cursor) : Cursor :=
  match c.node with
  | .alias _ number =>
    { c with node := (c.document.anchor? number).getD .cut, tagged := false }
  | _ => c

theorem resolve_ok {c c' : Cursor} {n n' : Nat} (h : c.resolve n = .ok (c', n')) :
    c' = c.target := by
  unfold resolve at h
  unfold target
  cases hnode : c.node with
  | «alias» mark number =>
    rw [hnode] at h
    obtain ⟨_, _, -, h⟩ := read_bind_ok.mp h
    obtain ⟨limit, _, -, h⟩ := read_bind_ok.mp h
    by_cases hlimit : c.document.size * aliasesPerEvent < limit
    · rw [if_pos hlimit] at h
      cases h
    · rw [if_neg hlimit] at h
      exact (read_pure_ok.mp h).1.symm
  | _ =>
    rw [hnode] at h
    exact (read_pure_ok.mp h).1.symm

theorem locate_ok {α : Type} {c : Cursor} {mark : Mark} {read : Read α} {n : Nat} {r : α × Nat}
    (h : c.locate mark read n = .ok r) : read n = .ok r := by
  unfold locate at h
  cases hread : read n with
  | ok result => rwa [hread] at h
  | error e =>
    rw [hread] at h
    split at h <;> cases h

theorem enter_ok {α : Type} {c : Cursor} {read : Cursor → Read α} {n : Nat} {r : α × Nat}
    (h : c.enter read n = .ok r) : ∃ n₁, read c.target n₁ = .ok r := by
  unfold enter at h
  obtain ⟨c', n₁, hc, h⟩ := read_bind_ok.mp h
  rw [resolve_ok hc] at h
  cases hmark : c.target.mark? with
  | none =>
    rw [hmark] at h
    cases h
  | some mark =>
    rw [hmark] at h
    exact ⟨n₁, locate_ok h⟩

theorem wrongKind_ne_ok {α : Type} {c : Cursor} {expected : String} {n : Nat} {r : α × Nat} :
    (c.wrongKind expected : Read α) n ≠ .ok r := by
  intro h
  unfold wrongKind at h
  cases hnode : c.node with
  | scalar mark tag text style =>
    rw [hnode] at h
    cases hmeaning : Meaning.ofScalar tag text style <;> simp only [hmeaning] at h <;> cases h
  | _ =>
    rw [hnode] at h
    cases h

theorem ofExcept_ok {α : Type} {x : Except Mismatch α} {a : α} {n n' : Nat}
    (h : ofExcept x n = .ok (a, n')) : x = .ok a := by
  cases x with
  | error m => cases h
  | ok b =>
    obtain ⟨rfl, -⟩ := read_pure_ok.mp h
    rfl

theorem deeper_ok {c c' : Cursor} {mark : Mark} {n n' : Nat} (h : c.deeper mark n = .ok (c', n')) :
    c' = { c with depth := c.depth - 1 } := by
  unfold deeper at h
  cases hdepth : c.depth with
  | zero =>
    rw [hdepth] at h
    cases h
  | succ depth =>
    rw [hdepth] at h
    exact (read_pure_ok.mp h).1.symm

/-! ## Texts -/

theorem readTextOf_ok {α : Type} {expected : String} {read : String → Except Mismatch α}
    {c : Cursor} {a : α} {n n' : Nat} (h : readTextOf expected read c n = .ok (a, n')) :
    ∃ text, c.target.text? = some text ∧ read text = .ok a := by
  obtain ⟨n₁, h⟩ := enter_ok h
  cases hnode : c.target.node with
  | scalar mark tag text style =>
    rw [hnode] at h
    refine ⟨text, ?_, ofExcept_ok h⟩
    rw [text?, hnode]
  | _ =>
    rw [hnode] at h
    exact absurd h wrongKind_ne_ok

theorem readOption_ok {α : Type} {read : Cursor → Read α} {c : Cursor} {a? : Option α} {n n' : Nat}
    (h : readOption read c n = .ok (a?, n')) :
    (c.target.isNull = .ok true ∧ a? = none) ∨
      (c.target.isNull = .ok false ∧ ∃ a n₁ n₂, a? = some a ∧ read c.target n₁ = .ok (a, n₂)) := by
  unfold readOption at h
  obtain ⟨c', n₁, hc, h⟩ := read_bind_ok.mp h
  rw [resolve_ok hc] at h
  cases hmark : c.target.mark?.isNone with
  | true =>
    rw [hmark] at h
    obtain ⟨_, _, h, -⟩ := read_bind_ok.mp h
    cases h
  | false =>
    rw [hmark] at h
    obtain ⟨null, n₂, hnull, h⟩ := read_bind_ok.mp h
    have hnull' := ofExcept_ok hnull
    cases null with
    | true => exact .inl ⟨hnull', (read_pure_ok.mp h).1.symm⟩
    | false =>
      obtain ⟨a, n₃, hread, h⟩ := read_bind_ok.mp h
      exact .inr ⟨hnull', a, n₂, n₃, (read_pure_ok.mp h).1.symm, hread⟩

/-- The text of a value that may be null. -/
def nullable? (c : Cursor) : Option String :=
  match c.target.isNull with
  | .ok true => none
  | _ => c.target.target.text?

/-- **A text that may be null is read the same way by all readers.** -/
theorem readText?_ok {c : Cursor} {s? : Option String} {n n' : Nat}
    (h : readText? c n = .ok (s?, n')) : s? = c.nullable? := by
  rcases readOption_ok h with ⟨hnull, rfl⟩ | ⟨hnull, s, n₁, n₂, rfl, hread⟩
  · rw [nullable?, hnull]
  · obtain ⟨text, htext, hs⟩ := readTextOf_ok hread
    cases hs
    rw [nullable?, hnull]
    exact htext.symm

/-! ## Records -/

/-- What the last entry of a field says, as `denote` tells it. -/
def last? {β : Type} (denote : Cursor → β) (field : String) (c : Cursor) :
    List (Node × Node) → Option β
  | [] => none
  | (k, v) :: rest =>
    (last? denote field c rest).or
      (if (c.key k).target.text? = some field then some (denote (c.value k v)) else none)

theorem last?_eq_map {β : Type} (denote : Cursor → β) (field : String) (c : Cursor)
    (entries : List (Node × Node)) :
    last? denote field c entries = (last? id field c entries).map denote := by
  induction entries with
  | nil => rfl
  | cons entry rest ih =>
    rw [last?, last?, ih]
    cases last? id field c rest with
    | some _ => rfl
    | none => split <;> rfl

theorem readFields_cons_ok {τ : Type} {shape : RecordShape}
    {step : String → Option (τ → Cursor → Read τ)} {c : Cursor} {t t' : τ} {k v : Node}
    {rest : List (Node × Node)} {n n' : Nat}
    (h : readFields shape step c t ((k, v) :: rest) n = .ok (t', n')) :
    ∃ name t₁ n₁, (c.key k).target.text? = some name ∧
      readFields shape step c t₁ rest n₁ = .ok (t', n') ∧
      ((step name = none ∧ t₁ = t) ∨
        ∃ read n₂, step name = some read ∧ read t (c.value k v) n₂ = .ok (t₁, n₁)) := by
  obtain ⟨name, n₂, hname, h⟩ := read_bind_ok.mp h
  obtain ⟨text, htext, hok⟩ := readTextOf_ok hname
  cases hok
  cases hread : step name with
  | none =>
    rw [hread] at h
    obtain ⟨_, _, -, h⟩ := read_bind_ok.mp h
    obtain ⟨t₁, n₁, ht, h⟩ := read_bind_ok.mp h
    exact ⟨name, t₁, n₁, htext, h, .inl ⟨hread, (read_pure_ok.mp ht).1.symm⟩⟩
  | some read =>
    rw [hread] at h
    obtain ⟨t₁, n₁, hstep, h⟩ := read_bind_ok.mp h
    exact ⟨name, t₁, n₁, htext, h, .inr ⟨read, n₂, hread, hstep⟩⟩

/-- What a reader keeps in `part` of the values of a field is made from the last one of them, if
each step that succeeds keeps what is made from its value and no other field matters. -/
theorem readFields_made {τ β : Type} {shape : RecordShape}
    {step : String → Option (τ → Cursor → Read τ)} {Made : Cursor → β → Prop} {field : String}
    {part : τ → Option β}
    (hfield : ∀ read, step field = some read → ∀ t c n t' n', read t c n = .ok (t', n') →
      ∃ b, part t' = some b ∧ Made c b)
    (hknown : (step field).isSome)
    (hothers : ∀ name, name ≠ field → ∀ read, step name = some read → ∀ t c n t' n',
      read t c n = .ok (t', n') → part t' = part t) {c : Cursor} :
    ∀ {entries : List (Node × Node)} {t t' : τ} {n n' : Nat},
      readFields shape step c t entries n = .ok (t', n') →
        (last? id field c entries = none ∧ part t' = part t) ∨
          ∃ c' b, last? id field c entries = some c' ∧ part t' = some b ∧ Made c' b := by
  intro entries
  induction entries with
  | nil =>
    intro t t' n n' h
    obtain ⟨rfl, -⟩ := read_pure_ok.mp h
    exact .inl ⟨rfl, rfl⟩
  | cons entry rest ih =>
    intro t t' n n' h
    obtain ⟨k, v⟩ := entry
    obtain ⟨name, t₁, n₁, htext, h, hstep⟩ := readFields_cons_ok h
    have hlast : last? id field c ((k, v) :: rest) =
        (last? id field c rest).or (if name = field then some (c.value k v) else none) := by
      rw [last?, htext]
      simp only [Option.some.injEq, id_eq]
    rw [hlast]
    rcases ih h with ⟨hnone, hpart⟩ | ⟨c', b, hsome, hpart, hmade⟩
    · rw [hnone, Option.none_or, hpart]
      rcases hstep with ⟨hread, rfl⟩ | ⟨read, n₂, hread, hstep⟩
      · have hn : name ≠ field := by
          rintro rfl
          rw [hread] at hknown
          cases hknown
        exact .inl ⟨if_neg hn, rfl⟩
      · by_cases hn : name = field
        · subst hn
          obtain ⟨b, hb, hmade⟩ := hfield read hread _ _ _ _ _ hstep
          exact .inr ⟨_, b, if_pos rfl, hb, hmade⟩
        · exact .inl ⟨if_neg hn, hothers name hn read hread _ _ _ _ _ hstep⟩
    · exact .inr ⟨c', b, by rw [hsome, Option.some_or], hpart, hmade⟩

theorem readRecord_ok {τ α : Type} {shape : RecordShape} {init : τ}
    {step : String → Option (τ → Cursor → Read τ)} {finish : τ → Except Mismatch α} {c : Cursor}
    {a : α} {n n' : Nat} (h : readRecord shape init step finish c n = .ok (a, n')) :
    (∃ mark tag entries t n₁ n₂, c.target.node = .mapping mark tag entries ∧
      readFields shape step { c.target with depth := c.target.depth - 1 } init entries n₁ =
        .ok (t, n₂) ∧ finish t = .ok a) ∨
      (c.target.isBlank ∧ finish init = .ok a) := by
  obtain ⟨n₁, h⟩ := enter_ok h
  cases hnode : c.target.node with
  | mapping mark tag entries =>
    rw [hnode] at h
    obtain ⟨c', n₂, hdeeper, h⟩ := read_bind_ok.mp h
    obtain ⟨t, n₃, hfields, h⟩ := read_bind_ok.mp h
    rw [deeper_ok hdeeper] at hfields
    exact .inl ⟨mark, tag, entries, t, n₂, n₃, rfl, hfields, ofExcept_ok h⟩
  | _ =>
    rw [hnode] at h
    cases hblank : c.target.isBlank
    all_goals rw [hblank] at h
    · exact absurd h wrongKind_ne_ok
    · exact .inr ⟨rfl, ofExcept_ok h⟩

/-- What the last entry of a field says in a value that is a mapping. -/
def field? {β : Type} (denote : Cursor → β) (field : String) (c : Cursor) : Option β :=
  match c.target.node with
  | .mapping _ _ entries => last? denote field { c.target with depth := c.target.depth - 1 } entries
  | _ => none

theorem field?_of_isBlank {β : Type} {denote : Cursor → β} {field : String} {c : Cursor}
    (h : c.target.isBlank) : field? denote field c = none := by
  unfold field?
  unfold isBlank at h
  split
  · rename_i hnode
    rw [hnode] at h
    cases h
  · rfl

theorem field?_eq_map {β : Type} (denote : Cursor → β) (field : String) (c : Cursor) :
    field? denote field c = (field? id field c).map denote := by
  unfold field?
  split
  · exact last?_eq_map denote field _ _
  · rfl

/-- **Of the entries of a record, the last one of a field counts.** -/
theorem readRecord_made {τ α β : Type} {shape : RecordShape} {init : τ}
    {step : String → Option (τ → Cursor → Read τ)} {finish : τ → Except Mismatch α}
    {Made : Cursor → β → Prop} (field : String) (part : τ → Option β)
    (hfield : ∀ read, step field = some read → ∀ t c n t' n', read t c n = .ok (t', n') →
      ∃ b, part t' = some b ∧ Made c b)
    (hknown : (step field).isSome)
    (hothers : ∀ name, name ≠ field → ∀ read, step name = some read → ∀ t c n t' n',
      read t c n = .ok (t', n') → part t' = part t) {c : Cursor} {a : α} {n n' : Nat}
    (h : readRecord shape init step finish c n = .ok (a, n')) :
    ∃ t, finish t = .ok a ∧ ((field? id field c = none ∧ part t = part init) ∨
      ∃ c' b, field? id field c = some c' ∧ part t = some b ∧ Made c' b) := by
  rcases readRecord_ok h with ⟨_, _, _, t, _, _, hnode, hfields, ht⟩ | ⟨hblank, ht⟩
  · refine ⟨t, ht, ?_⟩
    rw [field?, hnode]
    exact readFields_made hfield hknown hothers hfields
  · exact ⟨init, ht, .inl ⟨field?_of_isBlank hblank, rfl⟩⟩

/-- What is made from the last entry of a field, where that is a function of the entry. -/
theorem readRecord_last {τ α β : Type} {shape : RecordShape} {init : τ}
    {step : String → Option (τ → Cursor → Read τ)} {finish : τ → Except Mismatch α}
    (field : String) (denote : Cursor → β) (part : τ → Option β)
    (hfield : ∀ read, step field = some read → ∀ t c n t' n', read t c n = .ok (t', n') →
      part t' = some (denote c))
    (hknown : (step field).isSome)
    (hothers : ∀ name, name ≠ field → ∀ read, step name = some read → ∀ t c n t' n',
      read t c n = .ok (t', n') → part t' = part t) {c : Cursor} {a : α} {n n' : Nat}
    (h : readRecord shape init step finish c n = .ok (a, n')) :
    ∃ t, finish t = .ok a ∧ part t = (field? denote field c).or (part init) := by
  have hmade : ∀ read, step field = some read → ∀ t c n t' n', read t c n = .ok (t', n') →
      ∃ b, part t' = some b ∧ b = denote c :=
    fun read hread t c n t' n' h => ⟨_, hfield read hread t c n t' n' h, rfl⟩
  obtain ⟨t, ht, ⟨hnone, hpart⟩ | ⟨c', b, hsome, hpart, rfl⟩⟩ :=
    readRecord_made field part hmade hknown hothers h
  · refine ⟨t, ht, ?_⟩
    rw [field?_eq_map, hnone, hpart]
    rfl
  · refine ⟨t, ht, ?_⟩
    rw [field?_eq_map, hsome, hpart]
    rfl

/-- What every step keeps holds of what a record is made from. -/
theorem readRecord_keeps {τ α : Type} {shape : RecordShape} {init : τ}
    {step : String → Option (τ → Cursor → Read τ)} {finish : τ → Except Mismatch α} {P : τ → Prop}
    (hinit : P init)
    (hstep : ∀ name read, step name = some read → ∀ t c n t' n', P t →
      read t c n = .ok (t', n') → P t') {c : Cursor} {a : α} {n n' : Nat}
    (h : readRecord shape init step finish c n = .ok (a, n')) : ∃ t, finish t = .ok a ∧ P t := by
  have hfields : ∀ {c : Cursor} {entries : List (Node × Node)} {t t' : τ} {n n' : Nat}, P t →
      readFields shape step c t entries n = .ok (t', n') → P t' := by
    intro c entries
    induction entries with
    | nil =>
      intro t t' n n' ht h
      obtain ⟨rfl, -⟩ := read_pure_ok.mp h
      exact ht
    | cons entry rest ih =>
      intro t t' n n' ht h
      obtain ⟨name, t₁, n₁, -, h, hstep'⟩ := readFields_cons_ok h
      refine ih ?_ h
      rcases hstep' with ⟨-, rfl⟩ | ⟨read, n₂, hread, hstep'⟩
      · exact ht
      · exact hstep name read hread _ _ _ _ _ ht hstep'
  rcases readRecord_ok h with ⟨_, _, _, t, _, _, -, hread, ht⟩ | ⟨-, ht⟩
  · exact ⟨t, ht, hfields hinit hread⟩
  · exact ⟨init, ht, hinit⟩

end Cursor
end BundleInstaller.Yaml
