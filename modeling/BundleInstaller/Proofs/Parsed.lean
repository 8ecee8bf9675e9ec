import BundleInstaller.Proofs.Fields

/-!
# What is read from a text

Every value that is read from a text is well-formed: a number with more than 64 bits is read as a
double, and the entries of an object are put in order.

* `Node.Fits`: all integers of a node fit.
* `readValue_fits`: reading finds no integers but such, also in a text that goes wrong.
* `wellFormed_of_nodeToJson`: the value of such a node is well-formed.
* `wellFormed_of_parse`, `wellFormed_of_ofBytes?`: what is read is well-formed.
-/

namespace BundleInstaller.Json

open Cursor

/-- All integers of a node fit. -/
inductive Node.Fits : Node → Prop
  | null (extent : Extent) : Fits (.null extent)
  | bool (extent : Extent) (b : Bool) : Fits (.bool extent b)
  | int (extent : Extent) {n : Int} (h : Json.Fits n) : Fits (.number extent (.ok (.int n)))
  | float (extent : Extent) (x : Double) : Fits (.number extent (.ok (.float x)))
  | fault (extent : Extent) (f : Fault) : Fits (.number extent (.error f))
  | string (extent : Extent) (s : Except Fault String) : Fits (.string extent s)
  | array (extent : Extent) {items : List Node} (ending : Option (Fault × Fault))
      (h : ∀ node ∈ items, Fits node) : Fits (.array extent items ending)
  | object (extent : Extent) {entries : List (Except Fault String × EntryPlace × Node)}
      (ending : Option (Fault × Fault)) (h : ∀ e ∈ entries, Fits e.2.2) :
      Fits (.object extent entries ending)
  | bad (read skip : Fault) : Fits (.bad read skip)

/-! ## Reading -/

theorem fits_of_integerOf {negative : Bool} {ds : List Char} {n : Number}
    (h : integerOf negative ds = some n) (extent : Extent) :
    (Node.number extent (.ok n)).Fits := by
  have hfloat : ∀ x : Option Double, x.map Number.float = some n →
      (Node.number extent (.ok n)).Fits := by
    intro x hx
    obtain ⟨_, -, rfl⟩ := Option.map_eq_some_iff.mp hx
    exact .float _ _
  have hpow : Nat.pow 2 63 < Nat.pow 2 64 := by decide
  unfold integerOf at h
  dsimp only at h
  split at h
  · split at h
    · cases h
      exact .float _ _
    split at h
    · cases h
      exact .int _ ⟨by omega, by omega⟩
    · exact hfloat _ h
  split at h
  · cases h
    exact .int _ ⟨by omega, by omega⟩
  · exact hfloat _ h

theorem readNumber_fits (start i : Input) (negative : Bool) :
    (readNumber start i negative).1.Fits := by
  unfold readNumber
  dsimp only
  repeat' split
  all_goals first
    | exact .bad _ _
    | exact .float _ _
    | exact .fault _ _
    | next hn => exact fits_of_integerOf hn _

theorem readWord_fits {make : Extent → Node} (hmake : ∀ extent, (make extent).Fits) (start : Input)
    (word : List Char) : ∀ i, (readWord make start i word).1.Fits := by
  induction word with
  | nil => exact fun i => hmake _
  | cons c word ih =>
    intro i
    unfold readWord
    split
    · exact .bad _ _
    · split
      · exact ih _
      · exact .bad _ _

mutual

/-- **Reading finds no integers but such that fit.** -/
theorem readValue_fits : ∀ (i : Input) (steps : Nat), (readValue i steps).1.Fits
  | i, 0 => .bad _ _
  | i, steps + 1 => by
    unfold readValue
    dsimp only
    split
    · exact .bad _ _
    split
    · exact readWord_fits .null _ _ _
    split
    · exact readWord_fits (.bool · true) _ _ _
    split
    · exact readWord_fits (.bool · false) _ _ _
    split
    · exact readNumber_fits _ _ _
    split
    · exact readNumber_fits _ _ _
    split
    · split
      · exact .string _ _
      · exact .bad _ _
    split
    · have h := readItems_fits [] (fun _ h => absurd h List.not_mem_nil) i.next.skipBlanks steps
      split
      · next hitems => exact .array _ _ (by rwa [hitems] at h)
      · next hitems => exact .array _ _ (by rwa [hitems] at h)
    split
    · have h := readEntries_fits [] (fun _ h => absurd h List.not_mem_nil) i.next.skipBlanks steps
      split
      · next hentries => exact .object _ _ (by rwa [hentries] at h)
      · next hentries => exact .object _ _ (by rwa [hentries] at h)
    · exact .bad _ _

theorem readItems_fits : ∀ (before : List Node), (∀ node ∈ before, node.Fits) →
    ∀ (i : Input) (steps : Nat), ∀ node ∈ (readItems before i steps).1, node.Fits
  | before, h, i, 0 => fun node hnode => h node (List.mem_reverse.mp hnode)
  | before, h, i, steps + 1 => by
    have hstop : ∀ node ∈ before.reverse, node.Fits := fun node hnode =>
      h node (List.mem_reverse.mp hnode)
    have hcons : ∀ {j node next}, readValue j steps = (node, next) →
        ∀ node' ∈ node :: before, node'.Fits := by
      intro j node next hread
      have hnode := readValue_fits j steps
      rw [hread] at hnode
      exact List.forall_mem_cons.mpr ⟨hnode, h⟩
    unfold readItems
    dsimp only
    repeat' split
    all_goals first
      | exact hstop
      | next hread => exact fun node hnode => hcons hread node (List.mem_reverse.mp hnode)
      | next hread => exact readItems_fits _ (hcons hread) _ _

theorem readEntries_fits : ∀ (before : List (Except Fault String × EntryPlace × Node)),
    (∀ e ∈ before, e.2.2.Fits) →
    ∀ (i : Input) (steps : Nat), ∀ e ∈ (readEntries before i steps).1, e.2.2.Fits
  | before, h, i, 0 => fun e he => h e (List.mem_reverse.mp he)
  | before, h, i, steps + 1 => by
    have hstop : ∀ e ∈ before.reverse, e.2.2.Fits := fun e he => h e (List.mem_reverse.mp he)
    have hcons : ∀ {node : Node}, node.Fits → ∀ key place,
        ∀ e ∈ (key, place, node) :: before, e.2.2.Fits :=
      fun hnode key place => List.forall_mem_cons.mpr ⟨hnode, h⟩
    unfold readEntries
    dsimp only
    -- The value of an entry is bad where the colon is missing.
    repeat' split
    all_goals first
      | exact hstop
      | exact fun e he => hcons (.bad _ _) _ _ e (List.mem_reverse.mp he)
      | exact fun e he => hcons (readValue_fits _ _) _ _ e (List.mem_reverse.mp he)
      | exact readEntries_fits _ (hcons (.bad _ _) _ _) _ _
      | exact readEntries_fits _ (hcons (readValue_fits _ _) _ _) _ _

end

/-! ## Values -/

mutual

/-- **The value of a node whose integers fit is well-formed.** -/
theorem wellFormed_of_nodeToJson : ∀ {node : Node}, node.Fits → ∀ {depth : Nat} {j : Json},
    nodeToJson depth node = .ok j → WellFormed j
  | .null _, _, _, _, h => by cases h; exact .null
  | .bool _ b, _, _, _, h => by cases h; exact .bool b
  | .number _ _, .int _ hn, _, _, h => by cases h; exact .int hn
  | .number _ _, .float _ x, _, _, h => by cases h; exact .float x
  | .number _ _, .fault _ _, _, _, h => by cases h
  | .string _ (.ok s), _, _, _, h => by cases h; exact .str s
  | .string _ (.error _), _, _, _, h => by cases h
  | .bad _ _, _, _, _, h => by cases h
  | .array _ items _, .array _ _ hitems, depth, j, h => by
    rw [nodeToJson] at h
    split at h
    · cases h
    split at h
    · cases h
    · next js hjs =>
      obtain ⟨_, -, rfl⟩ := map_ok_iff.mp h
      exact .arr (wellFormed_of_itemsToJson hitems hjs)
  | .object _ entries _, .object _ _ hentries, depth, j, h => by
    rw [nodeToJson] at h
    split at h
    · cases h
    split at h
    · cases h
    · next js hjs =>
      obtain ⟨_, -, rfl⟩ := map_ok_iff.mp h
      exact wellFormed_ofEntries (wellFormed_of_entriesToJson hentries hjs)

theorem wellFormed_of_itemsToJson : ∀ {items : List Node}, (∀ node ∈ items, node.Fits) →
    ∀ {depth : Nat} {js : List Json}, itemsToJson depth items = .ok js → ∀ j ∈ js, WellFormed j
  | [], _, _, _, h => by cases h; simp
  | node :: rest, hitems, depth, js, h => by
    obtain ⟨hnode, hrest⟩ := List.forall_mem_cons.mp hitems
    rw [itemsToJson] at h
    split at h
    · cases h
    · next j hj =>
      obtain ⟨js', hjs, rfl⟩ := map_ok_iff.mp h
      exact List.forall_mem_cons.mpr
        ⟨wellFormed_of_nodeToJson hnode hj, wellFormed_of_itemsToJson hrest hjs⟩

theorem wellFormed_of_entriesToJson :
    ∀ {entries : List (Except Fault String × EntryPlace × Node)}, (∀ e ∈ entries, e.2.2.Fits) →
      ∀ {depth : Nat} {js : List (String × Json)}, entriesToJson depth entries = .ok js →
        ∀ e ∈ js, WellFormed e.2
  | [], _, _, _, h => by cases h; simp
  | (.error _, _, _) :: _, _, _, _, h => by
    rw [entriesToJson] at h
    cases h
  | (.ok key, _, node) :: rest, hentries, depth, js, h => by
    obtain ⟨hnode, hrest⟩ := List.forall_mem_cons.mp hentries
    rw [entriesToJson] at h
    split at h
    · cases h
    · next j hj =>
      obtain ⟨js', hjs, rfl⟩ := map_ok_iff.mp h
      exact List.forall_mem_cons.mpr
        ⟨wellFormed_of_nodeToJson hnode hj, wellFormed_of_entriesToJson hrest hjs⟩

end

/-- **What is read from a text is well-formed.** -/
theorem wellFormed_of_parse {text : String} {j : Json} (h : parse text = .ok j) :
    WellFormed j := by
  unfold parse readText at h
  obtain ⟨a, ha, h⟩ := read_bind_ok.mp h
  have hnode : (Node.ofText text.toList).1.Fits := by
    have hread := readValue_fits (Input.skipBlanks ⟨.start, text.toList⟩)
      (2 * text.toList.length + 2)
    unfold Node.ofText
    dsimp only
    split
    · next heq => rwa [heq] at hread
    · next heq => rwa [heq] at hread
  have hwell := wellFormed_of_nodeToJson hnode ha
  split at h
  · cases h
  · cases h
    exact hwell

/-- The value that stands in octets. -/
def ofBytes? (body : Bytes) : Option Json :=
  (Text.Utf8.decode? body).bind fun text => (parse text).toOption

/-- **What stands in octets is well-formed.** -/
theorem wellFormed_of_ofBytes? {body : Bytes} {j : Json} (h : ofBytes? body = some j) :
    WellFormed j := by
  obtain ⟨text, -, htext⟩ := Option.bind_eq_some_iff.mp h
  cases hparse : parse text with
  | error f => rw [hparse] at htext; cases htext
  | ok j' =>
    rw [hparse] at htext
    cases htext
    exact wellFormed_of_parse hparse

end BundleInstaller.Json
