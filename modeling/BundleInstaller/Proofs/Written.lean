import BundleInstaller.Proofs.Octets
import BundleInstaller.Proofs.Parsed

/-!
# Text of a value and back

A value that was written is read as it was, provided that its numbers are integers of 64 bits, that
the keys of its objects ascend, and that it is nested no deeper than is read.

The writer puts no blanks, so that a reader which passes over blanks stays where it is; and it stops
a value where a comma, a bracket or the end follows, which ends a number too.

* `readString_escaped`: a text is read from between its quotes.
* `readValue_int`: an integer is read from its digits.
* `Legible`: the values that are read as they were written.
* `readValue_text`: the text of a value is read as the value, whatever ends it.
* `parse_text`, `ofBytes?_bytes`: what was written is read as it was, from text and from octets.
-/

namespace BundleInstaller.Json

open Cursor

/-! ## Strings -/

theorem hex4_read : ∀ n < 0x20, (hex4 n).length = 4 ∧
    (hex4 n).foldl (fun n c => n + c.utf8Size) 0 = 4 ∧ Decimal.readNat? 16 (hex4 n) = some n := by
  decide

theorem readHex_hex4 {n : Nat} (h : n < 0x20) (spot : Spot) (rest : List Char) :
    readHex ⟨spot, hex4 n ++ rest⟩ = .ok (n, ⟨spot.right 4, rest⟩) := by
  obtain ⟨hlength, hwidth, hread⟩ := hex4_read n h
  unfold readHex
  dsimp only
  rw [List.take_left' hlength, List.drop_left' hlength, hwidth, if_neg (by decide), hread]

theorem pairUp_of_char (c : Char) (i : Input) : pairUp c.toNat i = .ok c := by
  unfold pairUp
  rw [dif_pos (show c.toNat.isValidChar from c.valid)]
  rfl

theorem readString_escapeChar (c : Char) (text : List Char) (spot : Spot) (rest : List Char)
    (steps : Nat) : ∃ spot', readString (.ok text) spot (escapeChar c ++ rest) (steps + 1) =
      readString (.ok (c :: text)) spot' rest steps := by
  unfold escapeChar
  split
  all_goals try exact ⟨_, rfl⟩
  · next hquote hslash _ _ _ _ _ =>
    split
    · next hlow =>
      have hread := readHex_hex4 hlow (spot.right 2) rest
      refine ⟨(spot.right 2).right 4, ?_⟩
      have hhalf : isFirstHalf c.toNat = false := by
        simp only [isFirstHalf, Bool.and_eq_false_iff, decide_eq_false_iff_not]
        omega
      simp [readString, hread, pairUp_of_char, hhalf]
    · next hlow =>
      refine ⟨spot.after c, ?_⟩
      simp [readString, show (c == '"') = false by simpa using hquote,
        show (c == '\\') = false by simpa using hslash, hlow, Except.map]

theorem length_escapeChar_pos (c : Char) : 0 < (escapeChar c).length := by
  unfold escapeChar
  split
  all_goals try exact Nat.zero_lt_succ _
  · split
    · exact Nat.zero_lt_succ _
    · exact Nat.zero_lt_succ _

theorem readString_escaped (cs : List Char) :
    ∀ (text : List Char) (spot : Spot) (rest : List Char) (steps : Nat),
      (cs.flatMap escapeChar).length < steps →
      ∃ spot', readString (.ok text) spot (cs.flatMap escapeChar ++ '"' :: rest) steps =
        .ok (.ok (String.ofList (text.reverse ++ cs)), ⟨spot', rest⟩) := by
  induction cs with
  | nil =>
    intro text spot rest steps hsteps
    obtain ⟨steps, rfl⟩ := Nat.exists_eq_add_one_of_ne_zero (Nat.ne_of_gt hsteps)
    rw [List.append_nil]
    exact ⟨spot.right 1, rfl⟩
  | cons c cs ih =>
    intro text spot rest steps hsteps
    have hpos := length_escapeChar_pos c
    rw [List.flatMap_cons, List.length_append] at hsteps
    obtain ⟨steps, rfl⟩ := Nat.exists_eq_add_one_of_ne_zero
      (Nat.ne_of_gt (Nat.zero_lt_of_lt hsteps))
    obtain ⟨spot₁, hchar⟩ := readString_escapeChar c text spot
      (cs.flatMap escapeChar ++ '"' :: rest) steps
    obtain ⟨spot₂, hrest⟩ := ih (c :: text) spot₁ rest steps (by omega)
    rw [List.flatMap_cons, List.append_assoc, hchar, hrest, List.reverse_cons, List.append_assoc]
    exact ⟨spot₂, rfl⟩

theorem toList_quoteText (s : String) :
    (quoteText s).toList = '"' :: (s.toList.flatMap escapeChar ++ ['"']) := by
  rw [quoteText, String.toList_ofList]

theorem stringAt_quoteText (s : String) (spot : Spot) (rest : List Char) :
    ∃ spot', stringAt ⟨spot, (quoteText s).toList ++ rest⟩ = .ok (.ok s, ⟨spot', rest⟩) := by
  have htext : (quoteText s).toList ++ rest =
      '"' :: (s.toList.flatMap escapeChar ++ '"' :: rest) := by
    rw [toList_quoteText, List.cons_append, List.append_assoc, List.singleton_append]
  obtain ⟨spot', h⟩ := readString_escaped s.toList [] (spot.right 1) rest
    (('"' :: (s.toList.flatMap escapeChar ++ '"' :: rest)).length + 1)
    (by simp only [List.length_cons, List.length_append]; omega)
  rw [List.reverse_nil, List.nil_append, String.ofList_toList] at h
  rw [htext]
  exact ⟨spot', h⟩

/-! ## Numbers -/

theorem toDigits_eq_cons (n : Nat) : ∃ c ds, Nat.toDigits 10 n = c :: ds ∧ c.isDigit := by
  cases hdigits : Nat.toDigits 10 n with
  | nil => exact absurd hdigits Nat.toDigits_ne_nil
  | cons c ds =>
    have hmem : c ∈ Nat.toDigits 10 n := hdigits ▸ List.mem_cons_self
    exact ⟨c, ds, rfl, Nat.isDigit_of_mem_toDigits (by decide) (by decide) hmem⟩

/-- A number does not start with a zero, which no digit may follow. -/
theorem head_toDigits_ne_zero {n : Nat} (h : 0 < n) {c : Char} {ds : List Char}
    (hdigits : Nat.toDigits 10 n = c :: ds) : c ≠ '0' := by
  induction n using Nat.strongRecOn generalizing c ds with
  | ind n ih =>
    by_cases hlt : n < 10
    · rw [Nat.toDigits_of_lt_base hlt] at hdigits
      have hall : ∀ m < 10, 0 < m → m.digitChar ≠ '0' := by decide
      exact (List.cons.inj hdigits).1 ▸ hall n hlt h
    · rw [Nat.toDigits_of_base_le (by decide) (by omega)] at hdigits
      obtain ⟨c', ds', hfirst, -⟩ := toDigits_eq_cons (n / 10)
      rw [hfirst, List.cons_append] at hdigits
      rw [← (List.cons.inj hdigits).1]
      exact ih (n / 10) (by omega) (by omega) hfirst

theorem digitsValue_toDigits (n : Nat) : Decimal.digitsValue (Nat.toDigits 10 n) = n := by
  have h := Nat.ofDigitChars_ten_toDigits (n := n)
  rw [Nat.ofDigitChars_eq_foldl] at h
  simp only [Nat.mul_comm 10] at h
  exact h

theorem integerOf_toDigits {n : Int} (h : Fits n) (hn : 0 ≤ n) :
    integerOf false (Nat.toDigits 10 n.toNat) = some (.int n) := by
  have hhigh := h.2
  unfold integerOf
  rw [digitsValue_toDigits, if_neg (by decide), if_pos (by omega), Int.toNat_of_nonneg hn]

theorem integerOf_toDigits_neg {n : Int} (h : Fits n) (hn : n < 0) :
    integerOf true (Nat.toDigits 10 (-n).toNat) = some (.int n) := by
  have hlow := h.1
  unfold integerOf
  rw [digitsValue_toDigits]
  dsimp only
  rw [if_pos rfl, if_neg (by omega), if_pos (by omega), Int.toNat_of_nonneg (by omega), Int.neg_neg]

theorem toList_toString (n : Int) : (toString n).toList =
    if 0 ≤ n then Nat.toDigits 10 n.toNat else '-' :: Nat.toDigits 10 (-n).toNat := by
  rw [Int.toString_eq_repr, Int.repr_eq_if]
  split
  · exact Nat.toList_repr
  · rw [String.toList_append, Nat.toList_repr]
    rfl

/-- What may follow a value in a text without blanks. -/
inductive Ends : List Char → Prop
  | nil : Ends []
  | comma (rest : List Char) : Ends (',' :: rest)
  | bracket (rest : List Char) : Ends (']' :: rest)
  | brace (rest : List Char) : Ends ('\x7d' :: rest)

theorem Ends.takeWhile_isDigit {rest : List Char} (h : Ends rest) :
    rest.takeWhile Char.isDigit = [] := by
  cases h <;> rfl

theorem Ends.skipBlanks {rest : List Char} (h : Ends rest) (spot : Spot) :
    Input.skipBlanks ⟨spot, rest⟩ = ⟨spot, rest⟩ := by
  cases h <;> rfl

theorem readDigits_append {ds rest : List Char} (hds : ∀ d ∈ ds, d.isDigit) (hrest : Ends rest)
    (spot : Spot) :
    readDigits ⟨spot, ds ++ rest⟩ = (ds, ⟨spot.right ds.length, rest⟩) := by
  unfold readDigits
  dsimp only
  rw [List.takeWhile_append_of_pos hds, hrest.takeWhile_isDigit, List.append_nil, List.drop_left]

theorem readNumber_toDigits {start : Input} {negative : Bool} {m : Nat} {spot : Spot}
    {rest : List Char} (hrest : Ends rest) {n : Number}
    (hn : integerOf negative (Nat.toDigits 10 m) = some n) :
    ∃ extent spot', readNumber start ⟨spot, Nat.toDigits 10 m ++ rest⟩ negative =
      (.number extent (.ok n), some ⟨spot', rest⟩) := by
  have hdigits : readDigits ⟨spot, Nat.toDigits 10 m ++ rest⟩ =
      (Nat.toDigits 10 m, ⟨spot.right (Nat.toDigits 10 m).length, rest⟩) :=
    readDigits_append (fun _ hd => Nat.isDigit_of_mem_toDigits (by decide) (by decide) hd)
      hrest spot
  unfold readNumber
  rw [hdigits]
  dsimp only
  split
  · next hnil => exact absurd hnil Nat.toDigits_ne_nil
  · next hzero =>
    cases m with
    | zero => cases hzero
    | succ m => exact absurd rfl (head_toDigits_ne_zero m.succ_pos hzero)
  · rw [hn]
    cases hrest <;> exact ⟨_, _, rfl⟩

theorem ne_of_isDigit {c : Char} (h : c.isDigit) (d : Char) (hd : d.isDigit = false) :
    (c == d) = false := by
  rw [beq_eq_false_iff_ne]
  rintro rfl
  rw [h] at hd
  cases hd

theorem readValue_of_isDigit {c : Char} (h : c.isDigit) (spot : Spot) (more : List Char)
    (steps : Nat) : readValue ⟨spot, c :: more⟩ (steps + 1) =
      readNumber ⟨spot, c :: more⟩ ⟨spot, c :: more⟩ false := by
  have hne : ∀ d : Char, d.isDigit = false → (c == d) = false := ne_of_isDigit h
  rw [readValue]
  dsimp only
  rw [hne 'n' rfl, hne 't' rfl, hne 'f' rfl, hne '-' rfl, h]
  rfl

theorem readValue_minus (spot : Spot) (more : List Char) (steps : Nat) :
    readValue ⟨spot, '-' :: more⟩ (steps + 1) =
      readNumber ⟨spot, '-' :: more⟩ ⟨spot.after '-', more⟩ true := by
  rw [readValue]
  dsimp only [Input.next]
  rw [if_neg (by decide), if_neg (by decide), if_neg (by decide), if_pos (by rfl)]

/-- **A number is read as itself.** -/
theorem readValue_int {n : Int} (h : Fits n) (spot : Spot) {rest : List Char}
    (hrest : Ends rest) (steps : Nat) :
    ∃ extent spot', readValue ⟨spot, (toString n).toList ++ rest⟩ (steps + 1) =
      (.number extent (.ok (.int n)), some ⟨spot', rest⟩) := by
  rw [toList_toString]
  split
  · next hn =>
    obtain ⟨c, ds, hdigits, hc⟩ := toDigits_eq_cons n.toNat
    rw [hdigits, List.cons_append, readValue_of_isDigit hc, ← List.cons_append, ← hdigits]
    exact readNumber_toDigits hrest (integerOf_toDigits h hn)
  · next hn =>
    rw [List.cons_append, readValue_minus]
    exact readNumber_toDigits hrest (integerOf_toDigits_neg h (Int.not_le.mp hn))

/-! ## Values -/

/-- The text of a value starts so: with no blank, and not as a list ends. -/
def Starts (cs : List Char) : Prop := ∃ c more, cs = c :: more ∧ isBlank c = false ∧ c ≠ ']'

theorem Starts.of_isDigit {c : Char} (h : c.isDigit) (more : List Char) : Starts (c :: more) := by
  have hne : ∀ d : Char, d.isDigit = false → (c == d) = false := ne_of_isDigit h
  refine ⟨c, more, rfl, ?_, beq_eq_false_iff_ne.mp (hne ']' rfl)⟩
  unfold isBlank
  rw [hne ' ' rfl, hne '\n' rfl, hne '\t' rfl, hne '\r' rfl]
  rfl

theorem Starts.skipBlanks {cs : List Char} (h : Starts cs) (spot : Spot) :
    Input.skipBlanks ⟨spot, cs⟩ = ⟨spot, cs⟩ := by
  obtain ⟨c, more, rfl, hblank, -⟩ := h
  unfold Input.skipBlanks Input.skipBlanks.go
  rw [if_neg (by rw [hblank]; decide)]

/-- A value whose text is read as the value itself, with at most `depth` lists and records nested in
each other: all numbers are integers of 64 bits. -/
inductive Legible : Nat → Json → Prop
  | null {depth : Nat} : Legible depth .null
  | bool {depth : Nat} (b : Bool) : Legible depth (.bool b)
  | int {depth : Nat} {n : Int} (h : Fits n) : Legible depth (.int n)
  | str {depth : Nat} (s : String) : Legible depth (.str s)
  | arr {depth : Nat} {items : List Json} (h : ∀ j ∈ items, Legible depth j) :
      Legible (depth + 1) (.arr items)
  | obj {depth : Nat} {entries : List (String × Json)} (hkeys : Ascending entries)
      (h : ∀ e ∈ entries, Legible depth e.2) : Legible (depth + 1) (.obj entries)

theorem toList_text_arr (items : List Json) :
    (text (.arr items)).toList = '[' :: ((itemsText items).toList ++ [']']) := by
  simp [text]

theorem toList_text_obj (entries : List (String × Json)) :
    (text (.obj entries)).toList = '\x7b' :: ((entriesText entries).toList ++ ['\x7d']) := by
  simp [text]

theorem starts_toString (n : Int) (rest : List Char) : Starts ((toString n).toList ++ rest) := by
  rw [toList_toString]
  split
  · obtain ⟨c, ds, hdigits, hc⟩ := toDigits_eq_cons n.toNat
    rw [hdigits]
    exact .of_isDigit hc _
  · exact ⟨'-', _, rfl, rfl, by decide⟩

theorem starts_text {j : Json} {depth : Nat} (h : Legible depth j) (rest : List Char) :
    Starts (j.text.toList ++ rest) := by
  cases h with
  | null => exact ⟨'n', _, rfl, rfl, by decide⟩
  | bool b =>
    cases b with
    | false => exact ⟨'f', _, rfl, rfl, by decide⟩
    | true => exact ⟨'t', _, rfl, rfl, by decide⟩
  | int _ => exact starts_toString _ rest
  | str s => exact ⟨'"', _, congrArg (· ++ rest) (toList_quoteText s), rfl, by decide⟩
  | arr _ => exact ⟨'[', _, congrArg (· ++ rest) (toList_text_arr _), rfl, by decide⟩
  | obj _ _ => exact ⟨'\x7b', _, congrArg (· ++ rest) (toList_text_obj _), rfl, by decide⟩

theorem readValue_quoteText (s : String) (spot : Spot) (rest : List Char) (steps : Nat) :
    ∃ extent spot', readValue ⟨spot, (quoteText s).toList ++ rest⟩ (steps + 1) =
      (.string extent (.ok s), some ⟨spot', rest⟩) := by
  obtain ⟨spot', h⟩ := stringAt_quoteText s spot rest
  rw [toList_quoteText, List.cons_append] at h ⊢
  rw [readValue]
  dsimp only
  rw [if_neg (by decide), if_neg (by decide), if_neg (by decide), if_neg (by decide),
    if_neg (by decide), if_pos (by rfl), h]
  exact ⟨_, _, rfl⟩

/-! ## Lists -/

/-- Items as they stand behind the first one. -/
def itemsTail (items : List Json) : List Char := items.flatMap fun j => ',' :: j.text.toList

theorem itemsTail_cons (j : Json) (items : List Json) :
    itemsTail (j :: items) = ',' :: (j.text.toList ++ itemsTail items) := rfl

theorem toList_itemsText (j : Json) (items : List Json) :
    (itemsText (j :: items)).toList = j.text.toList ++ itemsTail items := by
  induction items generalizing j with
  | nil => simp [itemsText, itemsTail]
  | cons j' items ih =>
    rw [itemsText, String.toList_append, String.toList_append, ih, itemsTail, itemsTail,
      List.flatMap_cons]
    · simp
    · simp

theorem ends_itemsTail (items : List Json) (rest : List Char) :
    Ends (itemsTail items ++ ']' :: rest) := by
  cases items with
  | nil => exact .bracket _
  | cons j items => exact .comma _

theorem readItems_close (before : List Node) (spot : Spot) (rest : List Char) (steps : Nat) :
    readItems before ⟨spot, ']' :: rest⟩ (steps + 1) =
      (before.reverse, .ok ⟨spot.after ']', rest⟩) := rfl

theorem readItems_first {cs : List Char} (hcs : Starts cs) {spot : Spot} {steps : Nat}
    {node : Node} {next : Input} (h : readValue ⟨spot, cs⟩ steps = (node, some next)) :
    readItems [] ⟨spot, cs⟩ (steps + 1) = readItems [node] next.skipBlanks steps := by
  obtain ⟨c, more, rfl, -, hc⟩ := hcs
  rw [readItems]
  dsimp only [Input.head?, List.head?_cons]
  rw [if_neg (by simpa using hc), if_pos (by rfl), h]

theorem readItems_next {before : List Node} (hbefore : before ≠ []) {cs : List Char}
    (hcs : Starts cs) {spot : Spot} {steps : Nat} {node : Node} {next : Input}
    (h : readValue ⟨spot.after ',', cs⟩ steps = (node, some next)) :
    readItems before ⟨spot, ',' :: cs⟩ (steps + 1) =
      readItems (node :: before) next.skipBlanks steps := by
  have hblank := hcs.skipBlanks (spot.after ',')
  obtain ⟨c, more, rfl, -, hc⟩ := hcs
  rw [readItems]
  dsimp only [Input.head?, List.head?_cons, Input.next]
  rw [hblank]
  dsimp only [List.head?_cons]
  rw [if_neg (by decide), if_neg (by simpa using hbefore), if_pos (by rfl),
    if_neg (by simpa using hc), h]

theorem readValue_array {spot : Spot} {more : List Char} {steps : Nat} {nodes : List Node}
    {stop : Input}
    (h : readItems [] (Input.skipBlanks ⟨spot.after '[', more⟩) steps = (nodes, .ok stop)) :
    ∃ extent, readValue ⟨spot, '[' :: more⟩ (steps + 1) =
      (.array extent nodes none, some stop) := by
  rw [readValue]
  dsimp only [Input.next]
  rw [if_neg (by decide), if_neg (by decide), if_neg (by decide), if_neg (by decide),
    if_neg (by decide), if_neg (by decide), if_pos (by rfl), h]
  exact ⟨_, rfl⟩

theorem nodeToJson_array {depth : Nat} {extent : Extent} {nodes : List Node} {items : List Json}
    (h : itemsToJson depth nodes = .ok items) :
    nodeToJson (depth + 1) (.array extent nodes none) = .ok (.arr items) := by
  rw [nodeToJson, if_neg depth.succ_ne_zero, Nat.add_sub_cancel, h]
  rfl

theorem itemsToJson_cons {depth : Nat} {node : Node} {nodes : List Node} {j : Json}
    {items : List Json} (hj : nodeToJson depth node = .ok j)
    (h : itemsToJson depth nodes = .ok items) :
    itemsToJson depth (node :: nodes) = .ok (j :: items) := by
  rw [itemsToJson, hj]
  dsimp only
  rw [h]
  rfl

/-! ## Objects -/

def entryText (e : String × Json) : List Char := (quoteText e.1).toList ++ ':' :: e.2.text.toList

def entriesTail (entries : List (String × Json)) : List Char :=
  entries.flatMap fun e => ',' :: entryText e

theorem entriesTail_cons (e : String × Json) (entries : List (String × Json)) :
    entriesTail (e :: entries) = ',' :: (entryText e ++ entriesTail entries) := rfl

theorem toList_entriesText (e : String × Json) (entries : List (String × Json)) :
    (entriesText (e :: entries)).toList = entryText e ++ entriesTail entries := by
  obtain ⟨k, j⟩ := e
  induction entries generalizing k j with
  | nil => simp [entriesText, entriesTail, entryText]
  | cons e' entries ih =>
    obtain ⟨k', j'⟩ := e'
    rw [entriesText, String.toList_append, String.toList_append, String.toList_append,
      String.toList_append, ih, entriesTail, entriesTail, List.flatMap_cons]
    · simp [entryText]
    · simp

theorem readEntries_close (before : List (Except Fault String × EntryPlace × Node)) (spot : Spot)
    (rest : List Char) (steps : Nat) :
    readEntries before ⟨spot, '\x7d' :: rest⟩ (steps + 1) =
      (before.reverse, .ok ⟨spot.after '\x7d', rest⟩) := rfl

theorem skipBlanks_quoteText (s : String) (spot : Spot) (rest : List Char) :
    Input.skipBlanks ⟨spot, (quoteText s).toList ++ rest⟩ =
      ⟨spot, (quoteText s).toList ++ rest⟩ := by
  rw [toList_quoteText]
  rfl

theorem readEntries_first (key : String) (spot : Spot) (more : List Char) (steps : Nat) :
    ∃ spot₁, ∀ {node : Node} {next : Input},
      readValue (Input.skipBlanks ⟨spot₁, more⟩) steps = (node, some next) →
      ∃ place, readEntries [] ⟨spot, (quoteText key).toList ++ ':' :: more⟩ (steps + 1) =
        readEntries [(.ok key, place, node)] next.skipBlanks steps := by
  obtain ⟨spot₁, hkey⟩ := stringAt_quoteText key spot (':' :: more)
  refine ⟨spot₁.after ':', fun hvalue => ?_⟩
  have hcolon : Input.skipBlanks ⟨spot₁, ':' :: more⟩ = ⟨spot₁, ':' :: more⟩ := rfl
  rw [toList_quoteText, List.cons_append] at hkey ⊢
  rw [readEntries]
  dsimp only [Input.head?, List.head?_cons]
  rw [if_neg (by decide), if_pos (by rfl), if_pos (by rfl), hkey]
  dsimp only
  rw [hcolon]
  dsimp only [List.head?_cons, Input.next]
  rw [if_pos (by rfl), hvalue]
  exact ⟨_, rfl⟩

theorem readEntries_next {before : List (Except Fault String × EntryPlace × Node)}
    (hbefore : before ≠ []) (key : String) (spot : Spot) (more : List Char) (steps : Nat) :
    ∃ spot₁, ∀ {node : Node} {next : Input},
      readValue (Input.skipBlanks ⟨spot₁, more⟩) steps = (node, some next) →
      ∃ place, readEntries before ⟨spot, ',' :: ((quoteText key).toList ++ ':' :: more)⟩
          (steps + 1) =
        readEntries ((.ok key, place, node) :: before) next.skipBlanks steps := by
  obtain ⟨spot₁, hkey⟩ := stringAt_quoteText key (spot.after ',') (':' :: more)
  refine ⟨spot₁.after ':', fun hvalue => ?_⟩
  have hcolon : Input.skipBlanks ⟨spot₁, ':' :: more⟩ = ⟨spot₁, ':' :: more⟩ := rfl
  have hquote := skipBlanks_quoteText key (spot.after ',') (':' :: more)
  rw [toList_quoteText, List.cons_append] at hkey hquote ⊢
  rw [readEntries]
  dsimp only [Input.head?, List.head?_cons, Input.next]
  rw [hquote]
  dsimp only [List.head?_cons]
  rw [if_neg (by decide), if_neg (by simpa using hbefore), if_pos (by rfl), if_pos (by rfl), hkey]
  dsimp only
  rw [hcolon]
  dsimp only [List.head?_cons]
  rw [if_pos (by rfl), hvalue]
  exact ⟨_, rfl⟩

theorem ends_entriesTail (entries : List (String × Json)) (rest : List Char) :
    Ends (entriesTail entries ++ '\x7d' :: rest) := by
  cases entries with
  | nil => exact .brace _
  | cons e entries => exact .comma _

theorem readValue_object {spot : Spot} {more : List Char} {steps : Nat}
    {nodes : List (Except Fault String × EntryPlace × Node)} {stop : Input}
    (h : readEntries [] (Input.skipBlanks ⟨spot.after '\x7b', more⟩) steps = (nodes, .ok stop)) :
    ∃ extent, readValue ⟨spot, '\x7b' :: more⟩ (steps + 1) =
      (.object extent nodes none, some stop) := by
  rw [readValue]
  dsimp only [Input.next]
  rw [if_neg (by decide), if_neg (by decide), if_neg (by decide), if_neg (by decide),
    if_neg (by decide), if_neg (by decide), if_neg (by decide), if_pos (by rfl), h]
  exact ⟨_, rfl⟩

theorem nodeToJson_object {depth : Nat} {extent : Extent}
    {nodes : List (Except Fault String × EntryPlace × Node)} {entries : List (String × Json)}
    (hkeys : Ascending entries) (h : entriesToJson depth nodes = .ok entries) :
    nodeToJson (depth + 1) (.object extent nodes none) = .ok (.obj entries) := by
  rw [nodeToJson, if_neg depth.succ_ne_zero, Nat.add_sub_cancel, h]
  exact congrArg Except.ok (ofEntries_of_ascending hkeys)

theorem entriesToJson_cons {depth : Nat} {key : String} {place : EntryPlace} {node : Node}
    {nodes : List (Except Fault String × EntryPlace × Node)} {j : Json}
    {entries : List (String × Json)} (hj : nodeToJson depth node = .ok j)
    (h : entriesToJson depth nodes = .ok entries) :
    entriesToJson depth ((.ok key, place, node) :: nodes) = .ok ((key, j) :: entries) := by
  rw [entriesToJson, hj]
  dsimp only
  rw [h]
  rfl

/-! ## The whole text -/

-- The steps that remain are more than the characters of what is read: each list and each object
-- takes one for itself, which its opening bracket pays for, and one for each part.
mutual

/-- **The text of a value is read as the value**, whatever ends it. -/
theorem readValue_text : ∀ {j : Json} {depth : Nat}, Legible depth j → ∀ (spot : Spot)
    {rest : List Char}, Ends rest → ∀ (steps : Nat), j.text.toList.length < steps →
      ∃ node spot', readValue ⟨spot, j.text.toList ++ rest⟩ steps = (node, some ⟨spot', rest⟩) ∧
        nodeToJson depth node = .ok j
  | _, _, _, _, _, _, 0, hsteps => absurd hsteps (Nat.not_lt_zero _)
  | .null, _, _, _, _, _, steps + 1, _ => ⟨_, _, rfl, rfl⟩
  | .bool true, _, _, _, _, _, steps + 1, _ => ⟨_, _, rfl, rfl⟩
  | .bool false, _, _, _, _, _, steps + 1, _ => ⟨_, _, rfl, rfl⟩
  | .int n, _, .int h, spot, _, hrest, steps + 1, _ => by
    obtain ⟨_, _, h⟩ := readValue_int h spot hrest steps
    exact ⟨_, _, h, rfl⟩
  | .str s, _, _, spot, rest, _, steps + 1, _ => by
    obtain ⟨_, _, h⟩ := readValue_quoteText s spot rest steps
    exact ⟨_, _, h, rfl⟩
  | .arr [], _, .arr _, spot, rest, _, 1, hsteps => absurd hsteps (by decide)
  | .arr [], _, .arr _, spot, rest, _, steps + 2, _ => by
    have hclose := readItems_close [] (spot.after '[') rest steps
    rw [← (Ends.bracket rest).skipBlanks] at hclose
    obtain ⟨_, h⟩ := readValue_array hclose
    exact ⟨_, _, h, nodeToJson_array rfl⟩
  | .arr (j :: items), _, .arr h, spot, rest, _, steps + 1, hsteps => by
    have hj := h j List.mem_cons_self
    rw [toList_text_arr, toList_itemsText, List.length_cons, List.length_append,
      List.length_append, List.length_singleton] at hsteps
    obtain ⟨steps, rfl⟩ := Nat.exists_eq_add_one_of_ne_zero (n := steps) (by omega)
    obtain ⟨node, spot₁, hnode, hjson⟩ := readValue_text hj (spot.after '[')
      (ends_itemsTail items rest) steps (by omega)
    obtain ⟨nodes, spot₂, hnodes, hjsons⟩ := readItems_text
      (fun x hx => h x (List.mem_cons_of_mem _ hx)) (List.cons_ne_nil node []) spot₁ rest
      steps (by omega)
    have hstarts := starts_text hj (itemsTail items ++ ']' :: rest)
    have hfirst := readItems_first hstarts hnode
    rw [(ends_itemsTail items rest).skipBlanks, hnodes, ← hstarts.skipBlanks] at hfirst
    obtain ⟨_, hvalue⟩ := readValue_array hfirst
    rw [toList_text_arr, toList_itemsText]
    simp only [List.cons_append, List.append_assoc, List.nil_append]
    exact ⟨_, _, hvalue, nodeToJson_array (itemsToJson_cons hjson hjsons)⟩
  | .obj [], _, .obj _ _, spot, rest, _, 1, hsteps => absurd hsteps (by decide)
  | .obj [], _, .obj _ _, spot, rest, _, steps + 2, _ => by
    have hclose := readEntries_close [] (spot.after '\x7b') rest steps
    rw [← (Ends.brace rest).skipBlanks] at hclose
    obtain ⟨_, h⟩ := readValue_object hclose
    exact ⟨_, _, h, nodeToJson_object List.Pairwise.nil rfl⟩
  | .obj ((key, j) :: entries), _, .obj hkeys h, spot, rest, _, steps + 1, hsteps => by
    have hj := h (key, j) List.mem_cons_self
    rw [toList_text_obj, toList_entriesText, entryText, List.length_cons, List.length_append,
      List.length_append, List.length_append, List.length_cons, List.length_singleton] at hsteps
    obtain ⟨steps, rfl⟩ := Nat.exists_eq_add_one_of_ne_zero (n := steps) (by omega)
    obtain ⟨spot₁, hfirst⟩ := readEntries_first key (spot.after '\x7b')
      (j.text.toList ++ (entriesTail entries ++ '\x7d' :: rest)) steps
    obtain ⟨node, spot₂, hnode, hjson⟩ := readValue_text hj spot₁
      (ends_entriesTail entries rest) steps (by omega)
    rw [(starts_text hj _).skipBlanks] at hfirst
    obtain ⟨place, hread⟩ := hfirst hnode
    obtain ⟨nodes, spot₃, hnodes, hjsons⟩ := readEntries_text
      (fun x hx => h x (List.mem_cons_of_mem _ hx)) (List.cons_ne_nil (.ok key, place, node) [])
      spot₂ rest steps (by omega)
    rw [(ends_entriesTail entries rest).skipBlanks, hnodes, ← skipBlanks_quoteText] at hread
    obtain ⟨_, hvalue⟩ := readValue_object hread
    rw [toList_text_obj, toList_entriesText, entryText]
    simp only [List.cons_append, List.append_assoc, List.nil_append]
    exact ⟨_, _, hvalue, nodeToJson_object hkeys (entriesToJson_cons hjson hjsons)⟩

theorem readItems_text : ∀ {items : List Json} {depth : Nat}, (∀ j ∈ items, Legible depth j) →
    ∀ {before : List Node}, before ≠ [] → ∀ (spot : Spot) (rest : List Char) (steps : Nat),
      (itemsTail items).length < steps →
      ∃ nodes spot', readItems before ⟨spot, itemsTail items ++ ']' :: rest⟩ steps =
          (before.reverse ++ nodes, .ok ⟨spot', rest⟩) ∧
        itemsToJson depth nodes = .ok items
  | _, _, _, _, _, _, _, 0, hsteps => absurd hsteps (Nat.not_lt_zero _)
  | [], _, _, before, _, spot, rest, steps + 1, _ =>
    ⟨[], spot.after ']', by rw [List.append_nil]; exact readItems_close before spot rest steps, rfl⟩
  | j :: items, _, h, before, hbefore, spot, rest, steps + 1, hsteps => by
    have hj := h j List.mem_cons_self
    rw [itemsTail_cons, List.length_cons, List.length_append] at hsteps
    obtain ⟨node, spot₁, hnode, hjson⟩ := readValue_text hj (spot.after ',')
      (ends_itemsTail items rest) steps (by omega)
    obtain ⟨nodes, spot₂, hnodes, hjsons⟩ := readItems_text
      (fun x hx => h x (List.mem_cons_of_mem _ hx)) (List.cons_ne_nil node before) spot₁ rest
      steps (by omega)
    have hnext := readItems_next hbefore (starts_text hj _) hnode
    rw [(ends_itemsTail items rest).skipBlanks, hnodes] at hnext
    rw [itemsTail_cons]
    simp only [List.cons_append, List.append_assoc]
    refine ⟨node :: nodes, spot₂, ?_, itemsToJson_cons hjson hjsons⟩
    rw [hnext, List.reverse_cons, List.append_assoc, List.singleton_append]

theorem readEntries_text : ∀ {entries : List (String × Json)} {depth : Nat},
    (∀ e ∈ entries, Legible depth e.2) →
    ∀ {before : List (Except Fault String × EntryPlace × Node)}, before ≠ [] →
      ∀ (spot : Spot) (rest : List Char) (steps : Nat), (entriesTail entries).length < steps →
      ∃ nodes spot', readEntries before ⟨spot, entriesTail entries ++ '\x7d' :: rest⟩ steps =
          (before.reverse ++ nodes, .ok ⟨spot', rest⟩) ∧
        entriesToJson depth nodes = .ok entries
  | _, _, _, _, _, _, _, 0, hsteps => absurd hsteps (Nat.not_lt_zero _)
  | [], _, _, before, _, spot, rest, steps + 1, _ =>
    ⟨[], spot.after '\x7d',
      by rw [List.append_nil]; exact readEntries_close before spot rest steps, rfl⟩
  | (key, j) :: entries, _, h, before, hbefore, spot, rest, steps + 1, hsteps => by
    have hj := h (key, j) List.mem_cons_self
    rw [entriesTail_cons, entryText, List.length_cons, List.length_append, List.length_append,
      List.length_cons] at hsteps
    obtain ⟨spot₁, hnext⟩ := readEntries_next hbefore key spot
      (j.text.toList ++ (entriesTail entries ++ '\x7d' :: rest)) steps
    obtain ⟨node, spot₂, hnode, hjson⟩ := readValue_text hj spot₁
      (ends_entriesTail entries rest) steps (by omega)
    rw [(starts_text hj _).skipBlanks] at hnext
    obtain ⟨place, hread⟩ := hnext hnode
    obtain ⟨nodes, spot₃, hnodes, hjsons⟩ := readEntries_text
      (fun x hx => h x (List.mem_cons_of_mem _ hx))
      (List.cons_ne_nil (.ok key, place, node) before) spot₂ rest steps (by omega)
    rw [(ends_entriesTail entries rest).skipBlanks, hnodes] at hread
    refine ⟨(.ok key, place, node) :: nodes, spot₃, ?_, entriesToJson_cons hjson hjsons⟩
    rw [entriesTail_cons, entryText]
    simp only [List.cons_append, List.append_assoc]
    rw [hread, List.reverse_cons, List.append_assoc, List.singleton_append]

end

/-- **What was written is read as it was.** -/
theorem parse_text {j : Json} (h : Legible maxDepth j) : parse j.text = .ok j := by
  obtain ⟨node, spot, hnode, hjson⟩ := readValue_text h .start .nil
    (2 * j.text.toList.length + 2) (by omega)
  have hblanks := (starts_text h []).skipBlanks .start
  rw [List.append_nil] at hnode hblanks
  have hofText : Node.ofText j.text.toList = (node, none) := by
    unfold Node.ofText
    rw [hblanks]
    dsimp only
    rw [hnode]
    rfl
  unfold parse readText
  rw [hofText]
  show (nodeToJson maxDepth node >>= fun a => pure a) = _
  rw [hjson]
  rfl

/-- **What was written as octets is read as it was.** -/
theorem ofBytes?_bytes {j : Json} (h : Legible maxDepth j) : ofBytes? j.bytes = some j := by
  unfold ofBytes? Text.Utf8.decode? bytes
  rw [Text.Utf8.decode_ofString]
  show (parse j.text).toOption = some j
  rw [parse_text h]
  rfl

end BundleInstaller.Json
