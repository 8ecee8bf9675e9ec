import BundleInstaller.Proofs.Written
import BundleInstaller.Time.Duration

/-!
# Durations as text and back

A duration is written as phrases, each a number and the name of a unit, and read by adding up what
the phrases stand for.  The numbers come from dividing by one unit after the other, so that the sum
is the duration again; each sum on the way is smaller, and none is too large to be read.

* `readParts_phrases`: the phrases that were written are the parts that are read.
* `foldlM_addPart?`: the parts are added up.
* `read?_text`: a duration is read from its text.
* `inRange_read?`: only durations in range are read.
-/

namespace BundleInstaller.Duration

/-- Seconds of 64 bits, and less than a second of nanoseconds. -/
structure InRange (d : Duration) : Prop where
  secs_lt : d.secs < bound
  nanos_lt : d.nanos < nanosPerSec

/-! ## Phrases -/

/-- A number and the name of a unit. -/
structure Phrase where
  number : Nat
  name : String
  unit : Unit

namespace Phrase

def text (p : Phrase) : String := toString p.number ++ p.name

def part (p : Phrase) : Part := ⟨p.number, [], p.unit⟩

def isWritten (p : Phrase) : Bool := p.number != 0

/-- The nanoseconds that a phrase stands for. -/
def nanos (p : Phrase) : Nat := p.number * p.unit.nanos

def sumNanos : List Phrase → Nat
  | [] => 0
  | p :: ps => p.nanos + sumNanos ps

theorem sumNanos_cons (n : Nat) (name : String) (unit : Unit) (ps : List Phrase) :
    sumNanos (⟨n, name, unit⟩ :: ps) = n * unit.nanos + sumNanos ps := rfl

/-- A number that can be read and the name of its unit. -/
structure Legible (p : Phrase) : Prop where
  number_lt : p.number < bound
  named : Unit.named? p.name = some p.unit
  letters : ∀ c ∈ p.name.toList, isUnitChar c = true

theorem legible {n : Nat} {name : String} {unit : Unit} (hn : n < bound)
    (hnamed : Unit.named? name = some unit) (hletters : name.toList.all isUnitChar = true) :
    Legible ⟨n, name, unit⟩ := ⟨hn, hnamed, List.all_eq_true.mp hletters⟩

end Phrase

/-- The name of a unit that has a plural. -/
def pluralName (n : Nat) (name : String) : String := if n = 1 then name else name ++ "s"

/-- The phrases of a duration, those with a zero among them. -/
def phrases (d : Duration) : List Phrase :=
  let inYear := d.secs % 31557600
  let inMonth := inYear % 2630016
  let inDay := inMonth % 86400
  [⟨d.secs / 31557600, pluralName (d.secs / 31557600) "year", .year⟩,
    ⟨inYear / 2630016, pluralName (inYear / 2630016) "month", .month⟩,
    ⟨inMonth / 86400, pluralName (inMonth / 86400) "day", .day⟩,
    ⟨inDay / 3600, "h", .hour⟩, ⟨inDay % 3600 / 60, "m", .minute⟩, ⟨inDay % 60, "s", .second⟩,
    ⟨d.nanos / 1000000, "ms", .millisecond⟩, ⟨d.nanos / 1000 % 1000, "us", .microsecond⟩,
    ⟨d.nanos % 1000, "ns", .nanosecond⟩]

theorem item_eq (n : Nat) (name : String) (unit : Unit) :
    item n name = ([⟨n, name, unit⟩].filter Phrase.isWritten).map Phrase.text := by
  by_cases hn : n = 0
  · rw [item, if_pos hn, hn]
    rfl
  · have hwritten : Phrase.isWritten ⟨n, name, unit⟩ = true := bne_iff_ne.mpr hn
    rw [item, if_neg hn, List.filter_cons_of_pos hwritten]
    rfl

/-- The items of a duration are its phrases that are not zero. -/
theorem items_eq (d : Duration) :
    d.items = (d.phrases.filter Phrase.isWritten).map Phrase.text := by
  unfold items phrases plural
  dsimp only
  rw [item_eq _ _ .year, item_eq _ _ .month, item_eq _ _ .day, item_eq _ _ .hour,
    item_eq _ _ .minute, item_eq _ _ .second, item_eq _ _ .millisecond, item_eq _ _ .microsecond,
    item_eq _ _ .nanosecond]
  simp only [← List.map_append, ← List.filter_append, List.append_assoc]
  rfl

theorem named?_pluralName (n : Nat) :
    Unit.named? (pluralName n "year") = some .year ∧
      Unit.named? (pluralName n "month") = some .month ∧
      Unit.named? (pluralName n "day") = some .day := by
  unfold pluralName
  by_cases hn : n = 1
  · simp only [if_pos hn]
    decide
  · simp only [if_neg hn]
    decide

theorem letters_pluralName (n : Nat) : ∀ name ∈ ["year", "month", "day"],
    (pluralName n name).toList.all isUnitChar = true := by
  unfold pluralName
  by_cases hn : n = 1
  · simp only [if_pos hn]
    decide
  · simp only [if_neg hn]
    decide

/-- **The phrases of a duration can be read.** -/
theorem legible_phrases {d : Duration} (h : d.InRange) : ∀ p ∈ d.phrases, p.Legible := by
  have hsecs := h.secs_lt
  have hnanos : d.nanos < bound := Nat.lt_trans h.nanos_lt (by decide)
  unfold phrases
  dsimp only
  simp only [List.mem_cons, List.not_mem_nil, or_false]
  rintro p (rfl | rfl | rfl | rfl | rfl | rfl | rfl | rfl | rfl)
  · exact Phrase.legible (by omega) (named?_pluralName _).1 (letters_pluralName _ _ (by decide))
  · exact Phrase.legible (by omega) (named?_pluralName _).2.1 (letters_pluralName _ _ (by decide))
  · exact Phrase.legible (by omega) (named?_pluralName _).2.2 (letters_pluralName _ _ (by decide))
  all_goals exact Phrase.legible (by omega) (by decide) (by decide)

/-! ## Reading phrases -/

theorem of_isUnitChar {c : Char} (h : isUnitChar c = true) :
    c.isDigit = false ∧ Text.isBlank c = false ∧ (c == '.') = false := by
  have hupper : c.isUpper = true → 65 ≤ c.toNat ∧ c.toNat ≤ 90 := fun h => of_decide_eq_true h
  have hlower : c.isLower = true → 97 ≤ c.toNat ∧ c.toNat ≤ 122 := fun h =>
    (Bool.and_eq_true_iff.mp h).imp of_decide_eq_true of_decide_eq_true
  have hcode : c = 'µ' ∨ 65 ≤ c.toNat ∧ c.toNat ≤ 122 := by
    rcases Bool.or_eq_true_iff.mp h with h | h
    · rcases Bool.or_eq_true_iff.mp h with h | h
      · have := hupper h
        exact .inr (by omega)
      · have := hlower h
        exact .inr (by omega)
    · exact .inl (eq_of_beq h)
  rcases hcode with rfl | hletter
  · decide
  refine ⟨Bool.eq_false_iff.mpr fun hdigit => ?_, Bool.eq_false_iff.mpr fun hblank => ?_,
    Bool.eq_false_iff.mpr fun hpoint => ?_⟩
  · simp only [Char.isDigit, Bool.and_eq_true, decide_eq_true_eq, UInt32.le_iff_toNat_le,
      ge_iff_le] at hdigit
    have hnine : c.toNat ≤ 57 := hdigit.2
    omega
  · simp only [Text.isBlank, Bool.or_eq_true, Bool.and_eq_true, decide_eq_true_eq,
      beq_iff_eq] at hblank
    omega
  · rw [beq_iff_eq.mp hpoint] at hletter
    exact absurd hletter.1 (by decide)

section

variable (parts : List Part) (n : Nat) (rest : List Char)

theorem readParts_digits {ds : List Char} (hds : ∀ d ∈ ds, d.isDigit = true) :
    readParts parts (.whole n) (ds ++ rest) =
      readParts parts (.whole (ds.foldl (fun n c => n * 10 + (c.toNat - 48)) n)) rest := by
  induction ds generalizing n with
  | nil => rfl
  | cons d ds ih =>
    rw [List.cons_append, readParts]
    rw [if_pos (hds d List.mem_cons_self), ih _ fun d' hd' => hds d' (List.mem_cons_of_mem _ hd')]
    rfl

theorem readParts_number : readParts parts .start ((toString n).toList ++ rest) =
    readParts parts (.whole n) rest := by
  obtain ⟨c, ds, hdigits, hc⟩ := Json.toDigits_eq_cons n
  have hall : ∀ d ∈ ds, d.isDigit = true := fun d hd =>
    Nat.isDigit_of_mem_toDigits (b := 10) (n := n) (by decide) (by decide)
      (hdigits ▸ List.mem_cons_of_mem _ hd)
  have hvalue : ds.foldl (fun n c => n * 10 + (c.toNat - 48)) (c.toNat - 48) = n := by
    have h := Json.digitsValue_toDigits n
    rw [hdigits] at h
    unfold Decimal.digitsValue at h
    rwa [List.foldl_cons, Nat.zero_mul, Nat.zero_add] at h
  have htext : (toString n).toList = c :: ds := by
    rw [Nat.toString_eq_repr, Nat.toList_repr, hdigits]
  rw [htext, List.cons_append, readParts]
  rw [if_pos hc, readParts_digits parts _ rest hall, hvalue]

theorem readParts_letters {cs : List Char} (hcs : ∀ c ∈ cs, isUnitChar c = true)
    (name : List Char) :
    readParts parts (.unit n [] name) (cs ++ rest) =
      readParts parts (.unit n [] (cs.reverse ++ name)) rest := by
  induction cs generalizing name with
  | nil => rfl
  | cons c cs ih =>
    rw [List.cons_append, readParts]
    rw [if_pos (hcs c List.mem_cons_self), ih fun c' hc' => hcs c' (List.mem_cons_of_mem _ hc'),
      List.reverse_cons, List.append_assoc]
    rfl

end

namespace Phrase

variable {p : Phrase}

theorem Legible.readParts_text (h : p.Legible) (parts : List Part) (rest : List Char) :
    readParts parts .start (p.text.toList ++ rest) =
      readParts parts (.unit p.number [] p.name.toList.reverse) rest := by
  have hletters := h.letters
  have hname : p.name.toList ≠ [] := by
    intro hnil
    have hempty : p.name = "" := String.toList_inj.mp hnil
    have hnone : Unit.named? "" = none := by decide
    have hnamed := h.named
    rw [hempty, hnone] at hnamed
    cases hnamed
  rw [text, String.toList_append, List.append_assoc, readParts_number]
  cases hcs : p.name.toList with
  | nil => exact absurd hcs hname
  | cons c cs =>
    rw [hcs] at hletters
    have hc := hletters c List.mem_cons_self
    obtain ⟨hdigit, hblank, hpoint⟩ := of_isUnitChar hc
    rw [List.cons_append, readParts]
    rw [if_neg (ne_true_of_eq_false hdigit), if_neg (ne_true_of_eq_false hblank),
      if_neg (ne_true_of_eq_false hpoint), if_pos hc,
      readParts_letters parts p.number rest fun c' hc' => hletters c' (List.mem_cons_of_mem _ hc'),
      List.reverse_cons]

theorem Legible.part?_eq (h : p.Legible) :
    part? p.number [] p.name.toList.reverse = some p.part := by
  rw [part?, if_pos h.number_lt, List.reverse_reverse, String.ofList_toList, h.named]
  rfl

end Phrase

/-- **The phrases that were written are the parts that are read.** -/
theorem readParts_phrases {ps : List Phrase} (hps : ps ≠ []) (h : ∀ p ∈ ps, p.Legible)
    (parts : List Part) :
    readParts parts .start (" ".intercalate (ps.map Phrase.text)).toList =
      some (parts.reverse ++ ps.map Phrase.part) := by
  rw [String.toList_intercalate]
  induction ps generalizing parts with
  | nil => exact absurd rfl hps
  | cons p ps ih =>
    have hp := h p List.mem_cons_self
    cases ps with
    | nil =>
      have hread := hp.readParts_text parts []
      rw [List.append_nil] at hread
      rw [List.map_singleton, List.map_singleton, List.intercalate_singleton, hread, readParts,
        hp.part?_eq]
      show some (p.part :: parts).reverse = _
      rw [List.reverse_cons]
      rfl
    | cons q ps =>
      have hrest := ih (List.cons_ne_nil q ps) (fun p' hp' => h p' (List.mem_cons_of_mem _ hp'))
        (p.part :: parts)
      rw [List.map_cons, List.map_cons, List.map_cons, List.map_cons, List.intercalate_cons_cons,
        List.append_assoc, hp.readParts_text parts]
      show readParts parts (.unit p.number [] p.name.toList.reverse) (' ' :: _) = _
      rw [readParts, if_neg (by decide), hp.part?_eq]
      dsimp only
      rw [if_neg (by decide), if_pos (by decide)]
      show readParts (p.part :: parts) .start (" ".toList.intercalate
        (((q :: ps).map Phrase.text).map String.toList)) = _
      rw [hrest, List.reverse_cons, List.append_assoc]
      rfl

/-! ## Adding up parts -/

/-- All the nanoseconds of a duration. -/
def total (d : Duration) : Nat := d.secs * nanosPerSec + d.nanos

/-- The duration of so many nanoseconds. -/
def ofTotal (t : Nat) : Duration := ⟨t / nanosPerSec, t % nanosPerSec⟩

theorem ofTotal_total {d : Duration} (h : d.nanos < nanosPerSec) : ofTotal d.total = d := by
  have hsecs : (d.secs * nanosPerSec + d.nanos) / nanosPerSec = d.secs := by
    rw [Nat.mul_comm, Nat.mul_add_div (by decide), Nat.div_eq_of_lt h, Nat.add_zero]
  have hnanos : (d.secs * nanosPerSec + d.nanos) % nanosPerSec = d.nanos := by
    rw [Nat.mul_comm, Nat.mul_add_mod, Nat.mod_eq_of_lt h]
  unfold ofTotal total
  rw [hsecs, hnanos]

theorem Unit.nanos_cases (u : Unit) :
    u.nanos < nanosPerSec ∨ ∃ k, u.nanos = k * nanosPerSec ∧ 0 < k := by
  cases u with
  | nanosecond | microsecond | millisecond => exact .inl (by decide)
  | second => exact .inr ⟨1, by decide⟩
  | minute => exact .inr ⟨60, by decide⟩
  | hour => exact .inr ⟨3600, by decide⟩
  | day => exact .inr ⟨86400, by decide⟩
  | week => exact .inr ⟨604800, by decide⟩
  | month => exact .inr ⟨2630016, by decide⟩
  | year => exact .inr ⟨31557600, by decide⟩

theorem nanosPerSec_pos : 0 < nanosPerSec := Nat.succ_pos _

theorem add?_ofTotal (t secs nanos : Nat) (hnanos : nanos < bound - nanosPerSec)
    (hsum : t + (secs * nanosPerSec + nanos) < bound * nanosPerSec) :
    (ofTotal t).add? secs nanos = some (ofTotal (t + (secs * nanosPerSec + nanos))) := by
  have hpositive : nanosPerSec < bound := by decide
  have hsecs : t / nanosPerSec + secs + (t % nanosPerSec + nanos) / nanosPerSec =
      (t + (secs * nanosPerSec + nanos)) / nanosPerSec := by
    unfold nanosPerSec
    omega
  have hrest : (t % nanosPerSec + nanos) % nanosPerSec =
      (t + (secs * nanosPerSec + nanos)) % nanosPerSec := by
    unfold nanosPerSec
    omega
  have hless : t % nanosPerSec + nanos < bound := by
    have hmod := Nat.mod_lt t nanosPerSec_pos
    omega
  have hfits : (t + (secs * nanosPerSec + nanos)) / nanosPerSec < bound :=
    (Nat.div_lt_iff_lt_mul nanosPerSec_pos).mpr hsum
  unfold add? ofTotal
  dsimp only
  rw [hsecs, hrest, if_pos ⟨hless, hfits⟩]

/-- A part that was written adds what it stands for. -/
theorem addPart?_ofTotal {t : Nat} {p : Phrase}
    (hsmall : p.unit.nanos < nanosPerSec → p.nanos < nanosPerSec)
    (hsum : t + p.nanos < bound * nanosPerSec) :
    addPart? (ofTotal t) p.part = some (ofTotal (t + p.nanos)) := by
  have htwice : nanosPerSec < bound - nanosPerSec := by decide +kernel
  have hfraction : fractionNanos? p.part.fraction p.part.unit = some 0 := by
    show (if 1 < bound ∧ 0 * p.unit.nanos % 1 = 0 then _ else _) = _
    rw [if_pos ⟨by decide, Nat.mod_one _⟩]
    show some (0 * p.unit.nanos / 1) = some 0
    rw [Nat.zero_mul, Nat.zero_div]
  have hadd := add?_ofTotal (t + p.nanos) 0 0 (by omega) (by omega)
  rw [Nat.zero_mul, Nat.add_zero] at hadd
  unfold addPart?
  rw [hfraction]
  show (if p.unit.nanos < nanosPerSec then
      if p.nanos < bound then ((ofTotal t).add? 0 p.nanos).bind fun sum => sum.add? 0 0 else none
    else ((ofTotal t).add? (p.number * (p.unit.nanos / nanosPerSec)) 0).bind
      fun sum => sum.add? 0 0) = _
  rcases p.unit.nanos_cases with hunit | ⟨k, hunit, hk⟩
  · have hlt := hsmall hunit
    have hfirst := add?_ofTotal t 0 p.nanos (by omega) (by omega)
    rw [Nat.zero_mul, Nat.zero_add] at hfirst
    rw [if_pos hunit, if_pos (by omega), hfirst]
    exact hadd
  · have hnanos : p.nanos = p.number * k * nanosPerSec := by
      rw [Phrase.nanos, hunit, Nat.mul_assoc]
    have hfirst := add?_ofTotal t (p.number * k) 0 (by omega) (by omega)
    rw [Nat.add_zero, ← hnanos] at hfirst
    have hlarge : ¬p.unit.nanos < nanosPerSec := by
      rw [hunit]
      exact Nat.not_lt.mpr (Nat.le_mul_of_pos_left _ hk)
    rw [if_neg hlarge, hunit, Nat.mul_div_cancel _ (by decide), hfirst]
    exact hadd

/-- **The parts are added up.** -/
theorem foldlM_addPart? {ps : List Phrase}
    (hsmall : ∀ p ∈ ps, p.unit.nanos < nanosPerSec → p.nanos < nanosPerSec) (t : Nat)
    (hsum : t + Phrase.sumNanos ps < bound * nanosPerSec) :
    (ps.map Phrase.part).foldlM addPart? (ofTotal t) =
      some (ofTotal (t + Phrase.sumNanos ps)) := by
  induction ps generalizing t with
  | nil => rfl
  | cons p ps ih =>
    rw [Phrase.sumNanos] at hsum
    rw [Phrase.sumNanos, List.map_cons, List.foldlM_cons,
      addPart?_ofTotal (hsmall p List.mem_cons_self) (by omega)]
    show (ps.map Phrase.part).foldlM addPart? (ofTotal (t + p.nanos)) = _
    rw [ih (fun p' hp' => hsmall p' (List.mem_cons_of_mem _ hp')) _ (by omega), Nat.add_assoc]

/-! ## Durations -/

theorem sumNanos_filter (ps : List Phrase) :
    Phrase.sumNanos (ps.filter Phrase.isWritten) = Phrase.sumNanos ps := by
  induction ps with
  | nil => rfl
  | cons p ps ih =>
    by_cases hp : p.isWritten
    · rw [List.filter_cons_of_pos hp, Phrase.sumNanos, Phrase.sumNanos, ih]
    · have hzero : p.number = 0 := by simpa [Phrase.isWritten] using hp
      have hnanos : p.nanos = 0 := by rw [Phrase.nanos, hzero, Nat.zero_mul]
      rw [List.filter_cons_of_neg hp, Phrase.sumNanos, hnanos, ih, Nat.zero_add]

theorem secs_eq (s : Nat) :
    s / 31557600 * 31557600 + s % 31557600 / 2630016 * 2630016 +
      s % 31557600 % 2630016 / 86400 * 86400 + s % 31557600 % 2630016 % 86400 / 3600 * 3600 +
      s % 31557600 % 2630016 % 86400 % 3600 / 60 * 60 +
      s % 31557600 % 2630016 % 86400 % 60 = s := by omega

theorem nanos_eq (n : Nat) :
    n / 1000000 * 1000000 + (n / 1000 % 1000 * 1000 + n % 1000 * 1) = n := by omega

theorem sumNanos_phrases (d : Duration) : Phrase.sumNanos d.phrases = d.total := by
  unfold phrases total
  dsimp only
  rw [Phrase.sumNanos_cons, Phrase.sumNanos_cons, Phrase.sumNanos_cons, Phrase.sumNanos_cons,
    Phrase.sumNanos_cons, Phrase.sumNanos_cons, Phrase.sumNanos_cons, Phrase.sumNanos_cons,
    Phrase.sumNanos_cons, Phrase.sumNanos, Nat.add_zero]
  simp only [Unit.nanos, ← Nat.mul_assoc, ← Nat.add_assoc, ← Nat.add_mul]
  rw [secs_eq, Nat.add_assoc, Nat.add_assoc, nanos_eq]

theorem nanos_phrases_lt {d : Duration} (h : d.InRange) :
    ∀ p ∈ d.phrases, p.unit.nanos < nanosPerSec → p.nanos < nanosPerSec := by
  have hnanos := h.nanos_lt
  simp only [phrases, List.mem_cons, List.not_mem_nil, or_false]
  rintro p (rfl | rfl | rfl | rfl | rfl | rfl | rfl | rfl | rfl)
  all_goals
    simp only [Phrase.nanos, Unit.nanos, nanosPerSec] at *
    omega

/-- **A duration is read from its text.** -/
theorem read?_text {d : Duration} (h : d.InRange) : read? d.text = some d := by
  by_cases hzero : d.secs = 0 ∧ d.nanos = 0
  · obtain ⟨secs, nanos⟩ := d
    obtain ⟨rfl, rfl⟩ := hzero
    decide
  · let ps := d.phrases.filter Phrase.isWritten
    have hlegible : ∀ p ∈ ps, p.Legible := fun p hp =>
      legible_phrases h p ((List.mem_filter.mp hp).1)
    have hsum : Phrase.sumNanos ps = d.total := (sumNanos_filter _).trans (sumNanos_phrases d)
    have hps : ps ≠ [] := by
      intro hnil
      rw [hnil] at hsum
      have htotal : 0 = d.secs * nanosPerSec + d.nanos := hsum
      unfold nanosPerSec at htotal
      omega
    have hparts := readParts_phrases hps hlegible []
    have htotal : d.total < bound * nanosPerSec := by
      have hsecs := h.secs_lt
      have hnanos := h.nanos_lt
      unfold total nanosPerSec at *
      omega
    have hadded := foldlM_addPart?
      (fun p hp => nanos_phrases_lt h p ((List.mem_filter.mp hp).1)) 0
      (show 0 + Phrase.sumNanos ps < _ by omega)
    rw [Nat.zero_add, hsum, ofTotal_total h.nanos_lt] at hadded
    have htext : d.text = " ".intercalate (ps.map Phrase.text) := by
      rw [text, if_neg hzero, items_eq]
    have hlone : " ".intercalate (ps.map Phrase.text) ≠ "0" := by
      intro hlone
      have hnone : readParts [] .start "0".toList = none := by decide
      rw [hlone, hnone] at hparts
      cases hparts
    rw [htext, read?, if_neg hlone, hparts]
    exact hadded

theorem inRange_add? {d sum : Duration} {secs nanos : Nat} (h : d.add? secs nanos = some sum) :
    sum.InRange := by
  unfold add? at h
  dsimp only at h
  split at h
  · next hfits =>
    cases h
    exact ⟨hfits.2, Nat.mod_lt _ nanosPerSec_pos⟩
  · cases h

theorem inRange_addPart? {d sum : Duration} {p : Part} (h : d.addPart? p = some sum) :
    sum.InRange := by
  -- whatever the unit is, the fraction is added last
  have hlast : ∀ {first : Option Duration}, (first.bind fun first =>
      (fractionNanos? p.fraction p.unit).bind fun more =>
        first.add? (more / nanosPerSec) (more % nanosPerSec)) = some sum → sum.InRange := by
    intro first h
    obtain ⟨_, -, h⟩ := Option.bind_eq_some_iff.mp h
    obtain ⟨_, -, h⟩ := Option.bind_eq_some_iff.mp h
    exact inRange_add? h
  unfold addPart? at h
  split at h
  · split at h
    · exact hlast h
    · cases h
  · exact hlast h

theorem inRange_foldlM {ps : List Part} {d sum : Duration} (hd : d.InRange)
    (h : ps.foldlM addPart? d = some sum) : sum.InRange := by
  induction ps generalizing d with
  | nil =>
    cases h
    exact hd
  | cons p ps ih =>
    rw [List.foldlM_cons] at h
    obtain ⟨next, hnext, h⟩ := Option.bind_eq_some_iff.mp h
    exact ih (inRange_addPart? hnext) h

/-- **Only durations in range are read.** -/
theorem inRange_read? {s : String} {d : Duration} (h : read? s = some d) : d.InRange := by
  have hzero : InRange ⟨0, 0⟩ := ⟨by decide, nanosPerSec_pos⟩
  unfold read? at h
  split at h
  · cases h
    exact hzero
  · obtain ⟨_, -, h⟩ := Option.bind_eq_some_iff.mp h
    exact inRange_foldlM hzero h

end BundleInstaller.Duration
