import BundleInstaller.Proofs.Styles
import BundleInstaller.Yaml.Token.Plain

/-!
# Reading words and quotes

A scalar that was written plain or between quotes is read as the text that it was written for.
Each character is passed by one step; blanks are kept in a gap, which adds to the text what it
stands for when the next word comes.

* `Plain.read_text`: the characters of a plain scalar.
* `readQuoted_single`: the characters between single quotes.
* `readQuoted_double`: the characters between double quotes.
-/

namespace BundleInstaller.Yaml

/-! ## Marks and places -/

theorem Mark.right_right (m : Mark) (i j : Nat) : (m.right i).right j = m.right (i + j) := by
  unfold Mark.right
  rw [Nat.add_assoc, Nat.add_assoc]

theorem Place.atMarker_of_column {m : Mark} (h : 0 < m.column) (rest : List Char) :
    Place.atMarker ⟨m, rest⟩ = false := by
  unfold Place.atMarker
  rw [beq_false_of_ne (Nat.ne_of_gt h), Bool.false_and]

theorem Place.atMarker_of_head {c : Char} (hdash : c ≠ '-') (hpoint : c ≠ '.') (m : Mark)
    (rest : List Char) : Place.atMarker ⟨m, c :: rest⟩ = false := by
  have hstart : ∀ d, c ≠ d → startsMarker d (c :: rest) = false := by
    intro d hd
    match rest with
    | [] | [_] => rfl
    | a :: b :: more =>
      show (c == d && a == d && b == d && startsBlank more) = false
      rw [beq_false_of_ne hd, Bool.false_and, Bool.false_and, Bool.false_and]
  unfold Place.atMarker
  rw [hstart '-' hdash, hstart '.' hpoint, Bool.or_self, Bool.and_false]

theorem ne_of_isBreak {c d : Char} (hc : isBreak c = true) (hd : isBreak d = false) : c ≠ d := by
  rintro rfl
  rw [hc] at hd
  cases hd

theorem breakMeaning_of_isPrintable {c : Char} (hbreak : isBreak c = true)
    (hprintable : isPrintable c = true) : breakMeaning c = c ∧ c ≠ '\r' := by
  simp only [isBreak, Bool.or_eq_true, beq_iff_eq] at hbreak
  rcases hbreak with (((rfl | rfl) | rfl) | rfl) | rfl
  case inl.inl.inl.inl => decide
  case inl.inl.inl.inr => cases hprintable
  case inl.inl.inr => cases hprintable
  case inl.inr => decide
  case inr => decide

theorem isSpace_of_isPrintable {c : Char} (hprintable : isPrintable c = true) (hc : c ≠ ' ') :
    isSpace c = false := by
  unfold isSpace
  rw [beq_false_of_ne hc, Bool.false_or]
  refine beq_false_of_ne ?_
  rintro rfl
  cases hprintable

/-- A text that ends, or goes on with a letter. -/
def StartsWord (cs : List Char) : Prop := ∀ c ∈ cs.head?, c.isAlpha = true

theorem StartsWord.cons {c : Char} {cs : List Char} (h : StartsWord (c :: cs)) :
    c.isAlpha = true := h c rfl

theorem ne_of_isAlpha {c d : Char} (hc : c.isAlpha = true) (hd : d.isAlpha = false) : c ≠ d := by
  rintro rfl
  rw [hc] at hd
  cases hd

theorem not_blank_of_isAlpha {c : Char} (h : c.isAlpha = true) :
    isBreak c = false ∧ isSpace c = false := by
  have hne : ∀ d, d.isAlpha = false → (c == d) = false := fun d hd =>
    beq_false_of_ne (ne_of_isAlpha h hd)
  unfold isBreak isSpace
  rw [hne _ (by decide), hne _ (by decide), hne _ (by decide), hne _ (by decide),
    hne _ (by decide), hne _ (by decide), hne _ (by decide)]
  exact ⟨rfl, rfl⟩

/-! ## Gaps -/

namespace Gap

theorem reverse_addTo (g : Gap) (text : List Char) :
    (g.addTo text).reverse = text.reverse ++ g.text := by
  rw [addTo, List.reverse_append, List.reverse_reverse]

theorem addTo_none (text : List Char) : none.addTo text = text := rfl

/-- Blanks without a line break. -/
def InLine (g : Gap) : Prop := g.broken = false ∧ g.escaped = false

theorem inLine_none : none.InLine := ⟨rfl, rfl⟩

theorem InLine.addSpace {g : Gap} (h : g.InLine) (c : Char) : (g.addSpace c).InLine := by
  unfold Gap.addSpace
  rw [if_neg (Bool.eq_false_iff.mp h.1)]
  exact h

theorem InLine.text {g : Gap} (h : g.InLine) : g.text = g.spaces.reverse := by
  unfold Gap.text
  rw [if_neg (Bool.eq_false_iff.mp h.2), if_neg (Bool.eq_false_iff.mp h.1)]

theorem InLine.text_addSpace {g : Gap} (h : g.InLine) (c : Char) :
    (g.addSpace c).text = g.text ++ [c] := by
  rw [(h.addSpace c).text, h.text]
  unfold Gap.addSpace
  rw [if_neg (Bool.eq_false_iff.mp h.1), List.reverse_cons]

theorem InLine.addTo_addSpace {g : Gap} (h : g.InLine) (c : Char) (text : List Char) :
    (g.addSpace c).addTo text = c :: g.addTo text := by
  unfold addTo
  rw [h.text_addSpace, List.reverse_append]
  rfl

/-- Blanks behind a text that ends with `last`: the line breaks among them stand for themselves, and
no spaces stand before or behind them. -/
structure Follows (last : Option Char) (g : Gap) : Prop where
  escaped : g.escaped = false
  broken : g.broken = (last.map isBreak).getD false
  breaks : '\n' ∉ g.breaks
  unbroken : g.broken = false → g.breaks = []
  spaces : g.spaces ≠ [] → last = some ' '

theorem follows_start : none.Follows .none :=
  ⟨rfl, rfl, List.not_mem_nil, fun _ => rfl, fun h => absurd rfl h⟩

theorem follows_none {c : Char} (h : isBreak c = false) : none.Follows (some c) :=
  ⟨rfl, h.symm, List.not_mem_nil, fun _ => rfl, fun h => absurd rfl h⟩

theorem fold_of_not_mem {breaks : List Char} (h : '\n' ∉ breaks) : fold breaks = breaks := by
  unfold fold
  split
  · exact absurd List.mem_cons_self h
  · exact absurd List.mem_cons_self h
  · rfl

variable {last : Option Char} {g : Gap} {c : Char}

theorem Follows.inLine (h : g.Follows last) (hbroken : g.broken = false) : g.InLine :=
  ⟨hbroken, h.escaped⟩

theorem Follows.addSpace (h : g.Follows last) (hbroken : g.broken = false) :
    (g.addSpace ' ').Follows (some ' ') := by
  unfold Gap.addSpace
  rw [if_neg (Bool.eq_false_iff.mp hbroken)]
  exact ⟨h.escaped, hbroken, h.breaks, h.unbroken, fun _ => rfl⟩

theorem Follows.addBreak (h : g.Follows last) (hbreak : isBreak c = true) (hc : c ≠ '\n') :
    (g.addBreak c).Follows (some c) := by
  refine ⟨h.escaped, hbreak.symm, ?_, nofun, fun hspaces => absurd rfl hspaces⟩
  intro hmem
  rcases List.mem_cons.mp hmem with heq | hmem
  · exact hc heq.symm
  · exact h.breaks hmem

theorem Follows.text_addBreak (h : g.Follows last) (hlast : last ≠ some ' ')
    (hbreak : isBreak c = true) (hc : c ≠ '\n') : (g.addBreak c).text = g.text ++ [c] := by
  have htext : ∀ {d : Option Char} {g : Gap}, g.Follows d → g.broken = true →
      g.text = g.breaks.reverse := by
    intro d g h hbroken
    unfold Gap.text
    rw [if_neg (Bool.eq_false_iff.mp h.escaped), if_pos hbroken,
      fold_of_not_mem (mt List.mem_reverse.mp h.breaks)]
  rw [htext (h.addBreak hbreak hc) rfl]
  show (c :: g.breaks).reverse = _
  rw [List.reverse_cons]
  congr 1
  cases hbroken : g.broken with
  | true => exact (htext h hbroken).symm
  | false =>
    have hspaces : g.spaces = [] := Classical.byContradiction fun hne => hlast (h.spaces hne)
    rw [(h.inLine hbroken).text, h.unbroken hbroken, hspaces]

end Gap

/-! ## Plain scalars -/

namespace Plain

variable {indent : Nat} {since stop mark : Mark} {text : List Char} {g : Gap}

theorem read_space (rest : List Char) :
    read false indent since text stop g mark (' ' :: rest) =
      read false indent since text stop (g.addSpace ' ') (mark.right 1) rest := by
  rw [read]
  · rw [if_neg (by decide), if_pos (by decide), if_neg]
    rw [Bool.and_eq_true]
    exact fun h => absurd h.2 (by decide)
  · nofun

theorem read_indentation (hg : g.broken = true) (k : Nat) (rest : List Char) :
    read false indent since text stop g mark (List.replicate k ' ' ++ rest) =
      read false indent since text stop g (mark.right k) rest := by
  have hspace : g.addSpace ' ' = g := if_pos hg
  induction k generalizing mark with
  | zero => rfl
  | succ k ih =>
    rw [List.replicate_succ, List.cons_append, read_space, hspace, ih, Mark.right_right,
      Nat.add_comm]

theorem read_char {c : Char} {rest : List Char} (hbreak : isBreak c = false)
    (hspace : isSpace c = false) (hend : isEnd false indent g ⟨mark, c :: rest⟩ = false)
    (hcolon : (c == ':' && startsBlank rest) = false) :
    read false indent since text stop g mark (c :: rest) =
      read false indent since (c :: g.addTo text) (mark.right 1) .none (mark.right 1) rest := by
  rw [read]
  · rw [if_neg (Bool.eq_false_iff.mp hbreak), if_neg (Bool.eq_false_iff.mp hspace),
      if_neg (Bool.eq_false_iff.mp hend), hcolon]
    rfl
  · rintro rest' rfl
    cases hbreak

theorem startsBlank_append {cs : List Char} (h : startsBlank cs = false) (tail : List Char) :
    startsBlank (cs ++ tail) = false := by
  cases cs with
  | nil => cases h
  | cons c cs => exact h

theorem isEnd_of_not_isIndicator {last : Option Char} {c : Char} {cs : List Char}
    (hindicator : Features.isIndicator last c cs = false) (hg : g.InLine)
    (hspaces : g.spaces ≠ [] → last = some ' ') {tail : List Char}
    (hmarker : Place.atMarker ⟨mark, c :: (cs ++ tail)⟩ = false) :
    isEnd false indent g ⟨mark, c :: (cs ++ tail)⟩ = false ∧
      (c == ':' && startsBlank (cs ++ tail)) = false := by
  constructor
  · have hcomment : (!g.isNone && some c == some '#') = false := by
      by_cases hc : c = '#'
      · have hnone : g.spaces = [] := by
          refine Classical.byContradiction fun hne => ?_
          rw [hc, hspaces hne] at hindicator
          cases hindicator
        rw [Gap.isNone, hnone, hg.1]
        rfl
      · rw [beq_false_of_ne (mt Option.some.inj hc), Bool.and_false]
    unfold isEnd
    rw [hg.1, hmarker]
    exact hcomment
  · by_cases hc : c = ':'
    · subst hc
      have hblank : startsBlank cs = false := by
        cases last with
        | none => exact hindicator
        | some last => exact (Bool.or_eq_false_iff.mp hindicator).1
      rw [startsBlank_append hblank, Bool.and_false]
    · rw [beq_false_of_ne hc, Bool.false_and]

/-- **A plain scalar is read up to its end.** -/
theorem read_text {cs : List Char} {f : Features} {last : Option Char}
    (hplain : (Features.scan f last cs).allowsPlain = true) (hg : g.InLine)
    (hspaces : g.spaces ≠ [] → last = some ' ') (hempty : cs = [] → g = .none ∧ stop = mark)
    {tail : List Char} (hmarker : Place.atMarker ⟨mark, cs ++ tail⟩ = false) :
    read false indent since text stop g mark (cs ++ tail) =
      read false indent since (cs.reverse ++ g.addTo text) (mark.right cs.length) .none
        (mark.right cs.length) tail := by
  induction cs generalizing f last text stop g mark with
  | nil =>
    obtain ⟨rfl, rfl⟩ := hempty rfl
    rfl
  | cons c cs ih =>
    obtain ⟨hfirst, hrest⟩ := Features.isAllowance_allowsPlain.cons hplain
    obtain ⟨hbreak, hindicator, hprintable, hblank⟩ := Features.allowsPlain_ofChar hfirst
    have hmarker' : Place.atMarker ⟨mark.right 1, cs ++ tail⟩ = false :=
      Place.atMarker_of_column (Nat.succ_pos _) _
    have hmark : (mark.right 1).right cs.length = mark.right (cs.length + 1) := by
      rw [Mark.right_right, Nat.add_comm]
    rw [List.cons_append, List.length_cons, List.reverse_cons, List.append_assoc]
    by_cases hspace : c = ' '
    · subst hspace
      rw [read_space, ih hrest (hg.addSpace _) (fun _ => rfl)
        (fun hnil => absurd hnil (hblank rfl).2) hmarker', hmark]
      rw [hg.addTo_addSpace]
      rfl
    · obtain ⟨hend, hcolon⟩ := isEnd_of_not_isIndicator hindicator hg hspaces hmarker
      rw [read_char hbreak (isSpace_of_isPrintable hprintable hspace) hend hcolon,
        ih hrest Gap.inLine_none (fun h => absurd rfl h) (fun _ => ⟨rfl, rfl⟩) hmarker', hmark]
      rfl

theorem read_colon {rest : List Char} (h : startsBlank rest = true) :
    read false indent since text stop .none mark (':' :: rest) =
      .ok ⟨String.ofList text.reverse, stop, false, ⟨mark, ':' :: rest⟩⟩ := by
  have hend : isEnd false indent .none ⟨mark, ':' :: rest⟩ = false := by
    unfold isEnd
    rw [Place.atMarker_of_head (by decide) (by decide)]
    rfl
  rw [read]
  · rw [if_neg (by decide), if_neg (by decide), if_neg (Bool.eq_false_iff.mp hend), h]
    rfl
  · nofun

theorem read_lineEnd {k : Nat} (hk : k < indent) {tail : List Char} (htail : StartsWord tail) :
    ∃ m : Mark, m.column = k ∧
      read false indent since text stop .none mark ('\n' :: (List.replicate k ' ' ++ tail)) =
        .ok ⟨String.ofList text.reverse, stop, true, ⟨m, tail⟩⟩ := by
  have hstep : read false indent since text stop .none mark
        ('\n' :: (List.replicate k ' ' ++ tail)) =
      read false indent since text stop (Gap.none.addBreak '\n') (mark.nextLine 1)
        (List.replicate k ' ' ++ tail) := by
    rw [read]
    · rw [if_pos (by decide)]
      rfl
    · nofun
  have hcolumn : ((mark.nextLine 1).right k).column = k := Nat.zero_add k
  refine ⟨(mark.nextLine 1).right k, hcolumn, ?_⟩
  rw [hstep, read_indentation rfl]
  cases tail with
  | nil => rfl
  | cons c tail =>
    obtain ⟨hbreak, hspace⟩ := not_blank_of_isAlpha htail.cons
    have hend : isEnd false indent (Gap.none.addBreak '\n')
        ⟨(mark.nextLine 1).right k, c :: tail⟩ = true := by
      unfold isEnd
      rw [hcolumn, decide_eq_true hk]
      rfl
    rw [read]
    · rw [if_neg (Bool.eq_false_iff.mp hbreak), if_neg (Bool.eq_false_iff.mp hspace),
        if_pos hend]
      rfl
    · rintro rest' rfl
      cases hbreak

end Plain

/-! ## Single quotes -/

variable {quote c : Char} {since mark : Mark} {text rest : List Char} {g : Gap}

theorem readQuoted_break (hbreak : isBreak c = true) (hprintable : isPrintable c = true) :
    readQuoted quote since text g mark (c :: rest) =
      readQuoted quote since text (g.addBreak c) (mark.nextLine 1) rest := by
  obtain ⟨hmeaning, hreturn⟩ := breakMeaning_of_isPrintable hbreak hprintable
  rw [readQuoted, Place.atMarker_of_head (ne_of_isBreak hbreak (by decide))
    (ne_of_isBreak hbreak (by decide)), if_neg (by decide), beq_false_of_ne hreturn,
    Bool.false_and, if_neg (by decide), if_pos hbreak, hmeaning]

theorem readQuoted_space (rest : List Char) :
    readQuoted quote since text g mark (' ' :: rest) =
      readQuoted quote since text (g.addSpace ' ') (mark.right 1) rest := by
  rw [readQuoted, Place.atMarker_of_head (by decide) (by decide), if_neg (by decide)]
  rfl

theorem readQuoted_indentation (hg : g.broken = true) (k : Nat) (rest : List Char) :
    readQuoted quote since text g mark (List.replicate k ' ' ++ rest) =
      readQuoted quote since text g (mark.right k) rest := by
  have hspace : g.addSpace ' ' = g := if_pos hg
  induction k generalizing mark with
  | zero => rfl
  | succ k ih =>
    rw [List.replicate_succ, List.cons_append, readQuoted_space, hspace, ih, Mark.right_right,
      Nat.add_comm]

theorem readQuoted_indented {indent : Nat} (hindent : 0 < indent)
    (hcolumn : g.broken = false → 0 < mark.column) (rest : List Char) :
    ∃ m : Mark, 0 < m.column ∧
      readQuoted quote since text g mark
          ((if g.broken then List.replicate indent ' ' else []) ++ rest) =
        readQuoted quote since text g m rest := by
  cases hbroken : g.broken with
  | false => exact ⟨mark, hcolumn hbroken, rfl⟩
  | true =>
    rw [if_pos rfl, readQuoted_indentation hbroken]
    exact ⟨mark.right indent, Nat.lt_of_lt_of_le hindent (Nat.le_add_left _ _), rfl⟩

theorem readQuoted_char (hcolumn : 0 < mark.column) (hbreak : isBreak c = false)
    (hspace : isSpace c = false) (hquote : c ≠ quote) (hescape : c = '\\' → quote ≠ '"') :
    readQuoted quote since text g mark (c :: rest) =
      readQuoted quote since (c :: g.addTo text) .none (mark.right 1) rest := by
  have hreturn : c ≠ '\r' := by
    rintro rfl
    cases hbreak
  have hneither : (c == '\\' && quote == '"') = false := by
    by_cases hc : c = '\\'
    · rw [beq_false_of_ne (hescape hc), Bool.and_false]
    · rw [beq_false_of_ne hc, Bool.false_and]
  rw [readQuoted, Place.atMarker_of_column hcolumn, if_neg (by decide), beq_false_of_ne hreturn,
    Bool.false_and, if_neg (by decide), if_neg (Bool.eq_false_iff.mp hbreak),
    if_neg (Bool.eq_false_iff.mp hspace)]
  dsimp only
  rw [beq_false_of_ne hquote, if_neg (by decide), hneither, if_neg (by decide)]

theorem readQuoted_quote (hcolumn : 0 < mark.column) :
    readQuoted '\'' since text g mark ('\'' :: '\'' :: rest) =
      readQuoted '\'' since ('\'' :: g.addTo text) .none (mark.right 2) rest := by
  rw [readQuoted, Place.atMarker_of_column hcolumn, if_neg (by decide)]
  rfl

theorem readQuoted_close (hcolumn : 0 < mark.column) (hquote : isBreak quote = false)
    (hspace : isSpace quote = false) (hrest : rest.head? ≠ some '\'') :
    readQuoted quote since text g mark (quote :: rest) =
      .ok (String.ofList (text.reverse ++ g.text), ⟨mark.right 1, rest⟩) := by
  have hreturn : quote ≠ '\r' := by
    rintro rfl
    cases hquote
  rw [readQuoted, Place.atMarker_of_column hcolumn, if_neg (by decide), beq_false_of_ne hreturn,
    Bool.false_and, if_neg (by decide), if_neg (Bool.eq_false_iff.mp hquote),
    if_neg (Bool.eq_false_iff.mp hspace)]
  dsimp only
  rw [beq_self_eq_true, if_pos rfl, beq_false_of_ne hrest, Bool.and_false, if_neg (by decide),
    Gap.reverse_addTo]

open Value in
/-- **What stands between single quotes is read up to the closing one.** -/
theorem readQuoted_single {indent : Nat} (hindent : 0 < indent) {cs : List Char}
    (hline : '\n' ∉ cs) {f : Features} {last : Option Char}
    (hallows : (Features.scan f last cs).allowsSingle = true) (hg : g.Follows last)
    (hcolumn : g.broken = false → 0 < mark.column) (hrest : rest.head? ≠ some '\'') :
    ∃ m, readQuoted '\'' since text g mark (singleBody indent g.broken cs ++ '\'' :: rest) =
      .ok (String.ofList (text.reverse ++ (g.text ++ cs)), ⟨m, rest⟩) := by
  induction cs generalizing f last text g mark with
  | nil =>
    obtain ⟨m, hm, hread⟩ := @readQuoted_indented '\'' since mark text g indent hindent hcolumn
      ('\'' :: rest)
    refine ⟨m.right 1, ?_⟩
    rw [List.append_nil]
    exact hread.trans (readQuoted_close hm (by decide) (by decide) hrest)
  | cons c cs ih =>
    obtain ⟨hfirst, hallows'⟩ := Features.isAllowance_allowsSingle.cons hallows
    obtain ⟨hprintable, hspace, hlast⟩ := Features.allowsSingle_ofChar hfirst
    have hline' : '\n' ∉ cs := fun hmem => hline (List.mem_cons_of_mem _ hmem)
    have hc : c ≠ '\n' := fun heq => hline (heq ▸ List.mem_cons_self)
    unfold singleBody
    by_cases hbreak : isBreak c = true
    · obtain ⟨m, hread⟩ := @ih (mark.nextLine 1) text (g.addBreak c) hline' _ _ hallows'
        (hg.addBreak hbreak hc) (fun h => Bool.noConfusion h)
      refine ⟨m, ?_⟩
      rw [if_pos hbreak, List.cons_append, readQuoted_break hbreak hprintable]
      rw [hg.text_addBreak (hlast hbreak) hbreak hc, List.append_assoc] at hread
      exact hread
    rw [if_neg hbreak]
    by_cases hblank : c = ' '
    · subst hblank
      have hbroken : g.broken = false := hg.broken.trans (hspace rfl)
      have hadd : (g.addSpace ' ').broken = false := ((hg.inLine hbroken).addSpace ' ').1
      obtain ⟨m, hread⟩ := @ih (mark.right 1) text (g.addSpace ' ') hline' _ _ hallows'
        (hg.addSpace hbroken) (fun _ => Nat.succ_pos _)
      refine ⟨m, ?_⟩
      rw [if_pos (beq_self_eq_true ' '), List.cons_append, readQuoted_space, hbroken]
      rw [(hg.inLine hbroken).text_addSpace, List.append_assoc, hadd] at hread
      exact hread
    · rw [if_neg (mt eq_of_beq hblank), List.append_assoc, List.append_assoc]
      obtain ⟨m, hm, hindented⟩ := @readQuoted_indented '\'' since mark text g indent hindent hcolumn
        ((if c == '\'' then ['\'', '\''] else [c]) ++
          (singleBody indent false cs ++ '\'' :: rest))
      rw [hindented]
      have hnone := Gap.follows_none (eq_false_of_ne_true hbreak)
      have htext : (c :: g.addTo text).reverse ++ ([] ++ cs) = text.reverse ++ (g.text ++ c :: cs) := by
        rw [List.reverse_cons, Gap.reverse_addTo, List.append_assoc, List.append_assoc]
        rfl
      by_cases hquote : c = '\''
      · subst hquote
        obtain ⟨m', hread⟩ := @ih (m.right 2) ('\'' :: g.addTo text) .none hline' _ _ hallows' hnone
          (fun _ => Nat.succ_pos _)
        refine ⟨m', ?_⟩
        rw [if_pos (beq_self_eq_true '\'')]
        exact (readQuoted_quote hm).trans (hread.trans (by rw [← htext]; rfl))
      · obtain ⟨m', hread⟩ := @ih (m.right 1) (c :: g.addTo text) .none hline' _ _ hallows' hnone
          (fun _ => Nat.succ_pos _)
        refine ⟨m', ?_⟩
        rw [if_neg (mt eq_of_beq hquote)]
        have hstep := @readQuoted_char '\'' c since m text (singleBody indent false cs ++ '\'' :: rest) g
          hm (eq_false_of_ne_true hbreak) (isSpace_of_isPrintable hprintable hblank) hquote
          (fun _ => by decide)
        exact hstep.trans (hread.trans (by rw [← htext]; rfl))

/-! ## Double quotes -/

theorem takeBreak?_of_ofLetter? {e : Char} {escape : Escape} (h : Escape.ofLetter? e = some escape)
    (rest : List Char) : takeBreak? (e :: rest) = none := by
  have hbreak : isBreak e = false := by
    refine Bool.eq_false_iff.mpr fun hbreak => ?_
    simp only [isBreak, Bool.or_eq_true, beq_iff_eq] at hbreak
    rcases hbreak with (((rfl | rfl) | rfl) | rfl) | rfl <;> cases h
  unfold takeBreak?
  split
  · next heq =>
    cases heq
    cases hbreak
  · next heq =>
    cases heq
    rw [if_neg (Bool.eq_false_iff.mp hbreak)]
  · rfl

theorem numbered_append {digits : List Char} {n : Nat} (hlength : digits.length = n)
    (hdigits : Decimal.readNat? 16 digits = some c.toNat) (rest : List Char) :
    Escape.numbered n (digits ++ rest) = .ok c := by
  have hvalid : c.toNat.isValidChar := c.valid
  have hchar : Char.ofNatAux c.toNat hvalid = c := by
    have h := Char.ofNat_toNat c
    rwa [Char.ofNat, dif_pos hvalid] at h
  unfold Escape.numbered
  dsimp only
  rw [← hlength, List.take_left, hdigits]
  dsimp only
  rw [if_neg (Nat.lt_irrefl _), dif_pos hvalid, hchar]

open Value in
theorem readQuoted_escape (hcolumn : 0 < mark.column) {e : Char} {digits : List Char}
    (h : Escaped c ('\\' :: e :: digits)) :
    readQuoted '"' since text g mark ('\\' :: e :: (digits ++ rest)) =
      readQuoted '"' since (c :: g.addTo text) .none (mark.right (2 + digits.length)) rest := by
  have hreturn : ('\\' == '\r' && (e :: (digits ++ rest)).head? == some '\n') = false := rfl
  rw [readQuoted, Place.atMarker_of_column hcolumn, if_neg (by decide), hreturn,
    if_neg (by decide), if_neg (by decide), if_neg (by decide)]
  dsimp only
  rw [if_neg (by decide), if_pos (by decide)]
  cases h with
  | letter h =>
    rw [takeBreak?_of_ofLetter? h]
    dsimp only [List.head?_cons, Option.bind_some]
    rw [h]
    rfl
  | number h hlength hdigits =>
    rw [takeBreak?_of_ofLetter? h]
    dsimp only [List.head?_cons, Option.bind_some]
    rw [h]
    dsimp only
    rw [List.drop_one, List.tail_cons, numbered_append hlength hdigits]
    dsimp only
    rw [← hlength, List.drop_left]

open Value in
/-- **What stands between double quotes is read up to the closing one.** -/
theorem readQuoted_double {cs : List Char} (hg : g.InLine) (hcolumn : 0 < mark.column)
    (hrest : rest.head? ≠ some '\'') :
    ∃ m, readQuoted '"' since text g mark
        (cs.flatMap (fun c => (escapeChar c).toList) ++ '"' :: rest) =
      .ok (String.ofList (text.reverse ++ (g.text ++ cs)), ⟨m, rest⟩) := by
  induction cs generalizing text g mark with
  | nil =>
    refine ⟨mark.right 1, ?_⟩
    rw [List.append_nil]
    exact readQuoted_close hcolumn (by decide) (by decide) hrest
  | cons c cs ih =>
    have htext : (c :: g.addTo text).reverse ++ (Gap.none.text ++ cs) =
        text.reverse ++ (g.text ++ c :: cs) := by
      rw [List.reverse_cons, Gap.reverse_addTo, List.append_assoc, List.append_assoc]
      rfl
    have hescaped := escaped_escapeChar c
    rw [List.flatMap_cons, List.append_assoc]
    generalize (escapeChar c).toList = written at hescaped
    -- what starts with a backslash is an escape
    have hescape : ∀ {e : Char} {digits : List Char}, Escaped c ('\\' :: e :: digits) →
        ∃ m, readQuoted '"' since text g mark ('\\' :: e :: digits ++
            (cs.flatMap (fun c => (escapeChar c).toList) ++ '"' :: rest)) =
          .ok (String.ofList (text.reverse ++ (g.text ++ c :: cs)), ⟨m, rest⟩) := by
      intro e digits h
      obtain ⟨m, hread⟩ := @ih (mark.right (2 + digits.length)) (c :: g.addTo text) .none
        Gap.inLine_none (Nat.lt_of_lt_of_le hcolumn (Nat.le_add_right _ _))
      rw [htext] at hread
      exact ⟨m, (readQuoted_escape hcolumn h).trans hread⟩
    cases hescaped with
    | letter h => exact hescape (.letter h)
    | number h hlength hdigits hallowed => exact hescape (.number h hlength hdigits hallowed)
    | itself hprintable hbreak hquote hbackslash =>
      by_cases hspace : c = ' '
      · subst hspace
        obtain ⟨m, hread⟩ := @ih (mark.right 1) text (g.addSpace ' ') (hg.addSpace ' ')
          (Nat.succ_pos _)
        rw [hg.text_addSpace, List.append_assoc] at hread
        exact ⟨m, (readQuoted_space _).trans hread⟩
      · obtain ⟨m, hread⟩ := @ih (mark.right 1) (c :: g.addTo text) .none Gap.inLine_none
          (Nat.succ_pos _)
        rw [htext] at hread
        exact ⟨m, (readQuoted_char hcolumn hbreak (isSpace_of_isPrintable hprintable hspace) hquote
          fun h => absurd h hbackslash).trans hread⟩

end BundleInstaller.Yaml
