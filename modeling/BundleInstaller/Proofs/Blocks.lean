import BundleInstaller.Proofs.Quoting
import BundleInstaller.Yaml.Token.BlockText

/-!
# Reading literal blocks

A literal block that was written for a text is read as this text.  Reading goes line by line: the
empty lines in front of a line are passed together with its indentation, and what was read so far,
with the line breaks that may still be dropped, is the text up to there.  What becomes of the line
breaks at the end goes by the header, and the header was written so that they come out right.

* `readLines_written`: all lines of a block.
* `chomped_terminated`: the line breaks at its end.
* `blockText_written`: the text that was written.
-/

namespace BundleInstaller.Yaml

open Value

/-! ## Lines -/

/-- A text in lines: empty ones, and ones with something in them. -/
inductive Written : List Char → Prop
  | breaks {bs : List Char} (hbs : ∀ b ∈ bs, isBreak b = true) : Written bs
  | line {bs line rest : List Char} {c b : Char} (hbs : ∀ b ∈ bs, isBreak b = true)
      (hc : isBreak c = false) (hline : ∀ d ∈ line, isBreak d = false) (hb : isBreak b = true)
      (hrest : Written rest) : Written (bs ++ c :: (line ++ b :: rest))

theorem Written.cons {cs : List Char} (h : Written cs) {c : Char}
    (hc : isBreak c = false → cs ≠ []) : Written (c :: cs) := by
  cases hbreak : isBreak c with
  | true =>
    have hcons : ∀ {bs : List Char}, (∀ b ∈ bs, isBreak b = true) →
        ∀ b ∈ c :: bs, isBreak b = true := by
      intro bs hbs b hb
      rcases List.mem_cons.mp hb with rfl | hb
      · exact hbreak
      · exact hbs b hb
    cases h with
    | breaks hbs => exact .breaks (hcons hbs)
    | line hbs hd hline hb hrest => exact .line (hcons hbs) hd hline hb hrest
  | false =>
    have hnil : ∀ b ∈ ([] : List Char), isBreak b = true := nofun
    have hnil' : ∀ b ∈ ([] : List Char), isBreak b = false := nofun
    cases h with
    | breaks hbs =>
      cases cs with
      | nil => exact absurd rfl (hc hbreak)
      | cons b bs =>
        show Written ([] ++ c :: ([] ++ b :: bs))
        exact .line hnil hbreak hnil' (hbs b List.mem_cons_self)
          (.breaks fun d hd => hbs d (List.mem_cons_of_mem _ hd))
    | @line bs line rest d b hbs hd hline hb hrest =>
      cases bs with
      | nil =>
        show Written ([] ++ c :: (d :: line ++ b :: rest))
        refine .line hnil hbreak ?_ hb hrest
        intro e he
        rcases List.mem_cons.mp he with rfl | he
        · exact hd
        · exact hline e he
      | cons b' bs =>
        show Written ([] ++ c :: ([] ++ b' :: (bs ++ d :: (line ++ b :: rest))))
        exact .line hnil hbreak hnil' (hbs b' List.mem_cons_self)
          (.line (fun e he => hbs e (List.mem_cons_of_mem _ he)) hd hline hb hrest)

theorem written_terminated (broken : Bool) (cs : List Char) : Written (terminated broken cs) := by
  induction cs generalizing broken with
  | nil =>
    cases broken with
    | true => exact .breaks nofun
    | false =>
      refine .breaks fun b hb => ?_
      rw [List.mem_singleton.mp hb]
      decide
  | cons c cs ih =>
    refine (ih (isBreak c)).cons fun hc => ?_
    rw [hc]
    cases cs <;> exact List.cons_ne_nil _ _

variable {indent : Nat}

theorem blockBody_breaks {bs : List Char} (hbs : ∀ b ∈ bs, isBreak b = true) (rest : List Char) :
    blockBody indent true (bs ++ rest) = bs ++ blockBody indent true rest := by
  induction bs with
  | nil => rfl
  | cons b bs ih =>
    rw [List.cons_append, blockBody, if_pos (hbs b List.mem_cons_self),
      ih fun d hd => hbs d (List.mem_cons_of_mem _ hd)]
    rfl

theorem blockBody_line {c b : Char} {line : List Char} (hc : isBreak c = false)
    (hline : ∀ d ∈ line, isBreak d = false) (hb : isBreak b = true) (rest : List Char) :
    blockBody indent true (c :: (line ++ b :: rest)) =
      List.replicate indent ' ' ++ c :: (line ++ b :: blockBody indent true rest) := by
  have hbody : blockBody indent false (line ++ b :: rest) =
      line ++ b :: blockBody indent true rest := by
    induction line with
    | nil => rw [List.nil_append, blockBody, if_pos hb, List.nil_append]
    | cons d line ih =>
      rw [List.cons_append, blockBody,
        if_neg (Bool.eq_false_iff.mp (hline d List.mem_cons_self)), if_neg (by decide),
        ih fun e he => hline e (List.mem_cons_of_mem _ he)]
      rfl
  rw [blockBody, if_neg (Bool.eq_false_iff.mp hc), if_pos rfl, hbody]

namespace BlockText

/-! ## Empty lines -/

variable {since : Mark} {l : Lead} {rest : List Char}

theorem lead_break {c : Char} (hbreak : isBreak c = true) (hprintable : isPrintable c = true) :
    lead indent since l (c :: rest) =
      lead indent since ⟨c :: l.breaks, max l.widest l.mark.column, l.mark.nextLine 1,
        l.taken + 1, l.mark.nextLine 1⟩ rest := by
  obtain ⟨hmeaning, hreturn⟩ := breakMeaning_of_isPrintable hbreak hprintable
  have hne : ∀ d, isBreak d = false → (c == d) = false := fun d hd =>
    beq_false_of_ne (ne_of_isBreak hbreak hd)
  rw [lead]
  · dsimp only
    rw [hne ' ' (by decide), hne '\t' (by decide), Bool.false_and, if_neg (by decide),
      if_neg (by decide), if_pos hbreak, hmeaning]
  · rintro rest' rfl
    exact absurd rfl hreturn

theorem lead_space (hindent : indent = 0 ∨ l.mark.column < indent) :
    lead indent since l (' ' :: rest) =
      lead indent since { l with taken := l.taken + 1, mark := l.mark.right 1 } rest := by
  have hin : (decide (indent = 0) || decide (l.mark.column < indent)) = true := by
    rw [Bool.or_eq_true, decide_eq_true_eq, decide_eq_true_eq]
    exact hindent
  rw [lead]
  · rw [hin, if_pos (by decide)]
  · nofun

/-- Empty lines end before a character that is no line break, and no blank either as long as
indentation may go on. -/
theorem lead_stop (hrest : ∀ c ∈ rest.head?, isBreak c = false ∧
      (isSpace c = true → indent ≠ 0 ∧ indent ≤ l.mark.column)) :
    lead indent since l rest = .ok { l with widest := max l.widest l.mark.column } := by
  cases rest with
  | nil => rfl
  | cons c rest =>
    obtain ⟨hbreak, hspace⟩ := hrest c rfl
    have hin : ∀ d, isSpace d = true →
        (c == d && (decide (indent = 0) || decide (l.mark.column < indent))) = false := by
      intro d hd
      by_cases hc : c = d
      · obtain ⟨hne, hle⟩ := hspace (hc ▸ hd)
        rw [decide_eq_false hne, decide_eq_false (Nat.not_lt.mpr hle), Bool.or_self, Bool.and_false]
      · rw [beq_false_of_ne hc, Bool.false_and]
    rw [lead]
    · rw [hin ' ' (by decide), hin '\t' (by decide), if_neg (by decide), if_neg (by decide),
        if_neg (Bool.eq_false_iff.mp hbreak)]
    · rintro rest' rfl
      cases hbreak

theorem lead_breaks {bs : List Char} (hbs : ∀ b ∈ bs, isBreak b = true)
    (hprintable : ∀ b ∈ bs, isPrintable b = true) (hcolumn : l.mark.column = 0)
    (hwidest : l.widest = 0) :
    ∃ m s, m.column = 0 ∧ lead indent since l (bs ++ rest) =
      lead indent since ⟨bs.reverse ++ l.breaks, 0, s, l.taken + bs.length, m⟩ rest := by
  induction bs generalizing l with
  | nil => exact ⟨l.mark, l.stop, hcolumn, by rw [← hwidest]; rfl⟩
  | cons b bs ih =>
    obtain ⟨m, s, hm, hlead⟩ := @ih ⟨b :: l.breaks, max l.widest l.mark.column, l.mark.nextLine 1,
      l.taken + 1, l.mark.nextLine 1⟩ (fun d hd => hbs d (List.mem_cons_of_mem _ hd))
      (fun d hd => hprintable d (List.mem_cons_of_mem _ hd)) rfl (by rw [hcolumn, hwidest]; rfl)
    refine ⟨m, s, hm, ?_⟩
    rw [List.cons_append, lead_break (hbs b List.mem_cons_self) (hprintable b List.mem_cons_self),
      hlead, List.reverse_cons, List.append_assoc, List.length_cons, Nat.add_assoc,
      Nat.add_comm 1]
    rfl

theorem lead_spaces {k : Nat} (hk : indent = 0 ∨ l.mark.column + k ≤ indent) :
    lead indent since l (List.replicate k ' ' ++ rest) =
      lead indent since { l with taken := l.taken + k, mark := l.mark.right k } rest := by
  induction k generalizing l with
  | zero => rfl
  | succ k ih =>
    rw [List.replicate_succ, List.cons_append, lead_space (hk.imp_right fun h => by omega),
      ih (hk.imp_right fun h => by
        show l.mark.column + 1 + k ≤ indent
        omega)]
    dsimp only
    rw [Mark.right_right, Nat.add_assoc, Nat.add_comm 1]

/-- **The empty lines in front of a line, and its indentation.** -/
theorem leadAt_eq {bs : List Char} (hbs : ∀ b ∈ bs, isBreak b = true)
    (hprintable : ∀ b ∈ bs, isPrintable b = true) {mark : Mark} (hcolumn : mark.column = 0)
    {k : Nat} (hk : k ≤ indent)
    (hrest : ∀ c ∈ rest.head?, isBreak c = false ∧ (isSpace c = true → indent ≠ 0 ∧ indent ≤ k)) :
    ∃ m s, m.column = k ∧
      leadAt indent since ⟨mark, bs ++ (List.replicate k ' ' ++ rest)⟩ =
        .ok ⟨bs.reverse, k, s, bs.length + k, m⟩ := by
  obtain ⟨m, s, hm, hlead⟩ := @lead_breaks indent since ⟨[], 0, mark, 0, mark⟩
    (List.replicate k ' ' ++ rest) bs hbs hprintable hcolumn rfl
  have hmk : (m.right k).column = k := by
    show m.column + k = k
    rw [hm, Nat.zero_add]
  refine ⟨m.right k, s, hmk, ?_⟩
  show lead indent since ⟨[], 0, mark, 0, mark⟩ _ = _
  rw [hlead, lead_spaces (.inr (by rw [hm, Nat.zero_add]; exact hk)),
    lead_stop (by dsimp only; rwa [hmk])]
  dsimp only
  rw [hmk, List.append_nil, Nat.zero_add, Nat.zero_max]

/-- Where the indentation is not told, the first line tells it. -/
theorem leadAt_first {given : Nat} (hgiven : given = 0 ∨ given = indent) {mark : Mark}
    (hcolumn : mark.column = 0) {c : Char} (hbreak : isBreak c = false) (hspace : isSpace c = false) :
    leadAt given since ⟨mark, List.replicate indent ' ' ++ c :: rest⟩ =
      .ok ⟨[], indent, mark, indent, mark.right indent⟩ := by
  have hmk : (mark.right indent).column = indent := by
    show mark.column + indent = indent
    rw [hcolumn, Nat.zero_add]
  have hspaces : given = 0 ∨ mark.column + indent ≤ given := by
    refine hgiven.imp_right fun h => Nat.le_of_eq ?_
    rw [h, hcolumn, Nat.zero_add]
  show lead given since ⟨[], 0, mark, 0, mark⟩ _ = _
  rw [lead_spaces hspaces, lead_stop]
  · dsimp only
    rw [hmk, Nat.zero_add, Nat.zero_max]
  · rintro d ⟨⟩
    exact ⟨hbreak, fun h => absurd (hspace.symm.trans h) (by decide)⟩

/-! ## Lines with something in them -/

/-- The last line break of a text that was read, and the text before it. -/
def Ends (lineBreak text : List Char) : Prop :=
  lineBreak = [] ∧ text = [] ∨ ∃ b, lineBreak = [b] ∧ isBreak b = true

/-- The lines amount to a text, given with the last character first, and end in column `k`, where
`tail` follows. -/
structure Lines.Reads (r : Lines) (total : List Char) (k : Nat) (tail : List Char) : Prop where
  total : r.breaks ++ (r.lineBreak ++ r.text) = total
  breaks : ∀ b ∈ r.breaks, isBreak b = true
  ends : Ends r.lineBreak r.text
  rest : r.next.rest = tail
  column : r.next.mark.column = k

variable {after : Bool} {text lineBreak breaks : List Char} {stop mark : Mark}

theorem readLines_stop {k : Nat} (hcolumn : mark.column = k) (hk : k < indent) (tail : List Char) :
    readLines true indent since after text lineBreak breaks stop mark tail =
      .ok ⟨text, lineBreak, breaks, stop, ⟨mark, tail⟩⟩ := by
  cases tail with
  | nil => rw [readLines]
  | cons c tail => rw [readLines, if_neg (by omega)]

theorem readLines_line (hcolumn : mark.column = indent) {c b : Char} {line : List Char}
    (hline : ∀ d ∈ line, isBreak d = false) (hb : isBreak b = true) (hprintable : isPrintable b = true)
    {l : Lead}
    (hlead : leadAt indent since ⟨(mark.right (line.length + 1)).nextLine 1, rest⟩ = .ok l) :
    readLines true indent since after text lineBreak breaks stop mark (c :: (line ++ b :: rest)) =
      readLines true indent since (isSpace c)
        (line.reverse ++ c :: (breaks ++ lineBreak ++ text)) [b] l.breaks l.stop l.mark
        (rest.drop l.taken) := by
  obtain ⟨hmeaning, hreturn⟩ := breakMeaning_of_isPrintable hb hprintable
  have htake : (line ++ b :: rest).takeWhile (!isBreak ·) = line := by
    rw [List.takeWhile_append_of_pos, List.takeWhile_cons_of_neg, List.append_nil]
    · rw [hb]
      decide
    · intro d hd
      rw [hline d hd]
      rfl
  have hbreak : takeBreak? (b :: rest) = some (b, 1) := by
    unfold takeBreak?
    split
    · next heq =>
      cases heq
      exact absurd rfl hreturn
    · next heq =>
      cases heq
      rw [if_pos hb, hmeaning]
    · next heq => cases heq
  rw [readLines, if_pos hcolumn]
  dsimp only
  rw [htake, List.drop_left, hbreak]
  dsimp only
  rw [List.isEmpty_cons, if_neg (by decide), List.drop_one, List.tail_cons, hlead]
  rfl

/-- **The lines of a block are read as the text that they were written for.** -/
theorem readLines_written {cs : List Char} (hcs : Written cs)
    (hprintable : ∀ c ∈ cs, isPrintable c = true) {k : Nat} (hk : k < indent) {tail : List Char}
    (htail : StartsWord tail) (hcolumn : mark.column = 0) (hends : Ends lineBreak text) :
    ∃ l r, leadAt indent since
        ⟨mark, blockBody indent true cs ++ (List.replicate k ' ' ++ tail)⟩ = .ok l ∧
      readLines true indent since after text lineBreak l.breaks l.stop l.mark
        ((blockBody indent true cs ++ (List.replicate k ' ' ++ tail)).drop l.taken) = .ok r ∧
      r.Reads (cs.reverse ++ (lineBreak ++ text)) k tail := by
  have hdrop : ∀ (bs : List Char) (k : Nat) (rest : List Char),
      (bs ++ (List.replicate k ' ' ++ rest)).drop (bs.length + k) = rest := by
    intro bs k rest
    rw [← List.append_assoc]
    exact List.drop_left' (by rw [List.length_append, List.length_replicate])
  induction hcs generalizing mark lineBreak text after with
  | @breaks bs hbs =>
    obtain ⟨m, s, hm, hlead⟩ := @leadAt_eq indent since tail bs hbs hprintable mark hcolumn k
      (Nat.le_of_lt hk) fun c hc => by
        obtain ⟨hbreak, hspace⟩ := not_blank_of_isAlpha (htail c hc)
        exact ⟨hbreak, fun h => absurd (hspace.symm.trans h) (by decide)⟩
    have hbody : blockBody indent true bs = bs := by
      have h := @blockBody_breaks indent bs hbs []
      rwa [List.append_nil, blockBody, List.append_nil] at h
    rw [hbody]
    refine ⟨_, ⟨text, lineBreak, bs.reverse, s, ⟨m, tail⟩⟩, hlead, ?_, rfl, ?_, hends, rfl, hm⟩
    · rw [hdrop]
      exact readLines_stop hm hk tail
    · exact fun b hb => hbs b (List.mem_reverse.mp hb)
  | @line bs line rest c b hbs hc hline hb hrest ih =>
    have hprint : ∀ d, d ∈ bs ∨ d = c ∨ d ∈ line ∨ d = b ∨ d ∈ rest → isPrintable d = true := by
      intro d hd
      refine hprintable d ?_
      simpa only [List.mem_append, List.mem_cons] using hd
    have hbody : blockBody indent true (bs ++ c :: (line ++ b :: rest)) ++
          (List.replicate k ' ' ++ tail) =
        bs ++ (List.replicate indent ' ' ++ c :: (line ++ b ::
          (blockBody indent true rest ++ (List.replicate k ' ' ++ tail)))) := by
      rw [blockBody_breaks hbs, blockBody_line hc hline hb, List.append_assoc, List.append_assoc,
        List.cons_append, List.append_assoc, List.cons_append]
    obtain ⟨m, s, hm, hlead⟩ := @leadAt_eq indent since (c :: (line ++ b ::
        (blockBody indent true rest ++ (List.replicate k ' ' ++ tail)))) bs hbs
      (fun d hd => hprint d (.inl hd)) mark hcolumn indent (Nat.le_refl _) fun d hd => by
        cases hd
        exact ⟨hc, fun _ => ⟨by omega, Nat.le_refl _⟩⟩
    obtain ⟨l, r, hnext, hread, htotal, hbreaks, hends', hrest', hcolumn'⟩ :=
      @ih (isSpace c) (line.reverse ++ c :: (bs.reverse ++ lineBreak ++ text)) [b]
        ((m.right (line.length + 1)).nextLine 1)
        (fun d hd => hprint d (.inr (.inr (.inr (.inr hd))))) rfl (.inr ⟨b, rfl, hb⟩)
    rw [hbody]
    refine ⟨_, r, hlead, ?_, ?_, hbreaks, hends', hrest', hcolumn'⟩
    · rw [hdrop, readLines_line hm hline hb (hprint b (.inr (.inr (.inr (.inl rfl))))) hnext]
      exact hread
    · rw [htotal]
      simp only [List.reverse_append, List.reverse_cons, List.append_assoc, List.cons_append,
        List.nil_append]

/-! ## Line breaks at the end -/

/-- What a header says of the line breaks at the end. -/
def chompOf (cs : List Char) : Chomp :=
  match cs.reverse with
  | [] => .strip
  | [c] => if isBreak c then .keep else .strip
  | c :: b :: _ => if !isBreak c then .strip else if isBreak b then .keep else .clip

theorem terminated_concat (broken : Bool) (cs : List Char) (c : Char) :
    terminated broken (cs ++ [c]) = cs ++ c :: terminated (isBreak c) [] := by
  induction cs generalizing broken with
  | nil => rfl
  | cons d cs ih => exact congrArg (d :: ·) (ih (isBreak d))

/-- The line break behind a character that is none is the last one. -/
theorem Lines.Reads.eq_of_char {r : Lines} {c d : Char} {more : List Char} {k : Nat}
    {tail : List Char} (h : r.Reads (c :: d :: more) k tail) (hd : isBreak d = false) :
    r.breaks = [] ∧ r.lineBreak = [c] ∧ r.text = d :: more := by
  obtain ⟨text, lineBreak, breaks, stop, next⟩ := r
  obtain ⟨htotal, hbreaks, hends, -, -⟩ := h
  have hne : ∀ b, isBreak b = true → b ≠ d := fun b hb => ne_of_isBreak hb hd
  dsimp only at *
  rcases hends with ⟨rfl, rfl⟩ | ⟨b, rfl, hb⟩
  · -- then the character would be a line break
    rw [List.append_nil, List.append_nil] at htotal
    refine absurd rfl (hne d (hbreaks d ?_))
    rw [htotal]
    exact List.mem_cons_of_mem _ List.mem_cons_self
  · match breaks with
    | [] =>
      cases htotal
      exact ⟨rfl, rfl, rfl⟩
    | [b'] =>
      cases htotal
      exact absurd rfl (hne d hb)
    | b' :: b'' :: bs =>
      cases htotal
      exact absurd rfl (hne d (hbreaks d (List.mem_cons_of_mem _ List.mem_cons_self)))

/-- **The line breaks at the end come out as they were.** -/
theorem chomped_terminated {cs : List Char} (hcs : cs ≠ []) {r : Lines} {k : Nat}
    {tail : List Char} (h : r.Reads (terminated true cs).reverse k tail) :
    r.chomped (chompOf cs) = String.ofList cs := by
  obtain ⟨ds, c, rfl⟩ := (List.eq_nil_or_concat cs).resolve_left hcs
  rw [List.concat_eq_append] at *
  have htext : ∀ text, text = c :: ds.reverse → String.ofList text.reverse = .ofList (ds ++ [c]) := by
    rintro _ rfl
    rw [List.reverse_cons, List.reverse_reverse]
  have hreverse : (ds ++ [c]).reverse = c :: ds.reverse := List.reverse_concat ..
  unfold chompOf
  rw [terminated_concat, List.reverse_append] at h
  rw [hreverse]
  cases hbreak : isBreak c with
  | false =>
    rw [hbreak] at h
    obtain ⟨-, -, hread⟩ := h.eq_of_char hbreak
    cases hds : ds.reverse with
    | nil =>
      dsimp only
      rw [hbreak]
      exact htext _ hread
    | cons b more =>
      dsimp only
      rw [hbreak]
      exact htext _ hread
  | true =>
    rw [hbreak] at h
    have hkeep : r.chomped .keep = .ofList (ds ++ [c]) := by
      refine htext _ ?_
      rw [List.append_assoc]
      exact h.total
    cases hds : ds.reverse with
    | nil =>
      dsimp only
      rw [hbreak]
      exact hkeep
    | cons b more =>
      cases hb : isBreak b with
      | true =>
        dsimp only
        rw [hbreak, hb]
        exact hkeep
      | false =>
        rw [hds] at h
        obtain ⟨-, hlast, hread⟩ := Lines.Reads.eq_of_char h hb
        dsimp only
        rw [hbreak, hb]
        refine htext _ ?_
        rw [hlast, hread, hds]
        rfl

/-! ## The header -/

/-- Whether a header says how far the lines are indented: where the first one starts with a blank. -/
def tellsIndent : List Char → Bool
  | c :: _ => c == ' ' || isBreak c
  | [] => false

/-- A mark for what becomes of the line breaks at the end. -/
def signOf : Chomp → String
  | .strip => "-"
  | .clip => ""
  | .keep => "+"

theorem hints_eq (cs : List Char) :
    hints cs = (if tellsIndent cs then "2" else "") ++ signOf (chompOf cs) := by
  unfold hints chompOf
  dsimp only
  congr 1
  · cases cs <;> rfl
  · match cs.reverse with
    | [] => rfl
    | [c] =>
      dsimp only
      cases isBreak c <;> rfl
    | c :: b :: more =>
      dsimp only
      cases isBreak c <;> cases isBreak b <;> rfl

theorem header_hints (since m : Mark) (cs rest : List Char) :
    ∃ m', header since ⟨m, (hints cs).toList ++ '\n' :: rest⟩ =
      .ok (chompOf cs, if tellsIndent cs then 2 else 0, ⟨m', '\n' :: rest⟩) := by
  rw [hints_eq]
  cases tellsIndent cs <;> cases chompOf cs <;> exact ⟨_, rfl⟩

end BlockText

open BlockText in
/-- The parts of a block scalar: its header, the rest of the line, empty lines and the other ones. -/
theorem blockText_of_parts {place next : Place} {literal : Bool} {outer : Int} {chomp : Chomp}
    {increment given indent : Nat} {l : Lead} {r : Lines}
    (hheader : header place.mark (place.skip 1) = .ok (chomp, increment, next))
    (hline : endsLine next.skipComment.rest = true)
    (hgiven : (if increment = 0 then 0 else outer.toNat + increment) = given)
    (hlead : leadAt given place.mark next.skipComment.skipBreak = .ok l)
    (hindent : (if given = 0 then max (max l.widest (outer + 1).toNat) 1 else given) = indent)
    (hlines : readLines literal indent place.mark false [] [] l.breaks l.stop l.mark
      (next.skipComment.skipBreak.rest.drop l.taken) = .ok r) :
    place.blockText literal outer = .ok (r.chomped chomp, r.stop, r.next) := by
  subst hgiven hindent
  unfold Place.blockText
  dsimp only [bind, Except.bind]
  rw [hheader]
  dsimp only
  rw [hline, hlead]
  dsimp only
  rw [hlines]
  rfl

open BlockText in
/-- **A literal block is read as the text that it was written for.** -/
theorem blockText_written {s : String} (hblock : (Features.of s).allowsBlock = true)
    (hline : '\n' ∈ s.toList) {place : Place} {outer k : Nat} {tail : List Char} (hk : k ≤ outer)
    (htail : StartsWord tail)
    (hplace : place.rest = '|' :: ((hints s.toList).toList ++ '\n' ::
      (blockBody (outer + 2) true (terminated true s.toList) ++ (List.replicate k ' ' ++ tail)))) :
    ∃ stop m, m.column = k ∧ place.blockText true (outer : Int) = .ok (s, stop, ⟨m, tail⟩) := by
  have hprintable : ∀ c ∈ terminated true s.toList, isPrintable c = true := by
    intro c hc
    rcases mem_terminated hc with rfl | hc
    · decide
    · exact Features.isAllowance_allowsBlock.isPrintable
        (fun _ _ _ h => Features.allowsBlock_ofChar h) hblock c hc
  have hne : s.toList ≠ [] := List.ne_nil_of_mem hline
  generalize hbody : blockBody (outer + 2) true (terminated true s.toList) ++
    (List.replicate k ' ' ++ tail) = body at hplace
  obtain ⟨m, hheader⟩ := header_hints place.mark (place.mark.right 1) s.toList body
  obtain ⟨l, r, hlead, hlines, hreads⟩ := @readLines_written (outer + 2) place.mark false [] []
    ((m.right 0).nextLine 1) _ (written_terminated true s.toList) hprintable k (by omega) tail htail
    rfl (.inl ⟨rfl, rfl⟩)
  rw [List.append_nil, List.append_nil] at hreads
  rw [hbody] at hlead hlines
  have hskip : place.skip 1 = ⟨place.mark.right 1, (hints s.toList).toList ++ '\n' :: body⟩ := by
    unfold Place.skip
    rw [hplace]
    rfl
  have hchomped := chomped_terminated hne hreads
  rw [String.ofList_toList] at hchomped
  have hnext : r.next = ⟨r.next.mark, tail⟩ := by
    rw [← hreads.rest]
  refine ⟨r.stop, r.next.mark, hreads.column, ?_⟩
  rw [← hnext, ← hchomped]
  rw [← hskip] at hheader
  cases htells : tellsIndent s.toList with
  | true =>
    rw [htells] at hheader
    exact blockText_of_parts hheader rfl rfl hlead rfl hlines
  | false =>
    rw [htells] at hheader
    obtain ⟨c, cs, hcs⟩ := List.exists_cons_of_ne_nil hne
    rw [hcs] at htells hprintable hbody
    obtain ⟨hspace, hbreak⟩ := Bool.or_eq_false_iff.mp htells
    have hblank : isSpace c = false :=
      isSpace_of_isPrintable (hprintable c List.mem_cons_self) (ne_of_beq_false hspace)
    rw [terminated, blockBody, if_neg (Bool.eq_false_iff.mp hbreak), if_pos rfl, List.append_assoc]
      at hbody
    rw [← hbody] at hlead
    have hfirst : ∀ given, given = 0 ∨ given = outer + 2 → _ := fun given hgiven =>
      @leadAt_first (outer + 2) place.mark (blockBody (outer + 2) false (terminated (isBreak c) cs) ++
        (List.replicate k ' ' ++ tail)) given hgiven ((m.right 0).nextLine 1) rfl c hbreak hblank
    obtain rfl := Except.ok.inj (hlead.symm.trans (hfirst _ (.inr rfl)))
    refine blockText_of_parts hheader rfl rfl ?_ ?_ hlines
    · rw [← hfirst 0 (.inl rfl)]
      show leadAt 0 place.mark ⟨(m.right 0).nextLine 1, body⟩ = _
      rw [← hbody]
      rfl
    · show max (max (outer + 2) (outer + 1)) 1 = outer + 2
      omega

end BundleInstaller.Yaml
