import BundleInstaller.Proofs.Blocks
import BundleInstaller.Yaml.Token.Lexer

/-!
# Reading the lines of a mapping

Between the lines of a mapping, and between a key and its value, no key is pending and no flow
collection is open: the lexer is then known by its place, its tokens and the blocks that are open
(`Lexer.settled`).  From one such lexer to the next one, a key, a value or the end of all blocks is
read, and `Tokens.read` goes on from there.

* `Tokens.read_key`: a key and its colon.
* `Tokens.read_value`: a value that was written on the lines behind a key.
* `Tokens.read_end`: the end of a text.
-/

namespace BundleInstaller.Yaml

/-! ## Blanks -/

namespace Lexer

variable {allowed : Bool} {m : Mark} {rest : List Char}

theorem skipBlanks_stop {c : Char} (hbreak : isBreak c = false) (hspace : isSpace c = false)
    (hcomment : c ≠ '#') (hmark : c ≠ '\ufeff') :
    skipBlanks false false allowed m (c :: rest) = (allowed, ⟨m, c :: rest⟩) := by
  obtain ⟨hsp, htab⟩ := Bool.or_eq_false_iff.mp hspace
  rw [skipBlanks]
  · rw [if_neg (Bool.eq_false_iff.mp hbreak), beq_false_of_ne hcomment, Bool.or_self,
      if_neg (by decide), hsp, htab, beq_false_of_ne hmark]
    rfl
  · rintro rest' rfl
    cases hbreak

theorem skipBlanks_space :
    skipBlanks false false allowed m (' ' :: rest) =
      skipBlanks false false allowed (m.right 1) rest := by
  rw [skipBlanks]
  · rfl
  · nofun

theorem skipBlanks_spaces (k : Nat) :
    skipBlanks false false allowed m (List.replicate k ' ' ++ rest) =
      skipBlanks false false allowed (m.right k) rest := by
  induction k generalizing m with
  | zero => rfl
  | succ k ih =>
    rw [List.replicate_succ, List.cons_append, skipBlanks_space, ih, Mark.right_right, Nat.add_comm]

theorem skipBlanks_startsWord (h : StartsWord rest) :
    skipBlanks false false allowed m rest = (allowed, ⟨m, rest⟩) := by
  cases rest with
  | nil => rfl
  | cons c rest =>
    obtain ⟨hbreak, hspace⟩ := not_blank_of_isAlpha h.cons
    exact skipBlanks_stop hbreak hspace (ne_of_isAlpha h.cons (by decide))
      (ne_of_isAlpha h.cons (by decide))

theorem length_skipBlanks_le (flow comment allowed : Bool) (m : Mark) (cs : List Char) :
    (skipBlanks flow comment allowed m cs).2.rest.length ≤ cs.length := by
  fun_induction skipBlanks flow comment allowed m cs
  case case1 ih => exact Nat.le_trans ih (Nat.le_add_right _ 2)
  case case2 ih => exact Nat.le_succ_of_le ih
  case case3 ih => exact Nat.le_succ_of_le ih
  case case4 ih => exact Nat.le_succ_of_le ih
  case case5 => exact Nat.le_refl _
  case case6 => exact Nat.le_refl _

/-- Only blanks stand between a place and the text `tail`, which goes on in a column where a key may
stand. -/
def Precedes (place : Place) (allowed : Bool) (column : Nat) (tail : List Char) : Prop :=
  ∃ m : Mark, m.column = column ∧
    skipBlanks false false allowed place.mark place.rest = (true, ⟨m, tail⟩)

theorem precedes_line {k : Nat} {tail : List Char} (htail : StartsWord tail) :
    Precedes ⟨m, '\n' :: (List.replicate k ' ' ++ tail)⟩ allowed k tail := by
  have hstep : skipBlanks false false allowed m ('\n' :: (List.replicate k ' ' ++ tail)) =
      skipBlanks false false true (m.nextLine 1) (List.replicate k ' ' ++ tail) := by
    rw [skipBlanks]
    · rw [if_pos (by decide), Bool.not_false, Bool.or_true]
    · nofun
  refine ⟨(m.nextLine 1).right k, Nat.zero_add k, ?_⟩
  show skipBlanks false false allowed m _ = _
  rw [hstep, skipBlanks_spaces, skipBlanks_startsWord htail]

theorem precedes_word {column : Nat} {tail : List Char} (hcolumn : m.column = column)
    (htail : StartsWord tail) : Precedes ⟨m, tail⟩ true column tail :=
  ⟨m, hcolumn, skipBlanks_startsWord htail⟩

/-! ## Settled lexers -/

/-- A lexer with no key pending, outside of flow collections. -/
def settled (place : Place) (tokens : List Token) (allowed : Bool) (indent : Int)
    (outer : List Int) : Lexer :=
  ⟨place, tokens, tokens.length, none, [], allowed, indent, outer⟩

variable {place : Place} {tokens : List Token} {indent : Int} {outer : List Int}

theorem closeBlocks_of_le {l : Lexer} {column : Int} (h : l.indent ≤ column) :
    l.closeBlocks column = l := by
  have hopen : openColumns column l.indent l.outerIndents = (0, l.indent, l.outerIndents) := by
    cases hcolumns : l.outerIndents with
    | nil => rfl
    | cons outer rest => rw [openColumns, if_neg (Int.not_lt.mpr h)]
  unfold closeBlocks
  split
  · rfl
  · rw [hopen]
    rfl

theorem next_of_takeToken {l l₁ l₂ l₃ l₄ : Lexer} {a : Bool} {p : Place}
    (hskip : skipBlanks l.inFlow false l.keyAllowed l.mark l.place.rest = (a, p))
    (hdrop : ({ l with keyAllowed := a, place := p } : Lexer).dropPastKeys = .ok l₁)
    (hclose : l₁.closeBlocks l₁.mark.column = l₂) (htake : l₂.takeToken = .ok l₃)
    (hpast : l₃.dropPastKeys = .ok l₄) : l.next none = .ok l₄ := by
  unfold next
  rw [hskip]
  dsimp only [bind, Except.bind]
  rw [hdrop]
  dsimp only
  rw [hclose, htake]
  exact hpast

/-! ## Plain scalars -/

theorem takeToken_plain {l : Lexer} {c : Char} {rest : List Char} (hrest : l.place.rest = c :: rest)
    (hflow : l.inFlow = false) (hindicator : Features.isIndicator none c rest = false)
    (hbreak : isBreak c = false) (hspace : isSpace c = false)
    (hmarker : l.place.atMarker = false) : l.takeToken = l.takePlain := by
  obtain ⟨hfirst, hsign⟩ := Bool.or_eq_false_iff.mp hindicator
  have hne : ∀ d, Features.isFirstIndicator d = true → (c == d) = false := by
    intro d hd
    refine beq_false_of_ne ?_
    rintro rfl
    rw [hd] at hfirst
    cases hfirst
  have hblank : ∀ d, (d == '?' || d == ':' || d == '-') = true →
      (c == d && startsBlank rest) = false := by
    intro d hd
    by_cases hc : c = d
    · subst hc
      rw [hd, Bool.true_and] at hsign
      rw [hsign, Bool.and_false]
    · rw [beq_false_of_ne hc, Bool.false_and]
  have hmarkers : ∀ d, d = '-' ∨ d = '.' →
      (l.mark.column == 0 && startsMarker d (c :: rest)) = false := by
    intro d hd
    unfold Place.atMarker at hmarker
    rw [hrest, Bool.and_or_distrib_left, Bool.or_eq_false_iff] at hmarker
    rcases hd with rfl | rfl
    · exact hmarker.1
    · exact hmarker.2
  have hstarts : startsPlain false c rest = true := by
    unfold startsPlain
    by_cases hdash : c = '-'
    · have hrest : startsBlank rest = false := by
        have h := hblank '-' (by decide)
        rwa [hdash, beq_self_eq_true, Bool.true_and] at h
      rw [if_pos (beq_iff_eq.mpr hdash)]
      cases rest with
      | nil => cases hrest
      | cons d rest =>
        show (!isSpace d) = true
        rw [(Bool.or_eq_false_iff.mp hrest).1]
        rfl
    rw [if_neg (mt beq_iff_eq.mp hdash)]
    by_cases hother : (c == '?' || c == ':') = true
    · rw [if_pos hother]
      rw [hother, Bool.true_or, Bool.true_and] at hsign
      rw [hsign]
      rfl
    · have hcontains : ",[]\x7b\x7d#&*!|>'\"%@`".toList.contains c = false := by
        refine Bool.eq_false_iff.mpr fun h => ?_
        have hall : ",[]\x7b\x7d#&*!|>'\"%@`".toList.all Features.isFirstIndicator = true := by
          decide
        rw [List.all_eq_true.mp hall c (List.contains_iff_mem.mp h)] at hfirst
        cases hfirst
      rw [if_neg hother, hspace, hbreak, hcontains]
      rfl
  unfold takeToken
  rw [hrest]
  dsimp only
  rw [hne '%' (by decide), hmarkers '-' (.inl rfl), hmarkers '.' (.inr rfl), hne '[' (by decide),
    hne '\x7b' (by decide), hne ']' (by decide), hne '\x7d' (by decide), hne ',' (by decide),
    hblank '-' (by decide), hflow, Bool.false_or, hblank '?' (by decide), hblank ':' (by decide),
    hne '*' (by decide), hne '&' (by decide), hne '!' (by decide), hne '|' (by decide),
    hne '>' (by decide), hne '\'' (by decide), hne '"' (by decide), hstarts]
  simp only [Bool.and_false, Bool.false_and, Bool.false_eq_true, if_false, if_true]

/-- A text that is written plain starts with a character that no other token starts with. -/
theorem plain_cons {s : String} (hplain : (Features.of s).allowsPlain = true) (hempty : s ≠ "") :
    ∃ c cs, s.toList = c :: cs ∧ isBreak c = false ∧ isSpace c = false ∧ c ≠ '#' ∧ c ≠ '\ufeff' ∧
      ∀ tail, Features.isIndicator none c (cs ++ tail) = false := by
  obtain ⟨c, cs, hcs⟩ := List.exists_cons_of_ne_nil (mt String.toList_eq_nil_iff.mp hempty)
  have hscan := hplain
  unfold Features.of at hscan
  rw [hcs] at hscan
  obtain ⟨hbreak, hindicator, hprintable, hblank⟩ :=
    Features.allowsPlain_ofChar (Features.isAllowance_allowsPlain.cons hscan).1
  have hspace : c ≠ ' ' := fun h => absurd (hblank h).1 (by decide)
  obtain ⟨hfirst, hsign⟩ := Bool.or_eq_false_iff.mp hindicator
  refine ⟨c, cs, hcs, hbreak, isSpace_of_isPrintable hprintable hspace, ?_, ?_, fun tail => ?_⟩
  · rintro rfl
    cases hfirst
  · rintro rfl
    cases hprintable
  · refine Bool.or_eq_false_iff.mpr ⟨hfirst, ?_⟩
    rcases Bool.and_eq_false_iff.mp hsign with hc | hcs
    · exact Bool.and_eq_false_iff.mpr (.inl hc)
    · exact Bool.and_eq_false_iff.mpr (.inr (Plain.startsBlank_append hcs tail))

theorem plain_text {s : String} (hplain : (Features.of s).allowsPlain = true) {m : Mark}
    {tail : List Char} (hmarker : Place.atMarker ⟨m, s.toList ++ tail⟩ = false) (indent : Nat) :
    Place.plain ⟨m, s.toList ++ tail⟩ false indent =
      Plain.read false indent m s.toList.reverse (m.right s.toList.length) .none
        (m.right s.toList.length) tail := by
  have h := @Plain.read_text indent m m m [] .none s.toList _ none hplain Gap.inLine_none
    (fun h => absurd rfl h) (fun _ => ⟨rfl, rfl⟩) tail hmarker
  rwa [Gap.addTo_none, List.append_nil] at h

theorem takePlain_of_plain {l l' : Lexer} {found : Plain} (hsave : l.saveKey = .ok l')
    (hfound : l'.place.plain l'.inFlow (l'.indent + 1).toNat = .ok found) :
    l.takePlain = .ok { l'.push (.scalar found.text .plain) l'.mark found.stop with
      keyAllowed := found.broken, place := found.next } := by
  unfold takePlain
  rw [hsave]
  dsimp only [bind, Except.bind]
  rw [hfound]
  rfl

/-! ## Keys -/

/-- A lexer that has read what may be a key, up to its colon. -/
def beforeColon (key : PendingKey) (place : Place) (tokens : List Token) (indent : Int)
    (outer : List Int) : Lexer :=
  { settled place tokens false indent outer with key := some key }

theorem takePlain_key {s : String} (hplain : (Features.of s).allowsPlain = true) {m : Mark}
    {rest : List Char} (hmarker : Place.atMarker ⟨m, s.toList ++ ':' :: rest⟩ = false)
    (hrest : startsBlank rest = true) :
    (settled ⟨m, s.toList ++ ':' :: rest⟩ tokens true indent outer).takePlain =
      .ok (beforeColon ⟨tokens.length, indent == m.column, m⟩
        ⟨m.right s.toList.length, ':' :: rest⟩
        (⟨.scalar s .plain, m, m.right s.toList.length⟩ :: tokens) indent outer) := by
  have hread := plain_text hplain hmarker (indent + 1).toNat
  rw [Plain.read_colon hrest, List.reverse_reverse, String.ofList_toList] at hread
  have hsave : (settled ⟨m, s.toList ++ ':' :: rest⟩ tokens true indent outer).saveKey =
      .ok { settled ⟨m, s.toList ++ ':' :: rest⟩ tokens true indent outer with
        key := some ⟨tokens.length, indent == m.column, m⟩ } := rfl
  exact takePlain_of_plain hsave hread

theorem dropPastKeys_beforeColon {key : PendingKey} (hline : key.mark.line = place.mark.line)
    (hindex : place.mark.index ≤ key.mark.index + keyLimit) :
    (beforeColon key place tokens indent outer).dropPastKeys =
      .ok (beforeColon key place tokens indent outer) := by
  have hpast : key.isPast place.mark = false := by
    unfold PendingKey.isPast
    rw [hline, decide_eq_false (Nat.lt_irrefl _), decide_eq_false (Nat.not_lt.mpr hindex)]
    rfl
  have hfind : [key].find? (fun k => k.required && k.isPast place.mark) = none := by
    rw [List.find?_cons_of_neg]
    · rfl
    · rw [hpast, Bool.and_false]
      decide
  unfold dropPastKeys
  rw [show (beforeColon key place tokens indent outer).pending.find?
    (fun k => k.required && k.isPast (beforeColon key place tokens indent outer).mark) = none
    from hfind]
  dsimp only
  rw [show (beforeColon key place tokens indent outer).key.filter
    (fun k => !k.isPast (beforeColon key place tokens indent outer).mark) = some key from
    Option.filter_some_pos (by
      show (!key.isPast place.mark) = true
      rw [hpast]
      rfl)]
  rfl

/-- The tokens of a key in a column and of its colon, the last first, where `start` and `stop` are
the marks around the key. -/
def keyTokens (tokens : List Token) (indent : Int) (column : Nat) (s : String) (start stop : Mark) :
    List Token :=
  ⟨.value, stop, stop.right 1⟩ :: ⟨.scalar s .plain, start, stop⟩ :: ⟨.key, start, start⟩ ::
    if indent < column then ⟨.blockMapping, start, start⟩ :: tokens else tokens

theorem insertAt_append {l : Lexer} {later rest : List Token} (htokens : l.tokens = later ++ rest)
    (hcount : l.count = later.length + rest.length) (token : Token) :
    l.insertAt rest.length token =
      { l with tokens := later ++ token :: rest, count := l.count + 1 } := by
  unfold insertAt
  dsimp only
  rw [htokens, hcount, Nat.add_sub_cancel, List.take_left, List.drop_left]

theorem openBlock_of_lt {l : Lexer} {column : Nat} (hflow : l.inFlow = false)
    (hindent : l.indent < column) {later rest : List Token} (htokens : l.tokens = later ++ rest)
    (hcount : l.count = later.length + rest.length) (kind : TokenKind) (mark : Mark) :
    l.openBlock column rest.length kind mark =
      { l with
        tokens := later ++ ⟨kind, mark, mark⟩ :: rest, count := l.count + 1
        indent := column, outerIndents := l.indent :: l.outerIndents } := by
  unfold openBlock
  rw [hflow, decide_eq_true hindent, if_pos (by decide)]
  exact @insertAt_append { l with indent := column, outerIndents := l.indent :: l.outerIndents }
    later rest htokens hcount _

theorem openBlock_of_not_lt {l : Lexer} {column : Nat} (hindent : ¬l.indent < column) (index : Nat)
    (kind : TokenKind) (mark : Mark) : l.openBlock column index kind mark = l := by
  unfold openBlock
  rw [decide_eq_false hindent, Bool.and_false, if_neg (by decide)]

/-- A colon makes the pending key a key, and opens a block if the key stands right of the block
around it. -/
theorem takeValue_beforeColon {key : PendingKey} (hindex : key.index = tokens.length)
    (hcolumn : indent ≤ key.mark.column) {stop : Mark} {rest : List Char} (s : String) :
    (beforeColon key ⟨stop, ':' :: rest⟩ (⟨.scalar s .plain, key.mark, stop⟩ :: tokens) indent
        outer).takeValue =
      .ok (settled ⟨stop.right 1, rest⟩
        (keyTokens tokens indent key.mark.column s key.mark stop) false key.mark.column
        (if indent < key.mark.column then indent :: outer else outer)) := by
  let scalar : Token := ⟨.scalar s .plain, key.mark, stop⟩
  let l := beforeColon key ⟨stop, ':' :: rest⟩ (scalar :: tokens) indent outer
  let l' := beforeColon key ⟨stop, ':' :: rest⟩ (scalar :: ⟨.key, key.mark, key.mark⟩ :: tokens)
    indent outer
  have htake : l.takeValue =
      .ok (Lexer.take { (l.insertAt key.index ⟨.key, key.mark, key.mark⟩).openBlock key.mark.column
        key.index .blockMapping key.mark with key := none, keyAllowed := false } .value 1) := rfl
  have hinsert : l.insertAt key.index ⟨.key, key.mark, key.mark⟩ = l' := by
    rw [hindex]
    exact @insertAt_append l [scalar] tokens rfl (Nat.add_comm _ _) _
  have hcount : l'.count = 2 + tokens.length := Nat.add_comm tokens.length 2
  show l.takeValue = _
  rw [htake, hinsert, hindex]
  unfold keyTokens
  by_cases hopens : indent < key.mark.column
  · rw [@openBlock_of_lt l' _ rfl hopens [scalar, ⟨.key, key.mark, key.mark⟩] tokens rfl hcount,
      if_pos hopens, if_pos hopens]
    rfl
  · have hsame : indent = key.mark.column := Int.le_antisymm hcolumn (Int.not_lt.mp hopens)
    rw [openBlock_of_not_lt hopens, if_neg hopens, if_neg hopens, ← hsame]
    rfl

theorem takeToken_colon {l : Lexer} {rest : List Char} (hrest : l.place.rest = ':' :: rest)
    (hcolumn : 0 < l.mark.column) (hflow : l.inFlow = false) (hblank : startsBlank rest = true) :
    l.takeToken = l.takeValue := by
  have hfirst : (l.mark.column == 0) = false := beq_false_of_ne (Nat.ne_of_gt hcolumn)
  unfold takeToken
  rw [hrest, hfirst, hflow]
  dsimp only
  rw [hblank]
  rfl

/-! ## Values -/

/-- The line `line` behind a key in column `i` is read as a scalar, and next comes the text `tail`,
in column `k`. -/
structure ReadsAs (i k : Nat) (tail line : List Char) (s : String) (style : ScalarStyle) :
    Prop where
  stops : ∀ allowed m, skipBlanks false false allowed m (line ++ (List.replicate k ' ' ++ tail)) =
    (allowed, ⟨m, line ++ (List.replicate k ' ' ++ tail)⟩)
  takes : ∀ (m : Mark) (tokens : List Token) (outer : List Int), 0 < m.column →
    ∃ place stop allowed, Precedes place allowed k tail ∧
      place.rest.length ≤ (line ++ (List.replicate k ' ' ++ tail)).length ∧
      (settled ⟨m, line ++ (List.replicate k ' ' ++ tail)⟩ tokens false i outer).takeToken =
        .ok (settled place (⟨.scalar s style, m, stop⟩ :: tokens) allowed i outer)

variable {i k : Nat} {tail : List Char} {s : String}

theorem readsAs_plain (hplain : (Features.of s).allowsPlain = true) (hempty : s ≠ "") (hk : k ≤ i)
    (htail : StartsWord tail) : ReadsAs i k tail (s.toList ++ ['\n']) s .plain := by
  obtain ⟨c, cs, hcs, hbreak, hspace, hcomment, hmark, hindicator⟩ := plain_cons hplain hempty
  have hline : s.toList ++ ['\n'] ++ (List.replicate k ' ' ++ tail) =
      s.toList ++ '\n' :: (List.replicate k ' ' ++ tail) := by
    rw [List.append_assoc]
    rfl
  have hfirst : s.toList ++ '\n' :: (List.replicate k ' ' ++ tail) =
      c :: (cs ++ '\n' :: (List.replicate k ' ' ++ tail)) := by
    rw [hcs]
    rfl
  refine ⟨fun allowed m => ?_, fun m tokens outer hcolumn => ?_⟩
  · rw [hline, hfirst]
    exact skipBlanks_stop hbreak hspace hcomment hmark
  · have hmarker := Place.atMarker_of_column hcolumn
      (s.toList ++ '\n' :: (List.replicate k ' ' ++ tail))
    obtain ⟨m', hm', hread⟩ := @Plain.read_lineEnd (i + 1) m (m.right s.toList.length)
      (m.right s.toList.length) s.toList.reverse k (Nat.lt_succ_of_le hk) tail htail
    rw [List.reverse_reverse, String.ofList_toList, ← plain_text hplain hmarker] at hread
    refine ⟨⟨m', tail⟩, m.right s.toList.length, true, precedes_word hm' htail, ?_, ?_⟩
    · simp only [List.length_append]
      omega
    · rw [hline, takeToken_plain hfirst rfl (hindicator _) hbreak hspace hmarker]
      exact @takePlain_of_plain (settled _ tokens false i outer) (settled _ tokens false i outer) _
        rfl hread

theorem takeQuoted_of_quoted {l l' : Lexer} {quote : Char} {style : ScalarStyle} {text : String}
    {next : Place} (hsave : l.saveKey = .ok l')
    (hquoted : l'.place.quoted quote = .ok (text, next)) :
    l.takeQuoted quote style = .ok { l'.push (.scalar text style) l'.mark next.mark with
      keyAllowed := false, place := next } := by
  unfold takeQuoted
  rw [hsave]
  dsimp only [bind, Except.bind]
  rw [hquoted]
  rfl

theorem takeBlockText_of_blockText {l l' : Lexer} {style : ScalarStyle} {text : String}
    {stop : Mark} {next : Place} (hdrop : l.dropKey = .ok l')
    (htext : l'.place.blockText (style == .literal) l'.indent = .ok (text, stop, next)) :
    l.takeBlockText style = .ok { l'.push (.scalar text style) l'.mark stop with
      keyAllowed := true, place := next } := by
  unfold takeBlockText
  rw [hdrop]
  dsimp only [bind, Except.bind]
  rw [htext]
  rfl

theorem takeToken_opening {l : Lexer} {rest : List Char} (hcolumn : 0 < l.mark.column)
    (hflow : l.inFlow = false) :
    (l.place.rest = '\'' :: rest → l.takeToken = l.takeQuoted '\'' .single) ∧
      (l.place.rest = '"' :: rest → l.takeToken = l.takeQuoted '"' .double) ∧
      (l.place.rest = '|' :: rest → l.takeToken = l.takeBlockText .literal) := by
  have hfirst : (l.mark.column == 0) = false := beq_false_of_ne (Nat.ne_of_gt hcolumn)
  refine ⟨fun hrest => ?_, fun hrest => ?_, fun hrest => ?_⟩
  all_goals
    unfold takeToken
    rw [hrest, hfirst, hflow]
    rfl

theorem readsAs_quoted {quote : Char} (hquote : quote = '\'' ∨ quote = '"') {style : ScalarStyle}
    (hstyle : ∀ (l : Lexer) (rest : List Char), 0 < l.mark.column → l.inFlow = false →
      l.place.rest = quote :: rest → l.takeToken = l.takeQuoted quote style)
    {body : List Char} (hbody : ∀ (since m : Mark) (rest : List Char), 0 < m.column →
      rest.head? ≠ some '\'' →
      ∃ m', readQuoted quote since [] .none m (body ++ quote :: rest) = .ok (s, ⟨m', rest⟩))
    (htail : StartsWord tail) :
    ReadsAs i k tail (quote :: (body ++ [quote, '\n'])) s style := by
  have hline : quote :: (body ++ [quote, '\n']) ++ (List.replicate k ' ' ++ tail) =
      quote :: (body ++ quote :: '\n' :: (List.replicate k ' ' ++ tail)) := by
    rw [List.cons_append, List.append_assoc]
    rfl
  refine ⟨fun allowed m => ?_, fun m tokens outer hcolumn => ?_⟩
  · rw [hline]
    rcases hquote with rfl | rfl
    · exact skipBlanks_stop (by decide) (by decide) (by decide) (by decide)
    · exact skipBlanks_stop (by decide) (by decide) (by decide) (by decide)
  · obtain ⟨m', hread⟩ := hbody m (m.right 1) ('\n' :: (List.replicate k ' ' ++ tail))
      (Nat.succ_pos _) (by
        show some '\n' ≠ some '\''
        decide)
    refine ⟨⟨m', '\n' :: (List.replicate k ' ' ++ tail)⟩, m', false, precedes_line htail, ?_, ?_⟩
    · simp only [List.length_append, List.length_cons]
      omega
    · let l := settled ⟨m, quote :: (body ++ quote :: '\n' :: (List.replicate k ' ' ++ tail))⟩
        tokens false i outer
      rw [hline]
      exact (hstyle l _ hcolumn rfl rfl).trans (@takeQuoted_of_quoted l l _ _ _ _ rfl hread)

/-- **The lines of a text are read as this text.** -/
theorem readsAs_lines (s : String) (hk : k ≤ i) (htail : StartsWord tail) :
    ∃ style, ReadsAs i k tail (Value.lines (i + 2) s) s style := by
  unfold Value.lines
  rcases styled s with ⟨h, hplain, hempty⟩ | ⟨h, hsingle, hline⟩ | h | ⟨h, hblock, hline⟩
  · rw [h]
    exact ⟨.plain, readsAs_plain hplain hempty hk htail⟩
  · rw [h]
    refine ⟨.single, readsAs_quoted (.inl rfl)
      (fun l rest hcolumn hflow => (takeToken_opening hcolumn hflow).1) ?_ htail⟩
    intro since m rest hcolumn hrest
    obtain ⟨m', hread⟩ := @readQuoted_single since m [] rest .none (i + 2) (Nat.succ_pos _) s.toList
      hline _ none hsingle Gap.follows_start (fun _ => hcolumn) hrest
    refine ⟨m', hread.trans ?_⟩
    show Except.ok (String.ofList s.toList, _) = _
    rw [String.ofList_toList]
  · rw [h]
    refine ⟨.double, readsAs_quoted (.inr rfl)
      (fun l rest hcolumn hflow => (takeToken_opening hcolumn hflow).2.1) ?_ htail⟩
    intro since m rest hcolumn hrest
    obtain ⟨m', hread⟩ := @readQuoted_double since m [] rest .none s.toList Gap.inLine_none hcolumn
      hrest
    refine ⟨m', hread.trans ?_⟩
    show Except.ok (String.ofList s.toList, _) = _
    rw [String.ofList_toList]
  · rw [h]
    have hfirst : '|' :: ((Value.hints s.toList).toList ++ '\n' ::
          Value.blockBody (i + 2) true (Value.terminated true s.toList)) ++
          (List.replicate k ' ' ++ tail) =
        '|' :: ((Value.hints s.toList).toList ++ '\n' ::
          (Value.blockBody (i + 2) true (Value.terminated true s.toList) ++
            (List.replicate k ' ' ++ tail))) := by
      rw [List.cons_append, List.append_assoc, List.cons_append]
    refine ⟨.literal, ⟨fun allowed m => ?_, fun m tokens outer hcolumn => ?_⟩⟩
    · exact skipBlanks_stop (by decide) (by decide) (by decide) (by decide)
    · dsimp only
      rw [hfirst]
      let l := settled ⟨m, '|' :: ((Value.hints s.toList).toList ++ '\n' ::
        (Value.blockBody (i + 2) true (Value.terminated true s.toList) ++
          (List.replicate k ' ' ++ tail)))⟩ tokens false i outer
      obtain ⟨stop, m', hm', hread⟩ :=
        @blockText_written s hblock hline l.place i k tail hk htail rfl
      refine ⟨⟨m', tail⟩, stop, true, precedes_word hm' htail, ?_, ?_⟩
      · simp only [List.length_append, List.length_cons]
        omega
      · exact ((@takeToken_opening l _ hcolumn rfl).2.2 rfl).trans
          (@takeBlockText_of_blockText l l _ _ _ _ rfl hread)

end Lexer

/-! ## Tokens -/

namespace Tokens

open Lexer

theorem read_of_next {l l' : Lexer} {token : Token} {tokens : List Token}
    (hnext : l.next none = .ok l') (htokens : l'.tokens = token :: tokens)
    (hkind : token.kind ≠ .streamEnd) (hlength : l'.place.rest.length < l.place.rest.length) :
    read none l = read none l' := by
  rw [read, hnext]
  dsimp only
  split
  · next heq =>
    rw [htokens] at heq
    cases heq
    exact absurd rfl hkind
  · rw [if_pos hlength]

variable {place : Place} {tokens : List Token} {allowed : Bool} {indent : Int} {outer : List Int}

/-- **A key and its colon are read.** -/
theorem read_key {s : String} (hplain : (Features.of s).allowsPlain = true) (hempty : s ≠ "")
    (hword : StartsWord s.toList) (hlength : s.toList.length ≤ keyLimit) {column : Nat}
    {rest : List Char} (hrest : startsBlank rest = true)
    (hplace : Precedes place allowed column (s.toList ++ ':' :: rest))
    (hcolumn : indent ≤ column) :
    ∃ start stop, column < stop.column ∧
      read none (settled place tokens allowed indent outer) =
        read none (settled ⟨stop.right 1, rest⟩ (keyTokens tokens indent column s start stop) false
          column (if indent < column then indent :: outer else outer)) := by
  obtain ⟨m, rfl, hskip⟩ := hplace
  obtain ⟨c, cs, hcs, hbreak, hspace, -, -, hindicator⟩ := plain_cons hplain hempty
  have halpha : c.isAlpha = true := by
    rw [hcs] at hword
    exact hword.cons
  have hfirst : s.toList ++ ':' :: rest = c :: (cs ++ ':' :: rest) := by
    rw [hcs]
    rfl
  have hpositive : 0 < s.toList.length := by
    rw [hcs]
    exact Nat.succ_pos _
  have hmarker : Place.atMarker ⟨m, s.toList ++ ':' :: rest⟩ = false := by
    rw [hfirst]
    exact Place.atMarker_of_head (ne_of_isAlpha halpha (by decide))
      (ne_of_isAlpha halpha (by decide)) m _
  have hright : 0 < (m.right s.toList.length).column :=
    Nat.lt_of_lt_of_le hpositive (Nat.le_add_left _ _)
  let key : PendingKey := ⟨tokens.length, indent == m.column, m⟩
  let scalar : Token := ⟨.scalar s .plain, m, m.right s.toList.length⟩
  let l : Lexer := settled ⟨m, s.toList ++ ':' :: rest⟩ tokens true indent outer
  let l' : Lexer := beforeColon key ⟨m.right s.toList.length, ':' :: rest⟩ (scalar :: tokens) indent
    outer
  have hdrop : l'.dropPastKeys = .ok l' :=
    dropPastKeys_beforeColon rfl (Nat.add_le_add_left hlength m.index)
  have hkey : (settled place tokens allowed indent outer).next none = .ok l' :=
    @next_of_takeToken _ l l _ _ _ _ hskip rfl (closeBlocks_of_le hcolumn)
      ((takeToken_plain hfirst rfl (hindicator _) hbreak hspace hmarker).trans
        (takePlain_key hplain hmarker hrest)) hdrop
  let l'' : Lexer := settled ⟨(m.right s.toList.length).right 1, rest⟩
    (keyTokens tokens indent m.column s m (m.right s.toList.length)) false m.column
    (if indent < m.column then indent :: outer else outer)
  have hcolon : l'.next none = .ok l'' :=
    @next_of_takeToken l' l' l' l'' l'' false ⟨m.right s.toList.length, ':' :: rest⟩
      (skipBlanks_stop (by decide) (by decide) (by decide) (by decide)) hdrop
      (closeBlocks_of_le (Int.le_trans hcolumn (Int.ofNat_le.mpr (Nat.le_add_right _ _))))
      ((@takeToken_colon l' _ rfl hright rfl hrest).trans
        (takeValue_beforeColon rfl hcolumn s)) rfl
  have hshorter : (':' :: rest).length < place.rest.length := by
    have hle := length_skipBlanks_le false false allowed place.mark place.rest
    rw [hskip, List.length_append] at hle
    omega
  refine ⟨m, m.right s.toList.length, Nat.lt_add_of_pos_right hpositive, ?_⟩
  rw [read_of_next hkey rfl nofun hshorter, read_of_next hcolon rfl nofun (Nat.lt_succ_self _)]

/-- **A value is read.** -/
theorem read_value {i k : Nat} {tail line : List Char} {s : String} {style : ScalarStyle}
    (hline : ReadsAs i k tail line s style) {m : Mark} (hcolumn : i < m.column) :
    ∃ place start stop allowed, Precedes place allowed k tail ∧
      read none
          (settled ⟨m, ' ' :: (line ++ (List.replicate k ' ' ++ tail))⟩ tokens false i outer) =
        read none (settled place (⟨.scalar s style, start, stop⟩ :: tokens) allowed i outer) := by
  obtain ⟨place, stop, allowed, hprecedes, hlength, htake⟩ :=
    hline.takes (m.right 1) tokens outer (Nat.succ_pos _)
  let l : Lexer := settled ⟨m.right 1, line ++ (List.replicate k ' ' ++ tail)⟩ tokens false i outer
  let l' : Lexer := settled place (⟨.scalar s style, m.right 1, stop⟩ :: tokens) allowed i outer
  have hnext : (settled ⟨m, ' ' :: (line ++ (List.replicate k ' ' ++ tail))⟩ tokens false i
      outer).next none = .ok l' :=
    @next_of_takeToken _ l l l' l' false ⟨m.right 1, line ++ (List.replicate k ' ' ++ tail)⟩
      (skipBlanks_space.trans (hline.stops false (m.right 1))) rfl
      (closeBlocks_of_le (Int.ofNat_le.mpr (Nat.le_succ_of_le (Nat.le_of_lt hcolumn)))) htake rfl
  exact ⟨place, m.right 1, stop, allowed, hprecedes, read_of_next hnext rfl nofun
    (Nat.lt_succ_of_le hlength)⟩

/-- **Where the text ends, all blocks are closed.** -/
theorem read_end (hplace : Precedes place allowed 0 []) :
    ∃ m, read none (settled place tokens allowed 2 [0, -1]) =
      ⟨(⟨.streamEnd, m, m⟩ :: ⟨.blockEnd, m, m⟩ :: ⟨.blockEnd, m, m⟩ :: tokens).reverse, none⟩ := by
  obtain ⟨⟨index, line, column⟩, hm, hskip⟩ := hplace
  obtain rfl : column = 0 := hm
  let m : Mark := ⟨index, line, 0⟩
  let l : Lexer := settled ⟨m, []⟩ tokens true 2 [0, -1]
  let l' : Lexer := settled ⟨m, []⟩ (⟨.blockEnd, m, m⟩ :: tokens) true 0 [-1]
  let l'' : Lexer := settled ⟨m, []⟩
    (⟨.streamEnd, m, m⟩ :: ⟨.blockEnd, m, m⟩ :: ⟨.blockEnd, m, m⟩ :: tokens) false (-1) []
  have hnext : (settled place tokens allowed 2 [0, -1]).next none = .ok l'' :=
    @next_of_takeToken _ l l' l'' l'' true ⟨m, []⟩ hskip rfl rfl rfl rfl
  refine ⟨m, ?_⟩
  rw [read, hnext]
  rfl

end Tokens

end BundleInstaller.Yaml
