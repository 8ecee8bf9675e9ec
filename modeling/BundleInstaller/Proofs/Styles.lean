import BundleInstaller.Yaml.Source
import BundleInstaller.Yaml.Token.Quoted
import BundleInstaller.Yaml.Value.Writing

/-!
# Texts as they are written

How a text is written goes by what it holds, and what it holds is found out in one pass.  The pass
only ever adds to what was found, so that a style that is allowed for a text is allowed for each of
its characters, taken with what stands around it.

A scalar is written on a page.  Whatever its style is, it ends its line, at once or as soon as
something else is written: `lines` is the text that it makes, up to there.

* `Features.IsAllowance.cons`: what is allowed for a text, at its first character and behind it.
* `Value.endsAt_writeText`: the lines of a text behind a colon.
* `Value.escaped_escapeChar`: how a character is written between double quotes.
* `Value.isAllowed_lines`: all characters of the lines may stand in a text.
-/

namespace BundleInstaller.Yaml

/-! ## What a text holds -/

namespace Features

/-- What one of two texts holds. -/
def or (f g : Features) : Features where
  multiline := f.multiline || g.multiline
  indicator := f.indicator || g.indicator
  special := f.special || g.special
  blankEnd := f.blankEnd || g.blankEnd
  spaceLast := f.spaceLast || g.spaceLast
  breakSpace := f.breakSpace || g.breakSpace
  spaceBreak := f.spaceBreak || g.spaceBreak

/-- What a character between `last` and `rest` holds. -/
def ofChar (last : Option Char) (c : Char) (rest : List Char) : Features where
  multiline := isBreak c
  indicator := isIndicator last c rest
  special := !isPrintable c
  blankEnd := (c == ' ' || isBreak c) && (last.isNone || rest.isEmpty)
  spaceLast := c == ' ' && rest.isEmpty
  breakSpace := c == ' ' && (last.map isBreak).getD false
  spaceBreak := isBreak c && last == some ' '

theorem scan_cons (f : Features) (last : Option Char) (c : Char) (rest : List Char) :
    scan f last (c :: rest) = scan (f.or (ofChar last c rest)) (some c) rest := rfl

/-- What is allowed for two texts together is allowed for each of them. -/
def IsAllowance (allows : Features → Bool) : Prop :=
  ∀ f g : Features, allows (f.or g) = (allows f && allows g)

theorem isAllowance_allowsPlain : IsAllowance allowsPlain := by
  intro f g
  simp only [allowsPlain, or, Bool.not_or]
  ac_rfl

theorem isAllowance_allowsSingle : IsAllowance allowsSingle := by
  intro f g
  simp only [allowsSingle, or, Bool.not_or]
  ac_rfl

theorem isAllowance_allowsBlock : IsAllowance allowsBlock := by
  intro f g
  simp only [allowsBlock, or, Bool.not_or]
  ac_rfl

variable {allows : Features → Bool} {f : Features} {last : Option Char} {c : Char} {rest : List Char}

theorem IsAllowance.of_scan (hallows : IsAllowance allows) {cs : List Char}
    (h : allows (scan f last cs) = true) : allows f = true := by
  induction cs generalizing f last with
  | nil => exact h
  | cons c cs ih =>
    rw [scan_cons] at h
    have hboth := ih h
    rw [hallows, Bool.and_eq_true] at hboth
    exact hboth.1

/-- **What is allowed for a text is allowed for its first character, and for what stands behind
it.** -/
theorem IsAllowance.cons (hallows : IsAllowance allows)
    (h : allows (scan f last (c :: rest)) = true) :
    allows (ofChar last c rest) = true ∧
      allows (scan (f.or (ofChar last c rest)) (some c) rest) = true := by
  rw [scan_cons] at h
  have hboth := hallows.of_scan h
  rw [hallows, Bool.and_eq_true] at hboth
  exact ⟨hboth.2, h⟩

theorem allowsPlain_ofChar (h : (ofChar last c rest).allowsPlain = true) :
    isBreak c = false ∧ isIndicator last c rest = false ∧ isPrintable c = true ∧
      (c = ' ' → last.isSome ∧ rest ≠ []) := by
  simp only [allowsPlain, ofChar, Bool.not_eq_true', Bool.or_eq_false_iff, Bool.and_eq_false_iff,
    Bool.not_eq_false'] at h
  obtain ⟨⟨⟨⟨⟨hbreak, hindicator⟩, hprintable⟩, hblank⟩, -⟩, -⟩ := h
  refine ⟨hbreak, hindicator, hprintable, ?_⟩
  rintro rfl
  rcases hblank with hblank | hblank
  · cases hblank.1
  · refine ⟨Option.isSome_iff_ne_none.mpr ?_, ?_⟩
    · rintro rfl
      cases hblank.1
    · rintro rfl
      cases hblank.2

theorem allowsSingle_ofChar (h : (ofChar last c rest).allowsSingle = true) :
    isPrintable c = true ∧ (c = ' ' → (last.map isBreak).getD false = false) ∧
      (isBreak c = true → last ≠ some ' ') := by
  simp only [allowsSingle, ofChar, Bool.not_eq_true', Bool.or_eq_false_iff, Bool.and_eq_false_iff,
    Bool.not_eq_false'] at h
  obtain ⟨⟨hprintable, hafter⟩, hbefore⟩ := h
  refine ⟨hprintable, ?_, ?_⟩
  · rintro rfl
    exact hafter.resolve_left (by decide)
  · intro hbreak hlast
    rw [hbreak, hlast] at hbefore
    rcases hbefore with hbefore | hbefore <;> cases hbefore

theorem allowsBlock_ofChar (h : (ofChar last c rest).allowsBlock = true) :
    isPrintable c = true := by
  simp only [allowsBlock, ofChar, Bool.not_eq_true', Bool.or_eq_false_iff,
    Bool.not_eq_false'] at h
  exact h.1.1

/-- Where no character that needs an escape is allowed, there is none. -/
theorem IsAllowance.isPrintable (hallows : IsAllowance allows)
    (hspecial : ∀ last c rest, allows (ofChar last c rest) = true → Yaml.isPrintable c = true)
    {cs : List Char} (h : allows (scan f last cs) = true) :
    ∀ c ∈ cs, Yaml.isPrintable c = true := by
  induction cs generalizing f last with
  | nil => exact fun c hc => absurd hc List.not_mem_nil
  | cons c cs ih =>
    obtain ⟨hfirst, hrest⟩ := hallows.cons h
    intro c' hc'
    rcases List.mem_cons.mp hc' with rfl | hc'
    · exact hspecial _ _ _ hfirst
    · exact ih hrest c' hc'

/-- A text that is written plain has no character that needs an escape. -/
theorem isPrintable_of_allowsPlain {s : String} (h : (of s).allowsPlain = true) :
    ∀ c ∈ s.toList, Yaml.isPrintable c = true :=
  isAllowance_allowsPlain.isPrintable (fun _ _ _ h => (allowsPlain_ofChar h).2.2.1) h

end Features

/-! ## Which style a text has -/

/-- The style of a text that is no key, with what is known where it is chosen. -/
inductive Styled (s : String) : Prop
  | plain (h : styleOf s false = .plain) (hplain : (Features.of s).allowsPlain = true)
      (hempty : s ≠ "")
  | single (h : styleOf s false = .single) (hsingle : (Features.of s).allowsSingle = true)
      (hline : '\n' ∉ s.toList)
  | double (h : styleOf s false = .double)
  | literal (h : styleOf s false = .literal) (hblock : (Features.of s).allowsBlock = true)
      (hline : '\n' ∈ s.toList)

theorem styled (s : String) : Styled s := by
  have hliteral : wishedStyle s = .literal → styleOf s false =
      if (Features.of s).allowsBlock && !s.isEmpty then .literal else .double := by
    intro h
    unfold styleOf
    rw [h]
    dsimp only
    rw [Bool.false_and, if_neg (by decide), Bool.not_false, Bool.and_true]
  have hsingle : wishedStyle s = .single → styleOf s false =
      if (Features.of s).allowsSingle then .single else .double := by
    intro h
    unfold styleOf
    rw [h]
    rfl
  have hplain : wishedStyle s = .plain → styleOf s false =
      if (Features.of s).allowsPlain then .plain
      else if (Features.of s).allowsSingle then .single else .double := by
    intro h
    unfold styleOf
    rw [h]
    rfl
  by_cases hline : '\n' ∈ s.toList
  · have hstyle := hliteral (if_pos (List.contains_iff_mem.mpr hline))
    by_cases hblock : ((Features.of s).allowsBlock && !s.isEmpty) = true
    · rw [if_pos hblock] at hstyle
      exact .literal hstyle (Bool.and_eq_true_iff.mp hblock).1 hline
    · rw [if_neg hblock] at hstyle
      exact .double hstyle
  · have hcontains : ¬s.toList.contains '\n' = true := mt List.contains_iff_mem.mp hline
    -- what is no plain text goes between quotes
    have hquotes : styleOf s false = (if (Features.of s).allowsSingle then .single else .double) →
        Styled s := by
      intro h
      by_cases hallows : (Features.of s).allowsSingle = true
      · rw [if_pos hallows] at h
        exact .single h hallows hline
      · rw [if_neg hallows] at h
        exact .double h
    by_cases hmeaning : (Meaning.of s != .text || Meaning.isPadded s.toList) = true
    · refine hquotes (hsingle ?_)
      unfold wishedStyle
      rw [if_neg hcontains, if_pos hmeaning]
    · have hwished : wishedStyle s = .plain := by
        unfold wishedStyle
        rw [if_neg hcontains, if_neg hmeaning]
      have hstyle := hplain hwished
      by_cases hallows : (Features.of s).allowsPlain = true
      · rw [if_pos hallows] at hstyle
        refine .plain hstyle hallows ?_
        rintro rfl
        exact hmeaning (by decide)
      · rw [if_neg hallows] at hstyle
        exact hquotes hstyle

/-! ## Pages -/

namespace Value
namespace Page

theorem toList_character (c : Char) : c.toString.toList = [c] := String.toList_singleton c

/-- A page that goes on with a new line, behind the text `t`: further text goes to a column that
only spaces precede. -/
def EndsAt (p : Page) (t : List Char) : Prop :=
  ∀ k, (p.indentTo k).text.toList = t ++ List.replicate k ' '

/-- A page at the beginning of a line. -/
def AtLine (p : Page) : Prop := p.column = 0 ∧ p.indenting = true

theorem toList_add (p : Page) (s : String) : (p.add s).text.toList = p.text.toList ++ s.toList :=
  String.toList_append

theorem toList_addBreak (p : Page) (c : Char) :
    (p.addBreak c).text.toList = p.text.toList ++ [c] := String.toList_push c

theorem toList_space {p : Page} (h : p.blank = false) :
    p.space.text.toList = p.text.toList ++ [' '] := by
  rw [space, h, if_neg (by decide), toList_add]
  rfl

theorem endsAt_of_not_indenting {p : Page} (h : p.indenting = false) :
    p.EndsAt (p.text.toList ++ ['\n']) := by
  have hindent : ∀ k, p.indentTo k = { p.endLine.add (String.ofList (List.replicate k ' ')) with
      blank := true, indenting := true } := by
    intro k
    unfold indentTo
    rw [h]
    rfl
  intro k
  rw [hindent]
  show (p.endLine.add _).text.toList = _
  rw [toList_add, String.toList_ofList]
  show (p.text ++ "\n").toList ++ _ = _
  rw [String.toList_append]
  rfl

theorem AtLine.indentTo {p : Page} (h : p.AtLine) {k : Nat} (hk : 0 < k ∨ p.blank = true) :
    p.indentTo k = { p.add (String.ofList (List.replicate k ' ')) with
      blank := true, indenting := true } := by
  have hempty : (!p.indenting || decide (k < p.column) || (p.column == k && !p.blank)) = false := by
    rw [h.1, h.2]
    rcases hk with hk | hk
    · rw [beq_false_of_ne (Nat.ne_of_lt hk)]
      rfl
    · rw [hk, Bool.not_true, Bool.and_false]
      rfl
  unfold Page.indentTo
  dsimp only
  rw [hempty, if_neg (by decide), h.1, Nat.sub_zero]

theorem AtLine.endsAt {p : Page} (h : p.AtLine) (hblank : p.blank = true) :
    p.EndsAt p.text.toList := by
  intro k
  rw [h.indentTo (.inr hblank)]
  show (p.add _).text.toList = _
  rw [toList_add, String.toList_ofList]

theorem endsAt_addWord (p : Page) (s : String) :
    (p.addWord s).EndsAt (p.text.toList ++ s.toList ++ ['\n']) := by
  have h : (p.addWord s).EndsAt _ := endsAt_of_not_indenting rfl
  rwa [show (p.addWord s).text.toList = p.text.toList ++ s.toList from toList_add p s] at h

theorem toList_indented {p : Page} {indent : Nat} (hindent : 0 < indent) {broken : Bool}
    (h : broken = true → p.AtLine) :
    (if broken then p.indentTo indent else p).text.toList =
      p.text.toList ++ if broken then List.replicate indent ' ' else [] := by
  cases broken with
  | false => exact (List.append_nil _).symm
  | true =>
    rw [if_pos rfl, if_pos rfl, (h rfl).indentTo (.inl hindent)]
    show (p.add _).text.toList = _
    rw [toList_add, String.toList_ofList]

end Page

/-! ## Lines of scalars -/

/-- What is written between single quotes; `broken` behind a line break. -/
def singleBody (indent : Nat) (broken : Bool) : List Char → List Char
  | [] => if broken then List.replicate indent ' ' else []
  | c :: rest =>
    if isBreak c then c :: singleBody indent true rest
    else if c == ' ' then ' ' :: singleBody indent broken rest
    else (if broken then List.replicate indent ' ' else []) ++
      ((if c == '\'' then ['\'', '\''] else [c]) ++ singleBody indent false rest)

/-- What is written below the header of a literal block; `broken` behind a line break. -/
def blockBody (indent : Nat) (broken : Bool) : List Char → List Char
  | [] => []
  | c :: rest =>
    if isBreak c then c :: blockBody indent true rest
    else (if broken then List.replicate indent ' ' else []) ++ c :: blockBody indent false rest

/-- A text whose last line is ended; `broken` behind a line break. -/
def terminated (broken : Bool) : List Char → List Char
  | [] => if broken then [] else ['\n']
  | c :: rest => c :: terminated (isBreak c) rest

/-- The lines of a text behind a colon. -/
def lines (indent : Nat) (s : String) : List Char :=
  match styleOf s false with
  | .plain => s.toList ++ ['\n']
  | .single => '\'' :: (singleBody indent false s.toList ++ ['\'', '\n'])
  | .double => '"' :: (s.toList.flatMap (fun c => (escapeChar c).toList) ++ ['"', '\n'])
  | _ => '|' :: ((hints s.toList).toList ++ '\n' :: blockBody indent true (terminated true s.toList))

variable {indent : Nat}

/-- The characters between single quotes.  A space behind a line break would be taken for
indentation, but then there are no single quotes. -/
theorem toList_addSingle (hindent : 0 < indent) {cs : List Char} (hline : '\n' ∉ cs)
    {f : Features} {last : Option Char} (hallows : (Features.scan f last cs).allowsSingle = true)
    {broken : Bool} (hbroken : broken = (last.map isBreak).getD false) {p : Page}
    (hp : broken = true → p.AtLine) :
    (addSingle indent p broken cs).text.toList = p.text.toList ++ singleBody indent broken cs := by
  induction cs generalizing f last broken p with
  | nil => exact Page.toList_indented hindent hp
  | cons c cs ih =>
    obtain ⟨hfirst, hrest⟩ := Features.isAllowance_allowsSingle.cons hallows
    obtain ⟨-, hspace, -⟩ := Features.allowsSingle_ofChar hfirst
    have hline' : '\n' ∉ cs := fun hmem => hline (List.mem_cons_of_mem _ hmem)
    have hc : (c == '\n') = false := beq_false_of_ne fun heq => hline (heq ▸ List.mem_cons_self)
    unfold addSingle singleBody
    by_cases hbreak : isBreak c = true
    · rw [if_pos hbreak, if_pos hbreak, hc, Bool.and_false, if_neg (by decide),
        ih hline' hrest hbreak.symm fun _ => ⟨rfl, rfl⟩]
      show (p.addBreak c).text.toList ++ _ = _
      rw [Page.toList_addBreak, List.append_assoc]
      rfl
    rw [if_neg hbreak, if_neg hbreak]
    have hunbroken : false = ((some c).map isBreak).getD false :=
      (eq_false_of_ne_true hbreak).symm
    by_cases hblank : (c == ' ') = true
    · have hfalse : broken = false := hbroken.trans (hspace (eq_of_beq hblank))
      subst hfalse
      rw [if_pos hblank, if_pos hblank, ih hline' hrest hunbroken nofun, Page.toList_add,
        List.append_assoc]
      rfl
    · rw [if_neg hblank, if_neg hblank, ih hline' hrest hunbroken nofun]
      show (Page.add _ _).text.toList ++ _ = _
      rw [Page.toList_add, Page.toList_indented hindent hp, List.append_assoc, List.append_assoc]
      congr 2
      by_cases hquote : (c == '\'') = true
      · rw [if_pos hquote, if_pos hquote]
        rfl
      · rw [if_neg hquote, if_neg hquote]
        exact congrArg (· ++ _) (Page.toList_character c)

theorem endsAt_addLines (hindent : 0 < indent) {cs : List Char} {broken : Bool} {p : Page}
    (hp : broken = true → p.AtLine) (hp' : broken = false → p.indenting = false)
    (hblank : p.blank = true) :
    (addLines indent p broken cs).EndsAt
      (p.text.toList ++ blockBody indent broken (terminated broken cs)) := by
  induction cs generalizing broken p with
  | nil =>
    cases broken with
    | false => exact Page.endsAt_of_not_indenting (hp' rfl)
    | true =>
      show p.EndsAt (p.text.toList ++ [])
      rw [List.append_nil]
      exact (hp rfl).endsAt hblank
  | cons c cs ih =>
    unfold addLines terminated blockBody
    by_cases hbreak : isBreak c = true
    · rw [if_pos hbreak, if_pos hbreak, hbreak]
      have h := @ih true { p.addBreak c with indenting := true } (fun _ => ⟨rfl, rfl⟩) nofun hblank
      rwa [show ({ p.addBreak c with indenting := true } : Page).text.toList =
        p.text.toList ++ [c] from Page.toList_addBreak p c, List.append_assoc] at h
    · rw [if_neg hbreak, if_neg hbreak, eq_false_of_ne_true hbreak]
      have hblank' : (if broken then p.indentTo indent else p).blank = true := by
        cases broken with
        | false => exact hblank
        | true => rfl
      have htext : (Page.add (if broken then p.indentTo indent else p) c.toString).text.toList =
          p.text.toList ++ ((if broken then List.replicate indent ' ' else []) ++ [c]) := by
        rw [Page.toList_add, Page.toList_indented hindent hp, List.append_assoc, Page.toList_character]
      have h := @ih false { Page.add (if broken then p.indentTo indent else p) c.toString with
        indenting := false } nofun (fun _ => rfl) hblank'
      rwa [show ({ Page.add (if broken then p.indentTo indent else p) c.toString with
          indenting := false } : Page).text.toList = _ from htext, List.append_assoc,
        List.append_assoc] at h

theorem toList_doubleQuoted (s : String) :
    (doubleQuoted s).toList = '"' :: (s.toList.flatMap (fun c => (escapeChar c).toList) ++ ['"']) := by
  unfold doubleQuoted
  rw [String.toList_append, String.toList_append, String.toList_join, List.flatMap_map]
  rfl

/-- **The lines of a text behind a colon.** -/
theorem endsAt_writeText (hindent : 0 < indent) {p : Page} (hp : p.blank = false) (s : String) :
    (writeText p indent false s).EndsAt (p.text.toList ++ ' ' :: lines indent s) := by
  have hspace : ∀ cs, p.text.toList ++ ' ' :: cs = p.space.text.toList ++ cs := by
    intro cs
    rw [Page.toList_space hp, List.append_assoc]
    rfl
  rw [hspace]
  unfold writeText lines
  rcases styled s with ⟨h, -, -⟩ | ⟨h, hsingle, hline⟩ | h | ⟨h, -, -⟩
  · rw [h]
    have hword := Page.endsAt_addWord p.space s
    rwa [List.append_assoc] at hword
  · rw [h]
    have hbody := @toList_addSingle indent hindent s.toList hline _ _ hsingle false rfl
      (p.space.addWord "'") nofun
    have hword := Page.endsAt_addWord (addSingle indent (p.space.addWord "'") false s.toList) "'"
    have hopening : (p.space.addWord "'").text.toList = p.space.text.toList ++ ['\''] :=
      Page.toList_add _ _
    rwa [hbody, hopening, List.append_assoc, List.append_assoc, List.append_assoc] at hword
  · rw [h]
    have hword := Page.endsAt_addWord p.space (doubleQuoted s)
    rwa [toList_doubleQuoted, List.append_assoc, List.cons_append, List.append_assoc] at hword
  · rw [h]
    have hbody := @endsAt_addLines indent hindent s.toList true
      { (p.space.addWord ("|" ++ hints s.toList)).endLine with blank := true, indenting := true }
      (fun _ => ⟨rfl, rfl⟩) nofun rfl
    have hheader : (p.space.addWord ("|" ++ hints s.toList)).endLine.text.toList =
        p.space.text.toList ++ ('|' :: ((hints s.toList).toList ++ ['\n'])) := by
      show ((p.space.add ("|" ++ hints s.toList)).text ++ "\n").toList = _
      rw [String.toList_append, Page.toList_add, String.toList_append, List.append_assoc,
        List.append_assoc]
      rfl
    rwa [show ({ (p.space.addWord ("|" ++ hints s.toList)).endLine with
        blank := true, indenting := true } : Page).text.toList = _ from hheader,
      List.append_assoc, List.cons_append, List.append_assoc] at hbody

/-! ## Escapes -/

/-- How a character is written between double quotes. -/
inductive Escaped (c : Char) : List Char → Prop
  | letter {e : Char} (h : Escape.ofLetter? e = some (.char c)) : Escaped c ['\\', e]
  | number {e : Char} {n : Nat} {digits : List Char} (h : Escape.ofLetter? e = some (.number n))
      (hlength : digits.length = n)
      (hdigits : Decimal.readNat? 16 digits = some c.toNat)
      (hallowed : ∀ d ∈ digits, isAllowed d.toNat = true) : Escaped c ('\\' :: e :: digits)
  | itself (hprintable : isPrintable c = true) (hbreak : isBreak c = false) (hquote : c ≠ '"')
      (hescape : c ≠ '\\') : Escaped c [c]

theorem hexDigits_two : ∀ n < 256,
    (hexDigits 2 n).toList.length = 2 ∧ Decimal.readNat? 16 (hexDigits 2 n).toList = some n ∧
      (hexDigits 2 n).toList.all (fun d => isAllowed d.toNat) = true := by
  decide +kernel

theorem hexDigits_four : ∀ n ∈ [0xFEFF, 0xFFFE, 0xFFFF],
    (hexDigits 4 n).toList.length = 4 ∧ Decimal.readNat? 16 (hexDigits 4 n).toList = some n ∧
      (hexDigits 4 n).toList.all (fun d => isAllowed d.toNat) = true := by
  decide +kernel

/-- A character that needs an escape has a small number, or is one of three. -/
theorem toNat_of_not_isPrintable {c : Char} (h : ¬isPrintable c = true) :
    c.toNat < 256 ∨ c.toNat ∈ [0xFEFF, 0xFFFE, 0xFFFF] := by
  simp only [isPrintable, Bool.or_eq_true, Bool.and_eq_true, beq_iff_eq, bne_iff_ne,
    decide_eq_true_eq] at h
  simp only [List.mem_cons, List.not_mem_nil, or_false]
  omega

theorem escaped_escapeChar (c : Char) : Escaped c (escapeChar c).toList := by
  unfold escapeChar
  split
  case h_15 h₁ h₂ h₃ h₄ h₅ h₆ h₇ h₈ h₉ h₁₀ h₁₁ h₁₂ h₁₃ h₁₄ =>
    by_cases hprintable : isPrintable c = true
    · rw [if_pos hprintable, Page.toList_character]
      refine .itself hprintable ?_ h₁₀ h₁₁
      simp only [isBreak, Bool.or_eq_false_iff, beq_eq_false_iff_ne]
      exact ⟨⟨⟨⟨h₅, h₈⟩, h₁₂⟩, h₁₃⟩, h₁₄⟩
    rw [if_neg hprintable]
    by_cases hsmall : c.toNat ≤ 0xFF
    · obtain ⟨hlength, hdigits, hallowed⟩ := hexDigits_two c.toNat (Nat.lt_succ_of_le hsmall)
      rw [if_pos hsmall, String.toList_append]
      exact .number rfl hlength hdigits (List.all_eq_true.mp hallowed)
    · have hmem := (toNat_of_not_isPrintable hprintable).resolve_left
        (mt Nat.le_of_lt_succ hsmall)
      obtain ⟨hlength, hdigits, hallowed⟩ := hexDigits_four c.toNat hmem
      have hle : ∀ n ∈ [0xFEFF, 0xFFFE, 0xFFFF], n ≤ 0xFFFF := by decide
      rw [if_neg hsmall, if_pos (hle _ hmem), String.toList_append]
      exact .number rfl hlength hdigits (List.all_eq_true.mp hallowed)
  all_goals exact .letter rfl

/-! ## What may stand in a text -/

theorem isAllowed_of_isPrintable {c : Char} (h : isPrintable c = true) :
    isAllowed c.toNat = true := by
  have hvalid : c.toNat < 0xD800 ∨ 0xDFFF < c.toNat ∧ c.toNat < 0x110000 := c.valid
  simp only [isPrintable, Bool.or_eq_true, Bool.and_eq_true, beq_iff_eq, bne_iff_ne,
    decide_eq_true_eq] at h
  simp only [isAllowed, Bool.or_eq_true, Bool.and_eq_true, beq_iff_eq, decide_eq_true_eq]
  omega

theorem Escaped.isAllowed {c : Char} {cs : List Char} (h : Escaped c cs) :
    ∀ d ∈ cs, Yaml.isAllowed d.toNat = true := by
  have hletter : ∀ e, (Escape.ofLetter? e).isSome = true → Yaml.isAllowed e.toNat = true := by
    intro e he
    unfold Escape.ofLetter? at he
    split at he
    case h_22 => cases he
    all_goals decide
  cases h with
  | letter h =>
    intro d hd
    rcases List.mem_cons.mp hd with rfl | hd
    · decide
    · rw [List.mem_singleton.mp hd]
      exact hletter _ (Option.isSome_of_mem h)
  | number h hlength hdigits hallowed =>
    intro d hd
    rcases List.mem_cons.mp hd with rfl | hd
    · decide
    rcases List.mem_cons.mp hd with rfl | hd
    · exact hletter _ (Option.isSome_of_mem h)
    · exact hallowed d hd
  | itself hprintable =>
    intro d hd
    rw [List.mem_singleton.mp hd]
    exact isAllowed_of_isPrintable hprintable

theorem mem_singleBody {c : Char} {cs : List Char} {broken : Bool}
    (h : c ∈ singleBody indent broken cs) : c = ' ' ∨ c = '\'' ∨ c ∈ cs := by
  have hindented : ∀ b : Bool, c ∈ (if b then List.replicate indent ' ' else []) → c = ' ' := by
    intro b hmem
    cases b with
    | false => exact absurd hmem List.not_mem_nil
    | true => exact List.eq_of_mem_replicate hmem
  induction cs generalizing broken with
  | nil => exact .inl (hindented broken h)
  | cons d cs ih =>
    have hrest : ∀ b, c ∈ singleBody indent b cs → c = ' ' ∨ c = '\'' ∨ c ∈ d :: cs := fun b h =>
      (ih h).imp_right (Or.imp_right (List.mem_cons_of_mem d))
    unfold singleBody at h
    split at h
    · rcases List.mem_cons.mp h with rfl | h
      · exact .inr (.inr List.mem_cons_self)
      · exact hrest _ h
    split at h
    · rcases List.mem_cons.mp h with rfl | h
      · exact .inl rfl
      · exact hrest _ h
    rcases List.mem_append.mp h with h | h
    · exact .inl (hindented broken h)
    rcases List.mem_append.mp h with h | h
    · split at h
      · simp only [List.mem_cons, List.not_mem_nil, or_false, or_self] at h
        exact .inr (.inl h)
      · rw [List.mem_singleton.mp h]
        exact .inr (.inr List.mem_cons_self)
    · exact hrest _ h

theorem mem_blockBody {c : Char} {cs : List Char} {broken : Bool}
    (h : c ∈ blockBody indent broken cs) : c = ' ' ∨ c ∈ cs := by
  induction cs generalizing broken with
  | nil => exact absurd h List.not_mem_nil
  | cons d cs ih =>
    have hrest : ∀ b, c ∈ d :: blockBody indent b cs → c = ' ' ∨ c ∈ d :: cs := by
      intro b h
      rcases List.mem_cons.mp h with rfl | h
      · exact .inr List.mem_cons_self
      · exact (ih h).imp_right (List.mem_cons_of_mem d)
    unfold blockBody at h
    split at h
    · exact hrest _ h
    rcases List.mem_append.mp h with h | h
    · split at h
      · exact .inl (List.eq_of_mem_replicate h)
      · exact absurd h List.not_mem_nil
    · exact hrest _ h

theorem mem_terminated {c : Char} {cs : List Char} {broken : Bool}
    (h : c ∈ terminated broken cs) : c = '\n' ∨ c ∈ cs := by
  induction cs generalizing broken with
  | nil =>
    unfold terminated at h
    split at h
    · exact absurd h List.not_mem_nil
    · exact .inl (List.mem_singleton.mp h)
  | cons d cs ih =>
    rcases List.mem_cons.mp h with rfl | h
    · exact .inr List.mem_cons_self
    · exact (ih h).imp_right (List.mem_cons_of_mem d)

theorem hints_mem (cs : List Char) : hints cs ∈ ["-", "+", "", "2-", "2+", "2"] := by
  unfold hints
  dsimp only
  split <;> split <;> (repeat' split) <;> decide

/-- **All characters of the lines may stand in a text.** -/
theorem isAllowed_lines (s : String) : ∀ c ∈ lines indent s, isAllowed c.toNat = true := by
  have hspace : isAllowed ' '.toNat = true := by decide
  have hbreak : isAllowed '\n'.toNat = true := by decide
  have hquote : isAllowed '\''.toNat = true := by decide
  unfold lines
  rcases styled s with ⟨h, hplain, -⟩ | ⟨h, hsingle, -⟩ | h | ⟨h, hblock, -⟩
  · rw [h]
    intro c hc
    rcases List.mem_append.mp hc with hc | hc
    · exact isAllowed_of_isPrintable (Features.isPrintable_of_allowsPlain hplain c hc)
    · rw [List.mem_singleton.mp hc]
      exact hbreak
  · have hprintable := Features.isAllowance_allowsSingle.isPrintable
      (fun _ _ _ h => (Features.allowsSingle_ofChar h).1) hsingle
    have hclosing : ['\'', '\n'].all (fun c => isAllowed c.toNat) = true := by decide
    rw [h]
    intro c hc
    rcases List.mem_cons.mp hc with rfl | hc
    · exact hquote
    rcases List.mem_append.mp hc with hc | hc
    · rcases mem_singleBody hc with rfl | rfl | hc
      · exact hspace
      · exact hquote
      · exact isAllowed_of_isPrintable (hprintable c hc)
    · exact List.all_eq_true.mp hclosing c hc
  · have hclosing : ['"', '\n'].all (fun c => isAllowed c.toNat) = true := by decide
    rw [h]
    intro c hc
    rcases List.mem_cons.mp hc with rfl | hc
    · decide
    rcases List.mem_append.mp hc with hc | hc
    · obtain ⟨d, -, hd⟩ := List.mem_flatMap.mp hc
      exact (escaped_escapeChar d).isAllowed c hd
    · exact List.all_eq_true.mp hclosing c hc
  · have hprintable := Features.isAllowance_allowsBlock.isPrintable
      (fun _ _ _ h => Features.allowsBlock_ofChar h) hblock
    have hhints : ∀ t ∈ ["-", "+", "", "2-", "2+", "2"],
        t.toList.all (fun c => isAllowed c.toNat) = true := by decide
    rw [h]
    intro c hc
    rcases List.mem_cons.mp hc with rfl | hc
    · decide
    rcases List.mem_append.mp hc with hc | hc
    · exact List.all_eq_true.mp (hhints _ (hints_mem s.toList)) c hc
    rcases List.mem_cons.mp hc with rfl | hc
    · exact hbreak
    rcases mem_blockBody hc with rfl | hc
    · exact hspace
    rcases mem_terminated hc with rfl | hc
    · exact hbreak
    · exact isAllowed_of_isPrintable (hprintable c hc)

end Value
end BundleInstaller.Yaml
