import BundleInstaller.Config
import BundleInstaller.Proofs.Lexing

/-!
# Configurations as text

A configuration is written as one mapping with another one in it: an entry is a key with its colon,
and its value behind it, on one line or more.  Its text is read as the tokens of the same entries,
in the same order; only their places and the styles of their scalars depend on the texts
(`Config.Spots`).

* `Config.toYaml_eq`: the text of a configuration.
* `Config.tokens_layout`: its tokens.
-/

namespace BundleInstaller

open Yaml

/-! ## Entries on a page -/

namespace Yaml

/-- A word that is written plain in front of its colon, and is read as a key there. -/
structure IsKey (k : String) : Prop where
  style : styleOf k true = .plain
  simple : Value.isSimpleKey (.text k) = true
  plain : (Features.of k).allowsPlain = true
  length : k.toList.length ≤ keyLimit
  word : ∃ c cs, k.toList = c :: cs ∧ c.isAlpha = true

namespace IsKey

variable {k : String}

theorem ne_empty (hk : IsKey k) : k ≠ "" := by
  obtain ⟨c, cs, hcs, -⟩ := hk.word
  rintro rfl
  cases hcs

theorem startsWord (hk : IsKey k) (rest : List Char) : StartsWord (k.toList ++ rest) := by
  obtain ⟨c, cs, hcs, hc⟩ := hk.word
  rw [hcs]
  rintro d ⟨⟩
  exact hc

end IsKey

namespace Value

variable {indent : Nat} {p : Page} {t line : List Char} {k : String}

def entry (indent : Nat) (k : String) (line : List Char) : List Char :=
  List.replicate indent ' ' ++ (k.toList ++ ':' :: line)

theorem append_entry (t line rest : List Char) :
    t ++ entry indent k line ++ rest = t ++ entry indent k (line ++ rest) := by
  unfold entry
  simp only [List.append_assoc, List.cons_append]

theorem isAllowed_entry (hk : IsKey k) (hline : ∀ c ∈ line, isAllowed c.toNat = true) :
    ∀ c ∈ entry indent k line, isAllowed c.toNat = true := by
  have hspace : isAllowed ' '.toNat = true := by decide
  have hcolon : isAllowed ':'.toNat = true := by decide
  intro c hc
  rcases List.mem_append.mp hc with hc | hc
  · rw [List.eq_of_mem_replicate hc]
    exact hspace
  rcases List.mem_append.mp hc with hc | hc
  · exact isAllowed_of_isPrintable (Features.isPrintable_of_allowsPlain hk.plain c hc)
  rcases List.mem_cons.mp hc with rfl | hc
  · exact hcolon
  · exact hline c hc

/-- The page behind a key and its colon. -/
def Page.afterKey (p : Page) (indent : Nat) (k : String) : Page :=
  ((p.indentTo indent).addWord k).addMark ":" false

theorem Page.EndsAt.afterKey (hp : p.EndsAt t) :
    (p.afterKey indent k).text.toList = t ++ entry indent k [] := by
  show (Page.add ((p.indentTo indent).add k) ":").text.toList = _
  rw [Page.toList_add, Page.toList_add, hp indent, List.append_assoc, List.append_assoc]
  rfl

theorem writeNode_mapping (outer : Option Nat) (inMapping asKey : Bool) (p : Page)
    (e : Value × Value) (rest : List (Value × Value)) :
    writeNode outer inMapping asKey p (.mapping (e :: rest)) =
      writeEntries (deeper outer) p (e :: rest) := by
  rw [writeNode]
  exact List.cons_ne_nil e rest

theorem writeEntries_cons (hk : IsKey k) (v : Value) (rest : List (Value × Value)) :
    writeEntries indent p ((.text k, v) :: rest) =
      writeEntries indent (writeNode (some indent) true false (p.afterKey indent k) v) rest := by
  have hkey : writeNode (some indent) true true (p.indentTo indent) (.text k) =
      (p.indentTo indent).addWord k := by
    rw [writeNode, writeText, hk.style]
    rfl
  rw [writeEntries, if_pos hk.simple, hkey]
  rfl

theorem endsAt_text (k : String) (hp : p.EndsAt t) (s : String) :
    (writeNode (some indent) true false (p.afterKey indent k) (.text s)).EndsAt
      (t ++ entry indent k (' ' :: lines (indent + 2) s)) := by
  have h := @endsAt_writeText (indent + 2) (Nat.succ_pos _) (p.afterKey indent k) rfl s
  rw [hp.afterKey, append_entry] at h
  rwa [writeNode]

theorem endsAt_bool (k : String) (hp : p.EndsAt t) (b : Bool) :
    (writeNode (some indent) true false (p.afterKey indent k) (.bool b)).EndsAt
      (t ++ entry indent k (' ' :: ((toString b).toList ++ ['\n']))) := by
  have h := Page.endsAt_addWord (p.afterKey indent k).space (toString b)
  rw [Page.toList_space rfl, hp.afterKey, append_entry, append_entry, append_entry] at h
  rwa [writeNode]

theorem endsAt_afterKey (k : String) (hp : p.EndsAt t) :
    (p.afterKey indent k).EndsAt (t ++ entry indent k ['\n']) := by
  have h := @Page.endsAt_of_not_indenting (p.afterKey indent k)
    (Bool.and_false (p.indentTo indent).indenting)
  rwa [hp.afterKey, append_entry] at h

end Value
end Yaml

/-! ## The text of a configuration -/

namespace Config

open Yaml.Value

/-- The text of a configuration. -/
def layout (c : Config) : List Char :=
  entry 0 "fetchTimeout" (' ' :: lines 2 c.fetchTimeout.text) ++
  (entry 0 "retryInterval" (' ' :: lines 2 c.retryInterval.text) ++
  (entry 0 "overlay" ['\n'] ++
  (entry 2 "kustomizeBinary" (' ' :: lines 4 c.overlay.kustomizeBinary) ++
  (entry 2 "postPath" (' ' :: lines 4 c.overlay.postPath) ++
  entry 2 "tolerateExisting" (' ' :: ((toString c.overlay.tolerateExisting).toList ++ ['\n']))))))

theorem isKey_fetchTimeout : IsKey "fetchTimeout" :=
  ⟨by decide, by decide, by decide, by decide, 'f', _, rfl, rfl⟩

theorem isKey_retryInterval : IsKey "retryInterval" :=
  ⟨by decide, by decide, by decide, by decide, 'r', _, rfl, rfl⟩

theorem isKey_overlay : IsKey "overlay" :=
  ⟨by decide, by decide, by decide, by decide, 'o', _, rfl, rfl⟩

theorem isKey_kustomizeBinary : IsKey "kustomizeBinary" :=
  ⟨by decide, by decide, by decide, by decide, 'k', _, rfl, rfl⟩

theorem isKey_postPath : IsKey "postPath" :=
  ⟨by decide, by decide, by decide, by decide, 'p', _, rfl, rfl⟩

theorem isKey_tolerateExisting : IsKey "tolerateExisting" :=
  ⟨by decide, by decide, by decide, by decide, 't', _, rfl, rfl⟩

/-- **The text of a configuration.** -/
theorem toYaml_eq (c : Config) : c.toYaml = .ok (String.ofList c.layout) := by
  have hempty : Page.empty.EndsAt [] := Page.AtLine.endsAt ⟨rfl, rfl⟩ rfl
  have hend : (writeNode none false false .empty c.toValue).EndsAt c.layout := by
    have hfetch := @endsAt_text 0 _ _ "fetchTimeout" hempty c.fetchTimeout.text
    have hretry := @endsAt_text 0 _ _ "retryInterval" hfetch c.retryInterval.text
    have hoverlay := @endsAt_afterKey 0 _ _ "overlay" hretry
    have hbinary := @endsAt_text 2 _ _ "kustomizeBinary" hoverlay c.overlay.kustomizeBinary
    have hpath := @endsAt_text 2 _ _ "postPath" hbinary c.overlay.postPath
    have hpolicy := @endsAt_bool 2 _ _ "tolerateExisting" hpath c.overlay.tolerateExisting
    unfold toValue OverlayConfig.toValue
    rw [writeNode_mapping, writeEntries_cons isKey_fetchTimeout,
      writeEntries_cons isKey_retryInterval, writeEntries_cons isKey_overlay, writeEntries,
      writeNode_mapping, writeEntries_cons isKey_kustomizeBinary, writeEntries_cons isKey_postPath,
      writeEntries_cons isKey_tolerateExisting, writeEntries]
    simp only [List.append_assoc, List.nil_append] at hpolicy
    exact hpolicy
  have htext : ((writeNode none false false .empty c.toValue).indentTo 0).text =
      String.ofList c.layout := by
    have h := congrArg String.ofList (hend 0)
    rwa [String.ofList_toList, List.replicate_zero, List.append_nil] at h
  unfold toYaml write
  rw [show bracketFault [] (c.toValue.brackets false) = none from rfl]
  exact congrArg Except.ok htext

theorem isAllowed_layout (c : Config) : ∀ ch ∈ c.layout, isAllowed ch.toNat = true := by
  have htext : ∀ indent s, ∀ ch ∈ ' ' :: lines indent s, isAllowed ch.toNat = true := by
    intro indent s ch hch
    rcases List.mem_cons.mp hch with rfl | hch
    · decide
    · exact isAllowed_lines s ch hch
  have hbreak : ['\n'].all (fun ch => isAllowed ch.toNat) = true := by decide
  have hpolicy : (' ' :: ((toString c.overlay.tolerateExisting).toList ++ ['\n'])).all
      (fun ch => isAllowed ch.toNat) = true := by
    cases c.overlay.tolerateExisting with
    | true => decide
    | false => decide
  unfold layout
  simp only [List.forall_mem_append]
  exact ⟨isAllowed_entry isKey_fetchTimeout (htext 2 _),
    isAllowed_entry isKey_retryInterval (htext 2 _),
    isAllowed_entry isKey_overlay (List.all_eq_true.mp hbreak),
    isAllowed_entry isKey_kustomizeBinary (htext 4 _),
    isAllowed_entry isKey_postPath (htext 4 _),
    isAllowed_entry isKey_tolerateExisting (List.all_eq_true.mp hpolicy)⟩

end Config

/-! ## The tokens of an entry -/

namespace Yaml

/-- Where the parts of an entry stand, and how its value is written. -/
structure Spot where
  key : Mark
  colon : Mark
  value : Mark
  stop : Mark
  style : ScalarStyle

def tokensOfKey (k : String) (e : Spot) : List Token :=
  [⟨.key, e.key, e.key⟩, ⟨.scalar k .plain, e.key, e.colon⟩, ⟨.value, e.colon, e.colon.right 1⟩]

/-- The tokens of an entry whose value is a scalar. -/
def tokensOfEntry (k s : String) (e : Spot) : List Token :=
  tokensOfKey k e ++ [⟨.scalar s e.style, e.value, e.stop⟩]

/-- The text from an entry on, without the blanks in front of it, where `rest` follows in column
`next`. -/
def fromEntry (k : String) (line : List Char) (next : Nat) (rest : List Char) : List Char :=
  k.toList ++ ':' :: ' ' :: (line ++ (List.replicate next ' ' ++ rest))

namespace Tokens

open Lexer

variable {place : Place} {tokens : List Token} {allowed : Bool} {indent : Int} {outer : List Int}
variable {column next : Nat} {k s : String} {line tail : List Char} {style : ScalarStyle}

theorem read_isKey (hk : IsKey k) {rest : List Char} (hrest : startsBlank rest = true)
    (hplace : Precedes place allowed column (k.toList ++ ':' :: rest)) (hcolumn : indent ≤ column) :
    ∃ start stop, column < stop.column ∧
      read none (settled place tokens allowed indent outer) =
        read none (settled ⟨stop.right 1, rest⟩ (keyTokens tokens indent column k start stop) false
          column (if indent < column then indent :: outer else outer)) := by
  have hword := hk.startsWord []
  rw [List.append_nil] at hword
  exact read_key hk.plain hk.ne_empty hword hk.length hrest hplace hcolumn

/-- **An entry is read.** -/
theorem read_entry (hk : IsKey k) (hline : ReadsAs column next tail line s style)
    (hplace : Precedes place allowed column (fromEntry k line next tail))
    (hcolumn : indent ≤ column) :
    ∃ e place' allowed', e.style = style ∧ Precedes place' allowed' next tail ∧
      read none (settled place tokens allowed indent outer) =
        read none (settled place' ((tokensOfEntry k s e).reverse ++
            if indent < column then ⟨.blockMapping, e.key, e.key⟩ :: tokens else tokens) allowed'
          column (if indent < column then indent :: outer else outer)) := by
  obtain ⟨key, colon, hcolon, hkey⟩ := @read_isKey place tokens allowed indent outer column k hk
    _ rfl hplace hcolumn
  obtain ⟨place', value, stop, allowed', hprecedes, hvalue⟩ := @read_value
    (keyTokens tokens indent column k key colon) _ column next tail line s style hline
    (colon.right 1) (Nat.lt_succ_of_lt hcolon)
  exact ⟨⟨key, colon, value, stop, style⟩, place', allowed', rfl, hprecedes, hkey.trans hvalue⟩

theorem read_firstEntry (hk : IsKey k) (hline : ReadsAs column next tail line s style)
    (hplace : Precedes place allowed column (fromEntry k line next tail))
    (hcolumn : indent < column) :
    ∃ e place' allowed', Precedes place' allowed' next tail ∧
      read none (settled place tokens allowed indent outer) =
        read none (settled place' ((tokensOfEntry k s e).reverse ++
          ⟨.blockMapping, e.key, e.key⟩ :: tokens) allowed' column (indent :: outer)) := by
  obtain ⟨e, place', allowed', -, hprecedes, hread⟩ := @read_entry place tokens allowed indent
    outer column next k s line tail style hk hline hplace (Int.le_of_lt hcolumn)
  rw [if_pos hcolumn, if_pos hcolumn] at hread
  exact ⟨e, place', allowed', hprecedes, hread⟩

theorem read_nextEntry (hk : IsKey k) (hline : ReadsAs column next tail line s style)
    (hplace : Precedes place allowed column (fromEntry k line next tail)) :
    ∃ e place' allowed', e.style = style ∧ Precedes place' allowed' next tail ∧
      read none (settled place tokens allowed column outer) =
        read none (settled place' ((tokensOfEntry k s e).reverse ++ tokens) allowed' column
          outer) := by
  obtain ⟨e, place', allowed', hstyle, hprecedes, hread⟩ := @read_entry place tokens allowed
    column outer column next k s line tail style hk hline hplace (Int.le_refl _)
  rw [if_neg (Int.lt_irrefl _), if_neg (Int.lt_irrefl _)] at hread
  exact ⟨e, place', allowed', hstyle, hprecedes, hread⟩

end Tokens
end Yaml

/-! ## The tokens of a configuration -/

namespace OverlayConfig

open Yaml.Value Yaml.Lexer Yaml.Tokens Config

def fromPolicy (c : OverlayConfig) : List Char :=
  fromEntry "tolerateExisting" ((toString c.tolerateExisting).toList ++ ['\n']) 0 []

def fromPath (c : OverlayConfig) : List Char :=
  fromEntry "postPath" (lines 4 c.postPath) 2 c.fromPolicy

def fromBinary (c : OverlayConfig) : List Char :=
  fromEntry "kustomizeBinary" (lines 4 c.kustomizeBinary) 2 c.fromPath

/-- Where the entries stand; what is true or false is written plain. -/
structure Spots where
  kustomizeBinary : Spot
  postPath : Spot
  tolerateExisting : Spot
  plain : tolerateExisting.style = .plain

/-- The tokens of the configuration of overlays, up to the end of its block. -/
def tokens (c : OverlayConfig) (e : Spots) : List Token :=
  ⟨.blockMapping, e.kustomizeBinary.key, e.kustomizeBinary.key⟩ ::
    (tokensOfEntry "kustomizeBinary" c.kustomizeBinary e.kustomizeBinary ++
    (tokensOfEntry "postPath" c.postPath e.postPath ++
    tokensOfEntry "tolerateExisting" (toString c.tolerateExisting) e.tolerateExisting))

theorem readsAs_bool (b : Bool) :
    ReadsAs 2 0 [] ((toString b).toList ++ ['\n']) (toString b) .plain := by
  cases b with
  | true => exact readsAs_plain (by decide) (by decide) (Nat.zero_le 2) nofun
  | false => exact readsAs_plain (by decide) (by decide) (Nat.zero_le 2) nofun

theorem read_tokens (c : OverlayConfig) {place : Place} {allowed : Bool} {before : List Token}
    (hplace : Precedes place allowed 2 c.fromBinary) :
    ∃ e stop, Tokens.read none (settled place before allowed 0 [-1]) =
      ⟨before.reverse ++ (c.tokens e ++
        [⟨.blockEnd, stop, stop⟩, ⟨.blockEnd, stop, stop⟩, ⟨.streamEnd, stop, stop⟩]), none⟩ := by
  obtain ⟨path, hpath⟩ := @readsAs_lines 2 2 c.fromPolicy c.postPath (Nat.le_refl 2)
    (isKey_tolerateExisting.startsWord _)
  obtain ⟨binary, hbinary⟩ := @readsAs_lines 2 2 c.fromPath c.kustomizeBinary (Nat.le_refl 2)
    (isKey_postPath.startsWord _)
  obtain ⟨e₁, place₁, allowed₁, hplace₁, hread₁⟩ := @read_firstEntry place before allowed 0 [-1]
    2 2 _ _ _ _ _ isKey_kustomizeBinary hbinary hplace (by decide)
  let before₁ := (tokensOfEntry "kustomizeBinary" c.kustomizeBinary e₁).reverse ++
    ⟨.blockMapping, e₁.key, e₁.key⟩ :: before
  obtain ⟨e₂, place₂, allowed₂, -, hplace₂, hread₂⟩ := @read_nextEntry place₁ before₁ allowed₁
    [0, -1] 2 2 _ _ _ _ _ isKey_postPath hpath hplace₁
  let before₂ := (tokensOfEntry "postPath" c.postPath e₂).reverse ++ before₁
  obtain ⟨e₃, place₃, allowed₃, hplain, hplace₃, hread₃⟩ := @read_nextEntry place₂ before₂ allowed₂
    [0, -1] 2 0 _ _ _ _ _ isKey_tolerateExisting (readsAs_bool c.tolerateExisting) hplace₂
  let before₃ :=
    (tokensOfEntry "tolerateExisting" (toString c.tolerateExisting) e₃).reverse ++ before₂
  obtain ⟨stop, hend⟩ := @read_end place₃ before₃ allowed₃ hplace₃
  refine ⟨⟨e₁, e₂, e₃, hplain⟩, stop, ?_⟩
  refine (hread₁.trans (hread₂.trans (hread₃.trans hend))).trans ?_
  unfold tokens before₃ before₂ before₁
  simp only [List.reverse_cons, List.reverse_append, List.reverse_reverse, List.append_assoc,
    List.cons_append, List.nil_append]

end OverlayConfig

namespace Config

open Yaml.Value Yaml.Lexer Yaml.Tokens

def fromOverlay (c : Config) : List Char :=
  "overlay".toList ++ ':' :: '\n' :: (List.replicate 2 ' ' ++ c.overlay.fromBinary)

theorem layout_eq (c : Config) :
    c.layout = fromEntry "fetchTimeout" (lines 2 c.fetchTimeout.text) 0
      (fromEntry "retryInterval" (lines 2 c.retryInterval.text) 0 c.fromOverlay) := by
  unfold layout fromOverlay OverlayConfig.fromBinary OverlayConfig.fromPath
    OverlayConfig.fromPolicy fromEntry entry
  simp only [List.append_assoc, List.cons_append, List.nil_append, List.replicate_zero,
    List.append_nil]

/-- Where the entries of a configuration stand, and where it ends. -/
structure Spots where
  fetchTimeout : Spot
  retryInterval : Spot
  overlay : Spot
  inOverlay : OverlayConfig.Spots
  stop : Mark

def tokens (c : Config) (e : Spots) : List Token :=
  ⟨.blockMapping, e.fetchTimeout.key, e.fetchTimeout.key⟩ ::
    (tokensOfEntry "fetchTimeout" c.fetchTimeout.text e.fetchTimeout ++
    (tokensOfEntry "retryInterval" c.retryInterval.text e.retryInterval ++
    (tokensOfKey "overlay" e.overlay ++ (c.overlay.tokens e.inOverlay ++
    [⟨.blockEnd, e.stop, e.stop⟩, ⟨.blockEnd, e.stop, e.stop⟩, ⟨.streamEnd, e.stop, e.stop⟩]))))

/-- **The tokens of a configuration.** -/
theorem tokens_layout (c : Config) :
    ∃ e, Tokens.ofSource ⟨c.layout, none⟩ = ⟨c.tokens e, none⟩ := by
  obtain ⟨retry, hretry⟩ := @readsAs_lines 0 0 c.fromOverlay c.retryInterval.text (Nat.le_refl 0)
    (isKey_overlay.startsWord _)
  obtain ⟨fetch, hfetch⟩ := @readsAs_lines 0 0
    (fromEntry "retryInterval" (lines 2 c.retryInterval.text) 0 c.fromOverlay) c.fetchTimeout.text
    (Nat.le_refl 0) (isKey_retryInterval.startsWord _)
  have hstart : Precedes ⟨.start, c.layout⟩ true 0 c.layout := by
    refine precedes_word rfl ?_
    rw [layout_eq]
    exact isKey_fetchTimeout.startsWord _
  rw [layout_eq] at hstart
  obtain ⟨e₁, place₁, allowed₁, hplace₁, hread₁⟩ := @read_firstEntry _ [] true (-1) []
    0 0 _ _ _ _ _ isKey_fetchTimeout hfetch hstart (by decide)
  let before₁ := (tokensOfEntry "fetchTimeout" c.fetchTimeout.text e₁).reverse ++
    [⟨.blockMapping, e₁.key, e₁.key⟩]
  obtain ⟨e₂, place₂, allowed₂, -, hplace₂, hread₂⟩ := @read_nextEntry place₁ before₁ allowed₁ [-1]
    0 0 _ _ _ _ _ isKey_retryInterval hretry hplace₁
  let before₂ := (tokensOfEntry "retryInterval" c.retryInterval.text e₂).reverse ++ before₁
  obtain ⟨key, colon, -, hread₃⟩ := @read_isKey place₂ before₂ allowed₂ (0 : Nat) [-1] 0 _
    isKey_overlay _ rfl hplace₂ (Int.le_refl _)
  rw [keyTokens, if_neg (Int.lt_irrefl _), if_neg (Int.lt_irrefl _)] at hread₃
  let before₃ : List Token :=
    ⟨.value, colon, colon.right 1⟩ :: ⟨.scalar "overlay" .plain, key, colon⟩ ::
      ⟨.key, key, key⟩ :: before₂
  obtain ⟨e₃, stop, hread₄⟩ := @OverlayConfig.read_tokens c.overlay
    ⟨colon.right 1, '\n' :: (List.replicate 2 ' ' ++ c.overlay.fromBinary)⟩ false before₃
    (precedes_line (isKey_kustomizeBinary.startsWord _))
  refine ⟨⟨e₁, e₂, ⟨key, colon, colon, colon, .plain⟩, e₃, stop⟩, ?_⟩
  have hread := hread₁.trans (hread₂.trans (hread₃.trans hread₄))
  rw [← layout_eq] at hread
  refine hread.trans ?_
  unfold tokens tokensOfKey before₃ before₂ before₁
  simp only [List.reverse_cons, List.reverse_append, List.reverse_reverse, List.append_assoc,
    List.cons_append, List.nil_append, List.reverse_nil]

end Config
end BundleInstaller
