import BundleInstaller.Proofs.Durations
import BundleInstaller.Proofs.Identity
import BundleInstaller.Proofs.Layout
import BundleInstaller.Proofs.Sources

/-!
# Configurations are read as they were written

The tokens of a configuration that was written tell of one document, and in it every field has its
own value again.  Only durations are not read as they stand: their texts are read as durations, and
that works for those that are in range.  No other duration is ever read, so that the configurations
that can be read are the ones that are read as they were written.

* `Config.ofBytes_layout`: the document of a configuration.
* `Config.ofYaml_layout`: the configuration that is read from it.
* `Config.inRange_of_ofYaml`: only configurations whose durations are in range are read.
-/

namespace BundleInstaller

open Yaml

/-! ## The document -/

def Yaml.nodeOf (s : String) (style : ScalarStyle) (mark : Mark) : Node := .scalar mark none s style

def Yaml.nodesOfEntry (k s : String) (e : Spot) : Node × Node :=
  (nodeOf k .plain e.key, nodeOf s e.style e.value)

def OverlayConfig.node (c : OverlayConfig) (e : Spots) : Node :=
  .mapping e.kustomizeBinary.key none
    [nodesOfEntry "kustomizeBinary" c.kustomizeBinary e.kustomizeBinary,
    nodesOfEntry "postPath" c.postPath e.postPath,
    nodesOfEntry "tolerateExisting" (toString c.tolerateExisting) e.tolerateExisting]

namespace Config

/-- The document of a configuration: fifteen values start or end in it. -/
def document (c : Config) (e : Spots) : Yaml.Document where
  root := .mapping e.fetchTimeout.key none
    [nodesOfEntry "fetchTimeout" c.fetchTimeout.text e.fetchTimeout,
    nodesOfEntry "retryInterval" c.retryInterval.text e.retryInterval,
    (nodeOf "overlay" .plain e.overlay.key, c.overlay.node e.inOverlay)]
  fault := none
  size := 15
  anchored := []

/-- **The document of a configuration.** -/
theorem ofBytes_layout (c : Config) :
    ∃ e, Yaml.Document.ofBytes (Text.Utf8.ofString (String.ofList c.layout)) = [c.document e] := by
  obtain ⟨e, htokens⟩ := tokens_layout c
  have hallowed := isAllowed_layout c
  have hsource : Source.ofBytes (Text.Utf8.ofString (String.ofList c.layout)) =
      ⟨c.layout, none⟩ := by
    rw [← String.toList_ofList (l := c.layout)] at hallowed
    rw [ofBytes_ofString hallowed, String.toList_ofList]
  refine ⟨e, ?_⟩
  unfold Yaml.Document.ofBytes
  rw [hsource, htokens]
  -- the grammar goes by the kinds of the tokens alone
  rfl

end Config

/-! ## Reading from nodes -/

namespace Yaml

open Decode

namespace Cursor

variable {α τ : Type} {c : Cursor} {n n' : Nat} {mark : Mark} {tag : Option Bytes} {text : String}
variable {style : ScalarStyle}

theorem locate_of_ok {read : Read α} {r : α × Nat} (h : read n = .ok r) :
    c.locate mark read n = .ok r := by
  unfold locate
  rw [h]

theorem readTextOf_scalar {expected : String} {read : String → Except Mismatch α} {a : α}
    (hnode : c.node = .scalar mark tag text style) (hread : read text = .ok a) :
    readTextOf expected read c n = .ok (a, n) := by
  obtain ⟨document, node, path, depth, tagged⟩ := c
  obtain rfl : node = .scalar mark tag text style := hnode
  refine locate_of_ok ?_
  show ofExcept (read text) n = _
  rw [hread]
  rfl

theorem readText_scalar (hnode : c.node = .scalar mark tag text style) :
    readText c n = .ok (text, n) := readTextOf_scalar hnode rfl

theorem readBool_scalar {b : Bool} (hnode : c.node = .scalar mark none text .plain)
    (hbool : Meaning.bool? text = some b) : readBool c n = .ok (b, n) := by
  obtain ⟨document, node, path, depth, tagged⟩ := c
  obtain rfl : node = .scalar mark none text .plain := hnode
  have hfound : (if isLiteral ⟨document, .scalar mark none text .plain, path, depth, tagged⟩
      CoreTag.bool then Meaning.bool? text else none) = some b := hbool
  refine locate_of_ok ?_
  dsimp only [text?, Option.bind_some]
  rw [hfound]
  rfl

theorem readOnce_none {name : String} {read : Cursor → Read α} {r : α × Nat}
    (h : read c n = .ok r) : readOnce name none read c n = .ok r := h

variable {shape : RecordShape} {step : String → Option (τ → Cursor → Read τ)}

theorem readFields_cons {name : String} {v : Node} {rest : List (Node × Node)} {t t' : τ}
    {read : τ → Cursor → Read τ} {r : τ × Nat} (hstep : step name = some read)
    (hread : read t (c.value (nodeOf name style mark) v) n = .ok (t', n'))
    (hrest : readFields shape step c t' rest n' = .ok r) :
    readFields shape step c t ((nodeOf name style mark, v) :: rest) n = .ok r := by
  have hname : readTextOf shape.keyExpected .ok (c.key (nodeOf name style mark)) n =
      .ok (name, n) := readTextOf_scalar rfl rfl
  refine read_bind_ok.mpr ⟨name, n, hname, ?_⟩
  rw [hstep]
  exact read_bind_ok.mpr ⟨t', n', hread, hrest⟩

theorem readRecord_mapping {init t : τ} {finish : τ → Except Mismatch α}
    {entries : List (Node × Node)} {a : α} {depth : Nat}
    (hnode : c.node = .mapping mark none entries) (hdepth : c.depth = depth + 1)
    (hfields : readFields shape step { c with depth := depth } init entries n = .ok (t, n'))
    (hfinish : finish t = .ok a) : readRecord shape init step finish c n = .ok (a, n') := by
  obtain ⟨document, node, path, depth', tagged⟩ := c
  obtain rfl : node = .mapping mark none entries := hnode
  obtain rfl : depth' = depth + 1 := hdepth
  refine locate_of_ok (read_bind_ok.mpr ⟨_, n, rfl, read_bind_ok.mpr ⟨t, n', hfields, ?_⟩⟩)
  rw [hfinish]
  rfl

end Cursor

theorem readDocument_of_ok {α : Type} {read : Cursor → Read α} {bytes : Bytes}
    {document : Document} {a : α} {n : Nat} (hdocument : Document.ofBytes bytes = [document])
    (hfault : document.fault = none) (hread : read document.cursor 0 = .ok (a, n)) :
    readDocument read bytes = .ok a := by
  have hrun : (read document.cursor).run 0 = .ok (a, n) := hread
  unfold readDocument
  rw [hdocument]
  simp only [hrun, hfault, bind, Except.bind]
  rfl

end Yaml

/-! ## Reading what was written -/

open Cursor

theorem OverlayConfig.read_node (c : OverlayConfig) (e : Spots) {cursor : Cursor} {depth n : Nat}
    (hnode : cursor.node = c.node e) (hdepth : cursor.depth = depth + 1) :
    OverlayConfig.read cursor n = .ok (c, n) := by
  obtain ⟨binary, path, policy, hplain⟩ := e
  have hbool : Meaning.bool? (toString c.tolerateExisting) = some c.tolerateExisting := by
    cases c.tolerateExisting with
    | true => decide
    | false => decide
  have hscalar : nodeOf (toString c.tolerateExisting) policy.style policy.value =
      .scalar policy.value none (toString c.tolerateExisting) .plain := by
    rw [hplain]
    rfl
  refine @readRecord_mapping _ _ cursor n n _ _ _ _
    ⟨some c.kustomizeBinary, some c.postPath, some c.tolerateExisting⟩ _ _ _ _ hnode hdepth ?_ rfl
  refine readFields_cons rfl (read_bind_ok.mpr ⟨c.kustomizeBinary, n, ?_, rfl⟩) ?_
  · exact readOnce_none (readTextOf_scalar rfl rfl)
  refine readFields_cons rfl (read_bind_ok.mpr ⟨c.postPath, n, ?_, rfl⟩) ?_
  · exact readOnce_none (readText_scalar rfl)
  refine readFields_cons rfl (read_bind_ok.mpr ⟨c.tolerateExisting, n, ?_, rfl⟩) rfl
  exact readOnce_none (readBool_scalar hscalar hbool)

namespace Config

variable {c : Config}

theorem readDuration_scalar {d : Duration} (hd : d.InRange) {cursor : Cursor} {n : Nat}
    {mark : Mark} {style : ScalarStyle} (hnode : cursor.node = .scalar mark none d.text style) :
    readDuration cursor n = .ok (d, n) := by
  refine readTextOf_scalar hnode ?_
  rw [Duration.read?_text hd]

theorem read_document (hfetch : c.fetchTimeout.InRange) (hretry : c.retryInterval.InRange)
    (e : Spots) : Config.read (c.document e).cursor 0 = .ok (c, 0) := by
  let t : Fields := ⟨some c.fetchTimeout, some c.retryInterval, some c.overlay⟩
  refine @readRecord_mapping _ _ (c.document e).cursor 0 0 _ _ _ _ t _ _ _ 127 rfl rfl ?_ rfl
  refine readFields_cons rfl (read_bind_ok.mpr ⟨c.fetchTimeout, 0, ?_, rfl⟩) ?_
  · exact readOnce_none (readDuration_scalar hfetch rfl)
  refine readFields_cons rfl (read_bind_ok.mpr ⟨c.retryInterval, 0, ?_, rfl⟩) ?_
  · exact readOnce_none (readDuration_scalar hretry rfl)
  refine readFields_cons rfl (read_bind_ok.mpr ⟨c.overlay, 0, ?_, rfl⟩) rfl
  exact readOnce_none (c.overlay.read_node e.inOverlay rfl rfl)

/-- **A configuration is read from its text.** -/
theorem ofYaml_layout (hfetch : c.fetchTimeout.InRange) (hretry : c.retryInterval.InRange) :
    ofYaml (Text.Utf8.ofString (String.ofList c.layout)) = .ok c := by
  obtain ⟨e, hdocument⟩ := ofBytes_layout c
  rw [ofYaml, readDocument_of_ok hdocument rfl (read_document hfetch hretry e)]

/-! ## What can be read -/

theorem readDuration_ok {cursor : Cursor} {d : Duration} {n n' : Nat}
    (h : readDuration cursor n = .ok (d, n')) : d.InRange := by
  obtain ⟨text, -, h⟩ := readTextOf_ok h
  split at h
  · next hread =>
    cases h
    exact Duration.inRange_read? hread
  · cases h

/-- The durations that were found are in range. -/
structure Fields.InRange (f : Fields) : Prop where
  fetchTimeout : ∀ d, f.fetchTimeout? = some d → d.InRange
  retryInterval : ∀ d, f.retryInterval? = some d → d.InRange

theorem Fields.InRange.step {name : String} {read : Fields → Cursor → Read Fields}
    (hread : Config.step name = some read) {f f' : Fields} {cursor : Cursor} {n n' : Nat}
    (hf : f.InRange) (h : read f cursor n = .ok (f', n')) : f'.InRange := by
  unfold Config.step at hread
  split at hread
  · cases hread
    obtain ⟨d, _, hd, h⟩ := read_bind_ok.mp h
    obtain ⟨rfl, -⟩ := read_pure_ok.mp h
    refine ⟨?_, hf.retryInterval⟩
    rintro _ ⟨⟩
    exact readDuration_ok (Bundle.readOnce_ok hd)
  · cases hread
    obtain ⟨d, _, hd, h⟩ := read_bind_ok.mp h
    obtain ⟨rfl, -⟩ := read_pure_ok.mp h
    refine ⟨hf.fetchTimeout, ?_⟩
    rintro _ ⟨⟩
    exact readDuration_ok (Bundle.readOnce_ok hd)
  · cases hread
    obtain ⟨overlay, _, -, h⟩ := read_bind_ok.mp h
    obtain ⟨rfl, -⟩ := read_pure_ok.mp h
    exact ⟨hf.fetchTimeout, hf.retryInterval⟩
  · cases hread

/-- A field that was not found has its standard value, which is in range too. -/
theorem Fields.InRange.ofFields {f : Fields} (hf : f.InRange) :
    (Config.ofFields f).fetchTimeout.InRange ∧ (Config.ofFields f).retryInterval.InRange := by
  have hstandard : standard.fetchTimeout.InRange ∧ standard.retryInterval.InRange :=
    ⟨⟨by decide, by decide⟩, ⟨by decide, by decide⟩⟩
  constructor
  · show (f.fetchTimeout?.getD standard.fetchTimeout).InRange
    cases hfound : f.fetchTimeout? with
    | none => exact hstandard.1
    | some d => exact hf.fetchTimeout d hfound
  · show (f.retryInterval?.getD standard.retryInterval).InRange
    cases hfound : f.retryInterval? with
    | none => exact hstandard.2
    | some d => exact hf.retryInterval d hfound

/-- **Only configurations whose durations are in range are read.** -/
theorem inRange_of_ofYaml {bytes : Bytes} (h : ofYaml bytes = .ok c) :
    c.fetchTimeout.InRange ∧ c.retryInterval.InRange := by
  have hdecoded : readDocument Config.read bytes = .ok c := by
    unfold ofYaml at h
    split at h
    · next hread =>
      cases h
      exact hread
    · cases h
  obtain ⟨document, n, -, hread⟩ := Bundle.readDocument_ok hdecoded
  have hnone : Fields.InRange ⟨none, none, none⟩ := ⟨nofun, nofun⟩
  obtain ⟨f, hfields, hf⟩ := readRecord_keeps hnone
    (fun name read hread t cursor n t' n' ht h => Fields.InRange.step hread ht h) hread
  cases hfields
  exact hf.ofFields

/-- **A configuration is read as it was written.**  The configurations that can be read are those
whose durations have seconds of 64 bits and less than a second of nanoseconds, whatever their texts
and their policy are.  Each of them is written, and what is written is read as the same
configuration; the text of each of its durations is read as this duration. -/
theorem reads_back_as_written (c : Config) :
    ((∃ bytes, ofYaml bytes = .ok c) ↔ c.fetchTimeout.InRange ∧ c.retryInterval.InRange) ∧
      ∀ bytes, ofYaml bytes = .ok c →
        Duration.read? c.fetchTimeout.text = some c.fetchTimeout ∧
          Duration.read? c.retryInterval.text = some c.retryInterval ∧
          ∃ text, c.toYaml = .ok text ∧ ofYaml (Text.Utf8.ofString text) = .ok c := by
  refine ⟨⟨fun ⟨bytes, h⟩ => inRange_of_ofYaml h, fun ⟨hfetch, hretry⟩ =>
    ⟨_, ofYaml_layout hfetch hretry⟩⟩, fun bytes h => ?_⟩
  obtain ⟨hfetch, hretry⟩ := inRange_of_ofYaml h
  exact ⟨Duration.read?_text hfetch, Duration.read?_text hretry, _, toYaml_eq c,
    ofYaml_layout hfetch hretry⟩

/-- The longest timeout there is, and a path that takes two lines. -/
theorem reads_back_as_written_longest :
    let bytes := Text.Utf8.ofString
      "fetchTimeout: 18446744073709551615s 999999999ns\noverlay:\n postPath: \"/a:\\n #b\"\n"
    let c : Config :=
      ⟨⟨18446744073709551615, 999999999⟩, .ofSecs 30, ⟨"kustomize", "/a:\n #b", true⟩⟩
    ofYaml bytes = .ok c ∧ Duration.read? c.fetchTimeout.text = some c.fetchTimeout ∧
      Duration.read? c.retryInterval.text = some c.retryInterval ∧
        ∃ text, c.toYaml = .ok text ∧ ofYaml (Text.Utf8.ofString text) = .ok c := by
  intro bytes c
  have hfound : (ofYaml bytes).toOption = some c := by decide +kernel
  have hread : ofYaml bytes = .ok c := by
    cases hresult : ofYaml bytes with
    | error e =>
      rw [hresult] at hfound
      cases hfound
    | ok c' =>
      rw [hresult] at hfound
      exact congrArg Except.ok (Option.some.inj hfound)
  exact ⟨hread, (reads_back_as_written c).2 bytes hread⟩

end Config
end BundleInstaller
