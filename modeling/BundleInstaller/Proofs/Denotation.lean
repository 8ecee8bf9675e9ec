import BundleInstaller.Proofs.Entries
import BundleInstaller.Proofs.Reading

/-!
# Values of nodes

What JSON value a node of a document has is told by `Denotes`, without a reader that could fail or
run out of depth: a scalar by its tag, text and style, a collection by its parts, and an alias by
the node that it stands for.  A node has one value at most (`Denotes.unique`).

* `direct_of_mem_ofBytes`: an alias never stands for another alias.
* `assembleAt_ok`: what a reader of any content can have read, one level deep.
* `denotes_of_assembleAt`: what it has read is the value of the node, if that is JSON at all.
-/

namespace BundleInstaller.Yaml

open Decode

/-- Whether a node is a value by itself and does not stand for another one. -/
def Node.isDirect : Node → Bool
  | .alias _ _ | .absent _ => false
  | _ => true

/-- Aliases stand for nodes that are values by themselves. -/
def Document.Direct (d : Document) : Prop :=
  ∀ number node, d.anchor? number = some node → node.isDirect

/-! ## What aliases stand for -/

namespace Draft

/-- The anchored nodes are values by themselves. -/
def Direct (d : Draft) : Prop := ∀ x ∈ d.anchored, x.2.isDirect

theorem direct_empty : Draft.empty.Direct := by
  intro x hx
  cases hx

theorem anchored_put (d : Draft) (node : Node) : (d.put node).anchored = d.anchored := by
  unfold put
  split <;> rfl

theorem anchored_name (d : Draft) (anchor : Option String) :
    (d.name anchor).anchored = d.anchored := by
  cases anchor <;> rfl

theorem Direct.put {d : Draft} (h : d.Direct) (node : Node) : (d.put node).Direct := by
  unfold Direct
  rw [anchored_put]
  exact h

theorem Direct.name {d : Draft} (h : d.Direct) (anchor : Option String) :
    (d.name anchor).Direct := by
  unfold Direct
  rw [anchored_name]
  exact h

theorem Direct.putAnchored {d : Draft} (h : d.Direct) {node : Node} (hnode : node.isDirect)
    (position : Nat) (isAnchored : Bool) : (d.putAnchored node position isAnchored).Direct := by
  unfold Draft.putAnchored
  dsimp only
  split
  · intro x hx
    rcases List.mem_cons.mp hx with rfl | hx
    · exact hnode
    · exact h.put node x hx
  · exact h.put node

theorem isDirect_collection (f : Frame) : (collection f).isDirect := by
  unfold collection
  split <;> rfl

theorem Direct.close {d : Draft} (h : d.Direct) : d.close.Direct := by
  unfold Draft.close
  split
  · exact h
  · rename_i f outer _
    exact Direct.putAnchored (d := { d with frames := outer }) h (isDirect_collection f) _ _

theorem Direct.cutOff {d : Draft} (h : d.Direct) : d.cutOff.Direct := by
  unfold Draft.cutOff
  dsimp only
  generalize d.frames = frames
  induction frames generalizing d with
  | nil => exact h
  | cons f frames ih =>
    refine ih ?_
    dsimp only
    split
    · exact ((h.put _).put _).close
    · exact (h.put _).close

theorem Direct.add {d d' : Draft} {event : Event} (h : d.Direct) (hadd : d.add event = .ok d') :
    d'.Direct := by
  unfold Draft.add at hadd
  dsimp only at hadd
  split at hadd
  · split at hadd
    · cases hadd
      exact h.put _
    · cases hadd
  · cases hadd
    exact Direct.putAnchored (h.name _) rfl _ _
  · cases hadd
    exact h.name _
  · cases hadd
    exact h.name _
  · cases hadd
    exact h.close
  · cases hadd
    exact h.close
  · cases hadd
    exact h

theorem Direct.finish {d : Draft} (h : d.Direct) (fault : Option Fault) :
    (d.finish fault).Direct := by
  unfold Draft.finish
  have hfinal : (if fault.isSome then d.cutOff else d).Direct := by
    split
    · exact h.cutOff
    · exact h
  generalize (if fault.isSome then d.cutOff else d) = final at hfinal
  intro number node hnode
  obtain ⟨⟨number', start⟩, -, hentry⟩ := List.mem_map.mp (mem_of_lookup hnode)
  obtain ⟨-, rfl⟩ := Prod.mk.inj hentry
  show ((final.anchored.lookup start).getD .cut).isDirect
  cases hstart : final.anchored.lookup start with
  | none => rfl
  | some node => exact hfinal _ (mem_of_lookup hstart)

end Draft

theorem direct_of_mem_ofEventList {fault : Option Fault} {d : Document} :
    ∀ {events : List Event} {first : Bool} {draft : Draft}, draft.Direct →
      d ∈ Document.ofEventList fault first draft events → d.Direct := by
  intro events
  induction events with
  | nil =>
    intro first draft h hd
    unfold Document.ofEventList at hd
    split at hd
    · rw [List.mem_singleton.mp hd]
      exact h.finish fault
    · cases hd
  | cons event rest ih =>
    intro first draft h hd
    unfold Document.ofEventList at hd
    split at hd
    · exact ih h hd
    · rcases List.mem_cons.mp hd with rfl | hd
      · exact h.finish none
      · exact ih Draft.direct_empty hd
    · split at hd
      · rw [List.mem_singleton.mp hd]
        intro number node hnode
        cases hnode
      · cases hd
    · split at hd
      · rename_i hadd
        exact ih (h.add hadd) hd
      · rw [List.mem_singleton.mp hd]
        exact h.finish _

/-- **In a document that was read, an alias never stands for another alias.** -/
theorem direct_of_mem_ofBytes {bytes : Bytes} {d : Document} (h : d ∈ Document.ofBytes bytes) :
    d.Direct :=
  direct_of_mem_ofEventList Draft.direct_empty h

/-! ## Values -/

mutual

/-- A node of a document has a value as JSON. -/
inductive Denotes (d : Document) : Node → Json → Prop
  | scalar {mark : Mark} {tag : Option Bytes} {text : String} {style : ScalarStyle}
    {meaning : Meaning} (htag : tag.bind tagName? = none)
    (hmeaning : Meaning.ofScalar tag text style = .ok meaning)
    (hwide : ∀ n, meaning ≠ .wide n) :
    Denotes d (.scalar mark tag text style) (Cursor.scalarJson meaning text)
  | sequence {mark : Mark} {tag : Option Bytes} {items : List Node} {js : List Json}
    (htag : tag.bind tagName? = none) (hitems : DenoteItems d items js) :
    Denotes d (.sequence mark tag items) (.arr js)
  | mapping {mark : Mark} {tag : Option Bytes} {entries : List (Node × Node)}
    {js : List (String × Json)} (htag : tag.bind tagName? = none)
    (hentries : DenoteEntries d entries js) :
    Denotes d (.mapping mark tag entries) (.ofEntries js)
  | absent {mark : Mark} : Denotes d (.absent mark) .null
  | alias {mark : Mark} {number : Nat} {node : Node} {j : Json}
    (hnode : d.anchor? number = some node) (h : Denotes d node j) :
    Denotes d (.alias mark number) j

inductive DenoteItems (d : Document) : List Node → List Json → Prop
  | nil : DenoteItems d [] []
  | cons {node : Node} {j : Json} {nodes : List Node} {js : List Json} (h : Denotes d node j)
    (hrest : DenoteItems d nodes js) : DenoteItems d (node :: nodes) (j :: js)

inductive DenoteEntries (d : Document) : List (Node × Node) → List (String × Json) → Prop
  | nil : DenoteEntries d [] []
  | cons {key node : Node} {name : String} {j : Json} {entries : List (Node × Node)}
    {js : List (String × Json)} (hkey : Denotes d key (.str name)) (h : Denotes d node j)
    (hrest : DenoteEntries d entries js) :
    DenoteEntries d ((key, node) :: entries) ((name, j) :: js)

end

mutual

/-- **A node has one value at most.** -/
theorem Denotes.unique {d : Document} {node : Node} {j j' : Json} :
    Denotes d node j → Denotes d node j' → j = j'
  | .scalar _ hmeaning _, .scalar _ hmeaning' _ => by
    rw [Except.ok.inj (hmeaning.symm.trans hmeaning')]
  | .sequence _ hitems, .sequence _ hitems' => by rw [hitems.unique hitems']
  | .mapping _ hentries, .mapping _ hentries' => by rw [hentries.unique hentries']
  | .absent, .absent => rfl
  | .alias hnode h, .alias hnode' h' => by
    cases hnode.symm.trans hnode'
    exact h.unique h'

theorem DenoteItems.unique {d : Document} {nodes : List Node} {js js' : List Json} :
    DenoteItems d nodes js → DenoteItems d nodes js' → js = js'
  | .nil, .nil => rfl
  | .cons h hrest, .cons h' hrest' => by rw [h.unique h', hrest.unique hrest']

theorem DenoteEntries.unique {d : Document} {entries : List (Node × Node)}
    {js js' : List (String × Json)} :
    DenoteEntries d entries js → DenoteEntries d entries js' → js = js'
  | .nil, .nil => rfl
  | .cons hkey h hrest, .cons hkey' h' hrest' => by
    rw [Json.str.inj (hkey.unique hkey'), h.unique h', hrest.unique hrest']

end

/-! ## What a reader of any content has read -/

namespace Cursor

theorem isSome_mark?_of_enter {α : Type} {c : Cursor} {read : Cursor → Read α} {n : Nat}
    {r : α × Nat} (h : c.enter read n = .ok r) : c.target.mark?.isSome := by
  unfold enter at h
  obtain ⟨c', n₁, hc, h⟩ := read_bind_ok.mp h
  rw [resolve_ok hc] at h
  cases hmark : c.target.mark? with
  | none =>
    rw [hmark] at h
    cases h
  | some mark => rfl

/-- What content can be read at a value, at most `depth` levels deep; one level of it is told. -/
inductive Reads (depth : Nat) (c : Cursor) : Content → Prop
  | scalar {mark : Mark} {tag : Option Bytes} {text : String} {style : ScalarStyle}
    {meaning : Meaning} (hnode : c.node = .scalar mark tag text style)
    (htag : tag.bind tagName? = none) (hmeaning : Meaning.ofScalar tag text style = .ok meaning)
    (hwide : ∀ n, meaning ≠ .wide n) :
    Reads depth c (scalarContent meaning text)
  | sequence {mark : Mark} {tag : Option Bytes} {items : List Node} {depth' n n' : Nat}
    {contents : List Content} (hdepth : depth = depth' + 1)
    (hnode : c.node = .sequence mark tag items) (htag : tag.bind tagName? = none)
    (hitems : readItems (assembleAt contentAssembly depth') c 0 items n = .ok (contents, n')) :
    Reads depth c (.list contents)
  | mapping {mark : Mark} {tag : Option Bytes} {entries : List (Node × Node)} {depth' n n' : Nat}
    {contents : List (Content × Content)} (hdepth : depth = depth' + 1)
    (hnode : c.node = .mapping mark tag entries) (htag : tag.bind tagName? = none)
    (hentries : readEntries (assembleAt contentAssembly depth') (assembleAt contentAssembly depth')
      (fun _ _ => none) c [] entries n = .ok (contents, n')) :
    Reads depth c (.map contents)
  | indirect (hnode : c.node.isDirect = false) : Reads depth c .null

theorem tagged_target {c : Cursor} (h : c.tagged = false) : c.target.tagged = false := by
  unfold target
  split
  · rfl
  · exact h

/-- **Content is read one level at a time.** -/
theorem assembleAt_ok {depth : Nat} {c : Cursor} {content : Content} {n n' : Nat}
    (htagged : c.tagged = false)
    (h : assembleAt contentAssembly depth c n = .ok (content, n')) :
    Reads depth c.target content := by
  unfold assembleAt at h
  have hmark := isSome_mark?_of_enter h
  obtain ⟨n₁, h⟩ := enter_ok h
  have htagged' := tagged_target htagged
  generalize c.target = c at h hmark htagged'
  obtain ⟨document, node, path, room, tagged⟩ := c
  cases htagged'
  cases hname : Option.bind (Cursor.tag ⟨document, node, path, room, false⟩) tagName? with
  | some name =>
    -- content has no tags
    simp only [hname] at h
    obtain ⟨_, _, hwrap, -⟩ := read_bind_ok.mp h
    cases hwrap
  | none =>
    simp only [hname] at h
    obtain ⟨wrap, _, hwrap, h⟩ := read_bind_ok.mp h
    obtain ⟨rfl, rfl⟩ := read_pure_ok.mp hwrap
    cases node with
    | scalar mark tag text style =>
      obtain ⟨meaning, n₂, hmeaning, h⟩ := read_bind_ok.mp h
      have hscalar : Meaning.ofScalar tag text style = .ok meaning := ofExcept_ok hmeaning
      cases meaning with
      | wide m => cases h
      | _ =>
        obtain ⟨rfl, -⟩ := read_pure_ok.mp h
        exact .scalar rfl hname hscalar (fun _ heq => nomatch heq)
    | sequence mark tag items =>
      cases depth with
      | zero => cases h
      | succ depth =>
        obtain ⟨contents, n₂, hitems, h⟩ := read_bind_ok.mp h
        obtain ⟨rfl, -⟩ := read_pure_ok.mp h
        exact .sequence rfl rfl hname hitems
    | mapping mark tag entries =>
      cases depth with
      | zero => cases h
      | succ depth =>
        obtain ⟨contents, n₂, hentries, h⟩ := read_bind_ok.mp h
        obtain ⟨rfl, -⟩ := read_pure_ok.mp h
        exact .mapping rfl rfl hname hentries
    | «alias» mark number =>
      obtain ⟨rfl, -⟩ := read_pure_ok.mp h
      exact .indirect rfl
    | absent mark =>
      obtain ⟨rfl, -⟩ := read_pure_ok.mp h
      exact .indirect rfl
    | cut => cases hmark

/-- A reader finds the values of the nodes of a document, as far as they are JSON. -/
def Finds (d : Document) (read : Cursor → Read Content) : Prop :=
  ∀ (c : Cursor) (content : Content) (n n' : Nat) (j : Json), read c n = .ok (content, n') →
    content.toJson = .ok j → c.document = d → c.tagged = false → Denotes d c.node j

theorem toJson_scalarContent {meaning : Meaning} {text : String} :
    (scalarContent meaning text).toJson = .ok (scalarJson meaning text) := by
  cases meaning <;> rfl

theorem key_ok {content : Content} {name : String} (h : content.key = .ok name) :
    content.toJson = .ok (.str name) := by
  unfold Content.key at h
  split at h
  · cases h
    rfl
  · cases h

section

variable {d : Document} {read readKey : Cursor → Read Content} {c : Cursor}

theorem denoteItems_of_readItems (hread : Finds d read) (hc : c.document = d) :
    ∀ {items : List Node} {index n n' : Nat} {contents : List Content} {js : List Json},
      readItems read c index items n = .ok (contents, n') → Content.itemsToJson contents = .ok js →
        DenoteItems d items js := by
  intro items
  induction items with
  | nil =>
    intro index n n' contents js h hjs
    obtain ⟨rfl, -⟩ := read_pure_ok.mp h
    cases hjs
    exact .nil
  | cons node rest ih =>
    intro index n n' contents js h hjs
    obtain ⟨content, n₁, hcontent, h⟩ := read_bind_ok.mp h
    obtain ⟨later, n₂, hlater, h⟩ := read_bind_ok.mp h
    obtain ⟨rfl, -⟩ := read_pure_ok.mp h
    rw [Content.itemsToJson] at hjs
    cases hj : content.toJson with
    | error e =>
      rw [hj] at hjs
      cases hjs
    | ok j =>
      rw [hj] at hjs
      obtain ⟨js', hjs', rfl⟩ := map_ok_iff.mp hjs
      exact .cons (hread _ _ _ _ _ hcontent hj hc rfl) (ih hlater hjs')

theorem denoteEntries_of_readEntries (hreadKey : Finds d readKey) (hread : Finds d read)
    (hc : c.document = d) (htagged : c.tagged = false) :
    ∀ {entries : List (Node × Node)} {seen contents : List (Content × Content)} {n n' : Nat},
      readEntries readKey read (fun _ _ => none) c seen entries n = .ok (contents, n') →
        ∃ later, contents = seen.reverse ++ later ∧
          ∀ {js : List (String × Json)}, Content.entriesToJson later = .ok js →
            DenoteEntries d entries js := by
  intro entries
  induction entries with
  | nil =>
    intro seen contents n n' h
    obtain ⟨rfl, -⟩ := read_pure_ok.mp h
    refine ⟨[], (List.append_nil _).symm, ?_⟩
    intro js hjs
    cases hjs
    exact .nil
  | cons entry rest ih =>
    intro seen contents n n' h
    obtain ⟨key, node⟩ := entry
    obtain ⟨keyContent, n₁, hkeyContent, h⟩ := read_bind_ok.mp h
    obtain ⟨content, n₂, hcontent, h⟩ := read_bind_ok.mp h
    obtain ⟨later, rfl, hlater⟩ := ih h
    refine ⟨(keyContent, content) :: later, ?_, ?_⟩
    · rw [List.reverse_cons, List.append_assoc]
      rfl
    · intro js hjs
      rw [Content.entriesToJson] at hjs
      cases hname : keyContent.key with
      | error e =>
        rw [hname] at hjs
        cases hjs
      | ok name =>
        cases hj : content.toJson with
        | error e =>
          simp only [hname, hj] at hjs
          cases hjs
        | ok j =>
          simp only [hname, hj] at hjs
          obtain ⟨js', hjs', rfl⟩ := map_ok_iff.mp hjs
          exact .cons (hreadKey _ _ _ _ _ hkeyContent (key_ok hname) hc htagged)
            (hread _ _ _ _ _ hcontent hj hc rfl) (hlater hjs')

end

theorem document_target (c : Cursor) : c.target.document = c.document := by
  unfold target
  split <;> rfl

theorem target_of_alias {c : Cursor} {mark : Mark} {number : Nat}
    (hnode : c.node = .alias mark number) :
    c.target = { c with node := (c.document.anchor? number).getD .cut, tagged := false } := by
  rw [target, hnode]

theorem denotes_of_target {c : Cursor} {j : Json} (hmark : c.target.mark?.isSome)
    (h : Denotes c.document c.target.node j) : Denotes c.document c.node j := by
  cases hnode : c.node with
  | «alias» mark number =>
    rw [target_of_alias hnode] at h hmark
    cases hanchor : c.document.anchor? number with
    | none =>
      rw [hanchor] at hmark
      cases hmark
    | some node =>
      rw [hanchor] at h
      exact .alias hanchor h
  | _ =>
    rw [target, hnode] at h
    exact hnode ▸ h

/-- Only a value that is absent is still none where its alias has been followed. -/
theorem absent_of_target {c : Cursor} (hd : c.document.Direct)
    (htarget : c.target.node.isDirect = false) : ∃ mark, c.node = .absent mark := by
  cases hnode : c.node with
  | «alias» mark number =>
    rw [target_of_alias hnode] at htarget
    cases hanchor : c.document.anchor? number with
    | none =>
      rw [hanchor] at htarget
      cases htarget
    | some node =>
      rw [hanchor] at htarget
      exact absurd (hd number node hanchor) (by simpa using htarget)
  | absent mark => exact ⟨mark, rfl⟩
  | _ =>
    rw [target, hnode] at htarget
    simp only [hnode] at htarget
    cases htarget

/-- **Content that is JSON is the value of its node.** -/
theorem denotes_of_assembleAt {d : Document} (hd : d.Direct) (depth : Nat) :
    Finds d (assembleAt contentAssembly depth) := by
  induction depth using Nat.strongRecOn with
  | ind depth ih =>
    intro c content n n' j h hj hc htagged
    have hmark : c.target.mark?.isSome := by
      unfold assembleAt at h
      exact isSome_mark?_of_enter h
    have hdocument := (document_target c).trans hc
    have htagged' := tagged_target htagged
    have hreads := assembleAt_ok htagged h
    subst hc
    cases hreads with
    | scalar hnode htag hmeaning hwide =>
      cases toJson_scalarContent.symm.trans hj
      refine denotes_of_target hmark ?_
      rw [hnode]
      exact .scalar htag hmeaning hwide
    | sequence hdepth hnode htag hitems =>
      subst hdepth
      obtain ⟨js, hjs, rfl⟩ := map_ok_iff.mp hj
      refine denotes_of_target hmark ?_
      rw [hnode]
      exact .sequence htag (denoteItems_of_readItems (ih _ (Nat.lt_succ_self _)) hdocument hitems hjs)
    | mapping hdepth hnode htag hentries =>
      subst hdepth
      obtain ⟨js, hjs, rfl⟩ := map_ok_iff.mp hj
      have hfinds := ih _ (Nat.lt_succ_self _)
      obtain ⟨later, rfl, hlater⟩ :=
        denoteEntries_of_readEntries hfinds hfinds hdocument htagged' hentries
      refine denotes_of_target hmark ?_
      rw [hnode]
      exact .mapping htag (hlater hjs)
    | indirect hnode =>
      cases hj
      obtain ⟨mark, habsent⟩ := absent_of_target hd hnode
      rw [habsent]
      exact .absent

theorem text_of_assembleAt {depth : Nat} {c : Cursor} {s : String} {n n' : Nat}
    (htagged : c.tagged = false)
    (h : assembleAt contentAssembly depth c n = .ok (.text s, n')) : c.target.text? = some s := by
  have hreads := assembleAt_ok htagged h
  generalize hcontent : Content.text s = content at hreads
  cases hreads with
  | @scalar mark tag text style meaning hnode htag hmeaning hwide =>
    have htext : text = s := by
      cases meaning <;> cases hcontent
      rfl
    rw [text?, hnode, htext]
  | sequence => cases hcontent
  | mapping => cases hcontent
  | indirect => cases hcontent

/-! ## Fields -/

theorem last?_some {field : String} {c c' : Cursor} {entries : List (Node × Node)}
    (h : last? id field c entries = some c') : c'.document = c.document ∧ c'.tagged = false := by
  induction entries with
  | nil => cases h
  | cons entry rest ih =>
    obtain ⟨k, v⟩ := entry
    rw [last?, Option.or_eq_some_iff] at h
    rcases h with h | ⟨-, h⟩
    · exact ih h
    · split at h
      · cases h
        exact ⟨rfl, rfl⟩
      · cases h

theorem field?_some {field : String} {c c' : Cursor} (h : field? id field c = some c') :
    c'.document = c.document ∧ c'.tagged = false := by
  unfold field? at h
  split at h
  · obtain ⟨hdocument, htagged⟩ := last?_some h
    exact ⟨hdocument.trans (document_target c), htagged⟩
  · cases h

end Cursor

/-- The value of a field at the root of a document; of two entries with one key the last one
counts. -/
def Document.field? (d : Document) (key : String) : Option Node := d.cursor.field? Cursor.node key

end BundleInstaller.Yaml
