import BundleInstaller.Overlay.Chunk
import Mathlib.Data.List.Basic
import Mathlib.Data.List.Infix

/-!
# How a rendered overlay is cut

A stream is cut at markers that are found from the left and do not overlap.  `Cut` says what that
means without a scan: the pieces with markers between them make the stream, no piece has a marker in
it, and no piece in front of a marker ends with a dash, because the marker would begin with it.

* `Cut.unique`, `cut_pieces`: there is one such cut, and `pieces` finds it.
* `Scan`: the same by offsets, with slices that may be out of bounds; `Scan.Sound.step` is what one
  turn of its loop keeps, and `Scan.Sound.run` what comes of it.
* `chunks_leftmost`: the chunks are the pieces of the cut that are not blank, and the scan by offsets
  finds them without ever leaving the stream.
* `chunks_intercalate`: which lists of chunks come back when they are joined and cut again; all that
  come from a stream do, `chunks_intercalate_chunks`.
-/

namespace BundleInstaller.Overlay

@[simp] theorem length_marker : marker.length = 3 := rfl

/-! ## Cuts -/

/-- The pieces that a stream is cut into from the left. -/
structure Cut (stream : Bytes) (ps : List Bytes) : Prop where
  ne_nil : ps ≠ []
  joined : stream = marker.intercalate ps
  unmarked : ∀ p ∈ ps, ¬marker <:+: p
  dashless : ∀ p ∈ ps.dropLast, ¬[45] <:+ p

/-- A piece without a marker that does not end with a dash stands in front of the first marker. -/
theorem length_le_of_marker {p before after rest : Bytes} (hp : ¬marker <:+: p) (hdash : ¬[45] <:+ p)
    (h : p ++ (marker ++ rest) = before ++ (marker ++ after)) : p.length ≤ before.length := by
  rcases List.append_eq_append_iff.mp h with ⟨d, hbefore, -⟩ | ⟨d, hpiece, hmarker⟩
  · rw [hbefore, List.length_append]
    exact Nat.le_add_right _ _
  -- what of the piece lies behind `before` begins the other marker
  match d with
  | [] => simp [hpiece]
  | [x] =>
    obtain ⟨rfl, -⟩ := List.cons.inj hmarker
    exact absurd ⟨before, hpiece.symm⟩ hdash
  | [x, y] =>
    obtain ⟨-, hmarker⟩ := List.cons.inj hmarker
    obtain ⟨rfl, -⟩ := List.cons.inj hmarker
    exact absurd ⟨before ++ [x], by rw [hpiece, List.append_assoc]; rfl⟩ hdash
  | x :: y :: z :: d =>
    have hxyz : 45 = x ∧ 45 = y ∧ 45 = z ∧ after = d ++ (marker ++ rest) := by
      simpa [marker] using hmarker
    obtain ⟨rfl, rfl, rfl, -⟩ := hxyz
    exact absurd ⟨before, d, by rw [hpiece, List.append_assoc]; rfl⟩ hp

theorem unmarked_of_length_le {p rest : Bytes}
    (h : ∀ before after, p ++ (marker ++ rest) = before ++ (marker ++ after) →
      p.length ≤ before.length) : ¬marker <:+: p ∧ ¬[45] <:+ p := by
  constructor
  · rintro ⟨before, after, rfl⟩
    have hle := h before (after ++ (marker ++ rest)) (by simp only [List.append_assoc])
    simp only [List.length_append, length_marker] at hle
    omega
  · rintro ⟨before, rfl⟩
    have hle := h before (45 :: rest) (by simp [marker])
    simp only [List.length_append, List.length_singleton] at hle
    omega

namespace Cut

variable {stream rest p : Bytes} {ps qs : List Bytes}

theorem single (h : ¬marker <:+: p) : Cut p [p] where
  ne_nil := List.cons_ne_nil _ _
  joined := List.intercalate_singleton.symm
  unmarked := by simpa using h
  dashless := by simp

theorem cons (h : Cut rest ps) (hp : ¬marker <:+: p) (hdash : ¬[45] <:+ p) :
    Cut (p ++ (marker ++ rest)) (p :: ps) where
  ne_nil := List.cons_ne_nil _ _
  joined := by rw [List.intercalate_cons_of_ne_nil h.ne_nil, ← h.joined, List.append_assoc]
  unmarked := List.forall_mem_cons.mpr ⟨hp, h.unmarked⟩
  dashless := by
    rw [List.dropLast_cons_of_ne_nil h.ne_nil]
    exact List.forall_mem_cons.mpr ⟨hdash, h.dashless⟩

theorem uncons (h : Cut stream (p :: ps)) (hps : ps ≠ []) :
    ¬[45] <:+ p ∧ ∃ rest, stream = p ++ (marker ++ rest) ∧ Cut rest ps := by
  have hdashless := h.dashless
  rw [List.dropLast_cons_of_ne_nil hps, List.forall_mem_cons] at hdashless
  refine ⟨hdashless.1, marker.intercalate ps, ?_, hps, rfl,
    fun q hq => h.unmarked q (List.mem_cons_of_mem _ hq), hdashless.2⟩
  rw [h.joined, List.intercalate_cons_of_ne_nil hps, List.append_assoc]

theorem eq_of_single (h : Cut stream [p]) : stream = p := by
  rw [h.joined, List.intercalate_singleton]

theorem eq_nil_of_single (h : Cut stream [p]) {q : Bytes} (h' : Cut stream (q :: qs)) : qs = [] := by
  by_contra hqs
  obtain ⟨-, rest, hstream, -⟩ := h'.uncons hqs
  refine h.unmarked p List.mem_cons_self ⟨q, rest, ?_⟩
  rw [← h.eq_of_single, hstream, List.append_assoc]

/-- **A stream is cut in one way.** -/
theorem unique (h : Cut stream ps) (h' : Cut stream qs) : ps = qs := by
  induction ps generalizing stream qs with
  | nil => exact absurd rfl h.ne_nil
  | cons p ps ih =>
    obtain ⟨q, qs, rfl⟩ := List.exists_cons_of_ne_nil h'.ne_nil
    by_cases hps : ps = []
    · subst hps
      obtain rfl := h.eq_nil_of_single h'
      rw [← h.eq_of_single, ← h'.eq_of_single]
    by_cases hqs : qs = []
    · subst hqs
      exact absurd (h'.eq_nil_of_single h) hps
    obtain ⟨hp, rest, hstream, hrest⟩ := h.uncons hps
    obtain ⟨hq, rest', hstream', hrest'⟩ := h'.uncons hqs
    -- both pieces stand in front of the first marker
    have heq : p ++ (marker ++ rest) = q ++ (marker ++ rest') := hstream.symm.trans hstream'
    have hle := length_le_of_marker (h.unmarked p List.mem_cons_self) hp heq
    have hge := length_le_of_marker (h'.unmarked q List.mem_cons_self) hq heq.symm
    obtain ⟨rfl, hbehind⟩ := List.append_inj heq (by omega)
    rw [List.append_cancel_left hbehind] at hrest
    rw [ih hrest hrest']

end Cut

/-! ## Pieces -/

theorem piecesFrom_marker (current rest : Bytes) :
    piecesFrom current (marker ++ rest) = current.reverse :: piecesFrom [] rest := rfl

theorem piecesFrom_cons {b : UInt8} {rest : Bytes} (h : ∀ after, b :: rest ≠ marker ++ after)
    (current : Bytes) : piecesFrom current (b :: rest) = piecesFrom (b :: current) rest := by
  rw [piecesFrom]
  rintro after rfl rfl
  exact h after rfl

theorem piecesFrom_of_length_lt {s : Bytes} (h : s.length < marker.length) (current : Bytes) :
    piecesFrom current s = [current.reverse ++ s] := by
  induction s generalizing current with
  | nil => rw [piecesFrom, List.append_nil]
  | cons b rest ih =>
    have hshort : ∀ after, b :: rest ≠ marker ++ after := by
      intro after heq
      rw [heq, List.length_append] at h
      omega
    rw [piecesFrom_cons hshort, ih (Nat.lt_of_succ_lt h), List.reverse_cons, List.append_assoc]
    rfl

/-- Where no marker begins in the piece so far, the pieces are a cut of it and the rest. -/
theorem cut_piecesFrom {current s : Bytes}
    (h : ∀ before after, current.reverse ++ s = before ++ (marker ++ after) →
      current.length ≤ before.length) : Cut (current.reverse ++ s) (piecesFrom current s) := by
  fun_induction piecesFrom current s with
  | case1 current rest ih =>
    have hcut : Cut rest (piecesFrom [] rest) := ih fun _ _ _ => Nat.zero_le _
    have hbehind : ∀ before after, current.reverse ++ (marker ++ rest) = before ++ (marker ++ after) →
        current.reverse.length ≤ before.length := by
      intro before after heq
      rw [List.length_reverse]
      exact h before after heq
    obtain ⟨hunmarked, hdash⟩ := unmarked_of_length_le hbehind
    exact hcut.cons hunmarked hdash
  | case2 current b rest hmarker ih =>
    have hshift : (b :: current).reverse ++ rest = current.reverse ++ b :: rest := by
      rw [List.reverse_cons, List.append_assoc]
      rfl
    rw [hshift] at ih
    refine ih fun before after heq => ?_
    have hle := h before after heq
    by_cases hlength : current.length = before.length
    · have hrest := (List.append_inj heq (by rw [List.length_reverse, hlength])).2
      obtain ⟨hb, hrest⟩ := List.cons.inj hrest
      exact (hmarker after hb hrest).elim
    · rw [List.length_cons]
      omega
  | case3 current =>
    rw [List.append_nil]
    refine .single ?_
    rintro ⟨before, after, heq⟩
    have hle := h before after (by rw [List.append_nil, ← heq, List.append_assoc])
    have hlength := congrArg List.length heq
    simp only [List.length_append, List.length_reverse, length_marker] at hlength
    omega

/-- **The pieces of a stream are its cut.** -/
theorem cut_pieces (stream : Bytes) : Cut stream (pieces stream) := by
  have hcut : Cut ([].reverse ++ stream) (piecesFrom [] stream) :=
    cut_piecesFrom fun _ _ _ => Nat.zero_le _
  exact hcut

/-! ## Scanning by offsets -/

/-- The octets from one offset up to another one, if the stream has such octets. -/
def slice? (stream : Bytes) (first last : Nat) : Option Bytes :=
  if first ≤ last ∧ last ≤ stream.length then some ((stream.take last).drop first) else none

theorem slice?_of_le {stream : Bytes} {first last : Nat} (h : first ≤ last)
    (hlast : last ≤ stream.length) :
    slice? stream first last = some ((stream.take last).drop first) := if_pos ⟨h, hlast⟩

/-- How far a scan is: where the current piece begins, where a marker is looked for, and the chunks
that were found. -/
structure Scan where
  start : Nat
  position : Nat
  found : List Bytes

namespace Scan

variable {stream : Bytes} {x y : Scan}

/-- The chunks with one more piece, unless it is blank. -/
def keep (x : Scan) (piece : Bytes) : List Bytes :=
  if isBlankPiece piece then x.found else x.found ++ [piece]

/-- One turn of the loop; there is none out of bounds. -/
def step (stream : Bytes) (x : Scan) : Option Scan := do
  let candidate ← slice? stream x.position (x.position + marker.length)
  if candidate = marker then
    let piece ← slice? stream x.start x.position
    let next := x.position + marker.length
    return ⟨next, next, x.keep piece⟩
  else return { x with position := x.position + 1 }

def finish (stream : Bytes) (x : Scan) : Option (List Bytes) := do
  let piece ← slice? stream x.start stream.length
  return x.keep piece

theorem position_lt_of_step (h : x.step stream = some y) : x.position < y.position := by
  unfold step at h
  obtain ⟨candidate, -, h⟩ := Option.bind_eq_some_iff.mp h
  split at h
  · obtain ⟨piece, -, h⟩ := Option.bind_eq_some_iff.mp h
    obtain rfl := Option.some.inj h
    exact Nat.lt_add_of_pos_right (by decide)
  · obtain rfl := Option.some.inj h
    exact Nat.lt_succ_self _

/-- Goes on for as long as a marker may still stand where it is looked for. -/
def run (stream : Bytes) (x : Scan) : Option (List Bytes) :=
  if _hroom : x.position + marker.length ≤ stream.length then
    match _h : x.step stream with
    | none => none
    | some y => run stream y
  else x.finish stream
termination_by stream.length - x.position
decreasing_by
  have hlt := position_lt_of_step _h
  rw [length_marker] at _hroom
  omega

/-- The offsets are in order and within the stream, and what was found is followed by what the piece
so far and the rest of the stream come to. -/
structure Sound (stream : Bytes) (x : Scan) : Prop where
  ordered : x.start ≤ x.position
  bounded : x.position ≤ stream.length
  found : x.found ++ (piecesFrom ((stream.take x.position).drop x.start).reverse
    (stream.drop x.position)).filter (!isBlankPiece ·) = chunks stream

theorem keep_append (x : Scan) (piece : Bytes) (ps : List Bytes) :
    x.keep piece ++ ps.filter (!isBlankPiece ·) =
      x.found ++ (piece :: ps).filter (!isBlankPiece ·) := by
  unfold keep
  cases hblank : isBlankPiece piece with
  | true => rw [if_pos rfl, List.filter_cons_of_neg (by simp [hblank])]
  | false =>
    rw [if_neg Bool.false_ne_true, List.filter_cons_of_pos (by simp [hblank]), List.append_assoc]
    rfl

theorem Sound.start (stream : Bytes) : Sound stream ⟨0, 0, []⟩ where
  ordered := Nat.le_refl _
  bounded := Nat.zero_le _
  found := rfl

/-- **A turn of the loop stays in bounds** and leads to a state that is sound again. -/
theorem Sound.step (h : Sound stream x) (hroom : x.position + marker.length ≤ stream.length) :
    ∃ y, x.step stream = some y ∧ Sound stream y := by
  have hfound := h.found
  have hcandidate : (stream.take (x.position + marker.length)).drop x.position =
      (stream.drop x.position).take marker.length := by
    rw [List.drop_take, Nat.add_sub_cancel_left]
  unfold Scan.step
  rw [slice?_of_le (Nat.le_add_right _ _) hroom, hcandidate]
  by_cases hmarker : (stream.drop x.position).take marker.length = marker
  · have hrest : stream.drop x.position =
        marker ++ stream.drop (x.position + marker.length) := by
      rw [← List.take_append_drop marker.length (stream.drop x.position), hmarker,
        List.drop_drop]
    let next := x.position + marker.length
    refine ⟨⟨next, next, x.keep ((stream.take x.position).drop x.start)⟩, ?_,
      ⟨Nat.le_refl _, hroom, ?_⟩⟩
    · show (if _ then _ else _ : Option Scan) = _
      rw [if_pos hmarker, slice?_of_le h.ordered h.bounded]
      rfl
    · rw [hrest, piecesFrom_marker, List.reverse_reverse, ← keep_append] at hfound
      have hempty : (stream.take next).drop next = [] :=
        List.drop_eq_nil_of_le (List.length_take_le _ _)
      show x.keep _ ++ (piecesFrom ((stream.take next).drop next).reverse (stream.drop next)).filter
        _ = _
      rw [hempty]
      exact hfound
  · have hlt : x.position < stream.length := by
      have hlength : marker.length = 3 := rfl
      omega
    have hrest := List.drop_eq_getElem_cons hlt
    refine ⟨{ x with position := x.position + 1 }, if_neg hmarker,
      ⟨Nat.le_succ_of_le h.ordered, hlt, ?_⟩⟩
    have hno : ∀ after, stream[x.position] :: stream.drop (x.position + 1) ≠ marker ++ after := by
      intro after heq
      rw [hrest, heq, List.take_left] at hmarker
      exact hmarker rfl
    rw [hrest, piecesFrom_cons hno] at hfound
    rw [← hfound]
    show x.found ++ (piecesFrom ((stream.take (x.position + 1)).drop x.start).reverse _).filter _ = _
    rw [List.take_succ_eq_append_getElem hlt, List.drop_append_of_le_length
      (by rw [List.length_take]; have := h.ordered; omega), List.reverse_append]
    rfl

theorem Sound.finish (h : Sound stream x) (hroom : ¬x.position + marker.length ≤ stream.length) :
    x.finish stream = some (chunks stream) := by
  have hshort : (stream.drop x.position).length < marker.length := by
    rw [List.length_drop, length_marker]
    rw [length_marker] at hroom
    omega
  have hfound := h.found
  rw [piecesFrom_of_length_lt hshort, List.reverse_reverse, ← keep_append, List.filter_nil,
    List.append_nil] at hfound
  have hpiece : (stream.take x.position).drop x.start ++ stream.drop x.position =
      (stream.take stream.length).drop x.start := by
    have hle : x.start ≤ (stream.take x.position).length := by
      have := h.ordered
      have := h.bounded
      rw [List.length_take]
      omega
    rw [← List.drop_append_of_le_length hle, List.take_append_drop, List.take_length]
  unfold Scan.finish
  rw [slice?_of_le (h.ordered.trans h.bounded) (Nat.le_refl _), ← hpiece, ← hfound]
  rfl

/-- **A scan comes to its end within the stream, and has found the chunks.** -/
theorem Sound.run (h : Sound stream x) : x.run stream = some (chunks stream) := by
  induction hleft : stream.length - x.position using Nat.strong_induction_on generalizing x with
  | _ left ih =>
    unfold Scan.run
    by_cases hroom : x.position + marker.length ≤ stream.length
    · obtain ⟨y, hstep, hy⟩ := h.step hroom
      have hlt := position_lt_of_step hstep
      have hbounded := hy.bounded
      rw [dif_pos hroom]
      split
      · next hnone => rw [hstep] at hnone; cases hnone
      · next z hz =>
        obtain rfl := Option.some.inj (hstep.symm.trans hz)
        exact ih (stream.length - y.position) (by omega) hy rfl
    · rw [dif_neg hroom]
      exact h.finish hroom

end Scan

/-- The chunks of a stream, found by a scan from its first octet. -/
def scan? (stream : Bytes) : Option (List Bytes) := Scan.run stream ⟨0, 0, []⟩

/-! ## Chunks -/

theorem not_isBlankPiece_iff {p : Bytes} :
    (!isBlankPiece p) = decide (∃ b ∈ p, b ∉ ([9, 10, 12, 13, 32] : Bytes)) := by
  have hblank : ∀ b : UInt8, Text.isAsciiBlank b = true ↔ b ∈ ([9, 10, 12, 13, 32] : Bytes) := by
    intro b
    simp only [Text.isAsciiBlank, Bool.or_eq_true, beq_iff_eq, List.mem_cons, List.not_mem_nil,
      or_false]
    tauto
  rw [Bool.eq_iff_iff, decide_eq_true_iff, Bool.not_eq_true', isBlankPiece, List.all_eq_false]
  simp only [hblank]

/-- **The chunks are the pieces of the one cut of the stream, without the blank ones**, and the scan
by offsets finds them and leaves the stream nowhere. -/
theorem chunks_leftmost (stream : Bytes) :
    (∃! ps, Cut stream ps) ∧
      (∀ ps, Cut stream ps →
        chunks stream = ps.filter fun p => ∃ b ∈ p, b ∉ ([9, 10, 12, 13, 32] : Bytes)) ∧
      scan? stream = some (chunks stream) := by
  have hcut := cut_pieces stream
  refine ⟨⟨pieces stream, hcut, fun ps h => h.unique hcut⟩, fun ps h => ?_,
    (Scan.Sound.start stream).run⟩
  rw [h.unique hcut, chunks]
  exact List.filter_congr fun p _ => not_isBlankPiece_iff

/-- Of five dashes the first three are a marker. -/
example : chunks [97, 45, 45, 45, 45, 45, 98] = [[97], [45, 45, 98]] := rfl

/-! ## Joining chunks -/

theorem chunks_of_cut {stream : Bytes} {ps : List Bytes} (h : Cut stream ps) :
    chunks stream = ps.filter (!isBlankPiece ·) := by
  rw [chunks, (cut_pieces stream).unique h]

/-- **Chunks come back when they are joined with markers and cut again**, if none of them is blank
or has a marker in it and none but the last one ends with a dash. -/
theorem chunks_intercalate {ps : List Bytes} (hblank : ∀ p ∈ ps, isBlankPiece p = false)
    (hunmarked : ∀ p ∈ ps, ¬marker <:+: p) (hdashless : ∀ p ∈ ps.dropLast, ¬[45] <:+ p) :
    chunks (marker.intercalate ps) = ps := by
  by_cases hps : ps = []
  · subst hps
    rfl
  · have hcut : Cut (marker.intercalate ps) ps := ⟨hps, rfl, hunmarked, hdashless⟩
    rw [chunks_of_cut hcut, List.filter_eq_self]
    intro p hp
    rw [hblank p hp]
    rfl

/-- Where the first of two chunks ends with a dash, they are cut one octet earlier. -/
example : chunks (marker.intercalate [[97, 45], [98]]) = [[97], [45, 98]] := rfl

/-- What has something behind it after some were left out had something behind it before. -/
theorem mem_dropLast_of_filter {α : Type} {keep : α → Bool} {ps : List α} {p : α}
    (h : p ∈ (ps.filter keep).dropLast) : p ∈ ps.dropLast := by
  rcases List.eq_nil_or_concat' ps with rfl | ⟨before, last, rfl⟩
  · exact h
  rw [List.dropLast_concat]
  rw [List.filter_append] at h
  have hbefore : p ∈ before.filter keep := by
    by_cases hlast : keep last
    · rw [List.filter_cons_of_pos hlast, List.filter_nil, List.dropLast_concat] at h
      exact h
    · rw [List.filter_cons_of_neg hlast, List.filter_nil, List.append_nil] at h
      exact List.mem_of_mem_dropLast h
  exact List.mem_of_mem_filter hbefore

/-- **Cutting is stable under joining**: the chunks of a stream, joined with markers and cut again,
are the same chunks. -/
theorem chunks_intercalate_chunks (stream : Bytes) :
    chunks (marker.intercalate (chunks stream)) = chunks stream := by
  have hcut := cut_pieces stream
  apply chunks_intercalate
  · intro p hp
    have hkept := (List.mem_filter.mp hp).2
    rwa [Bool.not_eq_true'] at hkept
  · intro p hp
    exact hcut.unmarked p (List.mem_of_mem_filter hp)
  · -- a chunk with another one behind it was no last piece, so that a marker stood behind it
    intro p hp
    exact hcut.dashless p (mem_dropLast_of_filter hp)

end BundleInstaller.Overlay
