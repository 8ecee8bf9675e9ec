import BundleInstaller.Bundle.Splitter

/-!
# Numbers of documents

A splitter numbers the documents that it finds one after another (`next_ok`), so the documents of a
bundle have the numbers from one to their count (`index_splitDocuments`).

What a splitter answers is told from the stream alone.  `Reads` says what the stream holds up to its
first failure, in terms of the values that stand there; `calls` asks for the next document any number
of times.

* `Reads.next_document`, `Reads.next_fault`, `Reads.next_end`: one call.
* `answers_calls`, `yielded_calls`, `documents_of_reads`: any number of calls, and all documents.
* `splitter_answers`: these for any stream, and that nulls do not matter.
-/

namespace BundleInstaller.Bundle

namespace Splitter

variable {ε ν ω : Type} {scribe : Scribe ν ω}

theorem advance_ok {d : Document} {s : Splitter ε ν} :
    ∀ {yielded : Nat} {stream : List (Except ε ν)},
      advance scribe yielded stream = (some (.ok d), s) →
        d.index = yielded + 1 ∧ s.yielded = yielded + 1 ∧ s.failed = false := by
  intro yielded stream
  induction stream with
  | nil => intro h; simp [advance] at h
  | cons value rest ih =>
    intro h
    cases value with
    | error cause => simp [advance] at h
    | ok value =>
      simp only [advance] at h
      split at h
      · exact ih h
      · split at h
        · simp only [Prod.mk.injEq, Option.some.injEq, Except.ok.injEq] at h
          obtain ⟨rfl, rfl⟩ := h
          exact ⟨rfl, rfl, rfl⟩
        · simp at h

/-- **The next document has the next number.** -/
theorem next_ok {s s' : Splitter ε ν} {d : Document} (h : s.next scribe = (some (.ok d), s')) :
    d.index = s.yielded + 1 ∧ s'.yielded = s.yielded + 1 ∧ s'.failed = false := by
  unfold next at h
  split at h
  · simp at h
  · exact advance_ok h

theorem index_documents (s : Splitter ε ν) :
    ∀ {found : List Document}, s.documents scribe = .ok found →
      found.map (·.index) = List.range' (s.yielded + 1) found.length := by
  unfold documents
  fun_induction items scribe s with
  | case1 s s' hnext =>
    intro found h
    cases h
    rfl
  | case2 s item s' hnext ih =>
    intro found h
    cases item with
    | error cause => cases h
    | ok d =>
      simp only [List.mapM_cons] at h
      cases hrest : (s'.items scribe).mapM (·.1) with
      | error cause => rw [hrest] at h; cases h
      | ok rest =>
        rw [hrest] at h
        cases h
        obtain ⟨hd, hs', -⟩ := next_ok hnext
        rw [List.map_cons, ih hrest, hd, hs', List.length_cons, List.range'_succ]

/-! ## What a stream holds -/

/-- The end of a stream, or the first failure in it, after `found` documents. -/
inductive Ends (scribe : Scribe ν ω) (found : Nat) :
    List (Except ε ν) → Option (SplitFault ε ω) → Prop
  | done : Ends scribe found [] none
  | stream (cause : ε) (rest : List (Except ε ν)) :
    Ends scribe found (.error cause :: rest) (some (.stream cause))
  | normalize {value : ν} {cause : ω} (rest : List (Except ε ν))
    (hnull : scribe.isNull value = false) (hwrite : scribe.write value = .error cause) :
    Ends scribe found (.ok value :: rest) (some (.normalize (found + 1) cause))

/-- A stream holds these values and then ends or fails, after `found` documents of another one.  The
values that are not null are written as `texts`. -/
structure Reads (scribe : Scribe ν ω) (found : Nat) (stream : List (Except ε ν)) (values : List ν)
    (texts : List Bytes) (fault? : Option (SplitFault ε ω)) : Prop where
  split : ∃ rest, stream = values.map .ok ++ rest ∧ Ends scribe (found + texts.length) rest fault?
  written : (values.filter (!scribe.isNull ·)).map scribe.write = texts.map .ok

/-- The documents with these texts, after `found` others. -/
def numbered (found : Nat) (texts : List Bytes) : List Document :=
  (texts.zipIdx (found + 1)).map fun x => ⟨x.2, x.1⟩

/-- What there is to be answered: the documents, and then the fault if there is one. -/
def outputs (found : Nat) (texts : List Bytes) (fault? : Option (SplitFault ε ω)) :
    List (Except (SplitFault ε ω) Document) :=
  (numbered found texts).map .ok ++ (fault?.map .error).toList

/-- What there is to be collected: all documents if there is no fault, and else the fault. -/
def outcome (found : Nat) (texts : List Bytes) :
    Option (SplitFault ε ω) → Except (SplitFault ε ω) (List Document)
  | none => .ok (numbered found texts)
  | some fault => .error fault

/-- What a splitter answers when it is called some times, and what it comes to. -/
def calls (scribe : Scribe ν ω) :
    Nat → Splitter ε ν → List (Option (Except (SplitFault ε ω) Document)) × Splitter ε ν
  | 0, s => ([], s)
  | n + 1, s =>
    let later := calls scribe n (s.next scribe).2
    ((s.next scribe).1 :: later.1, later.2)

/-- A stream without its nulls. -/
def dropNulls (scribe : Scribe ν ω) (stream : List (Except ε ν)) : List (Except ε ν) :=
  stream.filter fun
    | .ok value => !scribe.isNull value
    | .error _ => true

def isDocument : Option (Except (SplitFault ε ω) Document) → Bool
  | some (.ok _) => true
  | _ => false

variable {found : Nat} {stream rest : List (Except ε ν)} {value : ν} {values : List ν}
  {text : Bytes} {texts : List Bytes} {fault? : Option (SplitFault ε ω)}

theorem outputs_cons : outputs found (text :: texts) fault? =
    .ok ⟨found + 1, text⟩ :: outputs (found + 1) texts fault? := rfl

theorem Reads.null (hnull : scribe.isNull value = true)
    (h : Reads scribe found stream values texts fault?) :
    Reads scribe found (.ok value :: stream) (value :: values) texts fault? := by
  obtain ⟨⟨rest, rfl, hends⟩, hwritten⟩ := h
  refine ⟨⟨rest, rfl, hends⟩, ?_⟩
  rw [List.filter_cons_of_neg (by simp [hnull])]
  exact hwritten

theorem length_documents (found : Nat) (text : Bytes) (texts : List Bytes) :
    found + (text :: texts).length = found + 1 + texts.length := by
  rw [List.length_cons]
  omega

theorem Reads.document (hnull : scribe.isNull value = false) (hwrite : scribe.write value = .ok text)
    (h : Reads scribe (found + 1) stream values texts fault?) :
    Reads scribe found (.ok value :: stream) (value :: values) (text :: texts) fault? := by
  obtain ⟨⟨rest, rfl, hends⟩, hwritten⟩ := h
  refine ⟨⟨rest, rfl, length_documents found text texts ▸ hends⟩, ?_⟩
  rw [List.filter_cons_of_pos (by simp [hnull]), List.map_cons, List.map_cons, hwrite, hwritten]

theorem Reads.ofEnds (h : Ends scribe found stream fault?) :
    Reads scribe found stream [] [] fault? :=
  ⟨⟨stream, rfl, h⟩, rfl⟩

/-- Every stream holds something, up to its end or its first failure. -/
theorem exists_reads (scribe : Scribe ν ω) (stream : List (Except ε ν)) (found : Nat) :
    ∃ values texts fault?, Reads scribe found stream values texts fault? := by
  induction stream generalizing found with
  | nil => exact ⟨[], [], none, .ofEnds .done⟩
  | cons entry rest ih =>
    cases entry with
    | error cause => exact ⟨[], [], _, .ofEnds (.stream cause rest)⟩
    | ok value =>
      cases hnull : scribe.isNull value with
      | true =>
        obtain ⟨values, texts, fault?, h⟩ := ih found
        exact ⟨_, _, _, h.null hnull⟩
      | false =>
        cases hwrite : scribe.write value with
        | error cause => exact ⟨[], [], _, .ofEnds (.normalize rest hnull hwrite)⟩
        | ok text =>
          obtain ⟨values, texts, fault?, h⟩ := ih (found + 1)
          exact ⟨_, _, _, h.document hnull hwrite⟩

/-- Without its nulls, a stream holds the same documents and the same fault. -/
theorem Reads.dropNulls (h : Reads scribe found stream values texts fault?) :
    Reads scribe found (dropNulls scribe stream) (values.filter (!scribe.isNull ·)) texts fault? := by
  obtain ⟨⟨rest, rfl, hends⟩, hwritten⟩ := h
  refine ⟨⟨Splitter.dropNulls scribe rest, ?_, ?_⟩, ?_⟩
  · rw [Splitter.dropNulls, List.filter_append, List.filter_map]
    rfl
  · cases hends with
    | done => exact .done
    | stream cause rest => exact .stream cause _
    | normalize rest hnull hwrite =>
      rw [Splitter.dropNulls, List.filter_cons_of_pos (by simp [hnull])]
      exact .normalize _ hnull hwrite
  · rw [List.filter_filter]
    simpa only [Bool.and_self] using hwritten

/-! ## One call -/

/-- **The next document is the first value that is not null.** -/
theorem Reads.next_document (h : Reads scribe found stream values (text :: texts) fault?) :
    ∃ rest values', advance scribe found stream =
        (some (.ok ⟨found + 1, text⟩), ⟨rest, found + 1, false⟩) ∧
      Reads scribe (found + 1) rest values' texts fault? := by
  obtain ⟨⟨rest, rfl, hends⟩, hwritten⟩ := h
  induction values with
  | nil => cases hwritten
  | cons value values ih =>
    cases hnull : scribe.isNull value with
    | true =>
      rw [List.filter_cons_of_neg (by simp [hnull])] at hwritten
      rw [List.map_cons, List.cons_append, advance, if_pos hnull]
      exact ih hwritten
    | false =>
      rw [List.filter_cons_of_pos (by simp [hnull]), List.map_cons, List.map_cons,
        List.cons_eq_cons] at hwritten
      obtain ⟨hwrite, hlater⟩ := hwritten
      refine ⟨_, values, ?_, ⟨rest, rfl, length_documents found text texts ▸ hends⟩, hlater⟩
      rw [List.map_cons, List.cons_append, advance, if_neg (by simp [hnull]), hwrite]

theorem advance_nulls (hnulls : values.filter (!scribe.isNull ·) = []) :
    advance scribe found (values.map .ok ++ rest) = advance scribe found rest := by
  induction values with
  | nil => rfl
  | cons value values ih =>
    cases hnull : scribe.isNull value with
    | true =>
      rw [List.filter_cons_of_neg (by simp [hnull])] at hnulls
      rw [List.map_cons, List.cons_append, advance, if_pos hnull]
      exact ih hnulls
    | false =>
      rw [List.filter_cons_of_pos (by simp [hnull])] at hnulls
      cases hnulls

/-- **Without a document in front of it, the failure is next, and the splitter has failed.** -/
theorem Reads.next_fault {fault : SplitFault ε ω}
    (h : Reads scribe found stream values [] (some fault)) :
    ∃ rest, advance scribe found stream = (some (.error fault), ⟨rest, found, true⟩) := by
  obtain ⟨⟨rest, rfl, hends⟩, hwritten⟩ := h
  rw [advance_nulls (List.map_eq_nil_iff.mp hwritten)]
  cases hends with
  | stream cause rest => exact ⟨rest, rfl⟩
  | normalize rest hnull hwrite =>
    refine ⟨rest, ?_⟩
    rw [advance, if_neg (by simp [hnull]), hwrite]
    rfl

/-- **Without a document in front of it, the end is next.** -/
theorem Reads.next_end (h : Reads scribe found stream values [] none) :
    advance scribe found stream = (none, ⟨[], found, false⟩) := by
  obtain ⟨⟨rest, rfl, hends⟩, hwritten⟩ := h
  rw [advance_nulls (List.map_eq_nil_iff.mp hwritten)]
  cases hends
  rfl

/-! ## Any number of calls -/

theorem calls_of_failed {s : Splitter ε ν} (hs : s.failed = true) (n : Nat) :
    calls scribe n s = (List.replicate n none, s) := by
  induction n with
  | zero => rfl
  | succ n ih =>
    have hnext : s.next scribe = (none, s) := if_pos hs
    rw [calls, hnext, ih]
    rfl

/-- **The answers are the documents in front of the first failure, the failure, and then nothing.** -/
theorem answers_calls (h : Reads scribe found stream values texts fault?) (n : Nat) :
    (calls scribe n ⟨stream, found, false⟩).1 =
      (List.range n).map fun k => (outputs found texts fault?)[k]? := by
  induction n generalizing found stream values texts with
  | zero => rfl
  | succ n ih =>
    have hnext : next scribe ⟨stream, found, false⟩ = advance scribe found stream := rfl
    rw [calls, hnext, List.range_succ_eq_map, List.map_cons, List.map_map]
    cases texts with
    | cons text texts =>
      obtain ⟨rest, values', hadvance, hrest⟩ := h.next_document
      rw [hadvance, outputs_cons]
      exact congrArg (_ :: ·) (ih hrest)
    | nil =>
      cases fault? with
      | none =>
        -- behind the end there is nothing to read, again and again
        rw [h.next_end]
        exact congrArg (_ :: ·) (ih (.ofEnds .done))
      | some fault =>
        obtain ⟨rest, hadvance⟩ := h.next_fault
        rw [hadvance, calls_of_failed rfl]
        refine congrArg (_ :: ·) ?_
        refine (List.eq_replicate_iff.mpr ⟨by simp, ?_⟩).symm
        intro answer hanswer
        obtain ⟨k, -, rfl⟩ := List.mem_map.mp hanswer
        rfl

theorem yielded_next (s : Splitter ε ν) : (s.next scribe).2.yielded =
    s.yielded + if isDocument (s.next scribe).1 then 1 else 0 := by
  by_cases hs : s.failed = true
  · have hnext : s.next scribe = (none, s) := if_pos hs
    rw [hnext]
    rfl
  · have hnext : s.next scribe = advance scribe s.yielded s.rest := if_neg hs
    obtain ⟨values, texts, fault?, h⟩ := exists_reads scribe s.rest s.yielded
    rw [hnext]
    cases texts with
    | cons text texts =>
      obtain ⟨rest, values', hadvance, -⟩ := h.next_document
      rw [hadvance]
      rfl
    | nil =>
      cases fault? with
      | none =>
        rw [h.next_end]
        rfl
      | some fault =>
        obtain ⟨rest, hadvance⟩ := h.next_fault
        rw [hadvance]
        rfl

/-- **After any number of calls, the documents among the answers were counted.** -/
theorem yielded_calls (n : Nat) (s : Splitter ε ν) : (calls scribe n s).2.yielded =
    s.yielded + (calls scribe n s).1.countP isDocument := by
  induction n generalizing s with
  | zero => rfl
  | succ n ih =>
    rw [calls, ih, yielded_next, List.countP_cons]
    omega

/-! ## All documents -/

theorem items_of_next {s s' : Splitter ε ν} {item : Except (SplitFault ε ω) Document}
    (h : s.next scribe = (some item, s')) : s.items scribe = (item, s') :: s'.items scribe := by
  rw [items]
  split
  · rename_i hnone
    rw [h] at hnone
    cases hnone
  · rename_i hsome
    rw [h] at hsome
    cases hsome
    rfl

theorem items_of_none {s s' : Splitter ε ν} (h : s.next scribe = (none, s')) :
    s.items scribe = [] := by
  rw [items]
  split
  · rfl
  · rename_i hsome
    rw [h] at hsome
    cases hsome

/-- **All documents are found, or the fault that comes behind them.** -/
theorem documents_of_reads (h : Reads scribe found stream values texts fault?) :
    documents scribe ⟨stream, found, false⟩ = outcome found texts fault? := by
  unfold documents
  have hnext : next scribe ⟨stream, found, false⟩ = advance scribe found stream := rfl
  induction texts generalizing found stream values with
  | cons text texts ih =>
    obtain ⟨rest, values', hadvance, hrest⟩ := h.next_document
    rw [items_of_next (hnext.trans hadvance), List.mapM_cons, ih hrest rfl]
    cases fault? <;> rfl
  | nil =>
    cases fault? with
    | none =>
      rw [items_of_none (hnext.trans h.next_end)]
      rfl
    | some fault =>
      obtain ⟨rest, hadvance⟩ := h.next_fault
      rw [items_of_next (hnext.trans hadvance)]
      rfl

/-- Nulls may stand anywhere: with them or without, the answers and the documents are the same. -/
theorem calls_dropNulls (scribe : Scribe ν ω) (stream : List (Except ε ν)) :
    (∀ n, (calls scribe n (.start (dropNulls scribe stream))).1 =
      (calls scribe n (.start stream)).1) ∧
    documents scribe (.start (dropNulls scribe stream)) = documents scribe (.start stream) := by
  obtain ⟨values, texts, fault?, h⟩ := exists_reads scribe stream 0
  constructor
  · intro n
    exact (answers_calls h.dropNulls n).trans (answers_calls h n).symm
  · exact (documents_of_reads h.dropNulls).trans (documents_of_reads h).symm

end Splitter

theorem splitDocuments_of_reads {bundle : Bytes} {values : List Yaml.Value} {texts : List Bytes}
    {fault? : Option (SplitFault Yaml.Fault Yaml.WriteFault)}
    (h : Splitter.Reads scribe 0 (stream bundle) values texts fault?) :
    splitDocuments bundle = (Splitter.outcome 0 texts fault?).mapError SplitFault.toReadError := by
  have hfound : (splitter bundle).documents scribe = _ := Splitter.documents_of_reads h
  unfold splitDocuments
  rw [hfound]
  cases fault? <;> rfl

open Splitter in
/-- **A splitter answers the documents in front of the first failure, numbered from one, then the
failure, and then nothing.**  What it has counted are the documents it has answered.  There are all
documents just if there is no failure, and nulls do not matter. -/
theorem splitter_answers {ε ν ω : Type} (scribe : Scribe ν ω) (stream : List (Except ε ν))
    (bundle : Bytes) :
    (∃ values texts fault?, Reads scribe 0 stream values texts fault? ∧
      (∀ n, (calls scribe n (.start stream)).1 =
        (List.range n).map fun k => (outputs 0 texts fault?)[k]?) ∧
      (∀ n, (calls scribe n (.start stream)).2.yielded =
        (calls scribe n (.start stream)).1.countP isDocument) ∧
      documents scribe (.start stream) = outcome 0 texts fault?) ∧
    (∀ other, dropNulls scribe other = dropNulls scribe stream →
      (∀ n, (calls scribe n (.start other)).1 = (calls scribe n (.start stream)).1) ∧
      documents scribe (.start other) = documents scribe (.start stream)) ∧
    ∃ values texts fault?, Reads Bundle.scribe 0 (Bundle.stream bundle) values texts fault? ∧
      splitDocuments bundle = (outcome 0 texts fault?).mapError SplitFault.toReadError := by
  refine ⟨?_, ?_, ?_⟩
  · obtain ⟨values, texts, fault?, h⟩ := exists_reads scribe stream 0
    refine ⟨values, texts, fault?, h, answers_calls h, ?_, documents_of_reads h⟩
    intro n
    rw [yielded_calls]
    exact Nat.zero_add _
  · intro other hother
    obtain ⟨hanswers, hdocuments⟩ := calls_dropNulls scribe stream
    obtain ⟨hanswers', hdocuments'⟩ := calls_dropNulls scribe other
    rw [hother] at hanswers' hdocuments'
    exact ⟨fun n => (hanswers' n).symm.trans (hanswers n), hdocuments'.symm.trans hdocuments⟩
  · obtain ⟨values, texts, fault?, h⟩ := exists_reads Bundle.scribe (Bundle.stream bundle) 0
    exact ⟨values, texts, fault?, h, splitDocuments_of_reads h⟩

/-- **The documents of a bundle are numbered from one.** -/
theorem index_splitDocuments {bundle : Bytes} {found : List Document}
    (h : splitDocuments bundle = .ok found) :
    found.map (·.index) = List.range' 1 found.length := by
  unfold splitDocuments at h
  split at h
  · cases h
    exact Splitter.index_documents (splitter bundle) ‹_›
  · cases h

end BundleInstaller.Bundle
