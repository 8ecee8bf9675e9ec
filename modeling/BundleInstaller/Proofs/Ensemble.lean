import BundleInstaller.Cluster.Memory
import BundleInstaller.Proofs.Accounting
import Mathlib.Algebra.BigOperators.Group.Finset.Piecewise
import Mathlib.Logic.Function.Basic

/-!
# Plans that are carried out side by side

An `Ensemble` is a family of plans that share one cluster in memory.  A turn is one call of one of
them, and any list of turns may be played, so that the lists of turns are the interleavings of the
plans.  Bundles and overlays come from outside the cluster: each turn says what they are at its
time.

What is played leaves a log that says who made which call, and how it was answered.  Nothing else
has to be known of an interleaving than two facts about its log:

* `leaves_play`: each plan makes its own calls in the log, answered as they are there.
* `answers_play`, `through_play`: the cluster answers all calls of the log, one after another.

No plan waits for another one: `exists_result`.
-/

namespace BundleInstaller

open Cluster Install Program

/-! ## Answers of the cluster -/

namespace Cluster.Memory

/-- The cluster after a call. -/
def afterCall (m : Memory) : Install.Call → Memory
  | .cluster c => (m.answer c).2
  | _ => m

/-- The cluster after the calls of a log. -/
def through (m : Memory) (log : Log) : Memory := log.foldl (fun m x => m.afterCall x.1) m

/-- Whether an answer is the one that the cluster gives, if the call is one to the cluster. -/
def Gives (m : Memory) : Answered Install.Call Install.Call.Answer → Prop
  | ⟨.cluster c, answer⟩ => answer = (m.answer c).1
  | _ => True

/-- The cluster answers the calls of a log one after another. -/
def Answers : Memory → Log → Prop
  | _, [] => True
  | m, x :: log => m.Gives x ∧ (m.afterCall x.1).Answers log

@[simp] theorem through_nil (m : Memory) : m.through [] = m := rfl

@[simp] theorem through_cons (m : Memory) (x : Answered Install.Call Install.Call.Answer)
    (log : Log) : m.through (x :: log) = (m.afterCall x.1).through log := rfl

theorem through_append (m : Memory) (l₁ l₂ : Log) :
    m.through (l₁ ++ l₂) = (m.through l₁).through l₂ := List.foldl_append

theorem answers_append {m : Memory} {l₁ l₂ : Log} :
    m.Answers (l₁ ++ l₂) ↔ m.Answers l₁ ∧ (m.through l₁).Answers l₂ := by
  induction l₁ generalizing m with
  | nil => simp [Answers]
  | cons x l₁ ih => rw [List.cons_append, Answers, Answers, ih, through_cons, and_assoc]

end Cluster.Memory

namespace Install

/-! ## Logs of several plans -/

/-- Calls with their answers, and who made them. -/
abbrev SharedLog (ι : Type) := List (ι × Answered Call Call.Answer)

namespace SharedLog

variable {ι : Type}

/-- All calls, whoever made them. -/
def calls (log : SharedLog ι) : Log := log.map (·.2)

@[simp] theorem calls_append (l₁ l₂ : SharedLog ι) : calls (l₁ ++ l₂) = l₁.calls ++ l₂.calls :=
  List.map_append

@[simp] theorem calls_cons (x : ι × Answered Call Call.Answer) (log : SharedLog ι) :
    calls (x :: log) = x.2 :: log.calls := rfl

variable [DecidableEq ι]

/-- The calls that one of them made. -/
def of (k : ι) (log : SharedLog ι) : Log := (log.filter (·.1 = k)).map (·.2)

@[simp] theorem of_append (k : ι) (l₁ l₂ : SharedLog ι) : of k (l₁ ++ l₂) = l₁.of k ++ l₂.of k := by
  rw [of, List.filter_append, List.map_append]
  rfl

@[simp] theorem of_cons_self (k : ι) (x : Answered Call Call.Answer) (log : SharedLog ι) :
    of k ((k, x) :: log) = x :: log.of k := by
  simp [of]

theorem of_cons_of_ne {k j : ι} (h : j ≠ k) (x : Answered Call Call.Answer) (log : SharedLog ι) :
    of k ((j, x) :: log) = log.of k := by
  simp [of, h]

theorem split_of {k : ι} {log : SharedLog ι} {before after : Log}
    {x : Answered Call Call.Answer} (h : log.of k = before ++ x :: after) :
    ∃ b a : SharedLog ι, log = b ++ (k, x) :: a ∧ b.of k = before ∧ a.of k = after := by
  induction log generalizing before with
  | nil => exact absurd h.symm (List.append_ne_nil_of_right_ne_nil _ (List.cons_ne_nil _ _))
  | cons y log ih =>
    obtain ⟨j, y⟩ := y
    by_cases hj : j = k
    · subst hj
      rw [of_cons_self] at h
      cases before with
      | nil =>
        obtain ⟨rfl, hrest⟩ := List.cons.inj h
        exact ⟨[], log, rfl, rfl, hrest⟩
      | cons z before =>
        obtain ⟨rfl, hrest⟩ := List.cons.inj h
        obtain ⟨b, a, rfl, rfl, hafter⟩ := ih hrest
        exact ⟨(j, y) :: b, a, rfl, of_cons_self _ _ _, hafter⟩
    · rw [of_cons_of_ne hj] at h
      obtain ⟨b, a, rfl, rfl, hafter⟩ := ih h
      exact ⟨(j, y) :: b, a, rfl, of_cons_of_ne hj _ _, hafter⟩

/-- What is counted in the calls of everyone is counted in all calls. -/
theorem sum_of [Fintype ι] {β : Type} (f : Answered Call Call.Answer → Option β)
    (log : SharedLog ι) :
    ∑ k, ((log.of k).filterMap f).length = (log.calls.filterMap f).length := by
  induction log with
  | nil => simp [of, calls]
  | cons x log ih =>
    obtain ⟨j, x⟩ := x
    have hcount : ∀ k, ((of k ((j, x) :: log)).filterMap f).length =
        ((of k log).filterMap f).length + if k = j then (f x).toList.length else 0 := by
      intro k
      by_cases hk : j = k
      · subst hk
        rw [of_cons_self, List.filterMap_cons]
        cases f x <;> simp
      · rw [of_cons_of_ne hk, if_neg (Ne.symm hk), Nat.add_zero]
    rw [Finset.sum_congr rfl fun k _ => hcount k, Finset.sum_add_distrib, ih,
      Finset.sum_ite_eq' Finset.univ j, if_pos (Finset.mem_univ j), calls_cons,
      List.filterMap_cons]
    cases f x <;> simp

end SharedLog

/-! ## Ensembles -/

/-- A turn: whose it is, and what a bundle that is fetched and an overlay that is built would be. -/
structure Turn (ι : Type) where
  who : ι
  fetch : String → Except FetchError Bytes
  build : Bytes → Except Overlay.BuildError Bytes

/-- Some turns in a row, in each of which a bundle would be what is fetched. -/
def turnsOf {ι : Type} (who : ι) (bundle : Bytes) (n : Nat) : List (Turn ι) :=
  List.replicate n ⟨who, fun _ => .ok bundle, .ok⟩

/-- What a call is answered with in a turn. -/
def Turn.reply {ι : Type} (t : Turn ι) (m : Memory) : (c : Call) → c.Answer
  | .fetch url => t.fetch url
  | .build descriptor => t.build descriptor
  | .cluster c => (m.answer c).1
  | .note _ => ()

theorem Turn.gives_reply {ι : Type} (t : Turn ι) (m : Memory) (c : Call) :
    m.Gives ⟨c, t.reply m c⟩ := by
  cases c with
  | cluster c => exact rfl
  | _ => trivial

/-- Plans that are carried out side by side, and the cluster that they share. -/
structure Ensemble (ι α : Type) where
  plans : ι → Plan α
  cluster : Memory

namespace Ensemble

variable {ι α : Type} [DecidableEq ι]

/-- The plan whose turn it is makes one call; a plan that has come to its end does nothing. -/
def turn (s : Ensemble ι α) (t : Turn ι) : Ensemble ι α :=
  match s.plans t.who with
  | .done _ => s
  | .ask c next =>
    ⟨Function.update s.plans t.who (next (t.reply s.cluster c)), s.cluster.afterCall c⟩

/-- The plans make their calls in these turns. -/
def play (s : Ensemble ι α) (turns : List (Turn ι)) : Ensemble ι α := turns.foldl turn s

def log (s : Ensemble ι α) : List (Turn ι) → SharedLog ι
  | [] => []
  | t :: turns =>
    match s.plans t.who with
    | .done _ => log s turns
    | .ask c _ => (t.who, ⟨c, t.reply s.cluster c⟩) :: log (s.turn t) turns

/-- The result of a plan that has come to its end. -/
def result? (s : Ensemble ι α) (k : ι) : Option α :=
  match s.plans k with
  | .done a => some a
  | .ask _ _ => none

theorem turn_of_done {s : Ensemble ι α} {t : Turn ι} {a : α} (h : s.plans t.who = done a) :
    s.turn t = s := by
  unfold turn
  rw [h]

theorem turn_of_ask {s : Ensemble ι α} {t : Turn ι} {c : Call} {next : c.Answer → Plan α}
    (h : s.plans t.who = .ask c next) :
    s.turn t =
      ⟨Function.update s.plans t.who (next (t.reply s.cluster c)), s.cluster.afterCall c⟩ := by
  unfold turn
  rw [h]

theorem plans_turn_self {s : Ensemble ι α} {t : Turn ι} {c : Call} {next : c.Answer → Plan α}
    (h : s.plans t.who = .ask c next) : (s.turn t).plans t.who = next (t.reply s.cluster c) := by
  rw [turn_of_ask h]
  exact Function.update_self _ _ _

theorem plans_turn_of_ne {s : Ensemble ι α} {t : Turn ι} {k : ι} (h : t.who ≠ k) :
    (s.turn t).plans k = s.plans k := by
  cases hplan : s.plans t.who with
  | done a => rw [turn_of_done hplan]
  | ask c next =>
    rw [turn_of_ask hplan]
    exact Function.update_of_ne (Ne.symm h) _ _

theorem log_of_done {s : Ensemble ι α} {t : Turn ι} {turns : List (Turn ι)} {a : α}
    (h : s.plans t.who = done a) : s.log (t :: turns) = s.log turns := by
  rw [log, h]

theorem log_of_ask {s : Ensemble ι α} {t : Turn ι} {turns : List (Turn ι)} {c : Call}
    {next : c.Answer → Plan α} (h : s.plans t.who = .ask c next) :
    s.log (t :: turns) = (t.who, ⟨c, t.reply s.cluster c⟩) :: (s.turn t).log turns := by
  rw [log, h]

/-- **Each plan makes its own calls**, answered as they are in the log. -/
theorem leaves_play (s : Ensemble ι α) (turns : List (Turn ι)) (k : ι) :
    (s.plans k).Leaves ((s.log turns).of k) ((s.play turns).plans k) := by
  induction turns generalizing s with
  | nil => exact .refl _
  | cons t turns ih =>
    show (s.plans k).Leaves _ (((s.turn t).play turns).plans k)
    cases hplan : s.plans t.who with
    | done a =>
      rw [log_of_done hplan, turn_of_done hplan]
      exact ih s
    | ask c next =>
      have hrest := ih (s.turn t)
      rw [log_of_ask hplan]
      by_cases hk : t.who = k
      · subst hk
        rw [plans_turn_self hplan] at hrest
        rw [SharedLog.of_cons_self, hplan]
        exact .ask hrest
      · rw [plans_turn_of_ne hk] at hrest
        rwa [SharedLog.of_cons_of_ne hk]

/-- A plan that has come to its end made its calls and got to its result by them. -/
theorem yields_of_result? {s : Ensemble ι α} {turns : List (Turn ι)} {k : ι} {a : α}
    (h : (s.play turns).result? k = some a) : (s.plans k).Yields ((s.log turns).of k) a := by
  have hleaves := s.leaves_play turns k
  unfold result? at h
  split at h
  · rename_i hdone
    cases h
    rw [hdone] at hleaves
    exact hleaves.yields_done
  · cases h

/-- **The cluster answers all calls, one after another.** -/
theorem answers_play (s : Ensemble ι α) (turns : List (Turn ι)) :
    s.cluster.Answers (s.log turns).calls := by
  induction turns generalizing s with
  | nil => trivial
  | cons t turns ih =>
    cases hplan : s.plans t.who with
    | done a =>
      rw [log_of_done hplan]
      exact ih s
    | ask c next =>
      rw [log_of_ask hplan, SharedLog.calls_cons]
      refine ⟨t.gives_reply _ _, ?_⟩
      have hrest := ih (s.turn t)
      rwa [turn_of_ask hplan] at hrest ⊢

theorem through_play (s : Ensemble ι α) (turns : List (Turn ι)) :
    s.cluster.through (s.log turns).calls = (s.play turns).cluster := by
  induction turns generalizing s with
  | nil => rfl
  | cons t turns ih =>
    show _ = ((s.turn t).play turns).cluster
    rw [← ih]
    cases hplan : s.plans t.who with
    | done a => rw [log_of_done hplan, turn_of_done hplan]
    | ask c next =>
      rw [log_of_ask hplan, turn_of_ask hplan]
      rfl

theorem play_append (s : Ensemble ι α) (turns more : List (Turn ι)) :
    s.play (turns ++ more) = (s.play turns).play more := List.foldl_append

theorem log_append (s : Ensemble ι α) (turns more : List (Turn ι)) :
    s.log (turns ++ more) = s.log turns ++ (s.play turns).log more := by
  induction turns generalizing s with
  | nil => rfl
  | cons t turns ih =>
    show s.log (t :: (turns ++ more)) = _ ++ ((s.turn t).play turns).log more
    cases hplan : s.plans t.who with
    | done a =>
      rw [log_of_done hplan, log_of_done hplan, turn_of_done hplan]
      exact ih s
    | ask c next =>
      rw [log_of_ask hplan, log_of_ask hplan, ih, List.cons_append]

theorem length_log_le (s : Ensemble ι α) (turns : List (Turn ι)) :
    (s.log turns).length ≤ turns.length := by
  induction turns generalizing s with
  | nil => exact Nat.le_refl _
  | cons t turns ih =>
    cases hplan : s.plans t.who with
    | done a =>
      rw [log_of_done hplan]
      exact Nat.le_succ_of_le (ih s)
    | ask c next =>
      rw [log_of_ask hplan]
      exact Nat.succ_le_succ (ih _)

/-- **A plan comes to its end by its own turns**, whatever the others are doing. -/
theorem exists_result (s : Ensemble ι α) (k : ι) :
    ∃ more : List (Turn ι), (∀ t ∈ more, t.who = k) ∧ ((s.play more).result? k).isSome := by
  induction hplan : s.plans k generalizing s with
  | done a =>
    refine ⟨[], fun t ht => absurd ht List.not_mem_nil, ?_⟩
    show (s.result? k).isSome
    rw [result?, hplan]
    rfl
  | ask c next ih =>
    let t : Turn ι := ⟨k, fun _ => .ok [], .ok⟩
    obtain ⟨more, hmore, hend⟩ := ih (t.reply s.cluster c) (s.turn t) (plans_turn_self hplan)
    refine ⟨t :: more, fun t' ht' => ?_, hend⟩
    rcases List.mem_cons.mp ht' with rfl | ht'
    · rfl
    · exact hmore t' ht'

end Ensemble
end Install
end BundleInstaller
