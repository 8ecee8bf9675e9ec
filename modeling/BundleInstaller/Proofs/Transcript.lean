import BundleInstaller.Program

/-!
# Transcripts of programs

A program that is carried out leaves a transcript: the calls that it makes, each with its answer.
`p.Yields log a` says that `p` makes just the calls of `log` and ends with `a` if they are answered
as in `log`; no handler is named, so what holds for every such `log` holds in every world.
`p.Leaves log q` says the same of a program that is not carried out to its end: `q` is what is left
of it.  `p.Asks P` says that `p` never makes a call outside `P`, whatever it is told.

* `yields_transcript`: carrying a program out yields its transcript.
* `Leaves.yields`, `exists_yields`: what is left of a program can be carried out to its end.
* `Asks.of_yields`: every call of a transcript is one that the program may make.
* `Asks.preserves`: what every call that a program may make keeps, the whole run keeps.
-/

namespace BundleInstaller

/-- A call with its answer. -/
abbrev Answered (C : Type) (Answer : C → Type) := (c : C) × Answer c

namespace Program

variable {C : Type} {Answer : C → Type} {α β σ : Type}

/-! ## Logs -/

/-- Answered as in the log, the program makes the calls of the log and ends with the result. -/
inductive Yields : Program C Answer α → List (Answered C Answer) → α → Prop
  | done (a : α) : Yields (done a) [] a
  | ask {c : C} {next : Answer c → Program C Answer α} {answer : Answer c}
      {log : List (Answered C Answer)} {a : α} (h : Yields (next answer) log a) :
      Yields (ask c next) (⟨c, answer⟩ :: log) a

theorem yields_done_iff {a b : α} {log : List (Answered C Answer)} :
    (done a : Program C Answer α).Yields log b ↔ log = [] ∧ b = a := by
  constructor
  · intro h
    cases h
    exact ⟨rfl, rfl⟩
  · rintro ⟨rfl, rfl⟩
    exact .done b

theorem yields_ask_iff {c : C} {next : Answer c → Program C Answer α} {b : α}
    {log : List (Answered C Answer)} :
    (ask c next).Yields log b ↔
      ∃ answer rest, log = ⟨c, answer⟩ :: rest ∧ (next answer).Yields rest b := by
  constructor
  · intro h
    cases h with
    | ask h => exact ⟨_, _, rfl, h⟩
  · rintro ⟨answer, rest, rfl, h⟩
    exact .ask h

theorem yields_call_bind_iff {c : C} {f : Answer c → Program C Answer β} {b : β}
    {log : List (Answered C Answer)} :
    (call c >>= f).Yields log b ↔
      ∃ answer rest, log = ⟨c, answer⟩ :: rest ∧ (f answer).Yields rest b := yields_ask_iff

theorem Yields.unique {p : Program C Answer α} {log : List (Answered C Answer)} {a b : α}
    (ha : p.Yields log a) (hb : p.Yields log b) : a = b := by
  induction ha with
  | done a => exact (yields_done_iff.mp hb).2.symm
  | ask ha ih =>
    cases hb with
    | ask hb => exact ih hb

/-- A log of two programs, one after the other, is a log of each. -/
theorem yields_bind_iff {p : Program C Answer α} {f : α → Program C Answer β} {b : β} :
    ∀ {log : List (Answered C Answer)}, (p >>= f).Yields log b ↔
      ∃ before a after, log = before ++ after ∧ p.Yields before a ∧ (f a).Yields after b := by
  induction p with
  | done a =>
    intro log
    simp only [done_bind, yields_done_iff]
    constructor
    · intro h
      exact ⟨[], a, log, rfl, ⟨rfl, rfl⟩, h⟩
    · rintro ⟨_, _, after, rfl, ⟨rfl, rfl⟩, h⟩
      exact h
  | ask c next ih =>
    intro log
    simp only [ask_bind, yields_ask_iff]
    constructor
    · rintro ⟨answer, rest, rfl, h⟩
      obtain ⟨before, a, after, rfl, hp, hf⟩ := (ih answer).mp h
      exact ⟨⟨c, answer⟩ :: before, a, after, rfl, ⟨answer, before, rfl, hp⟩, hf⟩
    · rintro ⟨_, a, after, rfl, ⟨answer, before, rfl, hp⟩, hf⟩
      exact ⟨answer, before ++ after, rfl, (ih answer).mpr ⟨before, a, after, rfl, hp, hf⟩⟩

/-! ## Beginnings of logs -/

/-- Answered as in the log, the program makes the calls of the log, and then the other program is
what is left of it. -/
inductive Leaves : Program C Answer α → List (Answered C Answer) → Program C Answer α → Prop
  | refl (p : Program C Answer α) : Leaves p [] p
  | ask {c : C} {next : Answer c → Program C Answer α} {answer : Answer c}
      {log : List (Answered C Answer)} {q : Program C Answer α}
      (h : Leaves (next answer) log q) : Leaves (ask c next) (⟨c, answer⟩ :: log) q

theorem Leaves.yields {p q : Program C Answer α} {log rest : List (Answered C Answer)} {a : α}
    (h : p.Leaves log q) (hq : q.Yields rest a) : p.Yields (log ++ rest) a := by
  induction h with
  | refl p => exact hq
  | ask h ih => exact .ask (ih hq)

theorem Leaves.yields_done {p : Program C Answer α} {log : List (Answered C Answer)} {a : α}
    (h : p.Leaves log (done a)) : p.Yields log a := by
  rw [← List.append_nil log]
  exact h.yields (.done a)

theorem exists_yields (hanswer : ∀ c, Nonempty (Answer c)) (p : Program C Answer α) :
    ∃ log a, p.Yields log a := by
  induction p with
  | done a => exact ⟨[], a, .done a⟩
  | ask c next ih =>
    obtain ⟨answer⟩ := hanswer c
    obtain ⟨log, a, h⟩ := ih answer
    exact ⟨⟨c, answer⟩ :: log, a, .ask h⟩

/-! ## Carrying a program out -/

theorem run_ask (handle : (c : C) → StateM σ (Answer c)) (c : C)
    (next : Answer c → Program C Answer α) (s : σ) :
    (ask c next).run handle s = (next (handle c s).1).run handle (handle c s).2 := rfl

theorem run_bind_apply (handle : (c : C) → StateM σ (Answer c)) (p : Program C Answer α)
    (f : α → Program C Answer β) (s : σ) :
    (p >>= f).run handle s = (f (p.run handle s).1).run handle (p.run handle s).2 := by
  rw [run_bind]
  rfl

/-- The calls of a program that is carried out, with their answers. -/
def transcript (handle : (c : C) → StateM σ (Answer c)) :
    Program C Answer α → σ → List (Answered C Answer)
  | done _, _ => []
  | ask c next, s => ⟨c, (handle c s).1⟩ :: transcript handle (next (handle c s).1) (handle c s).2

theorem transcript_bind (handle : (c : C) → StateM σ (Answer c)) (p : Program C Answer α)
    (f : α → Program C Answer β) (s : σ) :
    (p >>= f).transcript handle s =
      p.transcript handle s ++ (f (p.run handle s).1).transcript handle (p.run handle s).2 := by
  induction p generalizing s with
  | done a => rfl
  | ask c next ih =>
    rw [ask_bind, transcript, transcript, run_ask, ih, List.cons_append]

/-- A program whose calls are carried out by programs is carried out in the world that these make. -/
theorem run_run {D : Type} {Reply : D → Type} (inner : (c : C) → Program D Reply (Answer c))
    (world : (d : D) → StateM σ (Reply d)) (p : Program C Answer α) :
    (p.run inner).run world = p.run fun c => (inner c).run world := by
  induction p with
  | done a => rfl
  | ask c next ih =>
    rw [run, run_bind, run]
    congr 1
    funext answer
    exact ih answer

/-- **Carrying a program out yields its transcript.** -/
theorem yields_transcript (handle : (c : C) → StateM σ (Answer c)) (p : Program C Answer α) :
    ∀ s, p.Yields (p.transcript handle s) (p.run handle s).1 := by
  induction p with
  | done a => exact fun _ => .done a
  | ask c next ih => exact fun s => .ask (ih (handle c s).1 (handle c s).2)

/-! ## Calls that a program may make -/

/-- Whatever it is told, the program makes no calls but those of `P`. -/
def Asks (P : C → Prop) : Program C Answer α → Prop
  | done _ => True
  | ask c next => P c ∧ ∀ answer, Asks P (next answer)

namespace Asks

variable {P Q : C → Prop} {p : Program C Answer α}

theorem mono (hPQ : ∀ c, P c → Q c) (h : p.Asks P) : p.Asks Q := by
  induction p with
  | done a => trivial
  | ask c next ih => exact ⟨hPQ c h.1, fun answer => ih answer (h.2 answer)⟩

theorem bind {f : α → Program C Answer β} (h : p.Asks P) (hf : ∀ a, (f a).Asks P) :
    (p >>= f).Asks P := by
  induction p with
  | done a => exact hf a
  | ask c next ih => exact ⟨h.1, fun answer => ih answer (h.2 answer)⟩

theorem of_yields {log : List (Answered C Answer)} {a : α} (h : p.Asks P) (hy : p.Yields log a) :
    ∀ x ∈ log, P x.1 := by
  induction hy with
  | done a => exact fun x hx => absurd hx List.not_mem_nil
  | ask hy ih =>
    intro x hx
    rcases List.mem_cons.mp hx with rfl | hx
    · exact h.1
    · exact ih (h.2 _) x hx

/-- **A run keeps what each call that the program may make keeps.** -/
theorem preserves {I : σ → Prop} {handle : (c : C) → StateM σ (Answer c)}
    (hI : ∀ c, P c → ∀ s, I s → I (handle c s).2) (h : p.Asks P) :
    ∀ s, I s → I (p.run handle s).2 := by
  induction p with
  | done a => exact fun s hs => hs
  | ask c next ih =>
    intro s hs
    rw [run_ask]
    exact ih _ (h.2 _) _ (hI c h.1 s hs)

end Asks
end Program
end BundleInstaller
