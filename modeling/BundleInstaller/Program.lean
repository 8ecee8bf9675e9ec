/-!
# Programs that ask

A `Program` asks the world around it for things, one after another, and goes on with the answers.
It is a value: what it asks for can be looked at, and `Program.run` carries it out with any
handler of its calls.  `C` is what it may ask, and `Answer c` is what it gets for the call `c`.
-/

namespace BundleInstaller

/-- A program that asks for things and ends with a result. -/
inductive Program (C : Type) (Answer : C → Type) (α : Type) where
  | done (result : α)
  | ask (call : C) (next : Answer call → Program C Answer α)

namespace Program

variable {C : Type} {Answer : C → Type} {α β γ : Type}

def bind : Program C Answer α → (α → Program C Answer β) → Program C Answer β
  | done a, f => f a
  | ask call next, f => ask call fun answer => bind (next answer) f

instance : Monad (Program C Answer) where
  pure := done
  bind := bind

def call (c : C) : Program C Answer (Answer c) := ask c done

/-- Carries a program out; `handle` answers its calls. -/
def run {m : Type → Type} [Monad m] (handle : (c : C) → m (Answer c)) : Program C Answer α → m α
  | done a => pure a
  | ask call next => do
    let answer ← handle call
    run handle (next answer)

@[simp] theorem pure_eq (a : α) : (pure a : Program C Answer α) = done a := rfl

@[simp] theorem done_bind (a : α) (f : α → Program C Answer β) : (done a >>= f) = f a := rfl

@[simp] theorem ask_bind (c : C) (next : Answer c → Program C Answer α)
    (f : α → Program C Answer β) : (ask c next >>= f) = ask c fun answer => next answer >>= f := rfl

theorem bind_done (p : Program C Answer α) : (p >>= done) = p := by
  induction p with
  | done a => rfl
  | ask c next ih => simp only [ask_bind, ih]

theorem bind_assoc (p : Program C Answer α) (f : α → Program C Answer β)
    (g : β → Program C Answer γ) : (p >>= f >>= g) = (p >>= fun a => f a >>= g) := by
  induction p with
  | done a => rfl
  | ask c next ih => simp only [ask_bind, ih]

instance : LawfulMonad (Program C Answer) :=
  LawfulMonad.mk' _ bind_done (fun _ _ => rfl) bind_assoc

theorem run_bind {m : Type → Type} [Monad m] [LawfulMonad m] (handle : (c : C) → m (Answer c))
    (p : Program C Answer α) (f : α → Program C Answer β) :
    (p >>= f).run handle = (p.run handle >>= fun a => (f a).run handle) := by
  induction p with
  | done a => simp [run]
  | ask c next ih => simp [run, ih]

end Program
end BundleInstaller
