/-!
# Punycode

Punycode writes a label with any characters in ASCII: first the ASCII characters as they are, then
the others in ascending order, each as the number of steps from the one before it.  A step goes to
the next place in the label, and from the last place to the next character.  The numbers are
written with digits whose base shifts with the numbers seen before.
-/

namespace BundleInstaller.Url.Punycode

/-- The first character that is no ASCII. -/
def firstCode : Nat := 128

/-- The bias before the first number. -/
def firstBias : Nat := 72

def digitChar (d : Nat) : Char := Char.ofNat (if d < 26 then d + 97 else d + 22)

def digit? (c : Char) : Option Nat :=
  let n := c.toNat
  if 97 ≤ n ∧ n ≤ 122 then some (n - 97)
  else if 48 ≤ n ∧ n ≤ 57 then some (n - 22)
  else none

/-- From which value on the digit at weight `k` is not the last one. -/
def threshold (k bias : Nat) : Nat :=
  if k ≤ bias then 1 else if bias + 26 ≤ k then 26 else k - bias

theorem threshold_pos (k bias : Nat) : 1 ≤ threshold k bias := by
  unfold threshold
  split
  · exact Nat.le_refl 1
  · split <;> omega

/-- Divides until the rest is small; `k` is the weight so far. -/
def shrink (k delta : Nat) : Nat :=
  if 455 < delta then shrink (k + 36) (delta / 35) else k + 36 * delta / (delta + 38)
termination_by delta
decreasing_by exact Nat.div_lt_self (by omega) (by omega)

/-- The bias after a number; `count` characters stand in the label with the one it is for. -/
def adapt (delta count : Nat) (isFirst : Bool) : Nat :=
  let delta := if isFirst then delta / 700 else delta / 2
  shrink 0 (delta + delta / count)

/-! ## Writing -/

/-- A number in digits from weight `k` on. -/
def numberText (bias k n : Nat) : List Char :=
  let t := threshold k bias
  if n < t then [digitChar n]
  else digitChar (t + (n - t) % (36 - t)) :: numberText bias (k + 36) ((n - t) / (36 - t))
termination_by n
decreasing_by
  have := threshold_pos k bias
  have := Nat.div_le_self (n - threshold k bias) (36 - threshold k bias)
  omega

/-- A label that is being written. -/
structure Writer where
  out : List Char
  /-- The steps since the last number. -/
  delta : Nat
  bias : Nat
  count : Nat

/-- Goes past one character of the label on the way to the occurrences of `code`; `basic`
characters are ASCII. -/
def Writer.pass (basic code : Nat) (w : Writer) (c : Char) : Writer :=
  if c.toNat < code then { w with delta := w.delta + 1 }
  else if c.toNat = code then
    ⟨w.out ++ numberText w.bias 36 w.delta, 0, adapt w.delta (w.count + 1) (w.count = basic),
      w.count + 1⟩
  else w

/-- The codes that are no ASCII, each once, in ascending order. -/
def codes (label : List Char) : List Nat :=
  ((label.map Char.toNat).filter (firstCode ≤ ·)).mergeSort.eraseDups

def encode (label : List Char) : List Char :=
  let basic := label.filter (·.toNat < firstCode)
  let start := if basic.isEmpty then [] else basic ++ ['-']
  let step (acc : Writer × Nat) (code : Nat) : Writer × Nat :=
    let w := { acc.1 with delta := acc.1.delta + (code - acc.2) * (acc.1.count + 1) }
    let w := label.foldl (Writer.pass basic.length code) w
    ({ w with delta := w.delta + 1 }, code + 1)
  ((codes label).foldl step (⟨start, 0, firstBias, basic.length⟩, firstCode)).1.out

/-! ## Reading -/

/-- Reads a number from weight `k` on: the number and what is left. -/
def number? (bias k weight n : Nat) : List Char → Option (Nat × List Char)
  | [] => none
  | c :: rest => do
    let d ← digit? c
    let t := threshold k bias
    let n := n + d * weight
    if d < t then some (n, rest) else number? bias (k + 36) (weight * (36 - t)) n rest

theorem length_number? (bias k weight n : Nat) (cs : List Char) (m : Nat) (rest : List Char)
    (h : number? bias k weight n cs = some (m, rest)) : rest.length < cs.length := by
  induction cs generalizing k weight n with
  | nil => simp [number?] at h
  | cons c cs ih =>
    simp only [number?, Option.bind_eq_bind, Option.bind_eq_some_iff] at h
    obtain ⟨d, _, h⟩ := h
    split at h
    · simp only [Option.some.injEq, Prod.mk.injEq] at h
      simp [← h.2]
    · exact Nat.lt_succ_of_lt (ih _ _ _ h)

/-- Puts characters into a label as the numbers say; `i` is the next place and `code` the next
character, and `isFirst` says whether no number has been read yet. -/
def insert (label : List Char) (isFirst : Bool) (code i bias : Nat) (cs : List Char) :
    Option (List Char) :=
  match cs with
  | [] => some label
  | c :: rest =>
    match h : number? bias 36 1 0 (c :: rest) with
    | none => none
    | some (steps, left) =>
      let count := label.length + 1
      let place := i + steps
      let code := code + place / count
      let i := place % count
      if code < 0xD800 ∨ (0xE000 ≤ code ∧ code < 0x110000) then
        insert (label.take i ++ Char.ofNat code :: label.drop i) false code (i + 1)
          (adapt steps count isFirst) left
      else none
termination_by cs.length
decreasing_by exact length_number? _ _ _ _ _ _ _ h

/-- The label that a text in Punycode stands for; a hyphen with nothing before it is no end of the
ASCII characters. -/
def decode? (text : List Char) : Option (List Char) :=
  let back := text.reverse.takeWhile (· ≠ '-')
  match text.reverse.dropWhile (· ≠ '-') with
  | [] => insert [] true firstCode 0 firstBias text
  | ['-'] => none
  | _ :: front => insert front.reverse true firstCode 0 firstBias back.reverse

end BundleInstaller.Url.Punycode
