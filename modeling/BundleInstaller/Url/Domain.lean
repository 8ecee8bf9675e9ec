import BundleInstaller.Text.Composition
import BundleInstaller.Url.Address
import BundleInstaller.Url.Domain.Label
import BundleInstaller.Url.Domain.Mapping
import BundleInstaller.Url.Punycode

/-!
# Domains

A domain is a list of labels with dots between them.  `toAscii` brings one into the form that is
looked up: each character as what it stands for, composed, and labels that are no ASCII in
Punycode.  A label that is in Punycode already has to be one that could have been written out.
-/

namespace BundleInstaller.Url.Domain

open Text

/-- What may not stand in a domain. -/
def isForbidden (c : Char) : Bool :=
  c.toNat ≤ 0x20 || c.toNat = 0x7F || "%#/:<>?@[\\]^|".toList.contains c

/-- A text with each character as what it stands for, composed. -/
def normalize? (s : List Char) : Option (List Char) := do
  let parts ← s.mapM spread
  let whole := parts.flatten
  return if whole.all isAscii then whole else compose whole

/-- A label as it is written out, and in the form that is looked up. -/
structure Label where
  written : List Char
  ascii : List Char
  deriving Repr, DecidableEq

/-- The label of a text without dots. -/
def label? (text : List Char) : Option Label :=
  match text with
  | 'x' :: 'n' :: '-' :: '-' :: code => do
    let written ← Punycode.decode? code
    if written.all isAscii ∨ normalize? written ≠ some written then none
    else some ⟨written, text⟩
  | _ =>
    if text.all isAscii then some ⟨text, text⟩
    else some ⟨text, "xn--".toList ++ Punycode.encode text⟩

/-- A domain in the form that is looked up. -/
def toAscii (domain : List Char) : Option (List Char) := do
  let labels ← (splitOn '.' (← normalize? domain)).mapM label?
  let written := labels.map (·.written)
  let whole := List.intercalate ['.'] (labels.map (·.ascii))
  if !written.all isLabel || !directionsAreFine written || whole.any isForbidden then none
  else some whole

end BundleInstaller.Url.Domain
