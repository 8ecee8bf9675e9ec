import BundleInstaller.Proofs.Ensemble
import BundleInstaller.Proofs.Memory

/-!
# Versions of installations

The version of an installation is a text that is read as a number, or as zero if it is none.  Each
writing of its status that goes well makes that number greater by one, and nothing else changes the
installation.  So as long as the numbers fit into 64 bits a version never comes back, whatever text
the first one was.

* `versionNumber?_toString`: a number is read as itself.
* `statusEffect`: what a call does to the installations.
* `lookup_through`: an installation after a log, by the statuses that were written in it.
* `commits_eq_nil_of_version`: between two times with the same version nothing was written.
-/

namespace BundleInstaller

open Cluster Install

/-! ## Numbers -/

namespace Cluster.Memory

theorem versionNumber?_of_digits {version : String} {c : Char} {ds : List Char}
    (h : version.toList = c :: ds) (hdigits : ∀ d ∈ c :: ds, d.isDigit) :
    versionNumber? version =
      let n := (c :: ds).foldl (fun n c => n * 10 + (c.toNat - 48)) 0
      if n < 2 ^ 64 then some n else none := by
  have hsign : c ≠ '+' := by
    rintro rfl
    exact absurd (hdigits _ List.mem_cons_self) (by decide)
  have hall : (c :: ds).all Char.isDigit := List.all_eq_true.mpr hdigits
  unfold versionNumber? Decimal.readUnsigned?
  rw [h]
  split
  · rename_i hcons
    exact absurd (List.cons.inj hcons).1 hsign
  · dsimp only
    rw [hall, if_neg (by simp)]
    rfl

/-- **A number is read as itself.** -/
theorem versionNumber?_toString {n : Nat} (h : n < 2 ^ 64) :
    versionNumber? (toString n) = some n := by
  have hlist : (toString n).toList = Nat.toDigits 10 n := Nat.toList_repr
  have hdigits : ∀ d ∈ Nat.toDigits 10 n, d.isDigit :=
    fun d hd => Nat.isDigit_of_mem_toDigits (by decide) (by decide) hd
  have hvalue : (Nat.toDigits 10 n).foldl (fun n c => n * 10 + (c.toNat - 48)) 0 = n := by
    conv_rhs => rw [← Nat.ofDigitChars_ten_toDigits (n := n), Nat.ofDigitChars_eq_foldl]
    simp only [Nat.mul_comm]
    rfl
  cases hcons : Nat.toDigits 10 n with
  | nil => exact absurd hcons Nat.toDigits_ne_nil
  | cons c ds =>
    rw [hcons] at hlist hdigits hvalue
    rw [versionNumber?_of_digits hlist hdigits, hvalue]
    exact if_pos h

/-- The number that a version is read as. -/
def versionValue (version : Option String) : Nat := (version.bind versionNumber?).getD 0

theorem versionValue_nextVersion {version : Option String} (h : versionValue version + 1 < 2 ^ 64) :
    versionValue (some (nextVersion version)) = versionValue version + 1 := by
  have hnext : nextVersion version = toString (versionValue version + 1) :=
    congrArg toString (Nat.mod_eq_of_lt h)
  rw [hnext, versionValue, Option.bind_some, versionNumber?_toString h, Option.getD_some]

end Cluster.Memory

/-! ## Written statuses -/

namespace Install

/-- The installation that the cluster answered the writing of a status with. -/
def commit? : Answered Call Call.Answer → Option Installation
  | ⟨.cluster (.writeStatus _), .ok new⟩ => some new
  | _ => none

/-- What an installation became by the statuses that were written in a log. -/
def Log.commits (name : String) (log : Log) : List Installation :=
  (log.filterMap commit?).filter (·.anyName = name)

@[simp] theorem Log.commits_append (name : String) (l₁ l₂ : Log) :
    Log.commits name (l₁ ++ l₂) = l₁.commits name ++ l₂.commits name := by
  rw [commits, List.filterMap_append, List.filter_append]
  rfl

end Install

namespace Cluster.Memory

/-- An installation with the status that was sent for it, under the next version. -/
def withStatus (old : Installation) (status? : Option InstallationStatus) : Installation :=
  { old with
    status? := status?
    metadata := { old.metadata with
      resourceVersion? := some (nextVersion old.metadata.resourceVersion?) } }

/-- What a call that is answered by the cluster does to the installations. -/
inductive StatusEffect (m : Memory) (x : Answered Install.Call Install.Call.Answer) : Prop
  | quiet (hx : commit? x = none)
      (hinstallations : (m.afterCall x.1).installations = m.installations)
  | written {i old : Installation} (hcall : x.1 = .cluster (.writeStatus i))
      (hx : commit? x = some (withStatus old i.status?))
      (hold : m.installations.lookup i.anyName = some old)
      (hversion : old.metadata.resourceVersion? = i.metadata.resourceVersion?)
      (hinstallations : (m.afterCall x.1).installations =
        setEntry i.anyName (withStatus old i.status?) m.installations)

/-- A status is written against the version that is stored, or nothing changes. -/
theorem writeStatus_cases (m : Memory) (i : Installation) :
    (∃ e, (m.writeStatus i).1 = .error e ∧
        (m.writeStatus i).2.installations = m.installations) ∨
      ∃ old, m.installations.lookup i.anyName = some old ∧
        old.metadata.resourceVersion? = i.metadata.resourceVersion? ∧
        (m.writeStatus i).1 = .ok (withStatus old i.status?) ∧
        (m.writeStatus i).2.installations =
          setEntry i.anyName (withStatus old i.status?) m.installations := by
  unfold writeStatus
  dsimp only
  split
  · exact .inl ⟨_, rfl, rfl⟩
  split
  · exact .inl ⟨_, rfl, rfl⟩
  rename_i old hold
  split
  · exact .inl ⟨_, rfl, rfl⟩
  · rename_i hversion
    exact .inr ⟨old, hold, not_not.mp hversion, rfl, rfl⟩

theorem installations_of_error {m : Memory} {i : Installation} {cause : ClusterError}
    (h : (m.writeStatus i).1 = .error cause) :
    (m.writeStatus i).2.installations = m.installations := by
  rcases m.writeStatus_cases i with ⟨_, -, hinstallations⟩ | ⟨_, -, -, hanswer, -⟩
  · exact hinstallations
  · cases h.symm.trans hanswer

theorem statusEffect {m : Memory} {x : Answered Install.Call Install.Call.Answer}
    (h : m.Gives x) : m.StatusEffect x := by
  obtain ⟨c, answer⟩ := x
  cases c with
  | cluster c =>
    cases c with
    | writeStatus i =>
      change answer = (m.writeStatus i).1 at h
      rcases m.writeStatus_cases i with
        ⟨e, hanswer, hinstallations⟩ | ⟨old, hold, hversion, hanswer, hinstallations⟩
      · rw [hanswer] at h
        subst h
        exact .quiet rfl hinstallations
      · rw [hanswer] at h
        subst h
        exact .written rfl rfl hold hversion hinstallations
    | _ => exact .quiet rfl (m.keepsInstallations_answer fun _ h => by cases h).1
  | _ => exact .quiet rfl rfl

/-! ## Installations along a log -/

/-- Whether the versions of the installations stay below the bound along a log. -/
def Room (m : Memory) (log : Log) : Prop :=
  ∀ name i, m.installations.lookup name = some i →
    versionValue i.metadata.resourceVersion? + (log.commits name).length < 2 ^ 64

theorem keyed_afterCall {m : Memory} (h : m.Keyed) (c : Install.Call) : (m.afterCall c).Keyed := by
  cases c with
  | cluster c => exact keyed_answer h
  | _ => exact h

theorem keyed_through {m : Memory} (h : m.Keyed) (log : Log) : (m.through log).Keyed := by
  induction log generalizing m with
  | nil => exact h
  | cons x log ih => exact ih (keyed_afterCall h x.1)

theorem commits_cons (name : String) (x : Answered Install.Call Install.Call.Answer) (log : Log) :
    Log.commits name (x :: log) = Log.commits name [x] ++ log.commits name :=
  Log.commits_append name [x] log

theorem lookup_afterCall {m : Memory} {x : Answered Install.Call Install.Call.Answer}
    {name : String} {i : Installation} (hm : m.Keyed) (hx : m.Gives x)
    (hi : m.installations.lookup name = some i)
    (hroom : versionValue i.metadata.resourceVersion? + (Log.commits name [x]).length < 2 ^ 64) :
    ∃ j, (m.afterCall x.1).installations.lookup name = some j ∧
      versionValue j.metadata.resourceVersion? =
        versionValue i.metadata.resourceVersion? + (Log.commits name [x]).length ∧
      (Log.commits name [x] = [] → j = i) := by
  cases statusEffect hx with
  | quiet hnone hinstallations =>
    have hcommits : Log.commits name [x] = [] := by simp [Log.commits, hnone]
    rw [hinstallations, hcommits]
    exact ⟨i, hi, rfl, fun _ => rfl⟩
  | @written sent old hcall hsome hold hversion hinstallations =>
    have hname : (withStatus old sent.status?).anyName = sent.anyName :=
      Eq.trans rfl (hm sent.anyName old hold)
    rw [hinstallations, lookup_setEntry]
    by_cases h : name = sent.anyName
    · subst h
      cases hi.symm.trans hold
      have hcommits : Log.commits sent.anyName [x] = [withStatus i sent.status?] := by
        simp [Log.commits, hsome, hname]
      rw [hcommits] at hroom ⊢
      refine ⟨_, if_pos (beq_self_eq_true _), ?_, fun h => by cases h⟩
      exact versionValue_nextVersion hroom
    · have hcommits : Log.commits name [x] = [] := by
        simp [Log.commits, hsome, hname, Ne.symm h]
      rw [hcommits, if_neg (by simpa using h)]
      exact ⟨i, hi, rfl, fun _ => rfl⟩

theorem lookup_afterCall_none {m : Memory} {x : Answered Install.Call Install.Call.Answer}
    {name : String} (hx : m.Gives x) (hnone : m.installations.lookup name = none) :
    (m.afterCall x.1).installations.lookup name = none := by
  cases statusEffect hx with
  | quiet _ hinstallations => rw [hinstallations, hnone]
  | written _ _ hold _ hinstallations =>
    rw [hinstallations, lookup_setEntry, if_neg, hnone]
    intro hname
    rw [eq_of_beq hname, hold] at hnone
    cases hnone

theorem Room.tail {m : Memory} {x : Answered Install.Call Install.Call.Answer} {log : Log}
    (hroom : m.Room (x :: log)) (hm : m.Keyed) (hx : m.Gives x) :
    (m.afterCall x.1).Room log := by
  intro name j hj
  cases hi : m.installations.lookup name with
  | none =>
    rw [lookup_afterCall_none hx hi] at hj
    cases hj
  | some i =>
    have hbound := hroom name i hi
    rw [commits_cons, List.length_append] at hbound
    obtain ⟨j', hj', hvalue, -⟩ := lookup_afterCall hm hx hi (by omega)
    cases hj.symm.trans hj'
    omega

theorem Room.left {m : Memory} {l₁ l₂ : Log} (hroom : m.Room (l₁ ++ l₂)) : m.Room l₁ := by
  intro name i hi
  have hbound := hroom name i hi
  rw [Log.commits_append, List.length_append] at hbound
  omega

theorem Room.drop {m : Memory} {l₁ l₂ : Log} (hroom : m.Room (l₁ ++ l₂)) (hm : m.Keyed)
    (hanswers : m.Answers l₁) : (m.through l₁).Room l₂ := by
  induction l₁ generalizing m with
  | nil => exact hroom
  | cons x l₁ ih =>
    exact ih (Room.tail hroom hm hanswers.1) (keyed_afterCall hm x.1) hanswers.2

/-- **What an installation is after a log**: its version counts the statuses that were written, and
if there are none it is what it was. -/
theorem lookup_through {m : Memory} {log : Log} {name : String} {i : Installation} (hm : m.Keyed)
    (hanswers : m.Answers log) (hroom : m.Room log)
    (hi : m.installations.lookup name = some i) :
    ∃ j, (m.through log).installations.lookup name = some j ∧
      versionValue j.metadata.resourceVersion? =
        versionValue i.metadata.resourceVersion? + (log.commits name).length ∧
      (log.commits name = [] → j = i) := by
  induction log generalizing m i with
  | nil => exact ⟨i, hi, rfl, fun _ => rfl⟩
  | cons x log ih =>
    obtain ⟨hx, hlog⟩ := hanswers
    have hbound := hroom name i hi
    rw [commits_cons, List.length_append] at hbound
    obtain ⟨i', hi', hvalue, hsame⟩ := lookup_afterCall hm hx hi (by omega)
    obtain ⟨j, hj, hvalue', hsame'⟩ := ih (keyed_afterCall hm x.1) hlog (hroom.tail hm hx) hi'
    rw [commits_cons]
    refine ⟨j, hj, by rw [List.length_append]; omega, fun hnil => ?_⟩
    obtain ⟨hnil, hnil'⟩ := List.append_eq_nil_iff.mp hnil
    rw [hsame' hnil', hsame hnil]

/-- **A version never comes back**: where an installation has the version that it had before, no
status was written for it in between. -/
theorem commits_eq_nil_of_version {m : Memory} {log : Log} {name : String} {i j : Installation}
    (hm : m.Keyed) (hanswers : m.Answers log) (hroom : m.Room log)
    (hi : m.installations.lookup name = some i)
    (hj : (m.through log).installations.lookup name = some j)
    (hversion : j.metadata.resourceVersion? = i.metadata.resourceVersion?) :
    log.commits name = [] ∧ j = i := by
  obtain ⟨j', hj', hvalue, hsame⟩ := lookup_through hm hanswers hroom hi
  cases hj.symm.trans hj'
  rw [hversion] at hvalue
  have hnil : log.commits name = [] := List.length_eq_zero_iff.mp (by omega)
  exact ⟨hnil, hsame hnil⟩

end Cluster.Memory
end BundleInstaller
