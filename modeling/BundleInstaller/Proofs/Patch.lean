import Mathlib.Data.List.TakeWhile
import BundleInstaller.Proofs.Absence
import BundleInstaller.Proofs.Fields
import BundleInstaller.Proofs.Merge
import BundleInstaller.Proofs.Rehearsal
import BundleInstaller.Proofs.Written

/-!
# Writing a status by a merge patch

A cluster behind a connection gets the status of an installation as a merge patch, which names the
version that the installation was read at.  It is one request to the path of the status, and the
answer tells what became of it.  The server reads the patch from the octets that it gets.  What it
makes of its stored object is read as the same installation that a cluster in memory would store:
the status is the one that was sent, field by field, and all else stays as it was.

* `Installation.read_obj_iff`: what an installation is read from.
* `InstallationStatus.fits_of_read`: a total that was read takes 64 bits, and so can be sent again.
* `patchStored`, `wellFormed_of_patchStored`: what a server makes of a merge patch.
* `writesStatus`: what is sent to write a status, and what is told of it.
* `read_statusPath`: the names of installations whose status can be written.
* `run_patching`: writing to a server that patches the object it stores.
* `read_merge_status`: a status that is merged into an older one is read as it was sent.
* `Decoded.patched`: the patched object is read as the installation with the status that was sent.
* `writeStatus_agrees`: a status that is written to the server is the one that a cluster in memory
  stores.
* `writeStatus_refused`: both refuse a status for an older version.
-/

namespace BundleInstaller

open Json Json.Cursor Cluster Decode Http Program

/-! ## The fields of an installation -/

namespace InstallationStatus

theorem keeps_processed : Keeps step "processed" Fields.processed?
    (fun b f => { f with processed? := b }) (once readBool) where
  part_set _ _ := rfl
  set_part _ := rfl
  set_set _ _ _ := rfl
  own := ⟨_, rfl, fun f _ _ => once_iff fun b => { f with processed? := b }⟩
  others name read hname hstep b f c f' h := by
    unfold step at hstep
    split at hstep <;> first
      | exact absurd rfl hname
      | (cases hstep; exact read_map_ok (fun f => { f with processed? := b }) h)
      | cases hstep

theorem keeps_total : Keeps step "total" Fields.total?
    (fun b f => { f with total? := b }) (once readInt64) where
  part_set _ _ := rfl
  set_part _ := rfl
  set_set _ _ _ := rfl
  own := ⟨_, rfl, fun f _ _ => once_iff fun b => { f with total? := b }⟩
  others name read hname hstep b f c f' h := by
    unfold step at hstep
    split at hstep <;> first
      | exact absurd rfl hname
      | (cases hstep; exact read_map_ok (fun f => { f with total? := b }) h)
      | cases hstep

theorem keeps_error : Keeps step "error" Fields.error?
    (fun b f => { f with error? := b }) (once readText?) where
  part_set _ _ := rfl
  set_part _ := rfl
  set_set _ _ _ := rfl
  own := ⟨_, rfl, fun f _ _ => once_iff fun b => { f with error? := b }⟩
  others name read hname hstep b f c f' h := by
    unfold step at hstep
    split at hstep <;> first
      | exact absurd rfl hname
      | (cases hstep; exact read_map_ok (fun f => { f with error? := b }) h)
      | cases hstep

theorem toJson_eq (s : InstallationStatus) : s.toJson = .obj
    [("error", .ofText? s.error?), ("processed", .bool s.processed), ("total", .int s.total)] :=
  rfl

theorem legible_toJson {s : InstallationStatus} (h : Fits s.total) (depth : Nat) :
    Legible (depth + 1) s.toJson := by
  rw [toJson_eq]
  have hkeys : ["error", "processed", "total"].Pairwise (· < ·) := by decide
  refine .obj (ascending_iff.mpr hkeys) fun e he => ?_
  simp only [List.mem_cons, List.not_mem_nil, or_false] at he
  rcases he with rfl | rfl | rfl
  · cases s.error? with
    | none => exact .null
    | some text => exact .str text
  · exact .bool _
  · exact .int h

theorem fits_of_readInt64 {j : Json} (hj : WellFormed j) {depth : Nat} {n : Int}
    (h : readInt64 ⟨Node.ofJson j, depth⟩ = .ok n) : FitsSigned n := by
  cases j with
  | int m =>
    rw [readInt64] at h
    dsimp only [Node.ofJson] at h
    split at h
    · next hlt =>
      cases h
      exact ⟨(wellFormed_int_iff.mp hj).1, hlt⟩
    · cases h
  | _ => cases h

theorem read_obj_iff {entries : List (String × Json)} {depth : Nat} {s : InstallationStatus} :
    read (Cursor.mk (Node.ofJson (.obj entries)) (depth + 1)) = .ok s ↔
      ∃ f, ReadsTo step depth ⟨none, none, none⟩ entries f ∧ ofFields f = s := by
  unfold read
  refine (readRecord_obj_iff _).trans (exists_congr fun f => and_congr_right fun _ => ?_)
  exact ⟨Except.ok.inj, congrArg _⟩

theorem fits_of_read {j : Json} (hj : WellFormed j) {depth : Nat} {s : InstallationStatus}
    (h : read (Cursor.mk (Node.ofJson j) depth) = .ok s) : FitsSigned s.total := by
  have hstep : ∀ name (read : Fields → Cursor → Read Fields), step name = some read →
      ∀ f j depth f', WellFormed j → (∀ n ∈ f.total?, FitsSigned n) →
        read f ⟨Node.ofJson j, depth⟩ = .ok f' → ∀ n ∈ f'.total?, FitsSigned n := by
    intro name read hstep f j depth f' hj hf hread
    by_cases hname : name = "total"
    · subst hname
      obtain ⟨_, hown, hiff⟩ := keeps_total.own
      rw [hown] at hstep
      cases hstep
      obtain ⟨b, ⟨-, n, hn, rfl⟩, rfl⟩ := (hiff _ _ _).mp hread
      intro m hm
      cases hm
      exact fits_of_readInt64 hj hn
    · rw [keeps_total.part_of_ne hname hstep hread]
      exact hf
  obtain ⟨f, hf, hs⟩ := exists_of_readRecord hstep hj (by simp) h
  cases hs
  show FitsSigned (f.total?.getD neverAttempted)
  cases htotal : f.total? with
  | none => decide
  | some n => exact hf n htotal

end InstallationStatus

namespace Installation

theorem keeps_metadata : Keeps step "metadata" Fields.metadata?
    (fun b f => { f with metadata? := b }) (once Metadata.read) where
  part_set _ _ := rfl
  set_part _ := rfl
  set_set _ _ _ := rfl
  own := ⟨_, rfl, fun f _ _ => once_iff fun b => { f with metadata? := b }⟩
  others name read hname hstep b f c f' h := by
    unfold step at hstep
    split at hstep <;> first
      | exact absurd rfl hname
      | (cases hstep; exact read_map_ok (fun f => { f with metadata? := b }) h)
      | cases hstep

theorem keeps_status : Keeps step "status" Fields.status?
    (fun b f => { f with status? := b }) (once (readOption InstallationStatus.read)) where
  part_set _ _ := rfl
  set_part _ := rfl
  set_set _ _ _ := rfl
  own := ⟨_, rfl, fun f _ _ => once_iff fun b => { f with status? := b }⟩
  others name read hname hstep b f c f' h := by
    unfold step at hstep
    split at hstep <;> first
      | exact absurd rfl hname
      | (cases hstep; exact read_map_ok (fun f => { f with status? := b }) h)
      | cases hstep

theorem ofFields_ok_iff {f : Fields} {i : Installation} : ofFields f = .ok i ↔
    f.metadata? = some i.metadata ∧ f.spec? = some i.spec ∧ f.status?.join = i.status? := by
  obtain ⟨metadata?, spec?, status?⟩ := f
  obtain ⟨metadata, spec, status⟩ := i
  cases metadata? with
  | none => exact ⟨fun h => (by cases h), fun h => (by cases h.1)⟩
  | some md =>
    cases spec? with
    | none => exact ⟨fun h => (by cases h), fun h => (by cases h.2.1)⟩
    | some sp =>
      constructor
      · intro h
        cases h
        exact ⟨rfl, rfl, rfl⟩
      · rintro ⟨hmetadata, hspec, hstatus⟩
        dsimp only at hmetadata hspec hstatus
        cases hmetadata
        cases hspec
        cases hstatus
        rfl

theorem read_obj_iff {entries : List (String × Json)} {i : Installation} :
    readJson read (.obj entries) = .ok i ↔
      ∃ f, ReadsTo step 126 ⟨none, none, none⟩ entries f ∧ f.metadata? = some i.metadata ∧
        f.spec? = some i.spec ∧ f.status?.join = i.status? := by
  simp only [← ofFields_ok_iff]
  unfold readJson read
  exact readRecord_obj_iff _

end Installation

theorem Cluster.Metadata.keeps_resourceVersion : Keeps Metadata.step "resourceVersion"
    Metadata.resourceVersion? (fun b md => { md with resourceVersion? := b })
    (fun _ c b => readText? c = .ok b) where
  part_set _ _ := rfl
  set_part _ := rfl
  set_set _ _ _ := rfl
  own := by
    refine ⟨_, rfl, fun md c md' => ?_⟩
    show (readText? c >>= fun b => pure { md with resourceVersion? := b }) = _ ↔ _
    rw [read_bind_ok]
    exact exists_congr fun b => and_congr_right fun _ =>
      ⟨fun h => (Except.ok.inj h).symm, fun h => congrArg _ h.symm⟩
  others name read hname hstep b md c md' h := by
    unfold Metadata.step at hstep
    split at hstep
    · cases hstep
      exact read_map_ok (fun md => { md with resourceVersion? := b }) h
    · cases hstep
      exact read_map_ok (fun md => { md with resourceVersion? := b }) h
    · exact absurd rfl hname
    · obtain ⟨_, -, rfl⟩ := Option.map_eq_some_iff.mp hstep
      exact read_map_ok (fun md => { md with resourceVersion? := b }) h

theorem Cluster.Metadata.read_obj_iff {entries : List (String × Json)} {depth : Nat}
    {md : Metadata} : Metadata.read (Cursor.mk (Node.ofJson (.obj entries)) (depth + 1)) = .ok md ↔
      ReadsTo Metadata.step depth .empty entries md := by
  unfold Metadata.read
  refine (readRecord_obj_iff _).trans ⟨?_, fun h => ⟨md, h, rfl⟩⟩
  rintro ⟨_, h, hfinish⟩
  cases hfinish
  exact h

/-! ## The request -/

namespace Http.Target

theorem ne_of_inPath {c : Char} (h : inPath c = true) : c ≠ '#' ∧ c ≠ '?' := by
  constructor <;> (rintro rfl; revert h; decide)

theorem readPath_mark {path : List Char} (h : path.all inPath) :
    readPath (path ++ ['?']) = .ok ⟨String.ofList path, some ""⟩ := by
  have hkept : (path ++ ['?']).takeWhile (· != '#') = path ++ ['?'] := by
    refine List.takeWhile_eq_self_iff.mpr fun c hc => ?_
    rcases List.mem_append.mp hc with hc | hc
    · exact bne_iff_ne.mpr (ne_of_inPath (List.all_eq_true.mp h c hc)).1
    · rw [List.mem_singleton.mp hc]
      rfl
  have hspan : (path ++ ['?']).span (· != '?') = (path, ['?']) := by
    have hpath : ∀ c ∈ path, (c != '?') = true := fun c hc =>
      bne_iff_ne.mpr (ne_of_inPath (List.all_eq_true.mp h c hc)).2
    rw [List.span_eq_takeWhile_dropWhile, List.takeWhile_append_of_pos hpath,
      List.dropWhile_append_of_pos hpath]
    simp
  unfold readPath
  dsimp only
  rw [hkept, hspan]
  dsimp only
  rw [h]
  rfl

theorem read_slash {s : String} (h : s.toList.head? = some '/') (hsize : s.utf8ByteSize ≤ 65534) :
    Target.read s = readPath s.toList := by
  obtain ⟨rest, hrest⟩ := List.head?_eq_some_iff.mp h
  unfold Target.read
  rw [if_neg (by omega), hrest]
  rfl

end Http.Target

namespace Install

/-- A status is written to the path of the installation, if its name may stand in one. -/
theorem read_statusPath {name : String} (hname : name.toList.all Target.inPath)
    (hsize : (Installation.collectionPath ++ "/" ++ name ++ "/status?").utf8ByteSize ≤ 65534) :
    Target.read (Installation.collectionPath ++ "/" ++ name ++ "/status?") =
      .ok ⟨Installation.collectionPath ++ "/" ++ name ++ "/status", some ""⟩ := by
  have hfront : (Installation.collectionPath ++ "/").toList.all Target.inPath := by
    decide +kernel
  have hback : "/status".toList.all Target.inPath := by decide +kernel
  have hpath : (Installation.collectionPath ++ "/" ++ name ++ "/status").toList.all
      Target.inPath := by
    rw [String.toList_append, String.toList_append, List.all_append, List.all_append, hfront,
      hname, hback]
    rfl
  have hmark : (Installation.collectionPath ++ "/" ++ name ++ "/status?").toList =
      (Installation.collectionPath ++ "/" ++ name ++ "/status").toList ++ ['?'] := by
    simp [String.toList_append]
  have hslash : Installation.collectionPath.toList.head? = some '/' := by decide +kernel
  rw [Target.read_slash (by simp [String.toList_append, hslash]) hsize, hmark,
    Target.readPath_mark hpath, String.ofList_toList]

/-- How the status of an installation is written over a connection: by one request, if the
installation has a name that a target can be read with, and else by none. -/
structure WritesStatus (i : Installation) : Prop where
  /-- The request goes to the status of the installation, and the result is what its reply holds. -/
  sends : ∀ target, i.anyName ≠ "" →
    Target.read (Installation.collectionPath ++ "/" ++ i.anyName ++ "/status?") = .ok target →
    ∀ log result, (Client.answer (.writeStatus i)).Yields log result ↔ ∃ reply,
      log = [⟨⟨"PATCH", target, some "application/merge-patch+json",
        (Client.statusPatch i).bytes⟩, reply⟩] ∧
      result = (Client.outcome Installation.read reply).mapError .client
  /-- A name that may stand in a path stands in that of the request. -/
  reaches : i.anyName.toList.all Target.inPath →
    (Installation.collectionPath ++ "/" ++ i.anyName ++ "/status?").utf8ByteSize ≤ 65534 →
    Target.read (Installation.collectionPath ++ "/" ++ i.anyName ++ "/status?") =
      .ok ⟨Installation.collectionPath ++ "/" ++ i.anyName ++ "/status", some ""⟩
  nameless : i.anyName = "" →
    Client.answer (.writeStatus i) = done (.error (.client Client.noName))
  unreadable : ∀ e, i.anyName ≠ "" →
    Target.read (Installation.collectionPath ++ "/" ++ i.anyName ++ "/status?") = .error e →
    Client.answer (.writeStatus i) = done (.error (.client (Client.badTarget e)))

theorem answer_writeStatus {i : Installation} {target : Target} (hname : i.anyName ≠ "")
    (htarget : Target.read (Installation.collectionPath ++ "/" ++ i.anyName ++ "/status?") =
      .ok target) :
    Client.answer (.writeStatus i) =
      call ⟨"PATCH", target, some "application/merge-patch+json", (Client.statusPatch i).bytes⟩ >>=
        fun reply => done ((Client.outcome Installation.read reply).mapError .client) := by
  have hempty : ¬i.anyName.isEmpty = true := by simpa using hname
  show Client.toAnswer (Client.writeStatus i) = _
  unfold Client.writeStatus
  dsimp only
  rw [if_neg hempty, Client.exchange_of_target Installation.read htarget,
    Client.toAnswer_eq]
  rfl

/-- **A status is written by one request, and the result is what the reply tells of it.** -/
theorem writesStatus (i : Installation) : WritesStatus i where
  sends target hname htarget log result := by
    rw [answer_writeStatus hname htarget, yields_call_bind_iff]
    refine exists_congr fun reply => ?_
    simp only [yields_done_iff]
    constructor
    · rintro ⟨_, rfl, rfl, h⟩
      exact ⟨rfl, h⟩
    · rintro ⟨rfl, h⟩
      exact ⟨[], rfl, rfl, h⟩
  reaches := read_statusPath
  nameless hname := by
    show Client.toAnswer (Client.writeStatus i) = _
    unfold Client.writeStatus
    rw [hname]
    rfl
  unreadable e hname htarget := by
    have hempty : ¬i.anyName.isEmpty = true := by simpa using hname
    show Client.toAnswer (Client.writeStatus i) = _
    unfold Client.writeStatus Client.exchange
    dsimp only
    rw [if_neg hempty, htarget]
    rfl

/-! ## Patches -/

/-- The version that an object says it has. -/
def versionOf (j : Json) : Option String := textAt (j.get? "metadata") "resourceVersion"

/-- What a server makes of a merge patch for an object that it stores; it refuses a patch that is no
JSON, or that names another version than the stored one. -/
def patchStored (stored : Json) (body : Bytes) : Option Json :=
  (ofBytes? body).bind fun patch =>
    if (versionOf patch).isSome ∧ versionOf patch ≠ versionOf stored then none
    else some (merge stored patch)

/-- **What a server stores stays well-formed**, whatever is sent. -/
theorem wellFormed_of_patchStored {stored patched : Json} {body : Bytes} (h : WellFormed stored)
    (hpatched : patchStored stored body = some patched) : WellFormed patched := by
  obtain ⟨patch, hpatch, hmerge⟩ := Option.bind_eq_some_iff.mp hpatched
  split at hmerge
  · cases hmerge
  · cases hmerge
    exact h.merge (wellFormed_of_ofBytes? hpatch)

theorem patchStored_bytes {patch : Json} (h : Legible maxDepth patch) (stored : Json) :
    patchStored stored patch.bytes =
      if (versionOf patch).isSome ∧ versionOf patch ≠ versionOf stored then none
      else some (merge stored patch) := by
  rw [patchStored, ofBytes?_bytes h]
  rfl

/-- A server that stores an object, whose status stands at a target.  It patches the object with what
is sent there as a merge patch, and does nothing about any other request.  It replies as `respond`
says: to what it has made of the object, or to nothing if it left the object as it was. -/
def patching (target : Target) (respond : Option Json → Except String Response)
    (request : Request) : StateM Json (Answer request) := fun stored =>
  if request.method = "PATCH" ∧ request.target = target ∧
      request.contentType? = some "application/merge-patch+json" then
    match patchStored stored request.body with
    | some patched => (respond (some patched), patched)
    | none => (respond none, stored)
  else (respond none, stored)

/-- **A status that is written to a server patches what the server stores**, unless it is refused;
the result is what the server replies. -/
theorem run_patching {i : Installation} {target : Target}
    (respond : Option Json → Except String Response) (stored : Json) (hname : i.anyName ≠ "")
    (htarget : Target.read (Installation.collectionPath ++ "/" ++ i.anyName ++ "/status?") =
      .ok target) :
    let patched? := patchStored stored (Client.statusPatch i).bytes
    (Client.answer (.writeStatus i)).run (patching target respond) stored =
      ((Client.outcome Installation.read (respond patched?)).mapError .client,
        patched?.getD stored) := by
  intro patched?
  let request : Request :=
    ⟨"PATCH", target, some "application/merge-patch+json", (Client.statusPatch i).bytes⟩
  have hserved : patching target respond request stored =
      (respond patched?, patched?.getD stored) := by
    unfold patching
    rw [if_pos ⟨rfl, rfl, rfl⟩]
    show (match patched? with
      | some patched => (respond (some patched), patched)
      | none => (respond none, stored)) = _
    cases patched? <;> rfl
  rw [answer_writeStatus hname htarget]
  refine (run_ask _ request _ _).trans ?_
  rw [hserved]
  rfl

theorem statusPatch_eq {i : Installation} {version : String}
    (h : i.metadata.resourceVersion? = some version) : Client.statusPatch i =
      .obj [("metadata", .obj [("resourceVersion", .str version)]),
        ("status", i.status.toJson)] := by
  unfold Client.statusPatch
  rw [h]
  rfl

theorem legible_statusPatch {i : Installation} {version : String}
    (h : i.metadata.resourceVersion? = some version) (htotal : Fits i.status.total) :
    Legible maxDepth (Client.statusPatch i) := by
  rw [statusPatch_eq h]
  have hkeys : ["metadata", "status"].Pairwise (· < ·) := by decide
  refine .obj (ascending_iff.mpr hkeys) fun e he => ?_
  simp only [List.mem_cons, List.not_mem_nil, or_false] at he
  rcases he with rfl | rfl
  · refine .obj (List.pairwise_singleton _ _) fun e he => ?_
    rw [List.mem_singleton.mp he]
    exact .str version
  · exact InstallationStatus.legible_toJson htotal _

/-- What was read of a stored installation. -/
structure Decoded (entries : List (String × Json)) (i : Installation) (version : String) :
    Prop where
  wellFormed : WellFormed (.obj entries)
  read : readJson Installation.read (.obj entries) = .ok i
  version : i.metadata.resourceVersion? = some version

section

variable {entries : List (String × Json)} {i : Installation} {version : String}
  (h : Decoded entries i version)

include h

theorem Decoded.lookup_metadata : ∃ metadata, entries.lookup "metadata" = some (.obj metadata) ∧
    Ascending metadata ∧ metadata.lookup "resourceVersion" = some (.str version) := by
  obtain ⟨f, hf, hmetadata, -, -⟩ := Installation.read_obj_iff.mp h.read
  rcases hf.part_cases Installation.keeps_metadata h.wellFormed.ascending with
    ⟨-, hnone⟩ | ⟨j, hj, -, md, hread, hsome⟩
  · rw [hmetadata] at hnone
    cases hnone
  rw [hmetadata] at hsome
  cases hsome
  obtain ⟨metadata, rfl⟩ := readRecord_keyed hread
  have hkeys : Ascending metadata := (h.wellFormed.of_lookup hj).ascending
  refine ⟨metadata, hj, hkeys, ?_⟩
  rcases (Metadata.read_obj_iff.mp hread).part_cases Metadata.keeps_resourceVersion hkeys with
    ⟨-, hnone⟩ | ⟨j, hj, htext⟩
  · rw [h.version] at hnone
    cases hnone
  rw [h.version] at htext
  rw [hj]
  cases j with
  | str s => cases htext; rfl
  | _ => cases htext

theorem Decoded.reads_status : ∃ t, ReadsTo InstallationStatus.step 125 ⟨none, none, none⟩
    ((entries.lookup "status").getD .null).entries t := by
  obtain ⟨f, hf, -, -, -⟩ := Installation.read_obj_iff.mp h.read
  rcases hf.part_cases Installation.keeps_status h.wellFormed.ascending with
    ⟨hnone, -⟩ | ⟨j, hj, -, s, hread, -⟩
  · rw [hnone]
    exact ⟨_, .nil⟩
  rw [hj]
  cases j with
  | obj status =>
    obtain ⟨s', hs, -⟩ := read_bind_ok.mp hread
    obtain ⟨t, ht, -⟩ := InstallationStatus.read_obj_iff.mp hs
    exact ⟨t, ht⟩
  | _ => exact ⟨_, .nil⟩

theorem Decoded.fits_total : FitsSigned i.status.total := by
  obtain ⟨f, hf, -, -, hstatus⟩ := Installation.read_obj_iff.mp h.read
  unfold Installation.status
  rw [← hstatus]
  rcases hf.part_cases Installation.keeps_status h.wellFormed.ascending with
    ⟨-, hnone⟩ | ⟨j, hj, -, s?, hread, hsome⟩
  · rw [hnone]
    decide
  rw [hsome]
  cases s? with
  | none => decide
  | some s =>
    have hs := readOption_some hread
    exact InstallationStatus.fits_of_read (h.wellFormed.of_lookup hj) hs

end

/-- A status that is merged into an older one is read as it was sent: all of its fields are sent,
and an error that is null takes the older one away. -/
theorem read_merge_status {old : Json} (hold : Ascending old.entries)
    {f : InstallationStatus.Fields}
    (hf : ReadsTo InstallationStatus.step 125 ⟨none, none, none⟩ old.entries f)
    {s : InstallationStatus} (htotal : FitsSigned s.total) :
    InstallationStatus.read (Cursor.mk (Node.ofJson (merge old s.toJson)) 126) = .ok s := by
  obtain ⟨entries, b, hentries, hkeys, hreads, hb⟩ : ∃ entries b,
      mergeEntries old.entries [("error", .ofText? s.error?), ("processed", .bool s.processed),
        ("total", .int s.total)] =
          mergeEntries entries [("processed", .bool s.processed), ("total", .int s.total)] ∧
        Ascending entries ∧
        ReadsTo InstallationStatus.step 125 ⟨none, none, none⟩ entries { f with error? := b } ∧
        b.join = s.error? := by
    cases s.error? with
    | none =>
      exact ⟨_, none, mergeEntries_null _ _ _, hold.filter _,
        hf.filter InstallationStatus.keeps_error hold, rfl⟩
    | some e =>
      refine ⟨_, some (some e), mergeEntries_cons (by simp [ofText?, ofOption]) _ _ _,
        hold.setEntry, hf.setEntry InstallationStatus.keeps_error hold ⟨rfl, some e, ?_, rfl⟩, rfl⟩
      rfl
  rw [InstallationStatus.toJson_eq, merge, hentries, mergeEntries_cons (by simp),
    mergeEntries_cons (by simp), mergeEntries, InstallationStatus.read_obj_iff]
  have hprocessed := hreads.setEntry InstallationStatus.keeps_processed hkeys
    (j := .bool s.processed) ⟨rfl, s.processed, rfl, rfl⟩
  have htotal' := hprocessed.setEntry InstallationStatus.keeps_total hkeys.setEntry
    (j := .int s.total) ⟨rfl, s.total, if_pos htotal.2, rfl⟩
  refine ⟨_, htotal', ?_⟩
  obtain ⟨processed, total, error?⟩ := s
  exact congrArg _ hb

/-- **The patched object is read as the installation that was sent.** -/
theorem Decoded.patched {entries : List (String × Json)} {i sent : Installation} {version : String}
    (h : Decoded entries i version) (hmetadata : sent.metadata = i.metadata)
    (hspec : sent.spec = i.spec) (hstatus : sent.status? = some sent.status)
    (htotal : FitsSigned sent.status.total) :
    ∃ status, patchStored (.obj entries) (Client.statusPatch sent).bytes =
        some (.obj (setEntry "status" status entries)) ∧
      readJson Installation.read (.obj (setEntry "status" status entries)) = .ok sent := by
  obtain ⟨metadata, hlookup, hkeys, hversion⟩ := h.lookup_metadata
  have hsent : sent.metadata.resourceVersion? = some version := hmetadata ▸ h.version
  have hold : WellFormed ((entries.lookup "status").getD .null) := by
    cases hstatus : entries.lookup "status" with
    | none => exact .null
    | some j => exact h.wellFormed.of_lookup hstatus
  refine ⟨merge ((entries.lookup "status").getD .null) sent.status.toJson, ?_, ?_⟩
  · -- The patch names the stored version, so that merging leaves the metadata as they are.
    have hstored : versionOf (.obj entries) = some version := by
      simp [versionOf, textAt, get?, hlookup, hversion, str?]
    have hmerged : merge (.obj metadata) (.obj [("resourceVersion", .str version)]) =
        .obj metadata := by
      rw [merge, Json.entries, mergeEntries_cons (by simp), merge, mergeEntries,
        setEntry_of_lookup hkeys hversion]
      simp
    rw [patchStored_bytes (legible_statusPatch hsent htotal.fits), statusPatch_eq hsent, hstored,
      if_neg (fun hother => hother.2 rfl), merge, Json.entries,
      mergeEntries_cons (by simp), hlookup, Option.getD_some, hmerged,
      setEntry_of_lookup h.wellFormed.ascending hlookup,
      mergeEntries_cons (by simp [InstallationStatus.toJson_eq]), mergeEntries]
  · obtain ⟨f, hf⟩ := h.reads_status
    obtain ⟨fields, hfields, hmd, hsp, hst⟩ := Installation.read_obj_iff.mp h.read
    refine Installation.read_obj_iff.mpr ⟨_, hfields.setEntry Installation.keeps_status
      h.wellFormed.ascending (b := some (some sent.status)) ⟨rfl, some sent.status, ?_, rfl⟩, ?_⟩
    · have hread := read_merge_status hold.entries.ascending hf htotal
      rw [InstallationStatus.toJson_eq, merge] at hread ⊢
      exact congrArg (Except.map some) hread
    · exact ⟨hmd.trans (congrArg some hmetadata.symm), hsp.trans (congrArg some hspec.symm),
        hstatus.symm⟩

theorem Report.fits_total (report : Report) {i : Installation} (h : FitsSigned i.status.total) :
    FitsSigned (report.apply i).status.total := by
  unfold Installation.status at h ⊢
  rw [Report.apply_status]
  cases report.total? with
  | none => exact h
  | some total =>
    show FitsSigned (min (total : Int) Installation.maxTotal)
    have hmax : (Installation.maxTotal : Int) < Nat.pow 2 63 := by decide
    unfold FitsSigned
    omega

/-- **A server and a cluster in memory store the same status.**  For a report, one request is sent.
The server merges its body into the object that the installation was read from; the outcome is read
as the installation with the report in its status, which is what the cluster in memory stores too.
In particular no older error is left after a success, and nothing but the status changes. -/
theorem writeStatus_agrees {entries : List (String × Json)} {i : Installation} {version : String}
    {m : Memory} (hwellFormed : WellFormed (.obj entries))
    (hread : readJson Installation.read (.obj entries) = .ok i)
    (hversion : i.metadata.resourceVersion? = some version)
    (hmemory : m.installations.lookup i.anyName = some i) (hwritable : m.failsNextStatus = false)
    (report : Report) :
    let sent := report.apply i
    WritesStatus sent ∧
      ∃ patched written new m',
        (∀ target respond, i.anyName ≠ "" →
          Target.read (Installation.collectionPath ++ "/" ++ i.anyName ++ "/status?") =
            .ok target →
          (Client.answer (.writeStatus sent)).run (patching target respond) (.obj entries) =
            ((Client.outcome Installation.read (respond (some patched))).mapError .client,
              patched)) ∧
        patchStored (.obj entries) (Client.statusPatch sent).bytes = some patched ∧
        WellFormed patched ∧ readJson Installation.read patched = .ok written ∧
        m.writeStatus sent = (.ok new, m') ∧ m'.installations.lookup i.anyName = some new ∧
        written.status? = new.status? ∧ written.status? = sent.status? ∧
        (report.isSuccess → ∃ s, written.status? = some s ∧ s.error? = none) ∧
        written.metadata = i.metadata ∧ written.spec = i.spec ∧
        ∀ key ≠ "status", patched.get? key = (Json.obj entries).get? key := by
  have h : Decoded entries i version := ⟨hwellFormed, hread, hversion⟩
  intro sent
  have hmetadata : sent.metadata = i.metadata := report.apply_metadata i
  have hspec : sent.spec = i.spec := report.apply_spec i
  have hstatus := report.apply_status i
  have hsentName : sent.anyName = i.anyName := report.apply_anyName i
  obtain ⟨status, hpatched, hwritten⟩ := h.patched hmetadata hspec
    (by unfold Installation.status; rw [hstatus]; rfl) (report.fits_total h.fits_total)
  obtain ⟨_, new, hnew, hnewStatus, -, -⟩ := Memory.writeStatus_of_current (i := sent) hwritable
    (by rwa [hsentName]) (congrArg Metadata.resourceVersion? hmetadata.symm)
  refine ⟨writesStatus sent, _, sent, new, _, ?_, hpatched,
    wellFormed_of_patchStored hwellFormed hpatched, hwritten, hnew, ?_, hnewStatus.symm, rfl,
    fun hsuccess => ⟨_, hstatus, ?_⟩, hmetadata, hspec, ?_⟩
  · intro target respond hname htarget
    rw [← hsentName] at hname htarget
    rw [run_patching respond _ hname htarget, hpatched]
    rfl
  · show (Memory.setEntry sent.anyName new m.installations).lookup i.anyName = some new
    rw [Memory.lookup_setEntry, if_pos (by simp [sent])]
  · have hnone : report.error? = none := Option.isNone_iff_eq_none.mp hsuccess
    rw [hnone]
    rfl
  · intro key hkey
    show (setEntry "status" status entries).lookup key = entries.lookup key
    rw [lookup_setEntry, if_neg hkey]

/-- An installation as a server stores it: with the error of an attempt, and with fields that are
not read. -/
def failedBefore : List (String × Json) :=
  [("apiVersion", .str Installation.apiVersion), ("kind", .str Installation.kind),
    ("metadata", .obj [("name", .str "demo"), ("resourceVersion", .str "41"),
      ("tags", .arr [.int 1])]),
    ("spec", .obj [("url", .str "https://example.com/install.yaml")]),
    ("status", .obj [("error", .str "bundle holds no document"), ("processed", .bool false),
      ("seen", .int 5), ("total", .int 0)])]

def readBefore : Installation :=
  ⟨⟨some "demo", none, some "41", []⟩, ⟨"https://example.com/install.yaml", .rawBundle⟩,
    some ⟨false, 0, some "bundle holds no document"⟩⟩

/-- A server that replies with what it has stored, or with a conflict. -/
def echo : Option Json → Except String Response
  | some patched => .ok ⟨200, patched.bytes⟩
  | none => .ok ⟨409, []⟩

/-- A success is written: the error is gone, and what is not known stays. -/
theorem writeStatus_agrees_recovered :
    let sent := (⟨some 3, .succeeded, none, .empty⟩ : Report).apply readBefore
    let server := patching ⟨"/apis/stevedore.io/v1alpha1/installations/demo/status", some ""⟩ echo
    let patched := Json.obj (setEntry "status"
      (.obj [("processed", .bool true), ("seen", .int 5), ("total", .int 3)]) failedBefore)
    ∃ told written new m',
      (Client.answer (.writeStatus sent)).run server (.obj failedBefore) = (.ok told, patched) ∧
      readJson Installation.read patched = .ok written ∧
      (Memory.empty.addInstallation readBefore).writeStatus sent = (.ok new, m') ∧
      told.status? = some ⟨true, 3, none⟩ ∧ written.status? = some ⟨true, 3, none⟩ ∧
      new.status? = some ⟨true, 3, none⟩ := by
  intro sent server patched
  have hpatch : patchStored (.obj failedBefore) (Client.statusPatch sent).bytes = some patched :=
    (patchStored_bytes (legible_statusPatch (show _ = some "41" from rfl) (by decide)) _).trans rfl
  have hmemory : (Memory.empty.addInstallation readBefore).installations.lookup readBefore.anyName =
      some readBefore := rfl
  obtain ⟨-, _, written, new, m', hrun, hpatched, -, hread, hnew, -, hsame, hstatus, -⟩ :=
    writeStatus_agrees (show WellFormed (.obj failedBefore) by decide)
      (show readJson Installation.read (.obj failedBefore) = .ok readBefore from rfl) rfl hmemory
      rfl ⟨some 3, .succeeded, none, .empty⟩
  cases hpatched.symm.trans hpatch
  have htarget : Target.read (Installation.collectionPath ++ "/" ++ "demo" ++ "/status?") =
      .ok ⟨"/apis/stevedore.io/v1alpha1/installations/demo/status", some ""⟩ :=
    read_statusPath (by decide) (by decide)
  have hreply : (Client.outcome Installation.read (echo (some patched))).toOption.map (·.status?) =
      some (some ⟨true, 3, none⟩) := by decide +kernel
  obtain ⟨told, htold, htoldStatus⟩ := Option.map_eq_some_iff.mp hreply
  refine ⟨told, written, new, m', ?_, hread, hnew, htoldStatus, hstatus, hsame ▸ hstatus⟩
  rw [hrun _ echo (by decide) htarget]
  cases hanswer : Client.outcome Installation.read (echo (some patched)) with
  | error fault =>
    rw [hanswer] at htold
    cases htold
  | ok i =>
    rw [hanswer] at htold
    cases htold
    rfl

/-- **A status for an older version is refused by both**: the server does not patch its object, and
the cluster in memory answers with an error and stores nothing. -/
theorem writeStatus_refused {stored : Json} {i old : Installation} {version : String} {m : Memory}
    (hversion : i.metadata.resourceVersion? = some version) (htotal : Fits i.status.total)
    (hstored : versionOf stored ≠ some version)
    (hold : m.installations.lookup i.anyName = some old)
    (hother : old.metadata.resourceVersion? ≠ some version) :
    (∀ target respond, i.anyName ≠ "" →
      Target.read (Installation.collectionPath ++ "/" ++ i.anyName ++ "/status?") = .ok target →
      (Client.answer (.writeStatus i)).run (patching target respond) stored =
        ((Client.outcome Installation.read (respond none)).mapError .client, stored)) ∧
      ∃ e m', m.writeStatus i = (.error e, m') ∧ m'.installations = m.installations := by
  constructor
  · intro target respond hname htarget
    have hnamed : versionOf (Client.statusPatch i) = some version := by
      rw [statusPatch_eq hversion]
      rfl
    have hrefused : patchStored stored (Client.statusPatch i).bytes = none := by
      rw [patchStored_bytes (legible_statusPatch hversion htotal), hnamed,
        if_pos ⟨rfl, hstored.symm⟩]
    rw [run_patching respond stored hname htarget, hrefused]
    rfl
  · cases hwritable : m.failsNextStatus with
    | true =>
      obtain ⟨_, e, h⟩ := Memory.writeStatus_of_conflict (i := i) hwritable
      exact ⟨e, _, h, rfl⟩
    | false =>
      unfold Memory.writeStatus
      dsimp only
      rw [if_neg (by rw [hwritable]; decide), hold]
      dsimp only
      rw [if_pos (by rw [hversion]; exact hother)]
      exact ⟨_, _, rfl, rfl⟩

end Install
end BundleInstaller
