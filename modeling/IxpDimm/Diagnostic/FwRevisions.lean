import IxpDimm.Common.RevisionText
import IxpDimm.Diagnostic.Results
import IxpDimm.EventLog.Obfuscate
import Mathlib.Data.Prod.Lex

/-!
# DIMMs with an older revision

Which events `diag_firmware_check` logs about the firmware revisions of the DIMMs of one kind.  The
revision that `find_optimal_fw_revision` finds is the greatest one, whatever the order of the DIMMs.
The text with the unique ids that are reported is not emptied between two kinds of DIMMs, so that the
event of a kind also names the DIMMs of the kinds before it (`revisionsReported_iff`).
-/

namespace IxpDimm.Diagnostic

open Foundation

/-! ### Revisions of DIMMs -/

/-- Every part of a revision has at most the digits that it is written with. -/
structure MainRevision.Fits (revision : MainRevision) : Prop where
  /-- The major version. -/
  major : revision.major < 10 ^ 2
  /-- The minor version. -/
  minor : revision.minor < 10 ^ 2
  /-- The hotfix version. -/
  hotfix : revision.hotfix < 10 ^ 2
  /-- The build version. -/
  build : revision.build < 10 ^ 4

/-- The parts of a revision, compared one after another. -/
def MainRevision.rank (revision : MainRevision) : ℕ ×ₗ ℕ ×ₗ ℕ ×ₗ ℕ :=
  toLex (revision.major, toLex (revision.minor, toLex (revision.hotfix, revision.build)))

/-- A DIMM has a revision, which is written in the format of the library. -/
structure HasRevision (dimm : DiagDiscovery) (revision : MainRevision) : Prop where
  /-- The parts of the revision fit. -/
  fits : MainRevision.Fits revision
  /-- The text of the DIMM. -/
  text : dimm.fwRevision = buildRevision nvmVersionLen revision

/-- A revision is the greatest one of the DIMMs of a kind. -/
structure IsGreatestRevision (subsysDevId : UInt16) (dimms : List DiagDiscovery)
    (best : MainRevision) : Prop where
  /-- A DIMM has it. -/
  attained : ∃ dimm ∈ dimms, dimm.subsystemDeviceId = subsysDevId ∧ HasRevision dimm best
  /-- No DIMM has a greater one. -/
  bound : ∀ dimm ∈ dimms, dimm.subsystemDeviceId = subsysDevId →
    ∀ revision, HasRevision dimm revision →
      MainRevision.rank revision ≤ MainRevision.rank best

/-- The DIMMs of a kind whose text is not that of a revision. -/
def differing (subsysDevId : UInt16) (best : MainRevision) (dimms : List DiagDiscovery) :
    List DiagDiscovery :=
  dimms.filter fun dimm => dimm.subsystemDeviceId = subsysDevId ∧
    dimm.fwRevision ≠ buildRevision nvmVersionLen best

/-- The comparison of the code is that of the parts one after another. -/
theorem less_iff (opt revision : MainRevision) :
    MainRevision.less opt revision = true ↔
      MainRevision.rank opt < MainRevision.rank revision := by
  simp only [MainRevision.rank, Prod.Lex.toLex_lt_toLex, MainRevision.less]
  split_ifs <;> simp only [decide_eq_true_eq, true_iff, false_iff] <;> omega

/-- A revision with the same parts is the same. -/
theorem rank_injective : Function.Injective MainRevision.rank := by
  intro a b h
  obtain ⟨_, _, _, _⟩ := a
  obtain ⟨_, _, _, _⟩ := b
  simp only [MainRevision.rank, EmbeddingLike.apply_eq_iff_eq, Prod.mk.injEq] at h
  obtain ⟨rfl, rfl, rfl, rfl⟩ := h
  rfl

section Greatest

variable {subsysDevId : UInt16} {dimms : List DiagDiscovery} {best revision : MainRevision}

/-- The text of a revision is parsed. -/
theorem parse_of_fits (h : MainRevision.Fits revision) :
    parseMainRevision (buildRevision nvmVersionLen revision) = revision :=
  parseMainRevision_buildRevision (by decide) h.major h.minor h.hotfix h.build

/-- A DIMM has one revision. -/
theorem HasRevision.unique {dimm : DiagDiscovery} {revision' : MainRevision}
    (h : HasRevision dimm revision) (h' : HasRevision dimm revision') : revision = revision' := by
  rw [← parse_of_fits h.fits, ← parse_of_fits h'.fits, ← h.text, ← h'.text]

/-- There is one greatest revision. -/
theorem IsGreatestRevision.unique {best' : MainRevision}
    (h : IsGreatestRevision subsysDevId dimms best)
    (h' : IsGreatestRevision subsysDevId dimms best') : best = best' := by
  obtain ⟨dimm, hmem, hid, hrevision⟩ := h.attained
  obtain ⟨dimm', hmem', hid', hrevision'⟩ := h'.attained
  exact rank_injective
    (le_antisymm (h'.bound dimm hmem hid best hrevision) (h.bound dimm' hmem' hid' best' hrevision'))

/-- The loop of `find_optimal_fw_revision`, from a revision on. -/
private theorem foldl_optimal (hformat : ∀ dimm ∈ dimms, ∃ revision, HasRevision dimm revision)
    {start : MainRevision} (hstart : MainRevision.Fits start) :
    ∃ found, MainRevision.Fits found ∧
      dimms.foldl (fun optimal dimm =>
        if subsysDevId = dimm.subsystemDeviceId ∧
            MainRevision.less (parseMainRevision optimal) (parseMainRevision dimm.fwRevision) then
          dimm.fwRevision
        else optimal) (buildRevision nvmVersionLen start) = buildRevision nvmVersionLen found ∧
      (found = start ∨
        ∃ dimm ∈ dimms, dimm.subsystemDeviceId = subsysDevId ∧ HasRevision dimm found) ∧
      MainRevision.rank start ≤ MainRevision.rank found ∧
      ∀ dimm ∈ dimms, dimm.subsystemDeviceId = subsysDevId →
        ∀ revision, HasRevision dimm revision →
          MainRevision.rank revision ≤ MainRevision.rank found := by
  induction dimms generalizing start with
  | nil => exact ⟨start, hstart, rfl, Or.inl rfl, le_rfl, List.forall_mem_nil _⟩
  | cons dimm dimms ih =>
    obtain ⟨revision, hrevision⟩ := hformat dimm List.mem_cons_self
    have hrest := fun d hd => hformat d (List.mem_cons_of_mem dimm hd)
    have hparse : parseMainRevision dimm.fwRevision = revision := by
      rw [hrevision.text, parse_of_fits hrevision.fits]
    rw [List.foldl_cons, parse_of_fits hstart, hparse]
    split_ifs with htaken
    · -- the revision of this DIMM is greater than those before it
      obtain ⟨found, hfits, htext, hfound, hle, hbound⟩ := ih hrest hrevision.fits
      rw [← hrevision.text] at htext
      refine ⟨found, hfits, htext, Or.inr ?_,
        ((less_iff _ _).mp htaken.2).le.trans hle, ?_⟩
      · rcases hfound with rfl | ⟨dimm', hmem, hof⟩
        · exact ⟨dimm, List.mem_cons_self, htaken.1.symm, hrevision⟩
        · exact ⟨dimm', List.mem_cons_of_mem dimm hmem, hof⟩
      · refine List.forall_mem_cons.mpr ⟨fun _ revision' hrevision' => ?_, hbound⟩
        rw [hrevision'.unique hrevision]
        exact hle
    · obtain ⟨found, hfits, htext, hfound, hle, hbound⟩ := ih hrest hstart
      refine ⟨found, hfits, htext, hfound.imp_right ?_, hle, ?_⟩
      · rintro ⟨dimm', hmem, hof⟩
        exact ⟨dimm', List.mem_cons_of_mem dimm hmem, hof⟩
      · refine List.forall_mem_cons.mpr ⟨fun hid revision' hrevision' => ?_, hbound⟩
        rw [hrevision'.unique hrevision]
        exact (not_lt.mp fun hlt => htaken ⟨hid.symm, (less_iff _ _).mpr hlt⟩).trans hle

/-- The optimal revision of a kind is the greatest one of its DIMMs. -/
theorem findOptimalFwRevision_eq (hformat : ∀ dimm ∈ dimms, ∃ revision, HasRevision dimm revision)
    (hsome : ∃ dimm ∈ dimms, dimm.subsystemDeviceId = subsysDevId) :
    ∃ best, IsGreatestRevision subsysDevId dimms best ∧
      findOptimalFwRevision subsysDevId dimms = buildRevision nvmVersionLen best := by
  have hzero : "00.00.00.0000".toList = buildRevision nvmVersionLen ⟨0, 0, 0, 0⟩ := by
    decide +kernel
  have hfits : MainRevision.Fits ⟨0, 0, 0, 0⟩ := ⟨by decide, by decide, by decide, by decide⟩
  obtain ⟨found, -, htext, hfound, -, hbound⟩ :=
    @foldl_optimal subsysDevId dimms hformat ⟨0, 0, 0, 0⟩ hfits
  rw [← hzero] at htext
  refine ⟨found, ⟨?_, hbound⟩, htext⟩
  rcases hfound with rfl | hattained
  · -- no revision is greater than zero, so that of any DIMM of the kind is zero
    obtain ⟨dimm, hmem, hid⟩ := hsome
    obtain ⟨revision, hrevision⟩ := hformat dimm hmem
    have hle := hbound dimm hmem hid revision hrevision
    have heq : revision = ⟨0, 0, 0, 0⟩ := by
      simp only [MainRevision.rank, Prod.Lex.toLex_le_toLex] at hle
      obtain ⟨major, minor, hotfix, build⟩ := revision
      simp only [MainRevision.mk.injEq]
      dsimp only at hle
      omega
    exact ⟨dimm, hmem, hid, heq ▸ hrevision⟩
  · exact hattained

/-- The DIMMs of a kind for which another one of the kind has a greater revision. -/
def outdated (subsysDevId : UInt16) (dimms : List DiagDiscovery) : List DiagDiscovery :=
  dimms.filter fun dimm => dimm.subsystemDeviceId = subsysDevId ∧
    ∃ other ∈ dimms, other.subsystemDeviceId = subsysDevId ∧
      MainRevision.rank (parseMainRevision dimm.fwRevision) <
        MainRevision.rank (parseMainRevision other.fwRevision)

/-- The text of a DIMM is parsed. -/
private theorem HasRevision.parse {dimm : DiagDiscovery} (h : HasRevision dimm revision) :
    parseMainRevision dimm.fwRevision = revision := by
  rw [h.text, parse_of_fits h.fits]

/-- Another revision than the greatest one is a smaller one. -/
theorem differing_eq_outdated (hformat : ∀ dimm ∈ dimms, ∃ revision, HasRevision dimm revision)
    (hbest : IsGreatestRevision subsysDevId dimms best) :
    differing subsysDevId best dimms = outdated subsysDevId dimms := by
  obtain ⟨greatest, hgreatest, hgreatestId, hgreatestRevision⟩ := hbest.attained
  refine List.filter_congr fun dimm hmem => decide_eq_decide.mpr (and_congr_right fun hid => ?_)
  obtain ⟨revision, hrevision⟩ := hformat dimm hmem
  have hle := hbest.bound dimm hmem hid revision hrevision
  rw [hrevision.parse]
  constructor
  · intro hne
    refine ⟨greatest, hgreatest, hgreatestId, ?_⟩
    rw [hgreatestRevision.parse]
    refine lt_of_le_of_ne hle fun heq => hne ?_
    rw [hrevision.text, rank_injective heq]
  · rintro ⟨other, hother, hotherId, hlt⟩ heq
    obtain ⟨revision', hrevision'⟩ := hformat other hother
    rw [hrevision'.parse] at hlt
    have hsame : revision = best := by
      rw [← hrevision.parse, heq, parse_of_fits hgreatestRevision.fits]
    rw [hsame] at hlt
    exact absurd (hbest.bound other hother hotherId revision' hrevision') (not_le.mpr hlt)

/-- The DIMMs that the code finds are those for which there is a greater revision. -/
theorem inconsistentUids_eq (hformat : ∀ dimm ∈ dimms, ∃ revision, HasRevision dimm revision) :
    inconsistentUids subsysDevId dimms = (outdated subsysDevId dimms).map (·.uid) := by
  by_cases hsome : ∃ dimm ∈ dimms, dimm.subsystemDeviceId = subsysDevId
  · obtain ⟨best, hbest, htext⟩ := findOptimalFwRevision_eq hformat hsome
    rw [← differing_eq_outdated hformat hbest, inconsistentUids, htext, cString_buildRevision]
    refine congrArg (List.map _) (List.filter_congr fun dimm hmem => ?_)
    obtain ⟨revision, hrevision⟩ := hformat dimm hmem
    rw [hrevision.text, cString_buildRevision, Bool.eq_iff_iff, Bool.and_eq_true, beq_iff_eq,
      bne_iff_ne, decide_eq_true_eq]
    exact and_congr eq_comm ne_comm
  · have hnone : ∀ dimm ∈ dimms, dimm.subsystemDeviceId ≠ subsysDevId :=
      fun dimm hmem hid => hsome ⟨dimm, hmem, hid⟩
    rw [inconsistentUids, outdated, List.filter_eq_nil_iff.mpr, List.filter_eq_nil_iff.mpr]
    · intro dimm hmem
      rw [decide_eq_true_eq]
      exact fun h => hnone dimm hmem h.1
    · intro dimm hmem
      rw [Bool.and_eq_true, beq_iff_eq]
      exact fun h => hnone dimm hmem h.1.symm

/-- The order of the DIMMs does not matter for which of them are reported. -/
theorem perm_outdated {dimms' : List DiagDiscovery} (h : dimms'.Perm dimms) :
    (outdated subsysDevId dimms').Perm (outdated subsysDevId dimms) := by
  have hfilter : outdated subsysDevId dimms' = dimms'.filter fun dimm =>
      dimm.subsystemDeviceId = subsysDevId ∧
        ∃ other ∈ dimms, other.subsystemDeviceId = subsysDevId ∧
          MainRevision.rank (parseMainRevision dimm.fwRevision) <
            MainRevision.rank (parseMainRevision other.fwRevision) := by
    refine List.filter_congr fun dimm _ => decide_eq_decide.mpr (and_congr_right fun _ => ?_)
    exact exists_congr fun other => and_congr_left fun _ => h.mem_iff
  rw [hfilter]
  exact h.filter _

end Greatest

/-! ### The text with the unique ids -/

/-- The text of a DIMM in the list of unique ids. -/
def uidText (uid : Uid) : List Char :=
  EventLog.sStrcat (EventLog.sStrcpy uid commonUidLen) (nvmMaxUidLen + 2) ", ".toList

/-- The text in which `diag_firmware_check` collects the unique ids. -/
def uidsText (uids : List Uid) : List Char :=
  uids.foldl (fun text uid => EventLog.sStrcat text EventLog.nvmEventArgLen (uidText uid)) []

/-! ### The events of a run -/

/-- The event for a kind of DIMMs, with the unique ids that are listed. -/
def inconsistentEvent (dimms : List DiagDiscovery) (uids : List Uid) (subsysDevId : UInt16) :
    DiagEvent :=
  fwEvent .warn .fwInconsistent none [.uids uids, .number subsysDevId.toNat,
    .text (findOptimalFwRevision subsysDevId dimms)] .warning

/-- The events for kinds of DIMMs, if unique ids have been listed before. -/
def revisionEvents (dimms : List DiagDiscovery) : List Uid → List UInt16 → List DiagEvent
  | _, [] => []
  | uids, subsysDevId :: ids =>
    let listed := uids ++ inconsistentUids subsysDevId dimms
    (if inconsistentUids subsysDevId dimms = [] then []
      else [inconsistentEvent dimms listed subsysDevId]) ++ revisionEvents dimms listed ids

/-- Whether an event is about the revisions of a kind of DIMMs. -/
def IsAboutKind (subsysDevId : UInt16) (event : DiagEvent) : Prop :=
  event.code = .fwInconsistent ∧ event.args[1]? = some (.number subsysDevId.toNat)

instance (subsysDevId : UInt16) : DecidablePred (IsAboutKind subsysDevId) := fun event =>
  inferInstanceAs (Decidable
    (event.code = .fwInconsistent ∧ event.args[1]? = some (.number subsysDevId.toNat)))

section Run

variable {dimms : List DiagDiscovery}

/-- The comparison of the revisions of one kind. -/
private theorem checkFwRevisionsOf_spec (uids : List Uid) (subsysDevId : UInt16) :
    (checkFwRevisionsOf dimms uids subsysDevId).value =
        uids ++ inconsistentUids subsysDevId dimms ∧
      Emits (if inconsistentUids subsysDevId dimms = [] then []
        else [inconsistentEvent dimms (uids ++ inconsistentUids subsysDevId dimms) subsysDevId])
        (checkFwRevisionsOf dimms uids subsysDevId) := by
  unfold checkFwRevisionsOf
  split_ifs with hnone
  · rw [hnone, List.append_nil]
    exact ⟨rfl, emits_pure _⟩
  · exact ⟨rfl, rfl, rfl⟩

/-- The comparison of the revisions. -/
private theorem emits_checkFwRevisions {request : DiagnosticRequest}
    (hincluded : request.excluded fwConsistent = false) :
    Emits (revisionEvents dimms [] supportedDeviceIds) (checkFwRevisions request dimms) := by
  have hloop : ∀ (ids : List UInt16) (uids : List Uid),
      Emits (revisionEvents dimms uids ids)
        (ids.foldlM (checkFwRevisionsOf dimms) uids : Diag (List Uid)) := by
    intro ids
    induction ids with
    | nil => exact fun uids => emits_pure _
    | cons subsysDevId ids ih =>
      intro uids
      obtain ⟨hvalue, hemits⟩ := @checkFwRevisionsOf_spec dimms uids subsysDevId
      rw [List.foldlM_cons]
      refine emits_bind hemits ?_
      rw [hvalue]
      exact ih _
  rw [checkFwRevisions, if_neg (Bool.not_eq_true _ ▸ hincluded)]
  exact emits_then (hloop _ _) (emits_pure _)

/-- Events with another code are not about a kind of DIMMs. -/
private theorem filter_of_reports {α : Type} {x : Diag α} (subsysDevId : UInt16)
    (h : Reports (fun event => event.code ≠ .fwInconsistent) x) :
    (events x.log).filter (fun event => IsAboutKind subsysDevId event) = [] := by
  refine List.filter_eq_nil_iff.mpr fun event hevent habout => ?_
  exact (reports_iff.mp h).2 event hevent (of_decide_eq_true habout).1

/-- The events about other kinds of DIMMs are left out. -/
private theorem filter_revisionEvents_of_notMem {subsysDevId : UInt16} {ids : List UInt16}
    (h : subsysDevId ∉ ids) (uids : List Uid) :
    (revisionEvents dimms uids ids).filter (fun event => IsAboutKind subsysDevId event) = [] := by
  induction ids generalizing uids with
  | nil => rfl
  | cons other ids ih =>
    rw [List.mem_cons, not_or] at h
    rw [revisionEvents, List.filter_append, ih h.2, List.append_nil]
    split_ifs
    · rfl
    · refine List.filter_eq_nil_iff.mpr fun event hevent habout => h.1 ?_
      obtain rfl := List.mem_singleton.mp hevent
      have hnumber := (of_decide_eq_true habout).2
      have heq : (other.toNat : ℤ) = subsysDevId.toNat :=
        EventArg.number.inj (Option.some.inj hnumber)
      exact (UInt16.toNat_inj.mp (Int.ofNat.inj heq)).symm

/-- The events about a kind of DIMMs. -/
private theorem filter_revisionEvents {subsysDevId : UInt16} {earlier later : List UInt16}
    (hearlier : subsysDevId ∉ earlier) (hlater : subsysDevId ∉ later) (uids : List Uid) :
    (revisionEvents dimms uids (earlier ++ subsysDevId :: later)).filter
        (fun event => IsAboutKind subsysDevId event) =
      if inconsistentUids subsysDevId dimms = [] then [] else
        [inconsistentEvent dimms (uids ++ (earlier.flatMap fun id => inconsistentUids id dimms) ++
          inconsistentUids subsysDevId dimms) subsysDevId] := by
  induction earlier generalizing uids with
  | nil =>
    rw [List.nil_append, revisionEvents, List.filter_append,
      filter_revisionEvents_of_notMem hlater, List.append_nil, List.flatMap_nil, List.append_nil]
    split_ifs
    · rfl
    · exact List.filter_cons_of_pos (decide_eq_true ⟨rfl, rfl⟩)
  | cons other earlier ih =>
    rw [List.mem_cons, not_or] at hearlier
    have hother := @filter_revisionEvents_of_notMem dimms subsysDevId [other]
      (List.mem_singleton.not.mpr hearlier.1) uids
    rw [revisionEvents, revisionEvents, List.append_nil] at hother
    rw [List.cons_append, revisionEvents, List.filter_append, hother, List.nil_append,
      ih hearlier.2, List.flatMap_cons]
    simp only [List.append_assoc]

/-- The events of a run about a kind of DIMMs are those of the comparison of the revisions. -/
private theorem filter_diagFirmwareCheck {ρ : Type} {request : DiagnosticRequest}
    {queries : FwQueries ρ} (hincluded : request.excluded fwConsistent = false)
    (hsupported : queries.isFeatureSupported .fwConsistency = .ok ()) (subsysDevId : UInt16) :
    (events (diagFirmwareCheck request queries).log).filter
        (fun event => IsAboutKind subsysDevId event) =
      (revisionEvents queries.dimms [] supportedDeviceIds).filter
        (fun event => IsAboutKind subsysDevId event) := by
  have hempty : (revisionEvents [] [] supportedDeviceIds).filter
      (fun event => IsAboutKind subsysDevId event) = [] := rfl
  rw [diagFirmwareCheck, Tally.log_bind, value_ask, hsupported, log_ask, events_append,
    events_asked, List.nil_append]
  dsimp only
  rw [Tally.log_bind, value_ask, log_ask, events_append, events_asked, List.nil_append,
    DeviceQueries.dimms]
  rcases queries.getDeviceCount with e | _ | n
  · exact hempty.symm
  · rw [hempty]
    refine filter_of_reports subsysDevId
      (Tally.counts_bind (reports_report ?_) (Tally.counts_pure _))
    exact fun h => by cases h
  · dsimp only
    rw [Tally.log_bind, value_ask, log_ask, events_append, events_asked, List.nil_append]
    cases queries.getDevices (n + 1) with
    | error e => exact hempty.symm
    | ok filled =>
      dsimp only
      split_ifs with hzero
      · rw [hzero, List.take_zero, hempty]
        rfl
      · have hevents : FwDimmEvents request queries fun event => event.code ≠ .fwInconsistent := by
          refine ⟨fun code _ hother _ event _ hcode => hcode ▸ hother, fun uid dimm => ?_⟩
          refine reports_checkPowerMgmtPolicy request queries uid dimm fun event _ hcode => ?_
          rw [hcode]
          exact fun h => by cases h
        have hsuccess : ∀ rc results, Reports (fun event => event.code ≠ .fwInconsistent)
            (reportSuccess rc results fwSuccessEvent) := by
          intro rc results
          unfold reportSuccess
          split_ifs
          · exact Tally.counts_bind (reports_report fun h => by cases h) (Tally.counts_pure _)
          · exact Tally.counts_pure _
        have hrevisions := (@emits_checkFwRevisions (filled.entries.take filled.returned) request
          hincluded).1
        rw [Tally.log_bind, events_append, List.filter_append,
          filter_of_reports subsysDevId (hsuccess _ _), List.append_nil, Tally.log_listen,
          fwChecks, Tally.log_bind, events_append, List.filter_append, hrevisions]
        refine (congrArg _ (filter_of_reports subsysDevId ?_)).trans (List.append_nil _)
        exact Tally.counts_bind (reports_checkFwDimms hevents _) (Tally.counts_pure _)

end Run

/-! ### What is reported -/

/-- The events of a run about the DIMMs of a kind. -/
def inconsistentEvents {ρ : Type} (request : DiagnosticRequest) (queries : FwQueries ρ)
    (subsysDevId : UInt16) : List DiagEvent :=
  (events (diagFirmwareCheck request queries).log).filter fun event => IsAboutKind subsysDevId event

/-- The DIMMs whose revision is not the greatest one of their kind are reported. -/
structure RevisionsReported {ρ : Type} (request : DiagnosticRequest) (queries : FwQueries ρ) :
    Prop where
  /-- If the revision of a DIMM of a kind differs from the greatest one, there is one event, which
  names the kind, the greatest revision and these DIMMs. -/
  differ : ∀ subsysDevId ∈ supportedDeviceIds, ∀ best,
    IsGreatestRevision subsysDevId queries.dimms best →
    differing subsysDevId best queries.dimms ≠ [] →
    ∃ event uids, inconsistentEvents request queries subsysDevId = [event] ∧
      event.args = [.uids uids, .number subsysDevId.toNat,
        .text (buildRevision nvmVersionLen best)] ∧
      uidsText uids = uidsText ((differing subsysDevId best queries.dimms).map (·.uid))
  /-- If the revision of no DIMM of a kind differs from the greatest one, there is no event. -/
  agree : ∀ subsysDevId ∈ supportedDeviceIds,
    (∀ best, IsGreatestRevision subsysDevId queries.dimms best →
      differing subsysDevId best queries.dimms = []) →
    inconsistentEvents request queries subsysDevId = []
  /-- The order of the DIMMs does not matter for which of them are found. -/
  order : ∀ subsysDevId dimms', dimms'.Perm queries.dimms →
    (inconsistentUids subsysDevId dimms').Perm (inconsistentUids subsysDevId queries.dimms)

/-- The text of the DIMMs of a kind that are reported is the same behind those of the kinds before:
there are none, or the text is cut off and what is left of it agrees. -/
def OwnUidsOnly (dimms : List DiagDiscovery) : Prop :=
  ∀ earlier subsysDevId later, supportedDeviceIds = earlier ++ subsysDevId :: later →
    outdated subsysDevId dimms ≠ [] →
    uidsText ((earlier.flatMap fun id => (outdated id dimms).map (·.uid)) ++
        (outdated subsysDevId dimms).map (·.uid)) =
      uidsText ((outdated subsysDevId dimms).map (·.uid))

section Exact

variable {ρ : Type} {request : DiagnosticRequest} {queries : FwQueries ρ}

/-- The events about the DIMMs of a kind. -/
private theorem inconsistentEvents_eq (hincluded : request.excluded fwConsistent = false)
    (hsupported : queries.isFeatureSupported .fwConsistency = .ok ())
    (hformat : ∀ dimm ∈ queries.dimms, ∃ revision, HasRevision dimm revision)
    {earlier later : List UInt16} {subsysDevId : UInt16}
    (hids : supportedDeviceIds = earlier ++ subsysDevId :: later) :
    inconsistentEvents request queries subsysDevId =
      if outdated subsysDevId queries.dimms = [] then [] else
        [inconsistentEvent queries.dimms
          ((earlier.flatMap fun id => (outdated id queries.dimms).map (·.uid)) ++
            (outdated subsysDevId queries.dimms).map (·.uid)) subsysDevId] := by
  have hnodup : supportedDeviceIds.Nodup := by decide
  rw [hids] at hnodup
  have hearlier : subsysDevId ∉ earlier := fun hmem =>
    (List.nodup_append.mp hnodup).2.2 _ hmem _ List.mem_cons_self rfl
  have hlater := (List.nodup_cons.mp (List.nodup_append.mp hnodup).2.1).1
  rw [inconsistentEvents, filter_diagFirmwareCheck hincluded hsupported, hids,
    filter_revisionEvents hearlier hlater, List.nil_append]
  simp only [inconsistentUids_eq hformat, List.map_eq_nil_iff]

/-- There is a greatest revision if another one is smaller. -/
private theorem exists_greatest {dimms : List DiagDiscovery} {subsysDevId : UInt16}
    (hformat : ∀ dimm ∈ dimms, ∃ revision, HasRevision dimm revision)
    (hsome : outdated subsysDevId dimms ≠ []) :
    ∃ best, IsGreatestRevision subsysDevId dimms best ∧
      findOptimalFwRevision subsysDevId dimms = buildRevision nvmVersionLen best := by
  obtain ⟨dimm, hdimm⟩ := List.exists_mem_of_ne_nil _ hsome
  obtain ⟨hmem, hkind⟩ := List.mem_filter.mp hdimm
  exact findOptimalFwRevision_eq hformat ⟨dimm, hmem, (of_decide_eq_true hkind).1⟩

/-- If the DIMMs are reported as they should, no event names others. -/
private theorem ownUidsOnly_of_reported (hincluded : request.excluded fwConsistent = false)
    (hsupported : queries.isFeatureSupported .fwConsistency = .ok ())
    (hformat : ∀ dimm ∈ queries.dimms, ∃ revision, HasRevision dimm revision)
    (h : RevisionsReported request queries) : OwnUidsOnly queries.dimms := by
  intro earlier subsysDevId later hids hsome
  obtain ⟨best, hbest, -⟩ := exists_greatest hformat hsome
  have hdiffering := differing_eq_outdated hformat hbest
  obtain ⟨event, uids, hevents, hargs, htext⟩ := h.differ subsysDevId
    (hids ▸ List.mem_append_right _ List.mem_cons_self) best hbest (hdiffering ▸ hsome)
  rw [inconsistentEvents_eq hincluded hsupported hformat hids, if_neg hsome] at hevents
  obtain rfl := (List.cons.inj hevents).1
  have huids := EventArg.uids.inj (List.cons.inj hargs).1
  rw [huids, htext, hdiffering]

/-- The DIMMs with an older revision are reported as they should exactly if the text of each kind is
not changed by the DIMMs of the kinds before it. -/
theorem revisionsReported_iff (hincluded : request.excluded fwConsistent = false)
    (hsupported : queries.isFeatureSupported .fwConsistency = .ok ())
    (hformat : ∀ dimm ∈ queries.dimms, ∃ revision, HasRevision dimm revision) :
    RevisionsReported request queries ↔ OwnUidsOnly queries.dimms := by
  constructor
  · exact ownUidsOnly_of_reported hincluded hsupported hformat
  · intro h
    refine ⟨fun subsysDevId hid best hbest hsome => ?_, fun subsysDevId hid hnone => ?_,
      fun subsysDevId dimms' hperm => ?_⟩
    · obtain ⟨earlier, later, hids⟩ := List.append_of_mem hid
      rw [differing_eq_outdated hformat hbest] at hsome ⊢
      obtain ⟨best', hbest', htext⟩ := exists_greatest hformat hsome
      rw [inconsistentEvents_eq hincluded hsupported hformat hids, if_neg hsome]
      refine ⟨_, _, rfl, ?_, h earlier subsysDevId later hids hsome⟩
      rw [hbest.unique hbest', ← htext]
      rfl
    · obtain ⟨earlier, later, hids⟩ := List.append_of_mem hid
      rw [inconsistentEvents_eq hincluded hsupported hformat hids, if_pos]
      by_contra hsome
      obtain ⟨best, hbest, -⟩ := exists_greatest hformat hsome
      exact hsome ((differing_eq_outdated hformat hbest).symm.trans (hnone best hbest))
    · have hformat' : ∀ dimm ∈ dimms', ∃ revision, HasRevision dimm revision :=
        fun dimm hmem => hformat dimm (hperm.mem_iff.mp hmem)
      rw [inconsistentUids_eq hformat, inconsistentUids_eq hformat']
      exact (perm_outdated hperm).map _

end Exact

/-! ### Two kinds of DIMMs -/

/-- A DIMM of a kind with a serial number and a revision. -/
def revisedDimm (subsysDevId : UInt16) (serial : UInt8) (revision : MainRevision) :
    DiagDiscovery :=
  { serialNumber := Vector.replicate 4 serial, subsystemDeviceId := subsysDevId,
    fwRevision := buildRevision nvmVersionLen revision }

/-- Two DIMMs with different revisions of each of two kinds. -/
def mixedDimms : List DiagDiscovery :=
  [revisedDimm 0x7909 1 ⟨1, 0, 0, 0⟩, revisedDimm 0x7909 2 ⟨2, 0, 0, 0⟩,
    revisedDimm 0x7A09 3 ⟨1, 0, 0, 0⟩, revisedDimm 0x7A09 4 ⟨2, 0, 0, 0⟩]

/-- What the diagnostic is answered about these DIMMs. -/
def mixedQueries : FwQueries Unit :=
  { uncountedQueries.toFwQueries with
    getDeviceCount := .ok 4
    getDevices := fun _ => .ok ⟨4, mixedDimms⟩ }

/-- The DIMMs have revisions in the format of the library. -/
private theorem hasRevision_mixedDimms :
    ∀ dimm ∈ mixedQueries.dimms, ∃ revision, HasRevision dimm revision := by
  have hone : MainRevision.Fits ⟨1, 0, 0, 0⟩ := ⟨by decide, by decide, by decide, by decide⟩
  have htwo : MainRevision.Fits ⟨2, 0, 0, 0⟩ := ⟨by decide, by decide, by decide, by decide⟩
  intro dimm hmem
  have hdimms : mixedQueries.dimms = mixedDimms := rfl
  simp only [hdimms, mixedDimms, List.mem_cons, List.not_mem_nil, or_false] at hmem
  rcases hmem with rfl | rfl | rfl | rfl
  · exact ⟨_, hone, rfl⟩
  · exact ⟨_, htwo, rfl⟩
  · exact ⟨_, hone, rfl⟩
  · exact ⟨_, htwo, rfl⟩

/-- Whether the DIMMs of two kinds are reported is the question of the statement. -/
theorem revisionsReported_mixedDimms : ({} : DiagnosticRequest).excluded fwConsistent = false ∧
    mixedQueries.isFeatureSupported .fwConsistency = .ok () ∧
    (∀ dimm ∈ mixedQueries.dimms, ∃ revision, HasRevision dimm revision) ∧
    (RevisionsReported {} mixedQueries ↔ OwnUidsOnly mixedQueries.dimms) :=
  ⟨by decide, rfl, hasRevision_mixedDimms,
    revisionsReported_iff (by decide) rfl hasRevision_mixedDimms⟩

/-- The event of the second kind also names the DIMM of the first kind. -/
theorem not_revisionsReported_mixedDimms :
    ¬∀ (request : DiagnosticRequest) (queries : FwQueries Unit),
      request.excluded fwConsistent = false → queries.isFeatureSupported .fwConsistency = .ok () →
      (∀ dimm ∈ queries.dimms, ∃ revision, HasRevision dimm revision) →
      RevisionsReported request queries := by
  intro h
  have hreported := h {} mixedQueries (by decide) rfl hasRevision_mixedDimms
  have hown := ownUidsOnly_of_reported (by decide) rfl hasRevision_mixedDimms hreported
  have htexts := hown [0x7909] 0x7A09 [0x7B09] rfl (by decide +kernel)
  revert htexts
  decide +kernel

end IxpDimm.Diagnostic
