import Mathlib.Algebra.BigOperators.Group.List.Basic
import Mathlib.Data.List.Lex
import ReportDelivery.Proofs.Command.ExitCodes
import ReportDelivery.Proofs.Value.Form

/-! The summary accounts for every finding.

A command that is done prints a table, from a report whose findings were loaded, brought into wire
form and checked on the way. `summary_accounts` ties the table to the file that the findings came
from: its rows are the severities that have an item there, in code point order, and its numbers are
the lengths of the file's lists. -/
namespace ReportDelivery

/-! ### Code point order -/

theorem CodePoint.toNat_inj {a b : CodePoint} : a.toNat = b.toNat ↔ a = b := by
  refine ⟨fun h => ?_, congrArg toNat⟩
  cases a with
  | char c =>
    cases b with
    | char d => exact congrArg char (Char.toNat_inj.1 h)
    | surrogate j =>
      have hvalid := c.valid
      have hnumber : c.val.toNat = 0xD800 + j.val := h
      simp only [UInt32.isValidChar, Nat.isValidChar] at hvalid
      omega
  | surrogate i =>
    cases b with
    | char d =>
      have hvalid := d.valid
      have hnumber : 0xD800 + i.val = d.val.toNat := h
      simp only [UInt32.isValidChar, Nat.isValidChar] at hvalid
      omega
    | surrogate j => exact congrArg surrogate (Fin.ext (Nat.add_left_cancel h))

namespace Text

variable {s t : Text}

/-- Code point order. Where the texts first differ, the first one has the smaller code point or ends. -/
def Before (s t : Text) : Prop := s.map CodePoint.toNat < t.map CodePoint.toNat

theorem map_toNat_inj : s.map CodePoint.toNat = t.map CodePoint.toNat ↔ s = t :=
  (List.map_injective_iff.2 fun _ _ => CodePoint.toNat_inj.1).eq_iff

theorem le_iff : s.le t = true ↔ s = t ∨ s.Before t := by
  induction s generalizing t with
  | nil => cases t <;> simp [le, Before]
  | cons a s ih =>
    cases t with
    | nil => simp [le, Before]
    | cons b t =>
      simp only [le, Before, List.map_cons, List.cons_lt_cons_iff, CodePoint.toNat_inj,
        Bool.or_eq_true, Bool.and_eq_true, decide_eq_true_eq, beq_iff_eq, List.cons.injEq]
      rw [ih, Before]
      tauto

theorem before_of_not_le (h : s.le t ≠ true) : t.Before s := by
  rcases lt_trichotomy (s.map CodePoint.toNat) (t.map CodePoint.toNat) with hlt | heq | hgt
  · exact absurd (le_iff.2 (.inr hlt)) h
  · exact absurd (le_iff.2 (.inl (map_toNat_inj.1 heq))) h
  · exact hgt

theorem Before.ne (h : s.Before t) : s ≠ t := fun heq => lt_irrefl _ (heq ▸ h)

end Text

/-! ### Rows -/

namespace Summary

variable {s t : Text} {texts : List Text}

theorem mem_insertDistinct : s ∈ insertDistinct t texts ↔ s = t ∨ s ∈ texts := by
  induction texts with
  | nil => simp [insertDistinct]
  | cons first rest ih =>
    unfold insertDistinct
    split
    · next heq => simp [heq]
    · split
      · simp
      · rw [List.mem_cons, List.mem_cons, ih]
        tauto

theorem ascending_insertDistinct (h : texts.Pairwise Text.Before) :
    (insertDistinct t texts).Pairwise Text.Before := by
  induction texts with
  | nil => exact List.pairwise_singleton _ _
  | cons first rest ih =>
    obtain ⟨hfirst, hrest⟩ := List.pairwise_cons.1 h
    unfold insertDistinct
    split
    · exact h
    · next hne =>
      split
      · next hle =>
        have hbefore : t.Before first := (Text.le_iff.1 hle).resolve_left hne
        refine .cons (fun other hother => ?_) h
        rcases List.mem_cons.1 hother with rfl | hmem
        · exact hbefore
        · exact lt_trans hbefore (hfirst other hmem)
      · next hnot =>
        refine .cons (fun other hother => ?_) (ih hrest)
        rcases mem_insertDistinct.1 hother with rfl | hmem
        · exact Text.before_of_not_le hnot
        · exact hfirst other hmem

theorem mem_severities {report : Report} :
    s ∈ severities report ↔ ∃ group ∈ report.findings ++ report.ignored, group.1.display = s := by
  rw [← List.mem_map, severities]
  induction (report.findings ++ report.ignored).map (·.1.display) with
  | nil => rfl
  | cons first rest ih => rw [List.foldr_cons, mem_insertDistinct, ih, List.mem_cons]

theorem ascending_severities (report : Report) : (severities report).Pairwise Text.Before := by
  unfold severities
  induction (report.findings ++ report.ignored).map (·.1.display) with
  | nil => exact .nil
  | cons first rest ih => exact ascending_insertDistinct ih

end Summary

/-! ### Items in the document -/

/-- A number that stands for one item is the sum, and it may only be missing if it is zero. -/
theorem sum_map_single {α : Type} [DecidableEq α] {items : List α} (hdistinct : items.Nodup) {a : α}
    {n : Nat} (h : a ∉ items → n = 0) : (items.map fun b => if b = a then n else 0).sum = n := by
  rw [List.sum_map_eq_nsmul_single a _ fun _ hne _ => if_neg hne, if_pos rfl]
  by_cases hmem : a ∈ items
  · rw [List.count_eq_one_of_mem hdistinct hmem, one_nsmul]
  · rw [h hmem, nsmul_zero]

/-- A value that counts as missing has no items. -/
theorem Value.elements_of_missing {v : Value} (h : v.isTruthy = false) : v.elements = [] := by
  rw [← elements_orElse, orElse, h, if_neg Bool.false_ne_true]
  rfl

namespace Members

/-- The groups of a section, none if it is missing. -/
def groups (root : Members) (part : Section) : Members := (get root part.name).fields

/-- The items that a group has under a severity, none if there is no such group. -/
def itemsUnder (groups : Members) (severity : Text) : List Value :=
  ((groups.get? (.str severity)).map (·.elements)).getD []

/-- The number of items in all groups. -/
def itemCount (groups : Members) : Nat := (groups.map (·.2.elements.length)).sum

section
variable {groups : Members} {name severity : Text} {v : Value}

theorem itemsUnder_cons (name : Text) (v : Value) (groups : Members) (severity : Text) :
    itemsUnder ((.str name, v) :: groups) severity =
      if name = severity then v.elements else groups.itemsUnder severity := by
  rw [itemsUnder, get?_cons]
  split <;> rfl

theorem itemsUnder_of_notMem (htexts : TextKeys groups) (h : .str severity ∉ keys groups) :
    groups.itemsUnder severity = [] := by
  induction groups with
  | nil => rfl
  | cons group groups ih =>
    obtain ⟨key, v⟩ := group
    obtain ⟨⟨name, rfl⟩, hrest⟩ := List.forall_mem_cons.1 htexts
    obtain ⟨hne, hnotMem⟩ := not_or.1 fun hmem => h (List.mem_cons.2 hmem)
    rw [itemsUnder_cons, if_neg fun heq => hne (by rw [heq]), ih hrest hnotMem]

theorem Named.cons_iff : Named ((.str name, v) :: groups) ↔
    .str name ∉ keys groups ∧ Named groups := by
  constructor
  · rintro ⟨htexts, hdistinct⟩
    obtain ⟨hnew, hdistinct⟩ := List.nodup_cons.1 hdistinct
    exact ⟨hnew, (List.forall_mem_cons.1 htexts).2, hdistinct⟩
  · rintro ⟨hnew, htexts, hdistinct⟩
    exact ⟨List.forall_mem_cons.2 ⟨⟨name, rfl⟩, htexts⟩, List.nodup_cons.2 ⟨hnew, hdistinct⟩⟩

/-- Severities, each once and none with an item left out, have all the items between them. -/
theorem sum_itemsUnder (h : groups.Named) {severities : List Text} (hdistinct : severities.Nodup)
    (hall : ∀ severity, groups.itemsUnder severity ≠ [] → severity ∈ severities) :
    (severities.map fun severity => (groups.itemsUnder severity).length).sum =
      groups.itemCount := by
  induction groups with
  | nil => simp [itemsUnder, itemCount, get?]
  | cons group groups ih =>
    obtain ⟨key, v⟩ := group
    obtain ⟨name, rfl⟩ : ∃ name, key = .str name := h.texts key List.mem_cons_self
    obtain ⟨hnew, hrest⟩ := Named.cons_iff.1 h
    have hnone : itemsUnder groups name = [] := itemsUnder_of_notMem hrest.texts hnew
    -- One severity has the first group's items besides those of the other groups, which has none.
    have hsplit (severity : Text) : (itemsUnder ((.str name, v) :: groups) severity).length =
        (if severity = name then v.elements.length else 0) +
          (itemsUnder groups severity).length := by
      rw [itemsUnder_cons]
      by_cases heq : name = severity
      · subst heq
        simp [hnone]
      · simp [heq, Ne.symm heq]
    have hothers : ∀ severity, itemsUnder groups severity ≠ [] → severity ∈ severities := by
      intro severity hitems
      refine hall severity ?_
      rw [itemsUnder_cons, if_neg ?_]
      · exact hitems
      · rintro rfl
        exact hitems hnone
    have hkept : name ∉ severities → v.elements.length = 0 := by
      intro hmem
      by_contra hne
      refine hmem (hall name ?_)
      rwa [itemsUnder_cons, if_pos rfl, ← List.length_pos_iff, Nat.pos_iff_ne_zero]
    simp only [hsplit, List.sum_map_add, sum_map_single hdistinct hkept, ih hrest hothers]
    rfl

end
end Members

/-! ### Counts -/

/-- The groups of a section. -/
def Report.groups (report : Report) : Section → FindingGroups
  | .findings => report.findings
  | .ignored => report.ignored

namespace Summary

theorem count_cons (group : Value × List WireFinding) (groups : FindingGroups) (severity : Text) :
    count (group :: groups) severity =
      if group.1.display = severity then group.2.length else count groups severity := by
  by_cases h : group.1.display = severity <;> simp [count, h]

theorem count_pos_iff {groups : FindingGroups} (h : ∀ group ∈ groups, group.2 ≠ [])
    {severity : Text} :
    0 < count groups severity ↔ ∃ group ∈ groups, group.1.display = severity := by
  induction groups with
  | nil => simp [count]
  | cons group groups ih =>
    obtain ⟨hfirst, hrest⟩ := List.forall_mem_cons.1 h
    rw [count_cons, List.exists_mem_cons_iff]
    split
    · next heq => exact iff_of_true (List.length_pos_iff.2 hfirst) (.inl heq)
    · next hne => rw [ih hrest, or_iff_right hne]

end Summary

namespace ReportsSection

variable {Reports : Value → WireFinding → Prop} {groups : Members} {reported : FindingGroups}

theorem ne_nil (h : ReportsSection Reports groups reported) : ∀ group ∈ reported, group.2 ≠ [] := by
  rintro group hgroup hempty
  obtain ⟨_, hmem, severity, items, rfl, -, hitems⟩ := forall₂_mem_right h hgroup
  rw [hempty] at hitems
  cases hitems
  cases (List.mem_filter.1 hmem).2

/-- A severity has as many findings in the report as it has items in the document. -/
theorem count_eq (h : ReportsSection Reports groups reported) (hnamed : groups.Named)
    (severity : Text) :
    Summary.count reported severity = (groups.itemsUnder severity).length := by
  induction groups generalizing reported with
  | nil =>
    cases h
    rfl
  | cons group groups ih =>
    obtain ⟨key, v⟩ := group
    obtain ⟨name, rfl⟩ : ∃ name, key = .str name := hnamed.texts key List.mem_cons_self
    obtain ⟨hnew, hrest⟩ := Members.Named.cons_iff.1 hnamed
    rw [Members.itemsUnder_cons]
    rw [ReportsSection, Members.filled, List.filter_cons] at h
    split at h
    · next hkept =>
      cases h with
      | @cons _ first _ others hfirst hothers =>
        obtain ⟨_, items, ⟨⟩, hkey, hitems⟩ := hfirst
        rw [Summary.count_cons, hkey, ih hothers hrest]
        show (if name = severity then _ else _) = _
        split
        · exact hitems.length_eq.symm
        · rfl
    · next hmissing =>
      rw [ih h hrest]
      split
      · next heq =>
        subst heq
        rw [Members.itemsUnder_of_notMem hrest.texts hnew,
          Value.elements_of_missing (Bool.eq_false_iff.2 hmissing)]
      · rfl

end ReportsSection

/-! ### The table of a report -/

/-- One of the two numbers in a row. -/
def SummaryRow.count (row : SummaryRow) : Section → Nat
  | .findings => row.findings
  | .ignored => row.ignored

/-- A table that accounts for every item in a document. -/
structure Summary.Accounts (rows : List SummaryRow) (root : Members) : Prop where
  /-- The severities with an item have a row, and no others. -/
  severities : ∀ severity, (∃ row ∈ rows, row.severity = severity) ↔
    ∃ part, (root.groups part).itemsUnder severity ≠ []
  /-- Rows are in the order of their severities, so no severity has two. -/
  ascending : rows.Pairwise fun row later => row.severity.Before later.severity
  counts : ∀ row ∈ rows, ∀ part,
    row.count part = ((root.groups part).itemsUnder row.severity).length
  totals : ∀ part, (rows.map (·.count part)).sum = (root.groups part).itemCount

theorem ScanData.GroupsAt.groups_eq {root groups : Members} {part : Section}
    (h : GroupsAt root part.name groups) : root.groups part = groups := by
  rw [Members.groups, ← Value.fields_orElse, h]
  rfl

theorem Members.named_groups {root : Members} (h : (Value.object root).IsJson) (part : Section) :
    (root.groups part).Named := by
  have hpart := h.get part.name
  unfold groups
  cases hv : get root part.name with
  | object members =>
    rw [hv] at hpart
    exact hpart.named
  | _ => exact named_nil

namespace Report

variable {report : Report} {root : Members}

theorem Carries.reports (h : report.Carries root) (part : Section) :
    ∃ Reports, ReportsSection Reports (root.groups part) (report.groups part) := by
  cases part with
  | findings =>
    obtain ⟨groups, hgroups, hsection⟩ := h.findings
    have hsame : root.groups .findings = groups := ScanData.GroupsAt.groups_eq hgroups
    exact ⟨_, hsame ▸ hsection⟩
  | ignored =>
    obtain ⟨groups, hgroups, hsection⟩ := h.ignored
    have hsame : root.groups .ignored = groups := ScanData.GroupsAt.groups_eq hgroups
    exact ⟨_, hsame ▸ hsection⟩

theorem Carries.count_eq (h : report.Carries root) (hroot : (Value.object root).IsJson)
    (part : Section) (severity : Text) :
    Summary.count (report.groups part) severity =
      ((root.groups part).itemsUnder severity).length := by
  obtain ⟨Reports, hsection⟩ := h.reports part
  exact hsection.count_eq (Members.named_groups hroot part) severity

theorem Carries.mem_severities (h : report.Carries root) (hroot : (Value.object root).IsJson)
    (severity : Text) : severity ∈ Summary.severities report ↔
      ∃ part, (root.groups part).itemsUnder severity ≠ [] := by
  have hpart (part : Section) : (∃ group ∈ report.groups part, group.1.display = severity) ↔
      (root.groups part).itemsUnder severity ≠ [] := by
    obtain ⟨Reports, hsection⟩ := h.reports part
    rw [← Summary.count_pos_iff hsection.ne_nil, h.count_eq hroot, List.length_pos_iff]
  rw [Summary.mem_severities]
  constructor
  · rintro ⟨group, hgroup, heq⟩
    rcases List.mem_append.1 hgroup with hmem | hmem
    · exact ⟨.findings, (hpart .findings).1 ⟨group, hmem, heq⟩⟩
    · exact ⟨.ignored, (hpart .ignored).1 ⟨group, hmem, heq⟩⟩
  · rintro ⟨part, hitems⟩
    obtain ⟨group, hmem, heq⟩ := (hpart part).2 hitems
    refine ⟨group, ?_, heq⟩
    cases part with
    | findings => exact List.mem_append_left _ hmem
    | ignored => exact List.mem_append_right _ hmem

/-- The table of a report accounts for the document that the report has its findings from. -/
theorem Carries.accounts (h : report.Carries root) (hroot : (Value.object root).IsJson) :
    Summary.Accounts (Summary.rows report) root := by
  have hcount (severity : Text) (part : Section) :
      SummaryRow.count ⟨severity, Summary.count report.findings severity,
        Summary.count report.ignored severity⟩ part =
      ((root.groups part).itemsUnder severity).length := by
    rw [← h.count_eq hroot]
    cases part <;> rfl
  refine ⟨fun severity => ?_, ?_, ?_, fun part => ?_⟩
  · rw [← h.mem_severities hroot]
    simp [Summary.rows]
  · exact List.pairwise_map.2 (Summary.ascending_severities report)
  · rintro row hrow part
    obtain ⟨severity, -, rfl⟩ := List.mem_map.1 hrow
    exact hcount severity part
  · have hdistinct : (Summary.severities report).Nodup :=
      (Summary.ascending_severities report).imp Text.Before.ne
    rw [Summary.rows, List.map_map, ← Members.sum_itemsUnder (Members.named_groups hroot part)
      hdistinct fun severity hitems => (h.mem_severities hroot severity).2 ⟨part, hitems⟩]
    exact congrArg List.sum (List.map_congr_left fun severity _ => hcount severity part)

end Report

/-! ### Runs that are done -/

namespace World

variable {world : World} {arguments : Arguments}

/-- The document that the results of a scan are loaded from. -/
def ReadsScan (world : World) (arguments : Arguments) (root : Members) : Prop :=
  ∃ path content, world.readInput arguments.reportData = .ok (path, content) ∧
    Json.readFile content = .ok (.object root)

theorem loadInputs_reads {scan : ScanData} {context : Option Repository}
    (h : world.loadInputs arguments = .ok (scan, context)) :
    ∃ root, world.ReadsScan arguments root ∧ (Value.object root).IsJson ∧
      ScanData.Loads root scan := by
  obtain ⟨scan', hscan, h⟩ := bind_ok.1 h
  obtain ⟨context', -, ⟨⟩⟩ := bind_ok.1 h
  obtain ⟨⟨path, content⟩, hread, hload⟩ := bind_ok.1 hscan
  obtain ⟨root, hroot, hjson, hloads⟩ := ScanData.ofFile_ok hload
  exact ⟨root, ⟨path, content, hread, hroot⟩, hjson, hloads⟩

theorem writeReport_summary {verbose : Bool} {output : Setting Text} {report : Report}
    (h : (world.writeReport verbose output report).exit = .ok 0) :
    (world.writeReport verbose output report).summary = some (Summary.rows report) := by
  rw [writeReport_def] at h ⊢
  split at h
  · cases h
  · cases h
  · split at h
    · rfl
    · rw [refuse_exit] at h
      cases h
    · cases h

/-- The table that is printed is that of a report on the inputs. -/
theorem runBuild_summary {build : BuildArguments}
    (h : (world.runBuild arguments build).exit = .ok 0) :
    ∃ scan context report, world.loadInputs arguments = .ok (scan, context) ∧
      ScanData.Builds scan arguments.settings report ∧
      (world.runBuild arguments build).summary = some (Summary.rows report) := by
  obtain ⟨scan, context, report, kept, hinputs, hassemble, hrun⟩ := runBuild_ok h
  rw [hrun] at h ⊢
  exact ⟨scan, context, report, hinputs, ScanData.assembleReport_ok hassemble,
    writeReport_summary h⟩

/-- A delivery that succeeded keeps the report that it sent, under the offer's name. -/
theorem runSend_summary {send : SendArguments}
    (h : (world.runSend arguments send).exit = .ok 0) :
    ∃ scan context report, world.loadInputs arguments = .ok (scan, context) ∧
      ScanData.Builds scan arguments.settings report ∧
      (world.runSend arguments send).summary = some (Summary.rows report) := by
  rcases world.runSend_cases arguments send with ⟨-, hrun⟩ | ⟨failure, -, hrun⟩ |
    ⟨key, scan, context, -, hinputs, hrun⟩
  · rw [hrun] at h
    cases h
  · rw [hrun] at h
    cases (unloaded_exit.1 h).2
  · rw [hrun] at h ⊢
    rcases hdelivery : (world.delivery arguments send key.strip context).run scan with ⟨answer, s'⟩
    rw [hdelivery] at h
    obtain ⟨-, ⟨⟩⟩ | ⟨rfl, -⟩ := afterDelivery_exit.1 h
    cases deliverScan_run hdelivery with
    | @sent report kept _ _ _ _ left _ hsend _ _ hscan =>
      have hassemble : scan.assembleReport arguments.settings context true = .ok (report, kept) :=
        (ScanData.reportToSend_of_none (loadInputs_report hinputs) _ _).symm.trans hsend
      refine ⟨scan, context, report, hinputs, ScanData.assembleReport_ok hassemble, ?_⟩
      rw [afterDelivery_def]
      show s'.scan.report.map Summary.rows = _
      rw [hscan]
      rfl

end World

/-! ### The main theorem -/

/-- **Main theorem.** A command that is done has loaded a JSON object and prints a table that
accounts for it: one row for each severity that has an item under `findings` or `ignored_findings`,
in strictly ascending code point order, with the lengths of both lists, and in total all items of
both sections. -/
theorem summary_accounts {world : World} {arguments : Arguments}
    (h : (world.run arguments).exit = .ok 0) :
    ∃ root rows, world.ReadsScan arguments root ∧ (world.run arguments).summary = some rows ∧
      Summary.Accounts rows root := by
  have hsummary : ∃ scan context report, world.loadInputs arguments = .ok (scan, context) ∧
      ScanData.Builds scan arguments.settings report ∧
      (world.run arguments).summary = some (Summary.rows report) := by
    unfold World.run World.runOn at h ⊢
    split at h
    · exact World.runBuild_summary h
    · exact World.runSend_summary h
  obtain ⟨scan, context, report, hinputs, hbuilds, hsummary⟩ := hsummary
  obtain ⟨root, hreads, hjson, hloads⟩ := World.loadInputs_reads hinputs
  exact ⟨root, _, hreads, hsummary, (hbuilds.carries hloads).accounts hjson⟩

/-- A finding under one of two severities, and an ignored finding under this one and another. -/
def tableFile : Bytes :=
  ("\x7b\"findings\": \x7b\"low\": [\x7b\x7d], \"high\": []\x7d, \"ignored_findings\": \x7b" ++
    "\"low\": [\x7b\"ignore_meta\": \x7b\"author\": 1\x7d\x7d], " ++
    "\"critical\": [\x7b\"ignore_meta\": \x7b\"author\": 1\x7d\x7d]\x7d\x7d").toList.map
      fun c => .ofNat c.toNat

namespace World

/-- The file in a repository, and a collector that makes an offer. -/
def tableScan : World :=
  { sample tableFile with
    environ := repositoryEnviron
    replies := sampleStart.conversation.replies }

def tableBuild : Arguments := { sampleArguments (.value ".") with verb := .build plainBuild }

end World

def sampleTable : List SummaryRow := [⟨"critical", 0, 1⟩, ⟨"low", 1, 1⟩]

/-- The table after a build, and after sending. -/
theorem sampleTable_accounts :
    ((World.tableScan.run World.tableBuild).exit = .ok 0 ∧
      ∃ root, World.tableScan.ReadsScan World.tableBuild root ∧
        Summary.Accounts sampleTable root) ∧
    (World.tableScan.run sendingArguments).exit = .ok 0 ∧
      ∃ root, World.tableScan.ReadsScan sendingArguments root ∧
        Summary.Accounts sampleTable root := by
  have haccounts {arguments : Arguments}
      (hrun : (World.tableScan.run arguments).exit.toOption = some 0 ∧
        (World.tableScan.run arguments).summary = some sampleTable) :
      (World.tableScan.run arguments).exit = .ok 0 ∧
        ∃ root, World.tableScan.ReadsScan arguments root ∧ Summary.Accounts sampleTable root := by
    have hexit := World.exit_of_toOption hrun.1
    obtain ⟨root, rows, hreads, hrows, haccounts⟩ := summary_accounts hexit
    obtain rfl := Option.some.inj (hrun.2.symm.trans hrows)
    exact ⟨hexit, root, hreads, haccounts⟩
  exact ⟨haccounts (by decide +kernel), haccounts (by decide +kernel)⟩

end ReportDelivery
