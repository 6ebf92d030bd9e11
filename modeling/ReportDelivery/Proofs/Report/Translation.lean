import ReportDelivery.Proofs.Record.RoundTrip
import ReportDelivery.Report.Wire

/-! What becomes of the findings of a scan.

Findings come as groups of items that may be anything. `translation_lossless`: they have a wire form
exactly if every item is like a finding, and then every severity with an item keeps its place, and
every item its place below its severity. Gathering the findings one by one into groups that are opened
as they are needed gives the same groups. Groups next to each other and the parts of a group are
translated apart. -/
namespace ReportDelivery

/-! ### Items -/

namespace Value

/-- A value with a severity record of its own. -/
inductive HasSeverityMeta : Value → SeverityMeta → Prop
  | finding (record : Finding) : HasSeverityMeta (.finding record) record.severityMeta
  | wire (record : WireFinding) : HasSeverityMeta (.wire record) record.severityMeta

/-- What an item that is like a finding answers with: a finding, that finding's severity record, and
an ignore record or null. -/
inductive Answers : Value → WireFinding → Prop
  | finding (record : Finding) :
    Answers (.finding record) ⟨.finding record, record.severityMeta, .null⟩
  | ignored (record : Finding) (ignoreMeta : IgnoreMeta) :
    Answers (.ignored record ignoreMeta)
      ⟨.finding record, record.severityMeta, .ignoreMeta ignoreMeta⟩
  | wrapped {given ignoreMeta : Value} {severityMeta : SeverityMeta}
      (h : given.HasSeverityMeta severityMeta) :
    Answers (.wrapped given ignoreMeta) ⟨given, severityMeta, ignoreMeta⟩

/-- An item that does not give a finding or an ignore record, or whose finding has no severity
record. -/
def Lacks (item : Value) : Prop :=
  (∃ error, item.giveFinding = .error error) ∨ (∃ error, item.giveIgnoreMeta = .error error) ∨
    ∃ finding, item.giveFinding = .ok finding ∧ ∃ error, finding.giveSeverityMeta = .error error

theorem giveSeverityMeta_ok {v : Value} {severityMeta : SeverityMeta} :
    v.giveSeverityMeta = .ok severityMeta ↔ v.HasSeverityMeta severityMeta := by
  constructor
  · intro h
    cases v with
    | finding record =>
      cases h
      exact .finding record
    | wire record =>
      cases h
      exact .wire record
    | _ => cases h
  · intro h
    cases h <;> rfl

theorem toWire_ok {item : Value} {record : WireFinding} :
    item.toWire = .ok record ↔ item.Answers record := by
  constructor
  · intro h
    obtain ⟨finding, hfinding, h⟩ := bind_ok.1 h
    obtain ⟨severityMeta, hseverity, h⟩ := bind_ok.1 h
    obtain ⟨ignoreMeta, hignore, ⟨⟩⟩ := bind_ok.1 h
    cases item with
    | finding record =>
      cases hfinding
      cases hseverity
      cases hignore
      exact .finding record
    | ignored record ignoreMeta =>
      cases hfinding
      cases hseverity
      cases hignore
      exact .ignored record ignoreMeta
    | wrapped given ignoreMeta =>
      cases hfinding
      cases hignore
      exact .wrapped (giveSeverityMeta_ok.1 hseverity)
    | _ => cases hfinding
  · intro h
    cases h with
    | finding record => rfl
    | ignored record ignoreMeta => rfl
    | wrapped hseverity =>
      exact bind_ok.2 ⟨_, rfl, bind_ok.2 ⟨_, giveSeverityMeta_ok.2 hseverity, rfl⟩⟩

theorem toWire_error {item : Value} : (∃ error, item.toWire = .error error) ↔ item.Lacks := by
  unfold toWire Lacks
  cases item.giveFinding with
  | error error => simp [bind, Except.bind]
  | ok finding =>
    cases hseverity : finding.giveSeverityMeta with
    | error error => simp [bind, Except.bind, hseverity]
    | ok severityMeta =>
      cases item.giveIgnoreMeta with
      | error error => simp [bind, Except.bind, hseverity]
      | ok ignoreMeta => simp [bind, Except.bind, hseverity, pure, Except.pure]

end Value

/-! ### Groups -/

/-- The severities with the items under each, whatever kind of sequence has them. -/
def Members.Sequences (groups : Members) (sequences : List (Value × List Value)) : Prop :=
  List.Forall₂ (fun group sequence => group.1 = sequence.1 ∧ group.2.items? = some sequence.2)
    groups sequences

namespace FindingGroups

/-- The severity stays, and every item in its place answers with a wire finding. -/
def TranslatesGroup (sequence : Value × List Value) (group : Value × List WireFinding) : Prop :=
  group.1 = sequence.1 ∧ List.Forall₂ Value.Answers sequence.2 group.2

theorem TranslatesGroup.isEmpty {sequence : Value × List Value} {group : Value × List WireFinding}
    (h : TranslatesGroup sequence group) : (!sequence.2.isEmpty) = !group.2.isEmpty := by
  obtain ⟨severity, items⟩ := sequence
  obtain ⟨key, records⟩ := group
  obtain ⟨-, hitems⟩ := h
  cases hitems <;> rfl

theorem translatesGroup_empty (sequence : Value × List Value)
    (h : (!sequence.2.isEmpty) = false) : ∃ group, TranslatesGroup sequence group := by
  have hnil : sequence.2 = [] := by simpa using h
  exact ⟨(sequence.1, []), rfl, hnil ▸ .nil⟩

/-- The severities that have an item are translated, in their order. -/
def Translates (sequences : List (Value × List Value)) (translated : FindingGroups) : Prop :=
  List.Forall₂ TranslatesGroup (sequences.filter fun sequence => !sequence.2.isEmpty) translated

/-- The wire findings of all groups, one group behind the other. -/
def records (groups : FindingGroups) : List WireFinding := groups.flatMap (·.2)

/-- One group in wire form, also if there is nothing in it. -/
def convert (group : Value × Value) : Except CoercionError (Value × List WireFinding) := do
  return (group.1, ← (← group.2.toItems).mapM Value.toWire)

theorem ofScan_eq (groups : Members) : ofScan (.object groups) =
    (groups.mapM convert).map fun converted => converted.filter fun group => !group.2.isEmpty := by
  show groups.mapM convert >>= _ = _
  cases groups.mapM convert <;> rfl

section
variable {groups : Members} {sequences : List (Value × List Value)}
  (hgroups : groups.Sequences sequences)
include hgroups

theorem mapM_convert_ok {converted : FindingGroups} :
    groups.mapM convert = .ok converted ↔ List.Forall₂ TranslatesGroup sequences converted := by
  have hstep {group : Value × Value} {sequence : Value × List Value}
      (h : group.1 = sequence.1 ∧ group.2.items? = some sequence.2)
      (result : Value × List WireFinding) :
      convert group = .ok result ↔ TranslatesGroup sequence result := by
    obtain ⟨hseverity, hitems⟩ := h
    have hconvert : convert group =
        (sequence.2.mapM Value.toWire).map fun records => (sequence.1, records) := by
      rw [convert, Value.toItems, hitems, hseverity, ok_bind]
      cases sequence.2.mapM Value.toWire <;> rfl
    rw [hconvert, map_ok]
    simp only [mapM_ok, Value.toWire_ok, TranslatesGroup]
    constructor
    · intro ⟨records, hrecords, hresult⟩
      rw [← hresult]
      exact ⟨rfl, hrecords⟩
    · intro ⟨hkey, hrecords⟩
      exact ⟨result.2, hrecords, by rw [← hkey]⟩
  rw [mapM_ok]
  induction hgroups generalizing converted with
  | nil => simp
  | cons hgroup _ ih =>
    constructor
    · intro h
      cases h with
      | cons hfirst hrest => exact .cons ((hstep hgroup _).1 hfirst) (ih.1 hrest)
    · intro h
      cases h with
      | cons hfirst hrest => exact .cons ((hstep hgroup _).2 hfirst) (ih.2 hrest)

theorem translates_iff {translated : FindingGroups} :
    ofScan (.object groups) = .ok translated ↔ Translates sequences translated := by
  rw [ofScan_eq, map_ok]
  constructor
  · intro ⟨converted, hconverted, hfilled⟩
    rw [← hfilled]
    exact forall₂_filter (R := TranslatesGroup) TranslatesGroup.isEmpty
      ((mapM_convert_ok hgroups).1 hconverted)
  · intro h
    obtain ⟨converted, hconverted, hfilled⟩ :=
      exists_of_forall₂_filter (R := TranslatesGroup) TranslatesGroup.isEmpty
        translatesGroup_empty h
    exact ⟨converted, (mapM_convert_ok hgroups).2 hconverted, hfilled⟩

theorem ofScan_error_iff : (∃ error, ofScan (.object groups) = .error error) ↔
    ∃ sequence ∈ sequences, ∃ item ∈ sequence.2, item.Lacks := by
  have hanswers (item : Value) : item.Lacks ∨ ∃ record, item.Answers record := by
    rcases exists_ok_or_error item.toWire with ⟨record, hrecord⟩ | herror
    · exact .inr ⟨record, Value.toWire_ok.1 hrecord⟩
    · exact .inl (Value.toWire_error.1 herror)
  constructor
  · intro ⟨error, herror⟩
    by_contra hnone
    have hall (sequence : Value × List Value) (hsequence : sequence ∈ sequences) :
        ∃ group, TranslatesGroup sequence group := by
      obtain ⟨records, hrecords⟩ := exists_forall₂ (R := Value.Answers) fun item hitem =>
        (hanswers item).resolve_left fun hlacks => hnone ⟨sequence, hsequence, item, hitem, hlacks⟩
      exact ⟨(sequence.1, records), rfl, hrecords⟩
    obtain ⟨converted, hconverted⟩ := exists_forall₂ hall
    rw [ofScan_eq, (mapM_convert_ok hgroups).2 hconverted] at herror
    cases herror
  · intro ⟨sequence, hsequence, item, hitem, hlacks⟩
    rcases exists_ok_or_error (ofScan (.object groups)) with ⟨translated, h⟩ | herror
    · exfalso
      rw [ofScan_eq, map_ok] at h
      obtain ⟨converted, hconverted, -⟩ := h
      obtain ⟨group, -, -, hitems⟩ :=
        forall₂_mem_right ((mapM_convert_ok hgroups).1 hconverted).flip hsequence
      obtain ⟨record, -, hanswer⟩ := forall₂_mem_right hitems.flip hitem
      obtain ⟨error, herror⟩ := Value.toWire_error.2 hlacks
      rw [Value.toWire_ok.2 hanswer] at herror
      cases herror
    · exact herror

end

/-! ### One group after the other -/

theorem ofScan_append (before after : Members) :
    ofScan (.object (before ++ after)) = do
      let done ← ofScan (.object before)
      let rest ← ofScan (.object after)
      return done ++ rest := by
  rw [ofScan_eq, ofScan_eq, ofScan_eq, List.mapM_append]
  cases before.mapM convert with
  | error error => rfl
  | ok done =>
    cases after.mapM convert with
    | error error => rfl
    | ok rest => exact congrArg Except.ok (List.filter_append done rest)

/-- The wire findings of one group, which is opened only if there are any. -/
theorem records_group (severity : Value) (items : List Value) :
    (ofScan (.object [(severity, .list items)])).map records = items.mapM Value.toWire := by
  rw [ofScan_eq]
  show ((([(severity, Value.list items)] : Members).mapM convert).map _).map records = _
  simp only [List.mapM_cons, List.mapM_nil, convert, Value.toItems, Value.items?, ok_bind]
  cases items.mapM Value.toWire with
  | error error => rfl
  | ok wires =>
    cases wires with
    | nil => rfl
    | cons wire wires => exact congrArg Except.ok (List.append_nil _)

theorem records_split (severity : Value) (first second : List Value) :
    (ofScan (.object [(severity, .list (first ++ second))])).map records = do
      let done ← (ofScan (.object [(severity, .list first)])).map records
      let rest ← (ofScan (.object [(severity, .list second)])).map records
      return done ++ rest := by
  rw [records_group, records_group, records_group, List.mapM_append]

/-! ### One finding after the other -/

/-- One more finding under a severity: behind those that are there, or first in a group of its own. -/
def gather (severity : Value) (record : WireFinding) : FindingGroups → FindingGroups
  | [] => [(severity, [record])]
  | group :: rest =>
    if group.1.sameKey severity then (group.1, group.2 ++ [record]) :: rest
    else group :: gather severity record rest

/-- The finding of one more item under a severity. -/
def gatherItem (severity : Value) (done : FindingGroups) (item : Value) :
    Except CoercionError FindingGroups := do
  return gather severity (← item.toWire) done

/-- The findings of one more severity. -/
def gatherGroup (done : FindingGroups) (group : Value × Value) :
    Except CoercionError FindingGroups := do
  (← group.2.toItems).foldlM (gatherItem group.1) done

/-- The findings of all severities, gathered one by one. -/
def gathered (groups : Members) : Except CoercionError FindingGroups := groups.foldlM gatherGroup []

/-- The severity has no group yet. -/
def IsNew (severity : Value) (done : FindingGroups) : Prop :=
  ∀ group ∈ done, group.1.sameKey severity = false

section
variable {severity : Value} {done : FindingGroups}

theorem gather_append (h : IsNew severity done) (record : WireFinding) (rest : FindingGroups) :
    gather severity record (done ++ rest) = done ++ gather severity record rest := by
  induction done with
  | nil => rfl
  | cons group done ih =>
    obtain ⟨hgroup, hdone⟩ := List.forall_mem_cons.1 h
    rw [List.cons_append, gather, if_neg (by simp [hgroup]), ih hdone, List.cons_append]

theorem gatherItem_eq (item : Value) : gatherItem severity done item =
    item.toWire.map fun record => gather severity record done := by
  rw [gatherItem]
  cases item.toWire <;> rfl

variable (hself : severity.sameKey severity = true) (hnew : IsNew severity done)
include hself hnew

/-- Once the group of a severity is open, it takes the other findings too. -/
theorem gatherItems_open (first : List WireFinding) (items : List Value) :
    items.foldlM (gatherItem severity) (done ++ [(severity, first)]) =
      (items.mapM Value.toWire).map fun records => done ++ [(severity, first ++ records)] := by
  induction items generalizing first with
  | nil => exact congrArg (fun records => Except.ok (done ++ [(severity, records)])) (by simp)
  | cons item items ih =>
    rw [List.foldlM_cons, List.mapM_cons, gatherItem_eq]
    cases item.toWire with
    | error error => rfl
    | ok record =>
      have hgather : gather severity record (done ++ [(severity, first)]) =
          done ++ [(severity, first ++ [record])] := by
        rw [gather_append hnew, gather, if_pos hself]
      rw [map_of_ok, ok_bind, ok_bind, hgather, ih]
      cases items.mapM Value.toWire with
      | error error => rfl
      | ok records => simp [pure, Except.pure]

/-- The first finding of a severity opens its group; without one there is none. -/
theorem gatherItems_new (items : List Value) : items.foldlM (gatherItem severity) done =
    (items.mapM Value.toWire).map fun records =>
      done ++ [(severity, records)].filter fun group => !group.2.isEmpty := by
  cases items with
  | nil => exact congrArg Except.ok (List.append_nil done).symm
  | cons item items =>
    rw [List.foldlM_cons, List.mapM_cons, gatherItem_eq]
    cases item.toWire with
    | error error => rfl
    | ok record =>
      have hgather : gather severity record done = done ++ [(severity, [record])] := by
        have hopened := gather_append hnew record []
        rw [List.append_nil] at hopened
        exact hopened
      rw [map_of_ok, ok_bind, ok_bind, hgather, gatherItems_open hself hnew]
      cases items.mapM Value.toWire with
      | error error => rfl
      | ok records => rfl

end

theorem gatherGroup_eq {done : FindingGroups} {group : Value × Value}
    (hself : group.1.sameKey group.1 = true) (hnew : IsNew group.1 done) :
    gatherGroup done group =
      (convert group).map fun converted =>
        done ++ [converted].filter fun group => !group.2.isEmpty := by
  rw [gatherGroup, convert]
  cases group.2.toItems with
  | error error => rfl
  | ok items =>
    rw [ok_bind, ok_bind, gatherItems_new hself hnew]
    cases items.mapM Value.toWire <;> rfl

theorem convert_key {group : Value × Value} {converted : Value × List WireFinding}
    (h : convert group = .ok converted) : converted.1 = group.1 := by
  obtain ⟨items, -, h⟩ := bind_ok.1 h
  obtain ⟨records, -, ⟨⟩⟩ := bind_ok.1 h
  rfl

/-- What is gathered from groups with different severities, behind what was gathered before. -/
theorem foldlM_gatherGroup {groups : Members} {done : FindingGroups}
    (hself : ∀ group ∈ groups, group.1.sameKey group.1 = true)
    (hapart : groups.Pairwise fun group later => group.1.sameKey later.1 = false)
    (hnew : ∀ group ∈ groups, IsNew group.1 done) :
    groups.foldlM gatherGroup done =
      (ofScan (.object groups)).map fun translated => done ++ translated := by
  induction groups generalizing done with
  | nil => exact congrArg Except.ok (List.append_nil done).symm
  | cons group groups ih =>
    obtain ⟨hself, hselves⟩ := List.forall_mem_cons.1 hself
    obtain ⟨hfirst, hapart⟩ := List.pairwise_cons.1 hapart
    obtain ⟨hnewFirst, hnewRest⟩ := List.forall_mem_cons.1 hnew
    rw [List.foldlM_cons, gatherGroup_eq hself hnewFirst, ofScan_eq, List.mapM_cons]
    cases hconvert : convert group with
    | error error => rfl
    | ok converted =>
      have hrest : ∀ other ∈ groups,
          IsNew other.1 (done ++ [converted].filter fun group => !group.2.isEmpty) := by
        intro other hother opened hopened
        rcases List.mem_append.1 hopened with hold | hconverted
        · exact hnewRest other hother opened hold
        · rw [List.mem_singleton.1 (List.mem_of_mem_filter hconverted), convert_key hconvert]
          exact hfirst other hother
      rw [map_of_ok, ok_bind, ok_bind, ih hselves hapart hrest, ofScan_eq]
      cases groups.mapM convert with
      | error error => rfl
      | ok rest =>
        refine congrArg Except.ok ?_
        dsimp only
        rw [List.append_assoc, ← List.filter_append, List.singleton_append]

/-- Gathering the findings one by one gives the groups of the scan. -/
theorem gathered_eq {groups : Members} (h : groups.Named) :
    gathered groups = ofScan (.object groups) := by
  have hself : ∀ group ∈ groups, group.1.sameKey group.1 = true := by
    intro group hgroup
    obtain ⟨t, ht⟩ := h.texts group.1 (Members.mem_keys hgroup)
    rw [ht, Members.sameKey_str, beq_self_eq_true]
  have hapart : groups.Pairwise fun group later => group.1.sameKey later.1 = false := by
    refine (List.pairwise_map.1 h.distinct).imp_of_mem ?_
    intro group later hgroup hlater hne
    obtain ⟨s, hs⟩ := h.texts group.1 (Members.mem_keys hgroup)
    obtain ⟨t, ht⟩ := h.texts later.1 (Members.mem_keys hlater)
    rw [hs, ht] at hne ⊢
    rw [Members.sameKey_str]
    exact beq_false_of_ne fun heq => hne (congrArg Value.str heq)
  rw [gathered, foldlM_gatherGroup hself hapart fun _ _ => List.forall_mem_nil _]
  cases ofScan (.object groups) <;> rfl

/-! ### The main theorem -/

/-- **Main theorem.** Groups of items that may be anything fail to have a wire form exactly if some
item does not answer like a finding. Otherwise the severities that have an item keep their order, and
below each of them there is, for every item in its place, what the item answers with. The same comes
of gathering the findings one by one, if the severities are different texts. Groups are translated
one after the other, and so are the parts of a group. -/
theorem translation_lossless {groups : Members} {sequences : List (Value × List Value)}
    (hgroups : groups.Sequences sequences) :
    ((∃ error, ofScan (.object groups) = .error error) ↔
      ∃ sequence ∈ sequences, ∃ item ∈ sequence.2, item.Lacks) ∧
    (∀ translated, ofScan (.object groups) = .ok translated ↔ Translates sequences translated) ∧
    (groups.Named → gathered groups = ofScan (.object groups)) ∧
    (∀ before after, ofScan (.object (before ++ after)) = do
      let done ← ofScan (.object before)
      let rest ← ofScan (.object after)
      return done ++ rest) ∧
    ∀ severity first second,
      (ofScan (.object [(severity, .list (first ++ second))])).map records = do
        let done ← (ofScan (.object [(severity, .list first)])).map records
        let rest ← (ofScan (.object [(severity, .list second)])).map records
        return done ++ rest :=
  ⟨ofScan_error_iff hgroups, fun _ => translates_iff hgroups, gathered_eq, ofScan_append,
    records_split⟩

/-- A finding of which nothing is known but its rule. -/
def bareFinding : Finding where
  ruleId := "r1"
  title := []
  severity := []
  filename := []
  lineNumber := 0
  fingerprint := []
  description := []
  documentationUrl := []
  fullFilename := []
  codeExtract := []
  severityMeta := ⟨[], [], .null, 0, 0, 0, []⟩

/-- A list with a finding and something that gives one, a tuple without items, and a tuple with a
finding that was ignored. -/
def mixedGroups : Members := [
  (.str "high", .list [.finding bareFinding, .wrapped (.finding bareFinding) (.int 1)]),
  (.str "medium", .tuple []),
  (.str "low", .tuple [.ignored bareFinding ⟨"2024", .null, .null, false⟩])]

def mixedSequences : List (Value × List Value) := [
  (.str "high", [.finding bareFinding, .wrapped (.finding bareFinding) (.int 1)]),
  (.str "medium", []),
  (.str "low", [.ignored bareFinding ⟨"2024", .null, .null, false⟩])]

theorem mixedGroups_translated : mixedGroups.Sequences mixedSequences ∧
    ofScan (.object mixedGroups) = .ok [
      (.str "high", [⟨.finding bareFinding, bareFinding.severityMeta, .null⟩,
        ⟨.finding bareFinding, bareFinding.severityMeta, .int 1⟩]),
      (.str "low", [⟨.finding bareFinding, bareFinding.severityMeta,
        .ignoreMeta ⟨"2024", .null, .null, false⟩⟩])] ∧
    gathered mixedGroups = ofScan (.object mixedGroups) := by
  have hgroups : mixedGroups.Sequences mixedSequences :=
    .cons ⟨rfl, rfl⟩ (.cons ⟨rfl, rfl⟩ (.cons ⟨rfl, rfl⟩ .nil))
  obtain ⟨-, htranslates, hgathered, -⟩ := translation_lossless hgroups
  refine ⟨hgroups, (htranslates _).2 ?_, hgathered ?_⟩
  · show List.Forall₂ TranslatesGroup [_, _] [_, _]
    exact .cons ⟨rfl, .cons (.finding _) (.cons (.wrapped (.finding _)) .nil)⟩
      (.cons ⟨rfl, .cons (.ignored _ _) .nil⟩ .nil)
  · exact Members.named_ofStrings ["high", "medium", "low"] rfl (by decide)

end FindingGroups
end ReportDelivery
