import ReportDelivery.Log
import ReportDelivery.Proofs.Text.Blank

/-! What the logger's calls leave in a log.

`LogCall.Leaves` says it for one call, without a look at how lines are found, and `Log.Records` for
a list of calls. Both leave no choice. The two logs of the same calls, with and without debug
messages, differ in the debug entries alone (`withoutDebug_shown`). -/
namespace ReportDelivery

/-- A call of the logger. -/
structure LogCall where
  level : Level
  message : Text

/-! ### One call -/

namespace LogCall

variable {verbose : Bool} {call : LogCall} {log : Log}

/-- The message is for debugging, and nobody asked for that. -/
def Hidden (verbose : Bool) (call : LogCall) : Prop := call.level = .debug ∧ verbose = false

/-- What a call leaves in the log: an entry for every line of its message, under its own level. An
empty message leaves an empty line. -/
inductive Leaves (verbose : Bool) (call : LogCall) : Log → Prop
  | nothing (hhidden : call.Hidden verbose) : Leaves verbose call []
  | blank (hshown : ¬ call.Hidden verbose) (hempty : call.message = []) :
      Leaves verbose call [⟨call.level, []⟩]
  | lines {parts : List Text} (hshown : ¬ call.Hidden verbose) (hne : call.message ≠ [])
      (hcut : call.message.Cut parts) : Leaves verbose call (parts.map (⟨call.level, ·⟩))

def entries (verbose : Bool) (call : LogCall) : Log := Log.entries verbose call.level call.message

theorem entries_of_hidden (h : call.Hidden verbose) : call.entries verbose = [] := by
  obtain ⟨hlevel, rfl⟩ := h
  rw [entries, Log.entries, hlevel]
  rfl

theorem entries_of_not_hidden (h : ¬ call.Hidden verbose) :
    call.entries verbose = (Log.messageLines call.message).map (⟨call.level, ·⟩) :=
  if_neg fun hboth => h (by simpa [Hidden] using hboth)

theorem leaves_entries (verbose : Bool) (call : LogCall) :
    call.Leaves verbose (call.entries verbose) := by
  by_cases hhidden : call.Hidden verbose
  · rw [entries_of_hidden hhidden]
    exact .nothing hhidden
  · rw [entries_of_not_hidden hhidden, Log.messageLines]
    have hcut : call.message.Cut call.message.lines := Text.cut_iff.2 rfl
    split
    · next hnone =>
      rw [hnone] at hcut
      exact .blank hhidden hcut.eq_nil
    · next hsome => exact .lines hhidden (fun hempty => hsome (by rw [hempty]; rfl)) hcut

/-- There is no other way to leave something. -/
theorem Leaves.eq_entries (h : call.Leaves verbose log) : log = call.entries verbose := by
  cases h with
  | nothing hhidden => rw [entries_of_hidden hhidden]
  | blank hshown hempty =>
    rw [entries_of_not_hidden hshown, hempty]
    rfl
  | lines hshown hne hcut =>
    rw [entries_of_not_hidden hshown, Log.messageLines, hcut.lines_eq]
    split
    · exact absurd hcut.eq_nil hne
    · rfl

theorem Leaves.oneLine (h : call.Leaves verbose log) : ∀ entry ∈ log, entry.line.OneLine := by
  intro entry hmem
  cases h with
  | nothing => cases hmem
  | blank =>
    rw [List.mem_singleton.1 hmem]
    exact List.forall_mem_nil _
  | lines _ _ hcut =>
    obtain ⟨line, hline, rfl⟩ := List.mem_map.1 hmem
    exact hcut.oneLine line hline

theorem Leaves.level (h : call.Leaves verbose log) : ∀ entry ∈ log, entry.level = call.level := by
  intro entry hmem
  cases h with
  | nothing => cases hmem
  | blank => rw [List.mem_singleton.1 hmem]
  | lines =>
    obtain ⟨line, -, rfl⟩ := List.mem_map.1 hmem
    rfl

end LogCall

/-! ### Many calls -/

namespace Log

variable {verbose : Bool} {calls : List LogCall} {log : Log}

/-- The log is what the calls leave, one after the other. -/
inductive Records (verbose : Bool) : List LogCall → Log → Prop
  | nil : Records verbose [] []
  | cons {call : LogCall} {calls : List LogCall} {left log : Log}
      (hcall : call.Leaves verbose left) (hrest : Records verbose calls log) :
      Records verbose (call :: calls) (left ++ log)

/-- The log of the calls. -/
def shown (verbose : Bool) (calls : List LogCall) : Log :=
  calls.flatMap fun call => call.entries verbose

@[simp] theorem shown_nil (verbose : Bool) : shown verbose [] = [] := rfl

@[simp] theorem shown_cons (verbose : Bool) (call : LogCall) (calls : List LogCall) :
    shown verbose (call :: calls) = call.entries verbose ++ shown verbose calls := rfl

theorem shown_singleton (verbose : Bool) (call : LogCall) :
    shown verbose [call] = call.entries verbose := List.flatMap_singleton ..

theorem shown_append (verbose : Bool) (calls others : List LogCall) :
    shown verbose (calls ++ others) = shown verbose calls ++ shown verbose others :=
  List.flatMap_append

theorem records_iff : Records verbose calls log ↔ log = shown verbose calls := by
  constructor
  · intro h
    induction h with
    | nil => rfl
    | cons hcall _ ih => rw [shown_cons, ih, hcall.eq_entries]
  · rintro rfl
    induction calls with
    | nil => exact .nil
    | cons call calls ih => exact .cons (call.leaves_entries verbose) ih

theorem Records.oneLine (h : Records verbose calls log) :
    ∀ entry ∈ log, entry.line.OneLine := by
  induction h with
  | nil => exact List.forall_mem_nil _
  | cons hcall _ ih => exact List.forall_mem_append.2 ⟨hcall.oneLine, ih⟩

/-! ### Debug messages -/

/-- The log without its debug entries. -/
def withoutDebug (log : Log) : Log := log.filter fun entry => entry.level ≠ .debug

theorem withoutDebug_append (log others : Log) :
    withoutDebug (log ++ others) = withoutDebug log ++ withoutDebug others := List.filter_append ..

theorem withoutDebug_entries (call : LogCall) :
    withoutDebug (call.entries true) = call.entries false := by
  have hlevel := (call.leaves_entries true).level
  by_cases hdebug : call.level = .debug
  · have hhidden : call.Hidden false := ⟨hdebug, rfl⟩
    rw [LogCall.entries_of_hidden hhidden]
    refine List.filter_eq_nil_iff.2 fun entry hmem => ?_
    simp [hlevel entry hmem, hdebug]
  · have hshown (verbose : Bool) : ¬ call.Hidden verbose := fun h => hdebug h.1
    rw [LogCall.entries_of_not_hidden (hshown false),
      ← LogCall.entries_of_not_hidden (hshown true)]
    refine List.filter_eq_self.2 fun entry hmem => ?_
    simp [hlevel entry hmem, hdebug]

theorem withoutDebug_shown (calls : List LogCall) :
    withoutDebug (shown true calls) = shown false calls := by
  induction calls with
  | nil => rfl
  | cons call calls ih =>
    rw [shown_cons, withoutDebug_append, withoutDebug_entries, ih, shown_cons]

/-- The calls for debugging. -/
def debugging (calls : List LogCall) : List LogCall := calls.filter fun call => call.level = .debug

theorem debugging_append (calls others : List LogCall) :
    debugging (calls ++ others) = debugging calls ++ debugging others := List.filter_append ..

theorem debugging_of_forall (h : ∀ call ∈ calls, call.level = .debug) : debugging calls = calls :=
  List.filter_eq_self.2 fun call hmem => decide_eq_true (h call hmem)

/-- A quiet log shows none of them. -/
theorem shown_quiet_debugging (calls : List LogCall) : shown false (debugging calls) = [] := by
  refine List.flatMap_eq_nil_iff.2 fun call hmem => LogCall.entries_of_hidden ?_
  exact ⟨of_decide_eq_true (List.mem_filter.1 hmem).2, rfl⟩

/-- A quiet log has no debug entries to lose. -/
theorem withoutDebug_of_prefix (h : log <+: shown false calls) : withoutDebug log = log := by
  refine List.filter_eq_self.2 fun entry hmem => decide_eq_true fun hdebug => ?_
  have hshown := h.subset hmem
  rw [← withoutDebug_shown] at hshown
  exact of_decide_eq_true (List.mem_filter.1 hshown).2 hdebug

/-- Every line keeps its level, an empty one between others too. -/
example : shown true [⟨.debug, "one\r\n\ntwo"⟩, ⟨.info, []⟩] =
    [⟨.debug, "one"⟩, ⟨.debug, []⟩, ⟨.debug, "two"⟩, ⟨.info, []⟩] := by decide

end Log
end ReportDelivery
