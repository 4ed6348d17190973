/-
  What OpenConfigCpuMemoryUtilization leaves out: a partition, or an application in it, whose
  `bytes_allocated` is zero is passed over with all that it has.

  `reportsAll_iff`: every statistic that is not zero is reported with its value exactly if
  nothing that is passed over has another statistic that is not zero.
-/
import TelemetryAgent.OpenConfig.Keys

namespace TelemetryAgent

open Lib OpenConfigData

namespace OpenConfigCpuMemoryUtilization

/-! ## The statistics of a message -/

/-- A key and the number that is reported with it. -/
abbrev Statistic := String × Int

/-- How an entry reads, if it is a number. -/
def number : KeyValue → Option Statistic
  | ⟨key, .int v⟩ => some (key, v.toInt)
  | ⟨key, .uint n⟩ => some (key, n.toNat)
  | _ => none

def applicationStatistics (name : String) (app : CpuMemoryUtilizationPerApplication) :
    List Statistic :=
  [(name ++ "/applications/" ++ app.name ++ "/bytes_allocated", app.bytesAllocated.toNat),
    (name ++ "/applications/" ++ app.name ++ "/allocations", app.allocations.toNat),
    (name ++ "/applications/" ++ app.name ++ "/frees", app.frees.toNat),
    (name ++ "/applications/" ++ app.name ++ "/allocations_failed", app.allocationsFailed.toNat)]

def partitionStatistics (s : CpuMemoryUtilizationSummary) : List Statistic :=
  [(s.name ++ "/size", s.size.toNat), (s.name ++ "/bytes_allocated", s.bytesAllocated.toNat),
    (s.name ++ "/utilization", s.utilization.toInt)]

def summaryStatistics (s : CpuMemoryUtilizationSummary) : List Statistic :=
  partitionStatistics s ++ s.applicationUtilization.flatMap (applicationStatistics s.name)

def statistics (message : CpuMemoryUtilization) : List Statistic :=
  message.utilization.flatMap summaryStatistics

def nonZero (l : List Statistic) : List Statistic := l.filter fun t => t.2 ≠ 0

/-- Each statistic of the message that is not zero is among the entries with its value, as often
    as the message has it. -/
def ReportsAll (message : CpuMemoryUtilization) (l : List KeyValue) : Prop :=
  (nonZero (statistics message)).Subperm (l.filterMap number)

/-- An application that is passed over has no other statistic. -/
def ApplicationGuarded (app : CpuMemoryUtilizationPerApplication) : Prop :=
  app.bytesAllocated = 0 → app.allocations = 0 ∧ app.frees = 0 ∧ app.allocationsFailed = 0

/-- A partition that is passed over has no other statistic, nor has any application in it. -/
structure Guarded (s : CpuMemoryUtilizationSummary) : Prop where
  partition : s.bytesAllocated = 0 →
    s.size = 0 ∧ s.utilization = 0 ∧ ∀ app ∈ s.applicationUtilization, app.bytesAllocated = 0
  applications : ∀ app ∈ s.applicationUtilization, ApplicationGuarded app

/-! ## What is reported of an element -/

@[simp] theorem nonZero_nil : nonZero [] = [] := rfl

theorem nonZero_nonZero (l : List Statistic) : nonZero (nonZero l) = nonZero l := by
  simp [nonZero]

theorem nonZero_append (l l' : List Statistic) : nonZero (l ++ l') = nonZero l ++ nonZero l' :=
  List.filter_append _ _

theorem nonZero_flatMap {ι : Type} (f : ι → List Statistic) (l : List ι) :
    nonZero (l.flatMap f) = l.flatMap fun x => nonZero (f x) :=
  List.filter_flatMap

theorem nonZero_eq_nil_iff {l : List Statistic} : nonZero l = [] ↔ ∀ t ∈ l, t.2 = 0 := by
  rw [nonZero, List.filter_eq_nil_iff]
  simp only [ne_eq, decide_not, Bool.not_eq_eq_eq_not, Bool.not_true, decide_eq_false_iff_not,
    not_not]

/-- Entries that are zero are no statistic that is not. -/
theorem nonZero_subperm_iff {l l' : List Statistic} :
    (nonZero l).Subperm l' ↔ (nonZero l).Subperm (nonZero l') := by
  constructor
  · intro h
    have hfilter : (nonZero (nonZero l)).Subperm (nonZero l') := h.filter _
    rw [nonZero_nonZero] at hfilter
    exact hfilter
  · intro h
    exact h.trans List.filter_sublist.subperm

theorem toNat_eq_zero_iff (n : UInt64) : (n.toNat : Int) = 0 ↔ n = 0 := by
  rw [Int.natCast_eq_zero, ← UInt64.toNat_inj]
  rfl

theorem toInt_eq_zero_iff (n : Int32) : n.toInt = 0 ↔ n = 0 := by
  rw [← Int32.toInt_inj]
  rfl

theorem applicationStatistics_zero_iff (name : String)
    (app : CpuMemoryUtilizationPerApplication) :
    nonZero (applicationStatistics name app) = [] ↔
      app.bytesAllocated = 0 ∧ app.allocations = 0 ∧ app.frees = 0 ∧
        app.allocationsFailed = 0 := by
  rw [nonZero_eq_nil_iff]
  simp only [applicationStatistics, List.forall_mem_cons, List.not_mem_nil, toNat_eq_zero_iff,
    false_imp_iff, implies_true, and_true]

theorem numbers_application (name : String) (app : CpuMemoryUtilizationPerApplication) :
    (application name app).filterMap number =
      if app.bytesAllocated = 0 then [] else applicationStatistics name app := by
  rw [application]
  split
  · rfl
  · rfl

theorem numbers_summary (s : CpuMemoryUtilizationSummary) :
    (summary s).filterMap number =
      if s.bytesAllocated = 0 then []
      else partitionStatistics s ++ s.applicationUtilization.flatMap fun app =>
        (application s.name app).filterMap number := by
  rw [summary]
  split
  · rfl
  · rw [List.filterMap_append, List.filterMap_flatMap]
    congr 1
    simp [number, partitionStatistics, KeyValue.ofUint]

/-! ## What is left out of it -/

theorem application_sublist (name : String) (app : CpuMemoryUtilizationPerApplication) :
    (nonZero ((application name app).filterMap number)).Sublist
      (nonZero (applicationStatistics name app)) := by
  rw [numbers_application]
  split
  · exact List.nil_sublist _
  · exact List.Sublist.refl _

theorem application_eq_iff (name : String) (app : CpuMemoryUtilizationPerApplication) :
    nonZero ((application name app).filterMap number) =
      nonZero (applicationStatistics name app) ↔ ApplicationGuarded app := by
  rw [numbers_application, ApplicationGuarded]
  split
  · next hzero =>
    rw [nonZero_nil, eq_comm, applicationStatistics_zero_iff]
    simp only [hzero, true_and, true_imp_iff]
  · next hzero => simp only [hzero, false_imp_iff]

theorem summary_sublist (s : CpuMemoryUtilizationSummary) :
    (nonZero ((summary s).filterMap number)).Sublist (nonZero (summaryStatistics s)) := by
  rw [numbers_summary]
  split
  · exact List.nil_sublist _
  · rw [summaryStatistics, nonZero_append, nonZero_append, nonZero_flatMap, nonZero_flatMap]
    refine List.Sublist.append (List.Sublist.refl _) (List.Sublist.flatMap_right _ ?_)
    exact fun app _ => application_sublist s.name app

theorem summaryStatistics_zero_iff (s : CpuMemoryUtilizationSummary) :
    nonZero (summaryStatistics s) = [] ↔
      (s.size = 0 ∧ s.bytesAllocated = 0 ∧ s.utilization = 0) ∧
        ∀ app ∈ s.applicationUtilization,
          app.bytesAllocated = 0 ∧ app.allocations = 0 ∧ app.frees = 0 ∧
            app.allocationsFailed = 0 := by
  rw [summaryStatistics, nonZero_append, nonZero_flatMap, List.append_eq_nil_iff,
    List.flatMap_eq_nil_iff]
  simp only [applicationStatistics_zero_iff]
  rw [nonZero_eq_nil_iff]
  simp only [partitionStatistics, List.forall_mem_cons, List.not_mem_nil, toNat_eq_zero_iff,
    toInt_eq_zero_iff, false_imp_iff, implies_true, and_true]

theorem summary_eq_iff (s : CpuMemoryUtilizationSummary) :
    nonZero ((summary s).filterMap number) = nonZero (summaryStatistics s) ↔ Guarded s := by
  rw [numbers_summary]
  split
  · next hzero =>
    rw [nonZero_nil, eq_comm, summaryStatistics_zero_iff]
    constructor
    · rintro ⟨⟨hsize, -, hutilization⟩, happ⟩
      exact ⟨fun _ => ⟨hsize, hutilization, fun app ha => (happ app ha).1⟩,
        fun app ha _ => (happ app ha).2⟩
    · intro h
      obtain ⟨hsize, hutilization, hbytes⟩ := h.partition hzero
      refine ⟨⟨hsize, hzero, hutilization⟩, fun app ha => ?_⟩
      exact ⟨hbytes app ha, h.applications app ha (hbytes app ha)⟩
  · next hzero =>
    rw [summaryStatistics, nonZero_append, nonZero_append, List.append_cancel_left_eq,
      nonZero_flatMap, nonZero_flatMap,
      flatMap_eq_flatMap_iff fun app _ => application_sublist s.name app]
    simp only [application_eq_iff]
    exact ⟨fun h => ⟨fun h0 => absurd h0 hzero, h⟩, Guarded.applications⟩

/-! ## The message -/

theorem numbers_emitted (m : CpuMemoryUtilization) (d : OpenConfigData) :
    (emitted (iterate m) d).filterMap number =
      m.utilization.flatMap fun s => (summary s).filterMap number := by
  have hi : iterate m d = d.addKv (setPrefix d :: entries m) := rfl
  rw [emitted_of_eq hi, entries, ← List.filterMap_flatMap]
  rfl

/-- For every message and every data: each statistic that is not zero is reported with its value
    exactly if a partition of no bytes has no size, no utilization and no application with bytes,
    and an application of no bytes has no allocations, failed or not, and no frees. -/
theorem reportsAll_iff (m : CpuMemoryUtilization) (datap : OpenConfigData) :
    ReportsAll m (emitted (iterate m) datap) ↔ ∀ s ∈ m.utilization, Guarded s := by
  have hsub : ∀ s ∈ m.utilization,
      (nonZero ((summary s).filterMap number)).Sublist (nonZero (summaryStatistics s)) :=
    fun s _ => summary_sublist s
  rw [ReportsAll, numbers_emitted, nonZero_subperm_iff, statistics, nonZero_flatMap,
    nonZero_flatMap, subperm_iff_eq_of_sublist (List.Sublist.flatMap_right m.utilization hsub),
    flatMap_eq_flatMap_iff hsub]
  simp only [summary_eq_iff]

/-- An application whose five allocations all failed. -/
def allFailed : CpuMemoryUtilization where
  utilization := [
    { name := "Kernel", size := 100, bytesAllocated := 60, utilization := 60
      applicationUtilization := [{ name := "rpd", allocationsFailed := 5 }] }]

theorem not_reportsAll_allFailed : ¬ ∀ (m : CpuMemoryUtilization) (datap : OpenConfigData),
    ReportsAll m (emitted (iterate m) datap) := by
  intro h
  have hmem := (h allFailed {}).subset
    (show ("Kernel/applications/rpd/allocations_failed", 5) ∈ _ by decide)
  exact absurd hmem (by decide)

end OpenConfigCpuMemoryUtilization

end TelemetryAgent
