import DbBenchmark.Experiment2
import DbBenchmark.MergedStatistics

namespace DbBenchmark
open ThreadPool Experiment2
set_option autoImplicit true

variable {Double : Type} {dataset : List (Order Double)} {totalRows numThreads : UInt32}

structure WorkerView (Double : Type) where
  accessed : List Nat
  inserted : List (InsertCall Double)
  recorder : Option LatencyRecorder

def Shared.view (t : Nat) (g : Shared Double) : WorkerView Double where
  accessed := (g.accessed.filter fun a => a.1 = t).map Prod.snd
  inserted := g.inserted.filter fun c => c.thread = t
  recorder := g.recorders[t]?

namespace WorkerPc

def accesses : WorkerPc Double → Nat
  | insert _ => 1
  | record _ => 1
  | _ => 0

def inserts : WorkerPc Double → Nat
  | record _ => 1
  | _ => 0

end WorkerPc

/-- What a worker knows of its slice at each point of its loop. -/
def AtPc (dataset : List (Order Double)) (i stop : Nat) : WorkerPc Double → Prop
  | .test => i ≤ stop
  | .body => i < stop
  | .insert order => i < stop ∧ order = dataset[i]?
  | .record _ => i < stop
  | .finished => i = stop

structure WorkedOff (dataset : List (Order Double)) (start stop t : Nat) (w : Worker Double)
    (v : WorkerView Double) : Prop where
  start_le : start ≤ w.i.toNat
  atPc : AtPc dataset w.i.toNat stop w.pc
  accessed : v.accessed = List.range' start (w.i.toNat + w.pc.accesses - start)
  inserted : v.inserted = (List.range' start (w.i.toNat + w.pc.inserts - start)).map fun j =>
    ⟨t, j, dataset[j]?⟩
  recorder : v.recorder.map LatencyRecorder.count = some (w.i.toNat - start)

@[simp] theorem count_record (r : LatencyRecorder) (us : Nat) : (r.record us).count = r.count + 1 := by
  simp [LatencyRecorder.count, LatencyRecorder.record]

theorem range'_succ_sub (h : start ≤ i) :
    List.range' start (i + 1 - start) = List.range' start (i - start) ++ [i] := by
  rw [Nat.succ_sub h, List.range'_1_concat, Nat.add_sub_cancel' h]

theorem workedOff_start (h : start ≤ stop) (hi : w.i.toNat = start) (hpc : w.pc = .test)
    (hv : v = ⟨[], [], some .init⟩) : WorkedOff dataset start stop t w v := by
  subst hv
  obtain ⟨i, pc⟩ := w
  subst hpc
  subst hi
  exact {
    start_le := le_rfl
    atPc := h
    accessed := by simp [WorkerPc.accesses]
    inserted := by simp [WorkerPc.inserts]
    recorder := by simp [LatencyRecorder.count, LatencyRecorder.init] }

theorem toNat_succ {i stopIdx : UInt64} (hstop : stopIdx.toNat = stop) (hlt : i.toNat < stop) :
    (i + 1).toNat = i.toNat + 1 := by
  have hle := stopIdx.toNat_lt
  rw [UInt64.toNat_add]
  exact Nat.mod_eq_of_lt (by simp only [UInt64.toNat_one]; omega)

theorem workedOff_step (hstop : (endIdx totalRows numThreads (UInt32.ofNat t)).toNat = stop)
    (h : WorkedOff dataset start stop t w (g.view t))
    (hstep : workerStep dataset totalRows numThreads t us w g = some (w', g')) :
    WorkedOff dataset start stop t w' (g'.view t) := by
  obtain ⟨hstart, hpc, hacc, hins, hrec⟩ := h
  obtain ⟨i, pc⟩ := w
  cases pc with
  | test =>
    simp only [workerStep] at hstep
    split at hstep
    case isTrue hlt =>
      cases hstep
      have hlt' : i.toNat < stop := hstop ▸ UInt64.lt_iff_toNat_lt.1 hlt
      exact ⟨hstart, hlt', hacc, hins, hrec⟩
    case isFalse hge =>
      cases hstep
      have hge' : stop ≤ i.toNat := hstop ▸ UInt64.le_iff_toNat_le.1 (UInt64.not_lt.1 hge)
      exact ⟨hstart, le_antisymm hpc hge', hacc, hins, hrec⟩
  | body =>
    cases hstep
    refine ⟨hstart, ⟨hpc, rfl⟩, ?_, hins, hrec⟩
    simp only [Shared.view, WorkerPc.accesses, Nat.add_zero] at hacc ⊢
    simp [List.filter_append, hacc, range'_succ_sub hstart]
  | insert order =>
    cases hstep
    obtain ⟨hlt, horder⟩ := hpc
    refine ⟨hstart, hlt, hacc, ?_, hrec⟩
    simp only [Shared.view, WorkerPc.inserts, Nat.add_zero] at hins ⊢
    simp [List.filter_append, hins, range'_succ_sub hstart, horder]
  | record us' =>
    cases hstep
    have hlt : i.toNat < stop := hpc
    have hsucc := toNat_succ hstop hlt
    refine ⟨?_, ?_, ?_, ?_, ?_⟩
    · rw [hsucc]
      exact Nat.le_succ_of_le hstart
    · change (i + 1).toNat ≤ stop
      omega
    · rw [hsucc]
      exact hacc
    · rw [hsucc]
      exact hins
    · simp only [Shared.view] at hrec ⊢
      obtain ⟨r, hr, hcount⟩ := Option.map_eq_some_iff.1 hrec
      rw [hsucc, List.getElem?_modify, hr, Nat.succ_sub hstart, ← hcount]
      simp
  | finished => cases hstep

theorem view_workerStep (hu : u ≠ t)
    (hstep : workerStep dataset totalRows numThreads t us w g = some (w', g')) :
    g'.view u = g.view u := by
  obtain ⟨i, pc⟩ := w
  cases pc with
  | test =>
    simp only [workerStep] at hstep
    split at hstep <;> cases hstep <;> rfl
  | body =>
    cases hstep
    simp [Shared.view, List.filter_append, Ne.symm hu]
  | insert order =>
    cases hstep
    simp [Shared.view, List.filter_append, Ne.symm hu]
  | record us' =>
    cases hstep
    simp [Shared.view, Ne.symm hu]
  | finished => cases hstep

theorem runThreads_views (h : runThreads dataset totalRows numThreads acts = some s) :
    Program.Views (threads dataset totalRows numThreads) Shared.view
      (fun t w v => WorkedOff dataset (bound totalRows numThreads t)
        (bound totalRows numThreads (t + 1)) t w v) (initialShared numThreads) s := by
  apply Program.views_run
  · intro t ht
    have hlt : t < numThreads.toNat := ht
    exact workedOff_start (bound_le_succ totalRows numThreads ht)
      (startIdx_toNat totalRows numThreads ht) rfl (by simp [Shared.view, initialShared, hlt])
  · intro t ht us w g w' g' hw hstep
    exact workedOff_step (endIdx_toNat totalRows numThreads ht) hw hstep
  · intro t u hu us w g w' g' hstep
    exact view_workerStep hu hstep
  · exact h

theorem view_of_no_thread (h : runThreads dataset totalRows numThreads acts = some s)
    (ht : numThreads.toNat ≤ t) : s.shared.view t = ⟨[], [], none⟩ := by
  have hviews := runThreads_views h
  rw [hviews.unspawned t (hviews.length_le.trans ht)]
  simp [Shared.view, initialShared, Nat.not_lt.2 ht]

theorem view_of_joined (h : runThreads dataset totalRows numThreads acts = some s)
    (hjoined : s.joined = numThreads.toNat) (ht : t < numThreads.toNat) :
    (s.shared.view t).accessed = List.range' (bound totalRows numThreads t)
        (bound totalRows numThreads (t + 1) - bound totalRows numThreads t) ∧
      (s.shared.view t).inserted = (List.range' (bound totalRows numThreads t)
        (bound totalRows numThreads (t + 1) - bound totalRows numThreads t)).map
          (fun j => ⟨t, j, dataset[j]?⟩) ∧
      (s.shared.view t).recorder.map LatencyRecorder.count =
        some (bound totalRows numThreads (t + 1) - bound totalRows numThreads t) := by
  have hfin : ∀ t us (w : Worker Double) g,
      (threads dataset totalRows numThreads).finished w = true →
      (threads dataset totalRows numThreads).step t us w g = none := by
    rintro t us ⟨i, pc⟩ g hw
    cases pc with
    | finished => rfl
    | _ => cases hw
  obtain ⟨w, hw, hdone⟩ := Program.finished_of_joined hfin h t (hjoined ▸ ht)
  obtain ⟨-, hpc, hacc, hins, hrec⟩ := (runThreads_views h).spawned t w hw
  obtain ⟨i, pc⟩ := w
  cases pc with
  | finished =>
    have hi : i.toNat = bound totalRows numThreads (t + 1) := hpc
    simp only [WorkerPc.accesses, WorkerPc.inserts, Nat.add_zero, hi] at hacc hins hrec
    exact ⟨hacc, hins, hrec⟩
  | _ => cases hdone

def WorkerPc.stepsLeft (rest : Nat) : WorkerPc Double → Nat
  | test => 4 * rest + 1
  | body => 4 * rest
  | insert _ => 4 * rest - 1
  | record _ => 4 * rest - 2
  | finished => 0

theorem workerStep_progresses {w : Worker Double}
    (hstop : (endIdx totalRows numThreads (UInt32.ofNat t)).toNat = stop)
    (hpc : AtPc dataset w.i.toNat stop w.pc) (hfin : w.pc ≠ .finished) (g : Shared Double) :
    ∃ w' g', workerStep dataset totalRows numThreads t 0 w g = some (w', g') ∧
      w'.pc.stepsLeft (stop - w'.i.toNat) < w.pc.stepsLeft (stop - w.i.toNat) := by
  obtain ⟨i, pc⟩ := w
  cases pc with
  | test =>
    by_cases hlt : i < endIdx totalRows numThreads (UInt32.ofNat t)
    · exact ⟨_, _, if_pos hlt, Nat.lt_succ_self _⟩
    · exact ⟨_, _, if_neg hlt, Nat.succ_pos _⟩
  | body =>
    have hlt : i.toNat < stop := hpc
    refine ⟨_, _, rfl, ?_⟩
    simp only [WorkerPc.stepsLeft]
    omega
  | insert order =>
    have hlt : i.toNat < stop := hpc.1
    refine ⟨_, _, rfl, ?_⟩
    simp only [WorkerPc.stepsLeft]
    omega
  | record us =>
    have hlt : i.toNat < stop := hpc
    have hsucc := toNat_succ hstop hlt
    refine ⟨_, _, rfl, ?_⟩
    simp only [WorkerPc.stepsLeft, hsucc]
    omega
  | finished => exact absurd rfl hfin

/-- No interleaving gets stuck: any run of the threads can be continued until all are joined. -/
theorem runThreads_completes (h : runThreads dataset totalRows numThreads acts = some s) :
    ∃ acts' s', runThreads dataset totalRows numThreads (acts ++ acts') = some s' ∧
      s'.joined = numThreads.toNat := by
  have hprogress : Program.Progresses (threads dataset totalRows numThreads)
      (fun s => ∃ acts, runThreads dataset totalRows numThreads acts = some s)
      (fun t w => w.pc.stepsLeft (bound totalRows numThreads (t + 1) - w.i.toNat)) := {
    keeps := by
      rintro s a s' ⟨acts, hacts⟩ ha
      refine ⟨acts ++ [a], ?_⟩
      rw [runThreads, Program.run_append, ← runThreads, hacts, Option.bind_some,
        Program.run_singleton, ha]
    advances := by
      rintro s t w ⟨acts, hacts⟩ hw hfin
      have hviews := runThreads_views hacts
      have ht : t < numThreads.toNat :=
        (List.getElem?_eq_some_iff.1 hw).1.trans_le hviews.length_le
      have hfin' : w.pc ≠ .finished := by
        intro hpc
        simp [threads, hpc] at hfin
      obtain ⟨w', g', hstep, hlt⟩ := workerStep_progresses (endIdx_toNat totalRows numThreads ht)
        (hviews.spawned t w hw).atPc hfin' s.shared
      exact ⟨0, w', g', hstep, hlt⟩ }
  obtain ⟨acts', s', hrun, hdone⟩ := hprogress.exists_joined ⟨acts, h⟩
    (runThreads_views h).length_le (Program.joined_le h)
  refine ⟨acts', s', ?_, hdone⟩
  rw [runThreads, Program.run_append, ← runThreads, h]
  exact hrun

theorem slices_eq (totalRows numThreads : UInt32) (hone : 1 ≤ numThreads.toNat) :
    ((List.range numThreads.toNat).flatMap fun t => List.range' (bound totalRows numThreads t)
      (bound totalRows numThreads (t + 1) - bound totalRows numThreads t)) =
      List.range totalRows.toNat := by
  rw [flatMap_slices _ (bound_zero totalRows numThreads hone) _
    fun t ht => bound_le_succ totalRows numThreads ht, bound, if_pos rfl]

theorem accessed_perm (h : runThreads dataset totalRows numThreads acts = some s) :
    ((List.range numThreads.toNat).flatMap fun t => (s.shared.view t).accessed).Perm
      (s.shared.accessed.map Prod.snd) := by
  have hrest (t : Nat) (ht : numThreads.toNat ≤ t) :
      (s.shared.accessed.filter fun a => a.1 = t) = [] :=
    List.map_eq_nil_iff.1 (congrArg WorkerView.accessed (view_of_no_thread h ht))
  have hperm := (flatMap_filter_perm Prod.fst numThreads.toNat s.shared.accessed hrest).map Prod.snd
  rwa [List.map_flatMap] at hperm

theorem inserted_perm (h : runThreads dataset totalRows numThreads acts = some s) :
    ((List.range numThreads.toNat).flatMap fun t => (s.shared.view t).inserted).Perm
      s.shared.inserted :=
  flatMap_filter_perm InsertCall.thread numThreads.toNat s.shared.inserted
    fun _ ht => congrArg WorkerView.inserted (view_of_no_thread h ht)

theorem inserted_eq (h : runThreads dataset totalRows numThreads acts = some s)
    (hjoined : s.joined = numThreads.toNat) (ht : t < numThreads.toNat) :
    (s.shared.inserted.filter fun c => c.thread = t) =
      (List.range' (bound totalRows numThreads t)
        (bound totalRows numThreads (t + 1) - bound totalRows numThreads t)).map
          (fun j => ⟨t, j, dataset[j]?⟩) :=
  (view_of_joined h hjoined ht).2.1

theorem recorders_eq (h : runThreads dataset totalRows numThreads acts = some s)
    (hjoined : s.joined = numThreads.toNat) :
    s.shared.recorders.map LatencyRecorder.count =
      (List.range numThreads.toNat).map fun t =>
        bound totalRows numThreads (t + 1) - bound totalRows numThreads t := by
  apply List.ext_getElem?
  intro t
  rw [List.getElem?_map]
  by_cases ht : t < numThreads.toNat
  · have hrec := (view_of_joined h hjoined ht).2.2
    simpa [ht, Shared.view] using hrec
  · have hnone : s.shared.recorders[t]? = none :=
      congrArg WorkerView.recorder (view_of_no_thread h (Nat.not_lt.1 ht))
    simp [hnone, Nat.not_lt.1 ht]

theorem recorders_ne_nil_of_joined (hone : 1 ≤ numThreads)
    (h : runThreads dataset totalRows numThreads acts = some s)
    (hjoined : s.joined = numThreads.toNat) : s.shared.recorders ≠ [] := by
  intro hnil
  have hlen := congrArg List.length (recorders_eq h hjoined)
  rw [hnil, List.map_nil, List.length_map, List.length_range, List.length_nil] at hlen
  have hone' : 1 ≤ numThreads.toNat := UInt32.le_iff_toNat_le.1 hone
  omega

/-- Every index below `total_rows` was inserted once, from the dataset, and no other accessed;
the recorders hold one latency for each row that their own threads inserted. -/
structure Partitioned (dataset : List (Order Double)) (totalRows numThreads : UInt32)
    (g : Shared Double) : Prop where
  inserted : (g.inserted.map (·.index)).Perm (List.range totalRows.toNat)
  order : ∀ c ∈ g.inserted, ∃ o, dataset[c.index]? = some o ∧ c.order = some o
  accessed : (g.accessed.map Prod.snd).Perm (List.range totalRows.toNat)
  recorders : g.recorders.map LatencyRecorder.count =
    (List.range numThreads.toNat).map fun t => (g.inserted.filter fun c => c.thread = t).length
  total : (g.recorders.map LatencyRecorder.count).sum = totalRows.toNat

theorem partitioned_of_joined (hone : 1 ≤ numThreads) (hrows : totalRows.toNat ≤ dataset.length)
    (h : runThreads dataset totalRows numThreads acts = some s)
    (hjoined : s.joined = numThreads.toNat) :
    Partitioned dataset totalRows numThreads s.shared := by
  have hone' : 1 ≤ numThreads.toNat := UInt32.le_iff_toNat_le.1 hone
  have hslices := slices_eq totalRows numThreads hone'
  have hinserted : (s.shared.inserted.map (·.index)).Perm (List.range totalRows.toNat) := by
    have hperm := (inserted_perm h).map (·.index)
    rw [List.map_flatMap] at hperm
    refine hperm.symm.trans (List.Perm.of_eq ?_)
    rw [← hslices]
    apply List.flatMap_congr
    intro t ht
    rw [(view_of_joined h hjoined (List.mem_range.1 ht)).2.1, List.map_map]
    exact List.map_id _
  exact {
    inserted := hinserted
    order := by
      intro c hc
      have hlt : c.index < dataset.length := by
        have hmem := hinserted.mem_iff.1 (List.mem_map_of_mem hc)
        exact (List.mem_range.1 hmem).trans_le hrows
      obtain ⟨t, ht, hct⟩ := List.mem_flatMap.1 ((inserted_perm h).mem_iff.2 hc)
      rw [(view_of_joined h hjoined (List.mem_range.1 ht)).2.1] at hct
      obtain ⟨j, -, rfl⟩ := List.mem_map.1 hct
      exact ⟨dataset[j], List.getElem?_eq_getElem hlt, List.getElem?_eq_getElem hlt⟩
    accessed := by
      refine (accessed_perm h).symm.trans (List.Perm.of_eq ?_)
      rw [← hslices]
      apply List.flatMap_congr
      intro t ht
      exact (view_of_joined h hjoined (List.mem_range.1 ht)).1
    recorders := by
      rw [recorders_eq h hjoined]
      apply List.map_congr_left
      intro t ht
      rw [inserted_eq h hjoined (List.mem_range.1 ht), List.length_map, List.length_range']
    total := by
      rw [recorders_eq h hjoined, ← List.length_range (n := totalRows.toNat), ← hslices,
        List.length_flatMap]
      simp }

theorem report_totalOps (hne : recorders ≠ []) (startTimer : LatencyRecorder → LatencyRecorder)
    (endNs : Nat → UInt64) (totalRows : UInt32) (wallMs : ℚ)
    (result : BenchmarkResult ℚ) :
    ∃ reported, report startTimer recorders endNs totalRows wallMs result = .ok reported ∧
      reported.totalOps = totalRows.toNat := by
  have hne' : (recorders.mapIdx fun i rec => (startTimer rec).stopTimer (endNs i)) ≠ [] := by
    simpa using hne
  obtain ⟨merged, hok, -⟩ := mergeThreadResults_ok hne' result
  rw [report, hok]
  exact ⟨_, rfl, rfl⟩

/-- Whatever the interleaving, the joined threads have partitioned the rows, and their recorders
hold as many latencies as `run` reports operations. -/
theorem workers_partition_rows (hone : 1 ≤ numThreads) (hrows : totalRows.toNat ≤ dataset.length)
    (h : runThreads dataset totalRows numThreads acts = some s)
    (hjoined : s.joined = numThreads.toNat) (startTimer : LatencyRecorder → LatencyRecorder)
    (endNs : Nat → UInt64) (wallMs : ℚ) (result : BenchmarkResult ℚ) :
    Partitioned dataset totalRows numThreads s.shared ∧
      ∃ reported, report startTimer s.shared.recorders endNs totalRows wallMs result =
          .ok reported ∧
        (s.shared.recorders.map LatencyRecorder.count).sum = reported.totalOps := by
  have hparts := partitioned_of_joined hone hrows h hjoined
  have hne := recorders_ne_nil_of_joined hone h hjoined
  obtain ⟨reported, hok, htotal⟩ := report_totalOps hne startTimer endNs totalRows wallMs result
  exact ⟨hparts, reported, hok, hparts.total.trans htotal.symm⟩

/-- Two threads on three rows: the second takes two, and overtakes the first. -/
def overtaking : List (Action UInt64) :=
  [.spawn, .advance 0 0, .spawn] ++ List.replicate 9 (.advance 1 7) ++
    List.replicate 4 (.advance 0 5) ++ [.join, .join]

def threeRows : List (Order Rat) :=
  [stampedOrder "a" "u" "t", stampedOrder "b" "u" "t", stampedOrder "c" "v" "t"]

theorem workers_partition_rows_overtaking :
    ∃ s, runThreads threeRows 3 2 overtaking = some s ∧ s.joined = 2 ∧
      Partitioned threeRows 3 2 s.shared ∧
      ∃ reported, report id s.shared.recorders (fun _ => 0) 3 1 .init = .ok reported ∧
        (s.shared.recorders.map LatencyRecorder.count).sum = reported.totalOps := by
  have hsome : (runThreads threeRows 3 2 overtaking).isSome := by decide
  obtain ⟨s, hs⟩ := Option.isSome_iff_exists.1 hsome
  have hjoined : (runThreads threeRows 3 2 overtaking).map (·.joined) = some 2 := by decide
  rw [hs] at hjoined
  have htwo : s.joined = 2 := Option.some.inj hjoined
  exact ⟨s, hs, htwo, workers_partition_rows (by decide) (by decide) hs htwo id (fun _ => 0) 1
    .init⟩

end DbBenchmark
