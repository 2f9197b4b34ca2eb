import Livox.Library.Loop
import Livox.Sdk.FileManager
import Livox.Sdk.LoggerManager

open checked loop multimap

namespace livox_lidar

open file_manager

namespace logger_manager

/-- What is at `type_0` and at `type_1` below the root of the logs, and the file names that have been
collected of them. -/
structure LogPaths where
  realtime_log : Option Node
  exception_log : Option Node
  realtime_files : FileNames
  exception_files : FileNames

/-- The variables of the loop that removes files. -/
structure Deletion where
  log_save_path : Node
  files : FileNames

def delete_turn (max_cache_size : UInt64) (s : Deletion) : Checked (Turn Deletion Node) :=
  if get_dir_total_size s.log_save_path > max_cache_size then
    match s.files with
    | (_, name) :: files => .ok (.next { log_save_path := remove name s.log_save_path, files })
    | [] => .ok (.leave s.log_save_path)
  else .ok (.leave s.log_save_path)

/-- The body of the loop of `CycleDelete` for one path, with the file names collected; `none` when
`fuel` turns do not end the loop in it. -/
def delete_files (max_cache_size : UInt64) (fuel : Nat) (log_save_path : Option Node)
    (files : FileNames) : Option (Checked (Option Node × FileNames)) :=
  match log_save_path with
  | none => some (.ok (none, files))
  | some node =>
    if get_dir_total_size node > max_cache_size then
      let files := (get_file_names node files).2
      (run (delete_turn max_cache_size) fuel { log_save_path := node, files }).map fun left =>
        left.map fun node => (some node, [])
    else some (.ok (some node, files))

end logger_manager

open logger_manager

/-- The body of the loop of `CycleDelete` behind the wait. -/
def LoggerManager.cycle_delete (s : LoggerManager) (fuel : Nat) (paths : LogPaths) :
    Option (Checked (LoggerManager × LogPaths)) := do
  let realtime ← delete_files s.max_realtimelog_cache_size fuel paths.realtime_log
    paths.realtime_files
  let exception ← delete_files s.max_exceptionlog_cache_size fuel paths.exception_log
    paths.exception_files
  return do
    let (realtime_log, realtime_files) ← realtime
    let (exception_log, exception_files) ← exception
    .ok ({ s with cond := false }, { realtime_log, exception_log, realtime_files, exception_files })

namespace logger_manager

/-- The files of a directory with their sizes, in the order of the listing. -/
abbrev Listing := List (List UInt8 × UInt64)

/-- The directory that has these files and nothing else. -/
def flat (files : Listing) : Node :=
  .directory true (files.map fun file => (file.1, .regular file.2))

/-- A directory of regular files. -/
structure LogDirectory where
  files : Listing
  distinct : (files.map Prod.fst).Nodup
  named : ∀ file ∈ files, file.1 ≠ []

def size (files : Listing) : Nat := (files.map fun file => file.2.toNat).sum

/-- The names that are not hidden. -/
def visible (files : Listing) : List (List UInt8) :=
  (files.map Prod.fst).filter fun name => name.head? ≠ some 46

/-- What is left when the files of these names are removed. -/
def without (files : Listing) (names : List (List UInt8)) : Listing :=
  files.filter fun file => file.1 ∉ names

/-- `kept` is left of the files when the first `count` of the names in `order` are removed: as many
as have to be to bring the size to the cap, or all. -/
structure Retained (max_cache_size : Nat) (files kept : Listing) (order : List (List UInt8))
    (count : Nat) : Prop where
  ordered : InOrder (fun name => chars (record_time name)) (visible files) order
  le : count ≤ order.length
  kept_eq : kept = without files (order.take count)
  needed : ∀ fewer < count, max_cache_size < size (without files (order.take fewer))
  enough : count < order.length → size kept ≤ max_cache_size

/-- What the paths lead to behind a pass: nothing where there was nothing, and the files that are to
be kept where there was a directory. -/
def RetainsExactly (max_cache_size : UInt64) (log_save_path : Option Node) :
    Option LogDirectory → Prop
  | none => log_save_path = none
  | some log => ∃ kept order count, Retained max_cache_size.toNat log.files kept order count ∧
      log_save_path = some (flat kept)

section Flat

variable {files : Listing} {file : List UInt8 × UInt64}

theorem size_cons (file : List UInt8 × UInt64) (files : Listing) :
    size (file :: files) = file.2.toNat + size files := by
  rw [size, List.map_cons, List.sum_cons, size]

theorem visible_cons_of_hidden (h : file.1.head? = some 46) :
    visible (file :: files) = visible files := by
  rw [visible, List.map_cons, List.filter_cons_of_neg (by simpa using h), visible]

theorem visible_cons (h : file.1.head? ≠ some 46) :
    visible (file :: files) = file.1 :: visible files := by
  rw [visible, List.map_cons, List.filter_cons_of_pos (by simpa using h), visible]

theorem total_size_flat (files : Listing) :
    (total_size (files.map fun file => (file.1, Node.regular file.2))).toNat = size files % 2 ^ 64 := by
  induction files with
  | nil => rfl
  | cons file files ih =>
    rw [List.map_cons, total_size, get_dir_total_size, UInt64.toNat_add, ih, size_cons,
      Nat.add_mod_mod]

theorem get_dir_total_size_flat (h : size files < 2 ^ 64) :
    (get_dir_total_size (flat files)).toNat = size files := by
  rw [flat, get_dir_total_size, total_size_flat, Nat.mod_eq_of_lt h]

theorem remove_flat (name : List UInt8) (files : Listing) :
    remove name (flat files) = flat (without files [name]) := by
  rw [flat, remove, flat, without, List.filter_map]
  congr 2
  apply List.filter_congr
  intro file _
  simp [removable, beq_eq_decide]

theorem size_without_le (files : Listing) (names : List (List UInt8)) :
    size (without files names) ≤ size files := by
  unfold size without
  exact (List.filter_sublist.map _).sum_le_sum fun _ _ => Nat.zero_le _

/-- The names that are collected of a directory. -/
theorem file_names_flat (hnamed : ∀ file ∈ files, file.1 ≠ []) (filenames : FileNames) :
    file_names (files.map fun file => (file.1, .regular file.2)) filenames =
      ((visible files).map fun name => (record_time name, name)).foldl
        (fun entries entry => multimap.insert (fun entry => chars entry.1) entry entries)
        filenames := by
  induction files generalizing filenames with
  | nil => rfl
  | cons file files ih =>
    obtain ⟨name, st_size⟩ := file
    have hname : name ≠ [] := hnamed (name, st_size) List.mem_cons_self
    have hrest := ih fun file hfile => hnamed file (List.mem_cons_of_mem _ hfile)
    rw [List.map_cons, file_names]
    by_cases hhidden : name.head? = some 46
    · rw [if_pos hhidden, hrest, visible_cons_of_hidden hhidden]
    · rw [if_neg hhidden, hrest, visible_cons hhidden, List.map_cons, List.foldl_cons,
        store_file_name, if_neg hname]

theorem get_file_names_flat (hnamed : ∀ file ∈ files, file.1 ≠ []) :
    (get_file_names (flat files) []).2 =
      (ofList (fun name => chars (record_time name)) (visible files)).map
        fun name => (record_time name, name) := by
  rw [flat, get_file_names, file_names_flat hnamed]
  exact (map_ofList (fun entry : List UInt8 × List UInt8 => chars entry.1)
    (fun name => (record_time name, name)) (fun _ => rfl) (visible files)).symm

end Flat

section Retain

/-- As many of the names are taken away, one after the other, as have to be. -/
def retain (max_cache_size : Nat) : List (List UInt8) → Listing → Listing
  | [], files => files
  | name :: names, files =>
    if max_cache_size < size files then retain max_cache_size names (without files [name]) else files

variable {files : Listing} {max_cache_size : Nat}

theorem without_nil (files : Listing) : without files [] = files := by
  simp [without]

theorem without_without (files : Listing) (name : List UInt8) (names : List (List UInt8)) :
    without (without files [name]) names = without files (name :: names) := by
  rw [without, without, List.filter_filter]
  apply List.filter_congr
  intro file _
  simp [Bool.and_comm]

theorem retain_of_le (h : size files ≤ max_cache_size) (names : List (List UInt8)) :
    retain max_cache_size names files = files := by
  cases names with
  | nil => rfl
  | cons name names => rw [retain, if_neg (Nat.not_lt.mpr h)]

/-- The names that are taken away are a prefix, and no shorter one would do. -/
theorem retain_eq (max_cache_size : Nat) (names : List (List UInt8)) (files : Listing) :
    ∃ count ≤ names.length, retain max_cache_size names files = without files (names.take count) ∧
      (∀ fewer < count, max_cache_size < size (without files (names.take fewer))) ∧
      (count < names.length → size (retain max_cache_size names files) ≤ max_cache_size) := by
  induction names generalizing files with
  | nil =>
    refine ⟨0, le_refl 0, (without_nil files).symm, ?_, ?_⟩
    · exact fun fewer hfewer => absurd hfewer (Nat.not_lt_zero fewer)
    · exact fun hlt => absurd hlt (Nat.lt_irrefl 0)
  | cons name names ih =>
    by_cases hlarge : max_cache_size < size files
    · obtain ⟨count, hle, heq, hneeded, henough⟩ := ih (without files [name])
      rw [retain, if_pos hlarge]
      refine ⟨count + 1, Nat.succ_le_succ hle, ?_, ?_, ?_⟩
      · rw [heq, without_without, List.take_succ_cons]
      · intro fewer hfewer
        cases fewer with
        | zero => rwa [List.take_zero, without_nil]
        | succ fewer =>
          have hone := hneeded fewer (Nat.lt_of_succ_lt_succ hfewer)
          rwa [without_without] at hone
      · exact fun hlt => henough (Nat.lt_of_succ_lt_succ hlt)
    · rw [retain, if_neg hlarge]
      refine ⟨0, Nat.zero_le _, (without_nil files).symm, ?_, fun _ => Nat.not_lt.mp hlarge⟩
      exact fun fewer hfewer => absurd hfewer (Nat.not_lt_zero fewer)

end Retain

section Pass

variable {files : Listing} {max_cache_size : UInt64}

/-- The loop ends, with the files that are retained. -/
theorem delete_ends (max_cache_size : UInt64) (names : List (List UInt8)) {files : Listing}
    (hsize : size files < 2 ^ 64) :
    Ends (delete_turn max_cache_size)
      { log_save_path := flat files, files := names.map fun name => (record_time name, name) }
      (.ok (flat (retain max_cache_size.toNat names files))) := by
  have hlarge : get_dir_total_size (flat files) > max_cache_size ↔ max_cache_size.toNat < size files := by
    rw [gt_iff_lt, UInt64.lt_iff_toNat_lt, get_dir_total_size_flat hsize]
  induction names generalizing files with
  | nil =>
    apply ends_leave
    rw [delete_turn, retain]
    split <;> rfl
  | cons name names ih =>
    by_cases h : max_cache_size.toNat < size files
    · have hturn : delete_turn max_cache_size
          { log_save_path := flat files
            files := (name :: names).map fun name => (record_time name, name) } =
          .ok (.next
            { log_save_path := flat (without files [name])
              files := names.map fun name => (record_time name, name) }) := by
        rw [delete_turn, if_pos (hlarge.mpr h), ← remove_flat]
        rfl
      have hless : size (without files [name]) < 2 ^ 64 :=
        Nat.lt_of_le_of_lt (size_without_le files [name]) hsize
      rw [ends_next_iff hturn, retain, if_pos h]
      apply ih hless
      rw [gt_iff_lt, UInt64.lt_iff_toNat_lt, get_dir_total_size_flat hless]
    · apply ends_leave
      rw [delete_turn, if_neg (mt hlarge.mp h), retain, if_neg h]

/-- A pass over one path ends, with the list of the file names empty again. -/
theorem delete_files_ends (log : Option LogDirectory)
    (hsize : ∀ dir ∈ log, size dir.files < 2 ^ 64) (max_cache_size : UInt64) :
    ∃ log_save_path enough, RetainsExactly max_cache_size log_save_path log ∧
      ∀ fuel ≥ enough, delete_files max_cache_size fuel (log.map fun dir => flat dir.files) [] =
        some (.ok (log_save_path, [])) := by
  cases log with
  | none => exact ⟨none, 0, rfl, fun _ _ => rfl⟩
  | some dir =>
    have hdir := hsize dir rfl
    let names := ofList (fun name => chars (record_time name)) (visible dir.files)
    obtain ⟨count, hle, heq, hneeded, henough⟩ := retain_eq max_cache_size.toNat names dir.files
    obtain ⟨enough, hrun⟩ := delete_ends max_cache_size names hdir
    refine ⟨some (flat (retain max_cache_size.toNat names dir.files)), enough, ?_, ?_⟩
    · exact ⟨_, names, count, ⟨inOrder_ofList _ _, hle, heq, hneeded, henough⟩, rfl⟩
    · intro fuel hfuel
      rw [Option.map_some, delete_files]
      by_cases hlarge : get_dir_total_size (flat dir.files) > max_cache_size
      · rw [if_pos hlarge, get_file_names_flat dir.named]
        dsimp only
        rw [run_of_le hfuel hrun]
        rfl
      · rw [if_neg hlarge]
        rw [gt_iff_lt, UInt64.lt_iff_toNat_lt, get_dir_total_size_flat hdir, Nat.not_lt] at hlarge
        rw [retain_of_le hlarge]

end Pass

/-- Every pass ends, and each directory keeps exactly the files that it is to keep; the lists of the
names are empty for the next pass. -/
theorem retention_exact (s : LoggerManager) (realtime exception : Option LogDirectory)
    (hrealtime : ∀ dir ∈ realtime, size dir.files < 2 ^ 64)
    (hexception : ∀ dir ∈ exception, size dir.files < 2 ^ 64) :
    ∃ fuel t paths,
      s.cycle_delete fuel
        { realtime_log := realtime.map fun dir => flat dir.files
          exception_log := exception.map fun dir => flat dir.files
          realtime_files := []
          exception_files := [] } = some (.ok (t, paths)) ∧
      RetainsExactly s.max_realtimelog_cache_size paths.realtime_log realtime ∧
      RetainsExactly s.max_exceptionlog_cache_size paths.exception_log exception ∧
      paths.realtime_files = [] ∧ paths.exception_files = [] := by
  obtain ⟨realtime_log, enough, hkept, hends⟩ :=
    delete_files_ends realtime hrealtime s.max_realtimelog_cache_size
  obtain ⟨exception_log, more, hkept', hends'⟩ :=
    delete_files_ends exception hexception s.max_exceptionlog_cache_size
  refine ⟨max enough more, { s with cond := false },
    { realtime_log, exception_log, realtime_files := [], exception_files := [] }, ?_, hkept, hkept',
    rfl, rfl⟩
  rw [LoggerManager.cycle_delete, hends _ (Nat.le_max_left enough more),
    hends' _ (Nat.le_max_right enough more)]
  rfl

/-- `a` and `c` of three bytes each, and the hidden `.b` of two. -/
def small_directory : LogDirectory where
  files := [([97], 3), ([46, 98], 2), ([99], 3)]
  distinct := by decide
  named := by decide

/-- A manager that keeps at most five bytes. -/
def small_manager : LoggerManager := { LoggerManager.new with max_realtimelog_cache_size := 5 }

/-- The directory holds more, so that a file is removed. -/
theorem small_directory_retained :
    small_manager.max_realtimelog_cache_size.toNat < size small_directory.files ∧
    ∃ fuel t paths,
      small_manager.cycle_delete fuel
        { realtime_log := (some small_directory).map fun dir => flat dir.files
          exception_log := (none : Option LogDirectory).map fun dir => flat dir.files
          realtime_files := []
          exception_files := [] } = some (.ok (t, paths)) ∧
      RetainsExactly small_manager.max_realtimelog_cache_size paths.realtime_log
        (some small_directory) ∧
      RetainsExactly small_manager.max_exceptionlog_cache_size paths.exception_log none ∧
      paths.realtime_files = [] ∧ paths.exception_files = [] := by
  refine ⟨by decide, retention_exact small_manager (some small_directory) none ?_ ?_⟩
  · rintro dir ⟨⟩
    decide
  · rintro dir ⟨⟩

/-- Three files whose sizes add up to two to the 64th. -/
def huge_directory : LogDirectory where
  files := [([97], 0x7FFFFFFFFFFFFFFF), ([98], 0x7FFFFFFFFFFFFFFF), ([99], 2)]
  distinct := by decide
  named := by decide

/-- The sum that the code forms of them is zero, so it keeps them all. -/
theorem delete_files_huge (fuel : Nat) :
    delete_files LoggerManager.new.max_realtimelog_cache_size fuel
      (some (flat huge_directory.files)) [] = some (.ok (some (flat huge_directory.files), [])) := by
  have htotal : get_dir_total_size (flat huge_directory.files) = 0 := by decide
  rw [delete_files, htotal, if_neg (by decide)]

theorem flat_injective : Function.Injective flat := by
  intro files others h
  have hentries := (Node.directory.inj h).2
  apply List.map_injective_iff.mpr _ hentries
  intro file other heq
  obtain ⟨hname, hnode⟩ := Prod.mk.inj heq
  exact Prod.ext hname (Node.regular.inj hnode)

theorem huge_directory_not_retained :
    ¬ ∃ fuel t paths,
      LoggerManager.new.cycle_delete fuel
        { realtime_log := some (flat huge_directory.files), exception_log := none
          realtime_files := [], exception_files := [] } = some (.ok (t, paths)) ∧
      RetainsExactly LoggerManager.new.max_realtimelog_cache_size paths.realtime_log
        (some huge_directory) := by
  rintro ⟨fuel, t, paths, hpass, kept, order, count, hretained, hlog⟩
  rw [LoggerManager.cycle_delete, delete_files_huge fuel] at hpass
  cases hpass
  obtain rfl := flat_injective (Option.some.inj hlog)
  have hlarge : ¬ size huge_directory.files ≤ LoggerManager.new.max_realtimelog_cache_size.toNat := by
    decide
  have hall : count = order.length :=
    le_antisymm hretained.le (Nat.not_lt.mp fun hlt => hlarge (hretained.enough hlt))
  have hkept := hretained.kept_eq
  rw [hall, List.take_length] at hkept
  have hfirst : (([97], 0x7FFFFFFFFFFFFFFF) : List UInt8 × UInt64) ∈ huge_directory.files := by decide
  have hvisible : [97] ∈ visible huge_directory.files := by decide
  rw [hkept, without, List.mem_filter, decide_eq_true_eq] at hfirst
  exact hfirst.2 (hretained.ordered.perm.mem_iff.mpr hvisible)

end logger_manager

end livox_lidar
