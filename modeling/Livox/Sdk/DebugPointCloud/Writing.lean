import Livox.Library.DecimalText
import Livox.Sdk.DebugPointCloud

open checked decimal_text memory swap_queue

namespace livox_lidar

theorem pop_slash_eq_ok {path : List UInt8} (hpath : path ≠ []) : ∃ popped, pop_slash path = .ok popped := by
  rw [pop_slash]
  cases hlast : path.getLast? with
  | none => exact absurd (List.getLast?_eq_none_iff.mp hlast) hpath
  | some last => exact ⟨_, rfl⟩

section Files

variable (files : Files) (full_path : List UInt8)

theorem fwrite_self (buf : List UInt8) : fwrite files full_path buf full_path = files full_path ++ buf :=
  Function.update_self _ _ _

theorem fwrite_of_ne {other : List UInt8} (hother : other ≠ full_path) (buf : List UInt8) :
    fwrite files full_path buf other = files other :=
  Function.update_of_ne hother _ _

theorem fwrite_nil : fwrite files full_path [] = files := by
  rw [fwrite, List.append_nil, Function.update_eq_self]

/-- Two writes one after the other are one. -/
theorem fwrite_fwrite (buf rest : List UInt8) :
    fwrite (fwrite files full_path buf) full_path rest = fwrite files full_path (buf ++ rest) := by
  rw [fwrite, fwrite_self, fwrite, fwrite, Function.update_idem, List.append_assoc]

end Files

namespace DebugPointCloudHandler

variable {crc_16 : FastCRC} {h t : DebugPointCloudHandler}

/-- What a handler keeps from its constructor on. -/
structure Frame (h t : DebugPointCloudHandler) : Prop where
  handle : t.handle = h.handle
  sn : t.sn = h.sn
  behind_sn : t.behind_sn = h.behind_sn
  dev_type : t.dev_type = h.dev_type
  file_path : t.file_path = h.file_path

/-- There is no underscore in the digits of a handle. -/
theorem underscore_not_mem_toDigits (n : Nat) : '_' ∉ Nat.toDigits 10 n := by
  intro hmem
  obtain ⟨-, hlast⟩ := mem_toDigits_bound hmem
  exact absurd hlast (by decide)

/-- The name of a file tells the lidar, whatever the time. -/
theorem handle_of_file_name {time other : String} (hname : h.file_name time = t.file_name other) :
    h.handle = t.handle := by
  have hchars := congrArg String.toList hname
  simp only [file_name, String.toList_append, List.append_assoc] at hchars
  have hbehind := List.append_cancel_left hchars
  change (toString h.handle.toNat).toList ++ '_' :: _ = (toString t.handle.toNat).toList ++ '_' :: _
    at hbehind
  simp only [Nat.toString_eq_repr, Nat.toList_repr] at hbehind
  obtain ⟨hdigits, -⟩ := append_cons_inj_of_notMem_left (underscore_not_mem_toDigits _)
    (underscore_not_mem_toDigits _) hbehind
  exact UInt32.toNat_inj.mp (toDigits_inj hdigits)

/-- Under one path, no two lidars have a file of the same name. -/
theorem handle_of_path_at (hfile_path : h.file_path = t.file_path) {time other : String}
    (hpath : h.path_at time = t.path_at other) : h.handle = t.handle := by
  rw [path_at, path_at, hfile_path] at hpath
  have hbytes := List.tail_eq_of_cons_eq (List.append_cancel_left hpath)
  have hutf8 : (h.file_name time).toUTF8 = (t.file_name other).toUTF8 :=
    ByteArray.ext (Array.toList_inj.mp hbytes)
  exact handle_of_file_name (String.toByteArray_inj.mp hutf8)

/-- What a handler has written to its file: the header, and then what its thread has taken. -/
def written (crc_16 : FastCRC) (h : DebugPointCloudHandler) : List UInt8 :=
  match h.full_path with
  | some _ => h.file_header crc_16 ++ h.data.taken
  | none => []

/-- What a handler has been given is in its file or on its way there, in order. A thread ends only
when the handler is disabled, it has written as much as a file may hold, or the file cannot be
opened. -/
structure Recorded (crc_16 : FastCRC) (h : DebugPointCloudHandler) : Prop where
  conserves : h.data.Conserves
  between : h.place = .loop_test ∨ h.place = .wait → h.data.batch = []
  unopened : h.full_path = none → h.data.taken = []
  size : h.file_size = (h.written crc_16).length
  named : ∀ full_path ∈ h.full_path, ∃ time, full_path = h.path_at time
  ended : h.place = .ended → h.enable = false ∨ max_file_size ≤ h.file_size ∨ h.full_path = none

theorem length_file_header (crc_16 : FastCRC) (h : DebugPointCloudHandler) :
    (h.file_header crc_16).length = file_header_size := by
  simp [file_header, file_header_size]

theorem Recorded.store_data (hrecorded : h.Recorded crc_16) (buf : Option (List UInt8)) :
    (h.store_data buf).2.Recorded crc_16 := by
  cases buf with
  | none => exact hrecorded
  | some buf => exact { hrecorded with conserves := hrecorded.conserves.post buf }

theorem Recorded.disable (hrecorded : h.Recorded crc_16) : h.disable.Recorded crc_16 :=
  { hrecorded with ended := fun _ => .inl rfl }

theorem new_eq_ok (handle : UInt32) (sn : List UInt8) (behind_sn : Vector UInt8 15) (dev_type : UInt8)
    {path : List UInt8} (hpath : path ≠ []) :
    ∃ made, new handle sn behind_sn dev_type path = .ok made ∧ made.handle = handle ∧
      made.sn = sn ∧ made.dev_type = dev_type ∧ pop_slash path = .ok made.file_path ∧
      made.data = SwapQueue.empty UInt8 ∧ made.full_path = none ∧ ∀ crc_16, made.Recorded crc_16 := by
  obtain ⟨file_path, hfile_path⟩ := pop_slash_eq_ok hpath
  rw [new, hfile_path, ok_bind]
  refine ⟨_, rfl, rfl, rfl, rfl, rfl, rfl, rfl, fun crc_16 => ?_⟩
  exact
    { conserves := SwapQueue.empty_conserves UInt8
      between := fun _ => rfl
      unopened := fun _ => rfl
      size := rfl
      named := by simp
      ended := by simp }

section WriteData

variable {files : Files} {timed_out : Bool} {opened : Option String}

theorem write_data_frame (crc_16 : FastCRC) (h : DebugPointCloudHandler) (files : Files)
    (timed_out : Bool) (opened : Option String) :
    Frame h (h.write_data crc_16 files timed_out opened).1 ∧
      (h.write_data crc_16 files timed_out opened).1.enable = h.enable ∧
      (h.write_data crc_16 files timed_out opened).1.data.posted = h.data.posted := by
  rw [write_data]
  split
  · exact ⟨⟨rfl, rfl, rfl, rfl, rfl⟩, rfl, rfl⟩
  · split
    · split <;> exact ⟨⟨rfl, rfl, rfl, rfl, rfl⟩, rfl, rfl⟩
    · exact ⟨⟨rfl, rfl, rfl, rfl, rfl⟩, rfl, rfl⟩
  · split
    · exact ⟨⟨rfl, rfl, rfl, rfl, rfl⟩, rfl, rfl⟩
    · split
      · exact ⟨⟨rfl, rfl, rfl, rfl, rfl⟩, rfl, rfl⟩
      · split <;> exact ⟨⟨rfl, rfl, rfl, rfl, rfl⟩, rfl, rfl⟩
  · exact ⟨⟨rfl, rfl, rfl, rfl, rfl⟩, rfl, rfl⟩

/-- What a handler has written goes to the end of one file, which stays its own. -/
def Appends (crc_16 : FastCRC) (h : DebugPointCloudHandler) (files : Files)
    (after : DebugPointCloudHandler × Files) : Prop :=
  (after.1.full_path = h.full_path ∧ after.1.written crc_16 = h.written crc_16 ∧ after.2 = files) ∨
    ∃ full_path buf, (h.full_path = none ∨ h.full_path = some full_path) ∧
      after.1.full_path = some full_path ∧ after.1.written crc_16 = h.written crc_16 ++ buf ∧
      after.2 = fwrite files full_path buf

/-- The header is written when the file is opened. -/
theorem Recorded.open_file (hrecorded : h.Recorded crc_16) {file : OpenFile}
    (hopen : h.open_file crc_16 files opened = some file) :
    ∃ opening, file.files = fwrite files file.full_path opening ∧
      h.written crc_16 ++ opening = h.file_header crc_16 ++ h.data.taken ∧
      file.file_size = (h.file_header crc_16 ++ h.data.taken).length ∧
      (h.full_path = none ∨ h.full_path = some file.full_path) ∧
      ∃ time, file.full_path = h.path_at time := by
  have hsize := hrecorded.size
  rw [DebugPointCloudHandler.open_file] at hopen
  cases hfull_path : h.full_path with
  | some full_path =>
    simp only [hfull_path, Option.some.injEq] at hopen
    subst hopen
    simp only [written, hfull_path] at hsize ⊢
    exact ⟨[], (fwrite_nil _ _).symm, List.append_nil _, hsize, .inr trivial,
      hrecorded.named full_path hfull_path⟩
  | none =>
    simp only [hfull_path, Option.map_eq_some_iff] at hopen
    obtain ⟨time, -, rfl⟩ := hopen
    have htaken := hrecorded.unopened hfull_path
    simp only [written, hfull_path, List.length_nil] at hsize ⊢
    refine ⟨h.file_header crc_16, rfl, ?_, ?_, .inl trivial, time, rfl⟩
    · rw [htaken, List.nil_append, List.append_nil]
    · rw [htaken, List.append_nil, hsize, length_file_header, Nat.zero_add]

/-- A batch that is written to the file. -/
theorem Recorded.write_batch (hrecorded : h.Recorded crc_16) {file : OpenFile}
    (hopen : h.open_file crc_16 files opened = some file)
    (ht : t =
      { h with
        full_path := some file.full_path
        file_size := file.file_size + h.data.batch.length
        data := h.data.take_all
        place := .loop_test }) :
    t.Recorded crc_16 ∧
      Appends crc_16 h files (t, fwrite file.files file.full_path h.data.batch) := by
  obtain ⟨opening, hfiles, hopening, hsize, hown, htime⟩ := hrecorded.open_file hopen
  have hwritten : t.written crc_16 = h.written crc_16 ++ (opening ++ h.data.batch) := by
    rw [← List.append_assoc, hopening, List.append_assoc]
    subst ht
    rfl
  subst ht
  constructor
  · exact
      { conserves := hrecorded.conserves.take_all
        between := fun _ => rfl
        unopened := by simp
        size := by
          rw [hwritten, ← List.append_assoc, hopening, List.length_append, ← hsize]
        named := by
          rintro full_path hfull_path
          obtain rfl := Option.some_inj.mp hfull_path
          exact htime
        ended := by simp }
  · refine .inr ⟨file.full_path, opening ++ h.data.batch, hown, rfl, hwritten, ?_⟩
    rw [hfiles, fwrite_fwrite]

/-- What a step of the thread keeps, and what it does to the files. -/
theorem Recorded.write_data (hrecorded : h.Recorded crc_16) (files : Files) (timed_out : Bool)
    (opened : Option String) :
    (h.write_data crc_16 files timed_out opened).1.Recorded crc_16 ∧
      Appends crc_16 h files (h.write_data crc_16 files timed_out opened) := by
  cases hplace : h.place with
  | loop_test =>
    have hbatch := hrecorded.between (.inl hplace)
    simp only [DebugPointCloudHandler.write_data, hplace]
    refine ⟨?_, .inl ⟨rfl, rfl, rfl⟩⟩
    exact
      { hrecorded with
        between := fun _ => hbatch
        ended := fun hended => .inl (by simpa using hended) }
  | wait =>
    have hbatch := hrecorded.between (.inr hplace)
    simp only [DebugPointCloudHandler.write_data, hplace]
    split
    · split
      · exact ⟨hrecorded, .inl ⟨rfl, rfl, rfl⟩⟩
      · refine ⟨?_, .inl ⟨rfl, rfl, rfl⟩⟩
        exact
          { hrecorded with
            conserves := hrecorded.conserves.swap hbatch
            between := by simp
            ended := by simp }
    · next hdisabled =>
      refine ⟨?_, .inl ⟨rfl, rfl, rfl⟩⟩
      exact { hrecorded with between := by simp, ended := fun _ => .inl (by simpa using hdisabled) }
  | write =>
    simp only [DebugPointCloudHandler.write_data, hplace]
    split
    · next hempty =>
      refine ⟨?_, .inl ⟨rfl, rfl, rfl⟩⟩
      exact { hrecorded with between := fun _ => List.isEmpty_iff.mp hempty, ended := by simp }
    · split
      · next hfull =>
        refine ⟨?_, .inl ⟨rfl, rfl, rfl⟩⟩
        exact { hrecorded with between := by simp, ended := fun _ => .inr (.inl hfull) }
      · cases hopen : h.open_file crc_16 files opened with
        | none =>
          have hunopened : h.full_path = none := by
            rw [DebugPointCloudHandler.open_file] at hopen
            split at hopen
            · cases hopen
            · assumption
          refine ⟨?_, .inl ⟨rfl, rfl, rfl⟩⟩
          exact { hrecorded with between := by simp, ended := fun _ => .inr (.inr hunopened) }
        | some file => exact hrecorded.write_batch hopen rfl
  | ended =>
    simp only [DebugPointCloudHandler.write_data, hplace]
    exact ⟨hrecorded, .inl ⟨rfl, rfl, rfl⟩⟩

theorem write_data_of_ended (hended : h.place = .ended) :
    h.write_data crc_16 files timed_out opened = (h, files) := by
  simp only [write_data, hended]

/-- The thread of a handler that is disabled ends in two steps. -/
theorem ended_of_disabled (hdisabled : h.enable = false) {rest : Files} :
    ((h.write_data crc_16 files timed_out opened).1.write_data crc_16 rest timed_out opened).1.place =
      .ended := by
  have hlast : ∀ u : DebugPointCloudHandler, u.enable = false →
      (u.place = .loop_test ∨ u.place = .ended) →
      (u.write_data crc_16 rest timed_out opened).1.place = .ended := by
    rintro u hu (hplace | hplace)
    · simp [write_data, hplace, hu]
    · simp [write_data, hplace]
  apply hlast
  · rw [(write_data_frame crc_16 h files timed_out opened).2.1, hdisabled]
  · cases hplace : h.place with
    | loop_test => simp [write_data, hplace, hdisabled]
    | wait => simp [write_data, hplace, hdisabled]
    | write =>
      simp only [write_data, hplace]
      split
      · exact .inl rfl
      · split
        · exact .inr rfl
        · split
          · exact .inr rfl
          · exact .inl rfl
    | ended => simp [write_data, hplace]

end WriteData

section Flush

variable {files : Files}

/-- The thread after its next `n` steps, with the files, where each wait comes to its end and the file
can be opened. -/
def write_on (crc_16 : FastCRC) (time : String) (h : DebugPointCloudHandler) (files : Files)
    (n : Nat) : DebugPointCloudHandler × Files :=
  (fun o : DebugPointCloudHandler × Files => o.1.write_data crc_16 o.2 true (some time))^[n] (h, files)

/-- What has been stored does not stay behind: as long as the handler is enabled, its file can be
opened and has room for the batch that it is at, and nothing more is stored, its thread writes all of
it within four steps. -/
def Flushes (crc_16 : FastCRC) (h : DebugPointCloudHandler) (files : Files) : Prop :=
  h.enable = true → h.place ≠ .ended →
    h.file_size + file_header_size + h.data.batch.length < max_file_size →
    ∀ time, ∃ n ≤ 4, (h.write_on crc_16 time files n).1.data.taken = h.data.posted

theorem write_on_succ (time : String) (n : Nat) :
    h.write_on crc_16 time files (n + 1) =
      (h.write_data crc_16 files true (some time)).1.write_on crc_16 time
        (h.write_data crc_16 files true (some time)).2 n := rfl

theorem open_file_some (crc_16 : FastCRC) (h : DebugPointCloudHandler) (files : Files)
    (time : String) : ∃ file, h.open_file crc_16 files (some time) = some file ∧
      file.file_size ≤ h.file_size + file_header_size := by
  rw [DebugPointCloudHandler.open_file]
  split
  · exact ⟨_, rfl, Nat.le_add_right _ _⟩
  · exact ⟨_, rfl, Nat.le_refl _⟩

/-- A batch that is written while there is room for it. -/
theorem write_data_of_write (crc_16 : FastCRC) (h : DebugPointCloudHandler) (files : Files)
    (hplace : h.place = .write) (hroom : h.file_size < max_file_size) (time : String) :
    ∃ t, (h.write_data crc_16 files true (some time)).1 = t ∧ t.place = .loop_test ∧
      t.enable = h.enable ∧ t.data.taken = h.data.taken ++ h.data.batch ∧
      t.data.posted = h.data.posted ∧
      t.file_size ≤ h.file_size + file_header_size + h.data.batch.length := by
  refine ⟨_, rfl, ?_⟩
  simp only [DebugPointCloudHandler.write_data, hplace]
  split
  case isTrue hempty =>
    have hbatch := List.isEmpty_iff.mp hempty
    refine ⟨rfl, rfl, by rw [hbatch, List.append_nil], rfl, ?_⟩
    dsimp only
    omega
  case isFalse hsome =>
    obtain ⟨file, hopen, hsize⟩ := h.open_file_some crc_16 files time
    rw [if_neg (by omega), hopen]
    refine ⟨rfl, rfl, rfl, rfl, ?_⟩
    dsimp only
    omega

/-- From the wait on, all that has been stored is written in two steps. -/
theorem Recorded.flush_from_wait (hrecorded : h.Recorded crc_16) (henable : h.enable = true)
    (hplace : h.place = .wait) (hroom : h.file_size < max_file_size) (files : Files) (time : String) :
    (h.write_on crc_16 time files 2).1.data.taken = h.data.posted := by
  have hbatch := hrecorded.between (.inr hplace)
  have hswap : h.write_data crc_16 files true (some time) =
      ({ h with data := h.data.swap, place := .write }, files) := by
    simp [DebugPointCloudHandler.write_data, hplace, henable]
  obtain ⟨t, hwrite, -, -, htaken, -, -⟩ :=
    write_data_of_write crc_16 { h with data := h.data.swap, place := .write } files rfl hroom time
  rw [write_on_succ, write_on_succ, hswap, write_on, Function.iterate_zero, id, hwrite]
  have hposted := hrecorded.conserves.posted_eq
  rw [hbatch, List.append_nil] at hposted
  exact htaken.trans hposted.symm

theorem Recorded.flush_from_loop_test (hrecorded : h.Recorded crc_16) (henable : h.enable = true)
    (hplace : h.place = .loop_test) (hroom : h.file_size < max_file_size) (files : Files)
    (time : String) : (h.write_on crc_16 time files 3).1.data.taken = h.data.posted := by
  have htest : h.write_data crc_16 files true (some time) = ({ h with place := .wait }, files) := by
    simp [DebugPointCloudHandler.write_data, hplace, henable]
  obtain ⟨hwaiting, -⟩ := hrecorded.write_data files true (some time)
  rw [htest] at hwaiting
  rw [write_on_succ, htest]
  exact hwaiting.flush_from_wait henable rfl hroom files time

theorem Recorded.flushes (hrecorded : h.Recorded crc_16) (files : Files) : h.Flushes crc_16 files := by
  intro henable hplace hroom time
  cases hat : h.place with
  | loop_test =>
    exact ⟨3, by omega, hrecorded.flush_from_loop_test henable hat (by omega) files time⟩
  | wait => exact ⟨2, by omega, hrecorded.flush_from_wait henable hat (by omega) files time⟩
  | write =>
    obtain ⟨t, hwrite, htest, hstill, -, hposted, hsize⟩ :=
      h.write_data_of_write crc_16 files hat (by omega) time
    obtain ⟨hwritten, -⟩ := hrecorded.write_data files true (some time)
    rw [hwrite] at hwritten
    refine ⟨4, by omega, ?_⟩
    rw [write_on_succ, hwrite,
      hwritten.flush_from_loop_test (hstill.trans henable) htest (by omega), hposted]
  | ended => exact absurd hat hplace

end Flush

end DebugPointCloudHandler

end livox_lidar
