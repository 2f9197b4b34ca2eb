import Livox.Sdk.LoggerHandler

open checked execution

namespace livox_lidar

/-- The bytes of a file are those of messages for it, in the order in which they were taken and
with strictly increasing indices. -/
structure LogFile.HoldsBlocks (file : LogFile) (taken blocks : List WriteBuffer) : Prop where
  sublist : blocks.Sublist taken
  mine : ∀ block ∈ blocks, block.log_type = file.log_type ∧ block.file_index = file.file_index
  increasing : blocks.Pairwise fun earlier later => earlier.trans_index < later.trans_index
  bytes : file.bytes = blocks.flatMap WriteBuffer.data

def LogFile.InOrder (file : LogFile) (taken : List WriteBuffer) : Prop :=
  ∃ blocks, file.HoldsBlocks taken blocks

theorem LogFile.InOrder.mono {file : LogFile} {taken more : List WriteBuffer}
    (h : file.InOrder taken) (hmore : taken.Sublist more) : file.InOrder more := by
  obtain ⟨blocks, hblocks⟩ := h
  exact ⟨blocks, hblocks.sublist.trans hmore, hblocks.mine, hblocks.increasing, hblocks.bytes⟩

/-- The open file of a log type is in order, and its last block has the index that the next message
is compared with. -/
structure CurrentFileInfo.Follows (info : CurrentFileInfo) (log_type : UInt8)
    (taken : List WriteBuffer) (file : LogFile) : Prop where
  log_type : file.log_type = log_type
  file_index : file.file_index = info.file_index
  blocks : ∃ blocks last, file.HoldsBlocks taken (blocks ++ [last]) ∧
    last.trans_index = info.trans_index

namespace LoggerHandler

/-- Every file that has been closed is in order, and every open one is and can be continued. -/
structure Ordered (s : LoggerHandler) : Prop where
  fifo : s.received = s.taken ++ s.writing ++ s.queue
  closed : ∀ file ∈ s.closed, file.InOrder s.taken
  opened : ∀ log_type, ∀ file ∈ (s.current_files log_type).fp,
    (s.current_files log_type).Follows log_type s.taken file

/-- A transfer for the open file does not have the index of the last block that was written to it. -/
def Fresh (s : LoggerHandler) : LoggerEvent → Prop
  | .write _ => ∀ write_buff ∈ s.writing.head?, write_buff.flag = .kTransferData →
      (s.current_files write_buff.log_type).fp ≠ none →
      write_buff.file_index = (s.current_files write_buff.log_type).file_index →
      write_buff.trans_index ≠ (s.current_files write_buff.log_type).trans_index
  | _ => True

end LoggerHandler

/-- The first block of a file. -/
theorem follows_first {write_buff : WriteBuffer} {taken : List WriteBuffer} {info : CurrentFileInfo}
    {file : LogFile} (hindex : info.file_index = write_buff.file_index)
    (htrans : info.trans_index = write_buff.trans_index)
    (hfile : file.log_type = write_buff.log_type ∧ file.file_index = write_buff.file_index ∧
      file.bytes = write_buff.data) :
    info.Follows write_buff.log_type (taken ++ [write_buff]) file where
  log_type := hfile.1
  file_index := hfile.2.1.trans hindex.symm
  blocks := by
    refine ⟨[], write_buff, ⟨List.sublist_append_right _ _, ?_, by simp, by simp [hfile.2.2]⟩,
      htrans.symm⟩
    simp [hfile.1, hfile.2.1]

/-- A block with a larger index continues a file. -/
theorem CurrentFileInfo.Follows.append {write_buff : WriteBuffer} {taken : List WriteBuffer}
    {info next : CurrentFileInfo} {file : LogFile}
    (h : info.Follows write_buff.log_type taken file)
    (hindex : info.file_index = write_buff.file_index)
    (hlt : info.trans_index < write_buff.trans_index)
    (hnext : next.file_index = info.file_index ∧ next.trans_index = write_buff.trans_index) :
    next.Follows write_buff.log_type (taken ++ [write_buff])
      { file with bytes := file.bytes ++ write_buff.data } := by
  obtain ⟨hlog, hfile, blocks, last, hblocks, hlast⟩ := h
  refine ⟨hlog, hfile.trans hnext.1.symm, blocks ++ [last], write_buff, ?_, hnext.2.symm⟩
  refine ⟨hblocks.sublist.append (List.Sublist.refl _), ?_, ?_, ?_⟩
  · exact List.forall_mem_append.2 ⟨hblocks.mine, by simp [hlog, hfile, hindex]⟩
  · rw [List.pairwise_append]
    refine ⟨hblocks.increasing, List.pairwise_singleton _ _, ?_⟩
    intro earlier hearlier later hlater
    obtain rfl := List.mem_singleton.1 hlater
    -- the last block has the largest of the indices
    have hle : earlier.trans_index ≤ last.trans_index := by
      rcases List.mem_append.1 hearlier with hbefore | hsame
      · exact UInt32.le_of_lt ((List.pairwise_append.1 hblocks.increasing).2.2 _ hbefore _ (by simp))
      · obtain rfl := List.mem_singleton.1 hsame
        exact UInt32.le_refl _
    rw [hlast] at hle
    exact UInt32.lt_of_le_of_lt hle hlt
  · simp [hblocks.bytes]

theorem CurrentFileInfo.Follows.inOrder {info : CurrentFileInfo} {log_type : UInt8}
    {taken : List WriteBuffer} {file : LogFile} (h : info.Follows log_type taken file) :
    file.InOrder taken := by
  obtain ⟨blocks, last, hblocks, _⟩ := h.blocks
  exact ⟨_, hblocks⟩

theorem CurrentFileInfo.Follows.mono {info : CurrentFileInfo} {log_type : UInt8}
    {taken more : List WriteBuffer} {file : LogFile} (h : info.Follows log_type taken file)
    (hmore : taken.Sublist more) : info.Follows log_type more file where
  log_type := h.log_type
  file_index := h.file_index
  blocks := by
    obtain ⟨blocks, last, hblocks, hlast⟩ := h.blocks
    exact ⟨blocks, last,
      ⟨hblocks.sublist.trans hmore, hblocks.mine, hblocks.increasing, hblocks.bytes⟩, hlast⟩

namespace LoggerHandler

variable {s : LoggerHandler} {write_buff : WriteBuffer} {rest : List WriteBuffer}

/-- The state in which the loop works on a message. -/
theorem Ordered.take (h : s.Ordered) (hwriting : s.writing = write_buff :: rest) :
    { s with writing := rest, taken := s.taken ++ [write_buff] }.Ordered where
  fifo := by simp [h.fifo, hwriting]
  closed := fun file hfile => (h.closed file hfile).mono (List.sublist_append_left _ _)
  opened := fun log_type file hfile =>
    (h.opened log_type file hfile).mono (List.sublist_append_left _ _)

theorem Ordered.set_current (h : s.Ordered) {log_type : UInt8} {info : CurrentFileInfo}
    (hinfo : ∀ file ∈ info.fp, info.Follows log_type s.taken file) :
    (s.set_current log_type info).Ordered where
  fifo := h.fifo
  closed := h.closed
  opened := by
    intro other file hfile
    rw [set_current_current_files] at hfile ⊢
    split at hfile
    · rename_i heq
      subst heq
      rw [if_pos rfl]
      exact hinfo file hfile
    · rename_i hne
      rw [if_neg hne]
      exact h.opened other file hfile

theorem Ordered.close (h : s.Ordered) (log_type : UInt8) : (s.close log_type).Ordered := by
  have hclosed : ∀ file ∈ s.closed ++ (s.current_files log_type).fp.toList,
      file.InOrder s.taken := by
    intro file hfile
    rcases List.mem_append.1 hfile with hbefore | hopen
    · exact h.closed file hbefore
    · exact (h.opened log_type file (Option.mem_toList.1 hopen)).inOrder
  have hmore : { s with closed := s.closed ++ (s.current_files log_type).fp.toList }.Ordered :=
    ⟨h.fifo, hclosed, h.opened⟩
  exact hmore.set_current (by simp)

theorem Ordered.create_file (h : s.Ordered) {taken : List WriteBuffer}
    (htaken : s.taken = taken ++ [write_buff]) (file_system : FileSystem) :
    (s.create_file write_buff file_system).Ordered := by
  unfold LoggerHandler.create_file
  split
  · exact h
  · apply (h.close write_buff.log_type).set_current
    intro file hfile
    change CurrentFileInfo.Follows _ _ s.taken file
    rw [htaken]
    split at hfile
    · obtain rfl := Option.some.inj hfile
      exact follows_first rfl rfl ⟨rfl, rfl, rfl⟩
    · cases hfile

theorem Ordered.stop_file (h : s.Ordered) : (s.stop_file write_buff).Ordered := by
  apply (h.close write_buff.log_type).set_current
  simp [LoggerHandler.close]

/-- A transfer that is not dropped and is fresh continues the open file. -/
theorem Ordered.write_file (h : s.Ordered) (hwriting : s.writing = write_buff :: rest)
    (hlt : (s.current_files write_buff.log_type).fp ≠ none →
      write_buff.file_index = (s.current_files write_buff.log_type).file_index →
      (s.current_files write_buff.log_type).trans_index < write_buff.trans_index) :
    (LoggerHandler.write_file { s with writing := rest, taken := s.taken ++ [write_buff] }
      write_buff).Ordered := by
  unfold LoggerHandler.write_file
  simp only
  split
  · exact h.take hwriting
  · rename_i hindex
    simp only [ne_eq, not_not] at hindex
    apply (h.take hwriting).set_current
    intro file hfile
    obtain ⟨before, hbefore, rfl⟩ := Option.map_eq_some_iff.1 hfile
    have hopen : (s.current_files write_buff.log_type).fp ≠ none := by
      rw [hbefore]
      exact Option.some_ne_none before
    exact (h.opened _ before hbefore).append hindex (hlt hopen hindex.symm) ⟨rfl, rfl⟩

theorem Ordered.step {t : LoggerHandler} (h : s.Ordered) {event : LoggerEvent}
    (hfresh : s.Fresh event) (hstep : s.step event = .ok t) : t.Ordered := by
  cases event with
  | store req =>
    obtain rfl := Except.ok.inj hstep
    exact ⟨by simp [store_log_bag, h.fifo], h.closed, h.opened⟩
  | swap =>
    by_cases hempty : s.writing = []
    · obtain rfl : { s with writing := s.queue, queue := [] } = t := by
        simpa [LoggerHandler.step, hempty] using hstep
      exact ⟨by simp [h.fifo, hempty], h.closed, h.opened⟩
    · obtain rfl : s = t := by simpa [LoggerHandler.step, hempty] using hstep
      exact h
  | write file_system =>
    cases hwriting : s.writing with
    | nil =>
      obtain rfl : s = t := by simpa [LoggerHandler.step, hwriting] using hstep
      exact h
    | cons write_buff rest =>
      obtain rfl : LoggerHandler.write_next
          { s with writing := rest, taken := s.taken ++ [write_buff] } write_buff file_system = t := by
        simpa [LoggerHandler.step, hwriting] using hstep
      have htake := h.take hwriting
      unfold LoggerHandler.write_next
      split
      · exact htake
      · rename_i hkept
        cases hflag : write_buff.flag with
        | kNull => exact htake
        | kCreateFile => exact htake.create_file rfl file_system
        | kEndFile => exact htake.stop_file
        | kTransferData =>
          apply h.write_file hwriting
          intro hopen hindex
          have hne := hfresh write_buff (by simp [hwriting]) hflag hopen hindex
          have hge : ¬ write_buff.trans_index <
              (s.current_files write_buff.log_type).trans_index := by
            intro hlt
            exact hkept ⟨hlt, by simp [hflag]⟩
          exact UInt32.lt_of_le_of_ne (UInt32.not_lt.1 hge) (Ne.symm hne)
  | destory =>
    obtain rfl := Except.ok.inj hstep
    refine ⟨h.fifo, ?_, by simp [LoggerHandler.destory]⟩
    intro file hfile
    rcases List.mem_append.1 hfile with hbefore | hopen
    · exact h.closed file hbefore
    · obtain ⟨log_type, _, hfp⟩ := List.mem_filterMap.1 hopen
      exact (h.opened _ file hfp).inOrder

end LoggerHandler

/-- Of every file of a device, open or closed again, the bytes are those of messages for it with
strictly increasing indices. -/
def LoggerHandler.FilesInOrder (s : LoggerHandler) : Prop :=
  ∀ file, file ∈ s.closed ∨ (∃ log_type, file ∈ (s.current_files log_type).fp) →
    file.InOrder s.received

theorem LoggerHandler.Ordered.filesInOrder {s : LoggerHandler} (h : s.Ordered) : s.FilesInOrder := by
  have htaken : s.taken.Sublist s.received := by
    rw [h.fifo, List.append_assoc]
    exact List.sublist_append_left _ _
  rintro file (hclosed | ⟨log_type, hopen⟩)
  · exact (h.closed file hclosed).mono htaken
  · exact (h.opened log_type file hopen).inOrder.mono htaken

instance (s : LoggerHandler) (event : LoggerEvent) : Decidable (s.Fresh event) :=
  match event with
  | .store _ => isTrue trivial
  | .swap => isTrue trivial
  | .write _ => inferInstanceAs (Decidable (∀ _ ∈ _, _))
  | .destory => isTrue trivial

/-- Whatever messages arrive, and however the file system answers: as long as no transfer for an
open file has the index of the last block written to it, the files are in order. -/
theorem log_files_in_order (log_root_path serial_num : String) (events : List LoggerEvent)
    (hfresh : StepsSatisfy LoggerHandler.step LoggerHandler.Fresh
      (LoggerHandler.new log_root_path serial_num) events) :
    StatesSatisfy LoggerHandler.step LoggerHandler.FilesInOrder
      (LoggerHandler.new log_root_path serial_num) events := by
  have hnew : (LoggerHandler.new log_root_path serial_num).Ordered := by
    refine ⟨rfl, ?_, ?_⟩ <;> simp [LoggerHandler.new, CurrentFileInfo.default]
  have hstep : ∀ (s : LoggerHandler) (event : LoggerEvent) (t : LoggerHandler), s.Ordered →
      s.Fresh event → s.step event = .ok t → t.Ordered :=
    fun s event t h hfresh hone => h.step hfresh hone
  exact (StepsSatisfy.invariant hstep hnew hfresh).mono fun s h => h.filesInOrder

/-- A file is created, and the transfers with these indices are stored and taken. -/
def transfers (indices : List UInt32) : List LoggerEvent :=
  let message (flag : UInt8) (trans_index : UInt32) (data : List UInt8) : LoggerEvent :=
    .store { log_type := 0, file_index := 3, flag, trans_index, data }
  [message 2 0 []] ++ indices.map (fun trans_index => message 0 trans_index [7]) ++ [.swap] ++
    List.replicate (indices.length + 1)
      (.write { current_time := "2024-01-01_00-00-00", directory := true, opened := true })

theorem log_files_in_order_reordered :
    StatesSatisfy LoggerHandler.step LoggerHandler.FilesInOrder (LoggerHandler.new "./" "sn")
      (transfers [1, 3, 2, 4]) :=
  log_files_in_order "./" "sn" (transfers [1, 3, 2, 4]) (by decide +kernel)

theorem repeated_transfer_written_twice :
    ¬ ∀ (log_root_path serial_num : String) (events : List LoggerEvent),
      StatesSatisfy LoggerHandler.step LoggerHandler.FilesInOrder
        (LoggerHandler.new log_root_path serial_num) events := by
  intro h
  have hrun : (exec LoggerHandler.step (LoggerHandler.new "./" "sn") (transfers [1, 1])).toOption.map
      (fun s => ((s.current_files 0).fp.map LogFile.bytes, s.received)) =
      some (some [7, 7],
        [⟨0, .kCreateFile, 3, 0, []⟩, ⟨0, .kTransferData, 3, 1, [7]⟩,
          ⟨0, .kTransferData, 3, 1, [7]⟩]) := by
    decide +kernel
  cases hexec : exec LoggerHandler.step (LoggerHandler.new "./" "sn") (transfers [1, 1]) with
  | error fault => simp [hexec, Except.toOption] at hrun
  | ok t =>
    rw [hexec] at hrun
    obtain ⟨hbytes, hreceived⟩ := Prod.ext_iff.1 (Option.some.inj hrun)
    obtain ⟨file, hopen, hfile⟩ := Option.map_eq_some_iff.1 hbytes
    obtain ⟨blocks, hblocks⟩ := (h _ _ _).last hexec file (.inr ⟨0, hopen⟩)
    have hsub := hblocks.sublist
    rw [show t.received = _ from hreceived, ← List.mem_sublists] at hsub
    have hnone : ∀ blocks ∈ List.sublists [(⟨0, .kCreateFile, 3, 0, []⟩ : WriteBuffer),
        ⟨0, .kTransferData, 3, 1, [7]⟩, ⟨0, .kTransferData, 3, 1, [7]⟩],
        (blocks.Pairwise fun earlier later => earlier.trans_index < later.trans_index) →
          [7, 7] ≠ blocks.flatMap WriteBuffer.data := by
      decide +kernel
    exact hnone blocks hsub hblocks.increasing (hfile.symm.trans hblocks.bytes)

end livox_lidar
