import Livox.Comm.PubHandler.Frame

open checked ordered_map

namespace livox_ros

namespace PubHandler

variable {F : Type}

/-- What a timer check between two frames does to the state and the publisher:
some distinct lidars are drained, and the frame that is published, if any, has
their packets. -/
structure TimerChecked (s t : PubHandler F) (published : Option (List (PublishedPacket F))) : Prop where
  idle : t.frame.lidar_num = 0
  same : s.SameInputs t
  fits : ∀ frame ∈ published, frame.length ≤ kMaxSourceLidar
  cut : ∃ ids, ids.Nodup ∧ s.Drains t ids ∧ published.getD [] = s.cut_packets ids

/-- The same with the lidars that are drained. -/
structure TimerCut (s t : PubHandler F) (ids : List UInt32) : Prop where
  idle : t.frame.lidar_num = 0
  same : s.SameInputs t
  nodup : ids.Nodup
  drains : s.Drains t ids
  fits : (s.cut_packets ids).length ≤ kMaxSourceLidar

theorem TimerCut.timerChecked {s t : PubHandler F} {ids : Option (List UInt32)}
    (h : s.TimerCut t (ids.getD [])) : s.TimerChecked t (ids.map s.cut_packets) where
  idle := h.idle
  same := h.same
  fits := by
    cases ids with
    | none => simp
    | some ids =>
      rintro frame ⟨⟩
      exact h.fits
  cut := by
    refine ⟨ids.getD [], h.nodup, h.drains, ?_⟩
    cases ids <;> rfl

theorem TimerCut.unchanged {s t : PubHandler F} (hidle : t.frame.lidar_num = 0)
    (hsame : s.SameInputs t) (hhandlers : t.lidar_process_handlers = s.lidar_process_handlers) :
    s.TimerCut t [] where
  idle := hidle
  same := hsame
  nodup := List.nodup_nil
  drains := by
    intro id
    simp [hhandlers]
  fits := Nat.zero_le _

/-- Publishing what the frame shows and emptying it ends a cut. -/
theorem publish_and_reset_spec {s t : PubHandler F} {ids : List UInt32} (hnodup : ids.Nodup)
    (hshows : t.Shows (s.cut_packets ids)) (hdrains : s.Drains t ids) (hsame : s.SameInputs t) :
    ∃ u, t.publish_and_reset = .ok (u, some (s.cut_packets ids)) ∧ s.TimerCut u ids := by
  refine ⟨{ t with frame := { t.frame with lidar_num := 0 } }, ?_, ?_⟩
  · simp [publish_and_reset, publish_point_cloud_of_shows hshows]
  · exact ⟨rfl, ⟨hsame.1, hsame.2, hsame.3, hsame.4⟩, hnodup, hdrains, hshows.fits⟩

theorem shows_nil {s : PubHandler F} (hidle : s.frame.lidar_num = 0) : s.Shows [] where
  lidar_num := by simp [hidle]
  fits := Nat.zero_le _
  position := by simp

/-- The condition under which a check of the timer stays inside the frame: the
host clock cuts no frame now, or the frame has room for it. -/
def CutFits (s : PubHandler F) (now_time : Int) : Prop :=
  s.is_timestamp_sync = false → s.is_due now_time = true →
    s.HasRoom 0 s.lidar_process_handlers.keys

end PubHandler

/-- The latest point of a synchronised lidar is in the first millisecond of a multiple of the
publish interval, and its points span an interval less the tolerance. -/
def LidarPubHandler.SyncDue {F : Type} (handler : LidarPubHandler F)
    (publish_interval : PublishInterval) : Prop :=
  handler.get_recent_time_stamp / kRatioOfMsToNs % publish_interval.ms = 0 ∧
    handler.get_recent_time_stamp / kRatioOfMsToNs ≠ 0 ∧
    publish_interval.tolerance ≤ handler.get_recent_time_stamp - handler.get_lidar_base_time

instance {F : Type} (handler : LidarPubHandler F) (publish_interval : PublishInterval) :
    Decidable (handler.SyncDue publish_interval) :=
  inferInstanceAs (Decidable (_ ∧ _))

namespace PubHandler

variable {F : Type}

/-- The lidars of the frame that a check of the timer cuts, if it cuts one. -/
def cut_ids (s : PubHandler F) (id : UInt32) (now_time : Int) : Option (List UInt32) :=
  if s.is_timestamp_sync then
    if ∃ handler ∈ s.lidar_process_handlers[id]?, handler.SyncDue s.publish_interval then some [id]
    else none
  else if s.is_due now_time then some s.lidar_process_handlers.keys
  else none

/-- A synchronised lidar cuts a frame of its own, which always fits. -/
theorem check_timer_sync_spec {s : PubHandler F} {id : UInt32} {handler : LidarPubHandler F}
    (hidle : s.frame.lidar_num = 0) (hhandler : s.lidar_process_handlers[id]? = some handler) :
    ∃ t, s.check_timer_sync id =
        .ok (t, if handler.SyncDue s.publish_interval then some (s.cut_packets [id]) else none) ∧
      s.TimerCut t (if handler.SyncDue s.publish_interval then [id] else []) := by
  have hget : s.process_handler id = .ok handler := by simp [process_handler, hhandler]
  have hstay : s.TimerCut s [] := TimerCut.unchanged hidle (SameInputs.refl s) rfl
  by_cases hdue : handler.SyncDue s.publish_interval
  · obtain ⟨htime, hstamp, hspan⟩ := hdue
    -- a time stamp that is not zero is that of a point
    have hpoints : handler.points_clouds ≠ [] := by
      intro hnil
      apply hstamp
      simp [LidarPubHandler.get_recent_time_stamp, hnil]
    obtain ⟨t, hcollect, hshows, hdrains, hsame⟩ :=
      collect_points_spec hhandler (shows_nil hidle) (Nat.zero_lt_succ 31) (by simp)
    obtain ⟨point, rest, hcons⟩ := List.exists_cons_of_ne_nil hpoints
    have hheld : s.points_held id = point :: rest := by rw [points_held_of_some hhandler, hcons]
    rw [List.nil_append, ← List.append_nil (Option.toList _)] at hshows
    have hshows : t.Shows (s.cut_packets [id]) := by rwa [cut_packets_cons]
    have hnum : t.frame.lidar_num ≠ 0 := by
      intro hzero
      have hlength := hshows.lidar_num
      rw [hzero, cut_packets_cons, hheld] at hlength
      cases hlength
    have hcut : s.check_timer_sync id = t.publish_and_reset := by
      unfold check_timer_sync
      simp only [hget, ok_bind]
      rw [if_neg (by simp [htime, hstamp]), if_neg (by simpa using hspan)]
      simp [hcollect, hheld, hnum]
    rw [if_pos ⟨htime, hstamp, hspan⟩, if_pos ⟨htime, hstamp, hspan⟩, hcut]
    exact publish_and_reset_spec (by simp) hshows hdrains hsame
  · refine ⟨s, ?_, by rwa [if_neg hdue]⟩
    rw [if_neg hdue]
    unfold check_timer_sync
    simp only [hget, ok_bind]
    split_ifs with htime hspan
    · rfl
    · rfl
    · simp only [not_or, not_not] at htime
      exact absurd ⟨htime.1, htime.2, UInt64.not_lt.1 hspan⟩ hdue

theorem check_timer_host_of_due {s : PubHandler F} {now_time : Int}
    (hdue : s.is_due now_time = true) :
    s.check_timer_host now_time =
      s.advance_pub_time.collect_all s.lidar_process_handlers.keys >>= publish_and_reset := by
  have hdue : s.first = false ∧ s.publish_interval.ns.toNat ≤ now_time - s.last_pub_time := by
    simpa [is_due] using hdue
  rw [check_timer_host, if_neg (by simp [hdue.1]), if_neg (by omega)]
  rfl

theorem loopReady_keys {s : PubHandler F} (hidle : s.frame.lidar_num = 0) :
    s.advance_pub_time.LoopReady [] s.lidar_process_handlers.keys where
  known := fun _ hid => Std.TreeMap.mem_keys.mp hid
  nodup := Std.TreeMap.nodup_keys
  shows := shows_nil hidle
  new := by simp

/-- The host clock cuts a frame of all known lidars, which completes when the
frame has room for them. -/
theorem check_timer_host_spec {s : PubHandler F} {now_time : Int} (hidle : s.frame.lidar_num = 0)
    (hroom : s.is_due now_time = true → s.HasRoom 0 s.lidar_process_handlers.keys) :
    ∃ t, s.check_timer_host now_time =
        .ok (t, if s.is_due now_time then some (s.cut_packets s.lidar_process_handlers.keys)
          else none) ∧
      s.TimerCut t (if s.is_due now_time then s.lidar_process_handlers.keys else []) := by
  by_cases hdue : s.is_due now_time = true
  · obtain ⟨t, hcollect, hshows, hdrains, hsame⟩ :=
      collect_all_of_room (loopReady_keys hidle) (hroom hdue)
    rw [check_timer_host_of_due hdue, hcollect, if_pos hdue, if_pos hdue]
    exact publish_and_reset_spec Std.TreeMap.nodup_keys hshows hdrains
      ⟨hsame.1, hsame.2, hsame.3, hsame.4⟩
  · rw [if_neg hdue, if_neg hdue]
    unfold check_timer_host
    split_ifs with hfirst htime
    · exact ⟨_, rfl, TimerCut.unchanged hidle ⟨rfl, rfl, rfl, rfl⟩ rfl⟩
    · exact ⟨s, rfl, TimerCut.unchanged hidle (SameInputs.refl s) rfl⟩
    · exact absurd (by simpa [is_due, hfirst] using htime) hdue

theorem check_timer_host_of_not_room {s : PubHandler F} {now_time : Int}
    (hidle : s.frame.lidar_num = 0) (hdue : s.is_due now_time = true)
    (hroom : ¬ s.HasRoom 0 s.lidar_process_handlers.keys) :
    ∃ fault, s.check_timer_host now_time = .error fault := by
  obtain ⟨fault, hfault⟩ := collect_all_of_not_room (loopReady_keys hidle) hroom
  exact ⟨fault, by rw [check_timer_host_of_due hdue, hfault, error_bind]⟩

/-- A check of the timer that stays inside the frame completes, and publishes the frame that it
cuts. -/
theorem check_timer_cut {s : PubHandler F} {id : UInt32} {now_time : Int}
    (hidle : s.frame.lidar_num = 0) (hid : id ∈ s.lidar_process_handlers)
    (hfits : s.CutFits now_time) :
    ∃ t, s.check_timer id now_time = .ok (t, (s.cut_ids id now_time).map s.cut_packets) ∧
      s.TimerCut t ((s.cut_ids id now_time).getD []) := by
  unfold check_timer cut_ids
  by_cases hsync : s.is_timestamp_sync = true
  · obtain ⟨handler, hhandler⟩ := mem_iff_lookup.mp hid
    obtain ⟨t, hcheck, hcut⟩ := check_timer_sync_spec hidle hhandler
    refine ⟨t, ?_, ?_⟩
    · rw [if_pos hsync, if_pos hsync, hcheck]
      by_cases hdue : handler.SyncDue s.publish_interval <;> simp [hhandler, hdue]
    · rw [if_pos hsync]
      by_cases hdue : handler.SyncDue s.publish_interval <;> simpa [hhandler, hdue] using hcut
  · obtain ⟨t, hcheck, hcut⟩ := check_timer_host_spec hidle (hfits (by simpa using hsync))
    refine ⟨t, ?_, ?_⟩
    · rw [if_neg hsync, if_neg hsync, hcheck]
      by_cases hdue : s.is_due now_time = true <;> simp [hdue]
    · rw [if_neg hsync]
      by_cases hdue : s.is_due now_time = true <;> simpa [hdue] using hcut

theorem check_timer_spec {s : PubHandler F} {id : UInt32} {now_time : Int}
    (hidle : s.frame.lidar_num = 0) (hid : id ∈ s.lidar_process_handlers)
    (hfits : s.CutFits now_time) :
    ∃ t published, s.check_timer id now_time = .ok (t, published) ∧ s.TimerChecked t published := by
  obtain ⟨t, hcheck, hcut⟩ := check_timer_cut hidle hid hfits
  exact ⟨t, _, hcheck, hcut.timerChecked⟩

/-- A check of the timer that does not writes out of bounds. -/
theorem check_timer_of_not_fits {s : PubHandler F} {id : UInt32} {now_time : Int}
    (hidle : s.frame.lidar_num = 0) (hfits : ¬ s.CutFits now_time) :
    ∃ fault, s.check_timer id now_time = .error fault := by
  simp only [CutFits, Classical.not_imp] at hfits
  obtain ⟨hsync, hdue, hroom⟩ := hfits
  rw [check_timer, hsync]
  exact check_timer_host_of_not_room hidle hdue hroom

end PubHandler

end livox_ros
