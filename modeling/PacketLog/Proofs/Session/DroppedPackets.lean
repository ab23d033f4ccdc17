import Mathlib
import PacketLog.Proofs.Session.Conversations

/-! # What dropped packets leave behind

A session drops a packet whose append failed, but a failed append is not undone. A part of the
packet stays in the log when a write breaks off, which can be any part but the whole
(`SharedLog.any_part_can_stay`), and the whole packet stays when the writer dies after it. Every
snapshot that is taken later shows what has stayed (`Conversation.dropped_packets_leave_parts`).
-/

namespace PacketLog

namespace Happening

/-- The part of a packet that its append stores, by what the append comes back with. -/
inductive Leaves (packet : Bytes) : Except LogError Unit → Bytes → Prop
  | whole : Leaves packet (.ok ()) packet
  | notOpened {path : Path} {e : IoError} : Leaves packet (.error (.open path e)) []
  | brokenOff {part left : Bytes} {path : Path} {e : IoError} (split : packet = part ++ left)
      (unfinished : left ≠ []) : Leaves packet (.error (.write path e)) part
  | died {path : Path} : Leaves packet (.error (.blocking path)) packet

/-- The parts that the appends of a past have left in a log after what it held before. Every
snapshot shows those in front of it. -/
inductive Traced (contents : Bytes) : List Happening → List Bytes → Prop
  | nothing : Traced contents [] []
  | appended {past : List Happening} {parts : List Bytes} {packet part : Bytes}
      {result : Except LogError Unit} (earlier : Traced contents past parts)
      (leaves : Leaves packet result part) :
      Traced contents (past ++ [.appended packet result]) (parts ++ [part])
  | snapshotTaken {past : List Happening} {parts : List Bytes}
      (earlier : Traced contents past parts) :
      Traced contents (past ++ [.snapshotTaken (.ok (contents ++ parts.flatten))]) parts
  | elsewhere {past : List Happening} {parts : List Bytes} {happening : Happening}
      (earlier : Traced contents past parts)
      (noAppend : ∀ packet result, happening ≠ .appended packet result)
      (noSnapshot : ∀ result, happening ≠ .snapshotTaken result) :
      Traced contents (past ++ [happening]) parts

end Happening

/-- A write that stores a part of its data, and then finds no space. -/
theorem Storage.Keeps.writeAll_cut {s : Storage} {path : Path} {location : Location}
    {stored : Bytes} (kept : s.Keeps path location stored) (part : Bytes) {left : Bytes}
    (unfinished : left ≠ [])
    (plan : s.plan = [.upTo part.length, .fail (.os Errno.noSpace)]) :
    ∃ e next, s.writeAll location (part ++ left) = (.failed e, next) ∧
      next.Keeps path location (stored ++ part) := by
  have found := (FileTree.get?_of_lookupExisting kept).2
  let waiting : Storage := { s with plan := [.fail (.os Errno.noSpace)] }
  obtain ⟨extended, after⟩ := Keeps.extend (s := waiting) kept part
  have first : s.write location (part ++ left) =
      (.accepted part.length, waiting.extend location part) := by
    rw [Storage.write, if_neg (by simp [found]), plan]
    simp [waiting]
  have some : part ++ left ≠ [] := List.append_ne_nil_of_right_ne_nil _ unfinished
  rw [Storage.writeAll, plan, List.length_cons, List.length_singleton, Storage.writeCalls,
    if_neg some, first]
  generalize waiting.extend location part = next at extended after
  cases part with
  | nil => exact ⟨_, next, rfl, extended.kept⟩
  | cons byte part =>
      have foundNext := (FileTree.get?_of_lookupExisting extended.kept).2
      have second : next.write location left =
          (.failed (.os Errno.noSpace), { next with plan := [] }) := by
        rw [Storage.write, if_neg (by simp [foundNext]), after]
      refine ⟨.os Errno.noSpace, { next with plan := [] }, ?_, extended.kept⟩
      have later : next.writeCalls location ((byte :: part ++ left).drop (part.length + 1)) 2 =
          (.failed (.os Errno.noSpace), { next with plan := [] }) := by
        rw [← List.length_cons, List.drop_left, Storage.writeCalls, if_neg unfinished, second]
        rfl
      exact later

namespace SharedLog

variable {log : SharedLog} {s : Storage} {contents : Bytes}

/-- An append that a session waits for leaves some part of the packet, whether it fails or not. -/
theorem Holds.appendAsync_leaves (holds : log.Holds s contents) (calm : s.Undisturbed)
    (packet : Bytes) :
    ∃ part, Happening.Leaves packet (log.appendAsync packet s).1 part ∧
      log.Holds (log.appendAsync packet s).2 (contents ++ part) ∧
      (log.appendAsync packet s).2.Undisturbed := by
  have outcome := holds.appends calm packet
  rw [appendAsync]
  generalize log.append packet s = appended at outcome
  cases outcome with
  | whole stores => exact ⟨packet, .whole, stores.holds, calm.of_plan_suffix stores.plan⟩
  | notOpened noFile => exact ⟨[], .notOpened, holds.append_nil, calm⟩
  | @brokenOff part left next e planned split unfinished stores =>
      exact ⟨part, .brokenOff split unfinished, stores.holds, calm.of_plan_suffix stores.plan⟩
  | crashed planned stores =>
      exact ⟨packet, .died, stores.holds, calm.of_plan_suffix stores.plan⟩

/-- **A failed append can leave any part of its data but the whole**, in any log that is a regular
file: the write that follows the part finds no space. -/
theorem any_part_can_stay (stored : s.fileAt? log.path = some contents) (part : Bytes)
    {left : Bytes} (unfinished : left ≠ []) :
    ∃ plan e next, log.append (part ++ left) { s with plan } =
        (.answered (.error (.write log.path e)), next) ∧
      log.snapshot next = .ok (contents ++ part) := by
  obtain ⟨noZero, location, kept⟩ := Storage.keeps_of_fileAt? stored
  let full : Storage := { s with plan := [.upTo part.length, .fail (.os Errno.noSpace)] }
  have keptFull : full.Keeps log.path location contents := kept
  obtain ⟨e, next, failed, keptNext⟩ := keptFull.writeAll_cut part unfinished rfl
  have opened : Storage.onPath log.path (full.tree.lookupOrCreate full.cwd log.path) =
      .ok (full.tree, location, .file contents) :=
    Storage.onPath_eq_ok_iff.mpr ⟨noZero, FileTree.lookupOrCreate_of_file kept⟩
  have same : full.withTree full.tree = full := rfl
  refine ⟨full.plan, e, next, ?_, Holds.snapshot_eq ?_⟩
  · change log.append (part ++ left) full = _
    rw [append, opened]
    simp only [same, failed]
  · rw [Holds, Storage.onPath_eq_ok_iff.mpr ⟨noZero, keptNext⟩]

end SharedLog

/-- Whatever happens next, the log comes to hold what is left of it as well. -/
theorem Happening.Touches.traced {happening : Happening} {past : List Happening}
    {parts : List Bytes} {log : SharedLog} {s next : Storage} {contents : Bytes}
    (touches : happening.Touches log s next) (earlier : Traced contents past parts)
    (holds : log.Holds s (contents ++ parts.flatten)) (calm : s.Undisturbed) :
    ∃ parts, Traced contents (past ++ [happening]) parts ∧
      log.Holds next (contents ++ parts.flatten) ∧ next.Undisturbed := by
  cases happening with
  | appended packet result =>
      obtain ⟨part, leaves, now, calmNow⟩ := holds.appendAsync_leaves calm packet
      have same : log.appendAsync packet s = (result, next) := touches
      rw [same] at leaves now calmNow
      refine ⟨parts ++ [part], .appended earlier leaves, ?_, calmNow⟩
      rwa [List.flatten_append, List.flatten_singleton, ← List.append_assoc]
  | snapshotTaken result =>
      obtain ⟨shown, rfl⟩ := touches
      obtain rfl := holds.snapshot_eq.symm.trans shown
      exact ⟨parts, .snapshotTaken earlier, holds, calm⟩
  | _ =>
      obtain rfl : next = s := touches
      exact ⟨parts, .elsewhere earlier (fun _ _ same => nomatch same) (fun _ same => nomatch same),
        holds, calm⟩

/-- **What dropped packets leave.** As long as nothing takes the file away, the log that a session
works on holds, after what it held in the beginning, a part of each packet whose append was tried:
the whole packet if it was appended, but also if the writer died over it, and whatever was written
of it if writing broke off. The snapshots the session has taken show all that was left before, and
so will the next one. -/
theorem Conversation.dropped_packets_leave_parts {c d : Conversation} {past : List Happening}
    {contents : Bytes} (holds : c.log.Holds c.storage contents) (calm : c.storage.Undisturbed)
    (reached : c.Reaches past d) :
    ∃ parts, Happening.Traced contents past parts ∧
      d.log.snapshot d.storage = .ok (contents ++ parts.flatten) := by
  -- The induction needs that the log holds the parts, of which the snapshot is a consequence.
  have traced : ∃ parts, Happening.Traced contents past parts ∧
      c.log.Holds d.storage (contents ++ parts.flatten) ∧ d.storage.Undisturbed := by
    induction reached with
    | refl => exact ⟨[], .nothing, holds.append_nil, calm⟩
    | @step past d next before moved ih =>
        obtain ⟨parts, earlier, now, calmNow⟩ := ih
        have taken := (step?_takes moved).2
        cases happened : d.happening? with
        | none =>
            rw [happened] at taken
            rw [Option.toList_none, List.append_nil, taken.2]
            exact ⟨parts, earlier, now, calmNow⟩
        | some happening =>
            rw [happened, before.log_eq] at taken
            exact taken.2.traced earlier now calmNow
  obtain ⟨parts, traced, now, _⟩ := traced
  rw [reached.log_eq]
  exact ⟨parts, traced, now.snapshot_eq⟩

/-- A peer whose first packet finds the disk full after two bytes. -/
theorem Conversation.snapshot_after_a_full_disk :
    let c : Conversation :=
      { session := .new 8 8 8, peer := ⟨[.data [97, 98, 10], .data [99, 10]], []⟩, log := ⟨[108]⟩,
        storage := ⟨⟨[]⟩, [], [.upTo 2, .fail (.os Errno.noSpace)], []⟩, seen := [] }
    ∃ parts, Happening.Traced [] c.happenings parts ∧
      c.run.log.snapshot c.run.storage = .ok parts.flatten ∧ parts.flatten = [97, 98, 99, 10] := by
  intro c
  have holds : c.log.Holds c.storage [] := by cbv
  have calm : c.storage.Undisturbed := by simp [c, Storage.Undisturbed]
  obtain ⟨parts, traced, shown⟩ := dropped_packets_leave_parts holds calm c.reaches_run.1
  have seen : c.run.log.snapshot c.run.storage = .ok [97, 98, 99, 10] := by cbv
  exact ⟨parts, traced, shown, Except.ok.inj (shown.symm.trans seen)⟩

/-- **A dropped packet reaches a peer**, in part when the disk was full after two bytes of it, and
as a whole when the writer died over it. The reply to the next packet shows what is left. -/
theorem Conversation.dropped_packet_in_reply :
    let c : List WriteTurn → Conversation := fun plan =>
      { session := .new 8 8 8, peer := ⟨[.data [97, 98, 10], .data [99, 10]], []⟩, log := ⟨[108]⟩,
        storage := ⟨⟨[]⟩, [], plan, []⟩, seen := [] }
    (c [.upTo 2, .fail (.os Errno.noSpace)]).happenings =
        [.received [97, 98, 10],
          .appended [97, 98, 10] (.error (.write [108] (.os Errno.noSpace))),
          .received [99, 10], .appended [99, 10] (.ok ()), .snapshotTaken (.ok [97, 98, 99, 10]),
          .sent [97, 98, 99, 10], .received []] ∧
      (c [.wholeThen .crash]).happenings =
        [.received [97, 98, 10], .appended [97, 98, 10] (.error (.blocking [108])),
          .received [99, 10], .appended [99, 10] (.ok ()),
          .snapshotTaken (.ok [97, 98, 10, 99, 10]), .sent [97, 98, 10, 99, 10],
          .received []] := by
  intro c
  exact ⟨by cbv, by cbv⟩

end PacketLog
