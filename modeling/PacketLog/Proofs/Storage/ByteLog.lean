import Mathlib
import PacketLog.Proofs.Storage.Streaming
import PacketLog.Proofs.Storage.Unlinking

/-! # The log as a byte sequence

Seen through its operations a log is one byte sequence, whatever tree its file lies in and however
many handles there are on it: `SharedLog.view?` is the sequence, and `SharedLog.LogStep` says what
each operation answers and makes of it. Opening a file to append to it, opening it to read and
removing it go different ways through a tree with symbolic links, but every call is a step of this
kind (`SharedLog.perform_step`), and so is every call of a row of calls
(`SharedLog.calls_refine_byte_sequence`).
-/

namespace PacketLog

/-- A tree of directories, files and symbolic links, without devices. -/
def FileTree.Plain (tree : FileTree) : Prop :=
  ∀ location device, tree.get? location ≠ some (.device device)

private theorem FileTree.plain_of_entries {tree : FileTree}
    (entries : ∀ entry ∈ tree.entries, ∀ device, entry.2 ≠ .device device) : tree.Plain := by
  intro location device found
  cases location with
  | nil => exact nomatch found
  | cons name dir =>
      obtain ⟨front, back, split, _⟩ := List.lookup_eq_some_iff.mp found
      exact entries (name :: dir, .device device) (by rw [split]; simp) device rfl

/-- A call of one of the operations on a log. -/
inductive LogCall
  | append (data : Bytes)
  | appendAsync (data : Bytes)
  | snapshot
  | snapshotAsync
  | readAll (sink : Sink)
  | remove

/-- What a call comes back with. -/
inductive LogReply
  | appended (run : Run Unit)
  | appendedAsync (result : Except LogError Unit)
  | snapshotTaken (result : Except LogError Bytes)
  | streamed (run : Run Nat) (sink : Sink)
  | removed (result : Except LogError Bool)

namespace SharedLog

/-- Makes a call. -/
def perform (log : SharedLog) (s : Storage) : LogCall → LogReply × Storage
  | .append data => let (run, next) := log.append data s; (.appended run, next)
  | .appendAsync data => let (result, next) := log.appendAsync data s; (.appendedAsync result, next)
  | .snapshot => (.snapshotTaken (log.snapshot s), s)
  | .snapshotAsync => (.snapshotTaken (log.snapshotAsync s), s)
  | .readAll sink => let (run, sink) := log.readAll s sink; (.streamed run sink, s)
  | .remove => let (result, next) := log.remove s; (.removed result, next)

/-- Makes calls one after another, each on a handle of its own. -/
def performAll (s : Storage) : List (SharedLog × LogCall) → List LogReply × Storage
  | [] => ([], s)
  | (log, call) :: later =>
      let (reply, next) := log.perform s call
      let (replies, last) := performAll next later
      (reply :: replies, last)

/-- The byte sequence that a log is: the contents of the regular file that its path leads to, no
byte where nothing is found, and nothing at all where the path leads to something else. -/
def view? (log : SharedLog) (s : Storage) : Option Bytes :=
  match Storage.onPath log.path (s.tree.lookupExisting s.cwd log.path) with
  | .ok (_, .file contents) => some contents
  | .ok _ => none
  | .error e => if e.kind = .notFound then some [] else none

/-- What a call may come back with, and what becomes of the tree and the byte sequence. -/
inductive LogStep (log : SharedLog) (s next : Storage) : LogCall → LogReply → Prop
  /-- The data is added at the end, in a regular file that is created if need be. -/
  | appended {data old : Bytes} (shown : log.view? s = some old)
      (shows : log.view? next = some (old ++ data)) (stores : log.Stores s next (old ++ data)) :
      LogStep log s next (.append data) (.appended (.answered (.ok ())))
  /-- A path that leads to no regular file may fail to be opened, which changes nothing. -/
  | notOpened {data : Bytes} {e : IoError} (noFile : s.fileAt? log.path = none) (same : next = s) :
      LogStep log s next (.append data) (.appended (.answered (.error (.open log.path e))))
  /-- A write that is not treated kindly may fail or die, after a part of the data was added. -/
  | brokenOff {data old taken left : Bytes} {run : Run Unit} (planned : s.plan ≠ [])
      (shown : log.view? s = some old) (split : data = taken ++ left)
      (shows : log.view? next = some (old ++ taken)) (stores : log.Stores s next (old ++ taken))
      (told : run = .crashed ∨ ∃ e, run = .answered (.error (.write log.path e))) :
      LogStep log s next (.append data) (.appended run)
  /-- In the background an append does the same, and reports its death as a failure. -/
  | appendedAsync {data : Bytes} {run : Run Unit} (sync : log.append data s = (run, next))
      (step : LogStep log s next (.append data) (.appended run)) :
      LogStep log s next (.appendAsync data) (.appendedAsync (log.inBackground run))
  /-- A snapshot is the byte sequence. -/
  | snapshot {contents : Bytes} (shown : log.view? s = some contents) (same : next = s) :
      LogStep log s next .snapshot (.snapshotTaken (.ok contents))
  /-- Where there is no byte sequence a snapshot fails. -/
  | noSnapshot {e : IoError} {error : LogError} (hidden : log.view? s = none) (same : next = s)
      (told : error = .open log.path e ∨ error = .read log.path e) :
      LogStep log s next .snapshot (.snapshotTaken (.error error))
  /-- In the background a snapshot is the same. -/
  | snapshotAsync {result : Except LogError Bytes} (sync : log.snapshot s = result)
      (step : LogStep log s next .snapshot (.snapshotTaken result)) :
      LogStep log s next .snapshotAsync (.snapshotTaken result)
  /-- The byte sequence is streamed, after whatever the sink has received before. -/
  | streamed {sink after : Sink} {contents : Bytes} (shown : log.view? s = some contents)
      (same : next = s) (whole : after.received = sink.received ++ contents) :
      LogStep log s next (.readAll sink) (.streamed (.answered (.ok contents.length)) after)
  /-- A sink that does not accept everything has received a part of the byte sequence. -/
  | cutOff {sink after : Sink} {contents taken left : Bytes} {run : Run Nat}
      (planned : sink.plan ≠ []) (shown : log.view? s = some contents) (same : next = s)
      (split : contents = taken ++ left) (unfinished : left ≠ [])
      (part : after.received = sink.received ++ taken)
      (told : run = .crashed ∨ ∃ e, run = .answered (.error (.read log.path e))) :
      LogStep log s next (.readAll sink) (.streamed run after)
  /-- Where there is no byte sequence nothing is streamed. -/
  | notStreamed {sink : Sink} {e : IoError} {error : LogError} (hidden : log.view? s = none)
      (same : next = s) (told : error = .open log.path e ∨ error = .read log.path e) :
      LogStep log s next (.readAll sink) (.streamed (.answered (.error error)) sink)
  /-- The entry that the path names is taken away and no other, and nothing is left to read. -/
  | removed {location : Location} {entry : Entry}
      (named : s.tree.entryNamed? s.cwd log.path = some (location, entry))
      (gone : next.tree.get? location = none)
      (others : ∀ other, other ≠ location → next.tree.get? other = s.tree.get? other)
      (plan : next.plan = s.plan) (shows : log.view? next = some []) :
      LogStep log s next .remove (.removed (.ok true))
  /-- There was no entry to take away, and nothing to read. -/
  | absent (unnamed : s.tree.entryNamed? s.cwd log.path = none) (shown : log.view? s = some [])
      (same : next = s) : LogStep log s next .remove (.removed (.ok false))
  /-- What cannot be removed stays. -/
  | notRemoved {e : IoError} (same : next = s) :
      LogStep log s next .remove (.removed (.error (.remove log.path e)))

/-- A row of calls on handles on one path, with what they come back with. -/
inductive LogRun (path : Path) :
    Storage → List (SharedLog × LogCall) → List LogReply → Storage → Prop
  | done {s : Storage} : LogRun path s [] [] s
  | step {s next last : Storage} {log : SharedLog} {call : LogCall} {reply : LogReply}
      {calls : List (SharedLog × LogCall)} {replies : List LogReply} (own : log.path = path)
      (first : LogStep log s next call reply)
      (rest : LogRun path next calls replies last) :
      LogRun path s ((log, call) :: calls) (reply :: replies) last

variable {log : SharedLog} {s next : Storage}

/-- A log looks like the bytes it holds. -/
theorem view?_eq_some_iff {contents : Bytes} :
    log.view? s = some contents ↔ log.Holds s contents := by
  rw [view?, Holds]
  cases Storage.onPath log.path (s.tree.lookupExisting s.cwd log.path) with
  | error e => by_cases missing : e.kind = .notFound <;> simp [missing, eq_comm]
  | ok found =>
      obtain ⟨location, entry⟩ := found
      cases entry <;> simp

private theorem view?_of_fileAt? {contents : Bytes} (found : s.fileAt? log.path = some contents) :
    log.view? s = some contents := by
  obtain ⟨noZero, location, kept⟩ := Storage.keeps_of_fileAt? found
  rw [view?, Storage.onPath_eq_ok_iff.mpr ⟨noZero, kept⟩]

/-! ## Where there is no byte sequence -/

/-- What can be opened for appending shows a byte sequence. -/
theorem view?_isSome_of_created {tree : FileTree} {location : Location} {entry : Entry}
    (plain : s.tree.Plain) (noZero : log.path.contains 0 = false)
    (made : s.tree.lookupOrCreate s.cwd log.path = .ok (tree, location, entry)) :
    (log.view? s).isSome := by
  obtain ⟨_, _, before⟩ := FileTree.lookupOrCreate_ok made
  rw [view?, Storage.onPath, if_neg (by simpa using noZero)]
  cases existing : s.tree.lookupExisting s.cwd log.path with
  | error e =>
      rw [existing] at before
      rw [before.1]
      rfl
  | ok found =>
      rw [existing] at before
      obtain ⟨rfl, noDirectory⟩ := before
      obtain directory | ⟨stored, noLink⟩ := FileTree.entry_of_lookupExisting existing
      · exact absurd directory noDirectory
      · cases entry with
        | file contents => rfl
        | directory => exact absurd rfl noDirectory
        | link target => exact absurd rfl (noLink target)
        | device device => exact absurd stored (plain location device)

private theorem append_of_hidden (plain : s.tree.Plain) (hidden : log.view? s = none)
    (data : Bytes) :
    ∃ e, log.append data s = (.answered (.error (.open log.path e)), s) := by
  rw [append]
  cases made : Storage.onPath log.path (s.tree.lookupOrCreate s.cwd log.path) with
  | error e => exact ⟨e, rfl⟩
  | ok found =>
      obtain ⟨tree, location, entry⟩ := found
      obtain ⟨noZero, made⟩ := Storage.onPath_eq_ok_iff.mp made
      have shown := view?_isSome_of_created plain noZero made
      rw [hidden] at shown
      cases shown

private theorem contents_of_hidden (plain : s.tree.Plain) (hidden : log.view? s = none) :
    ∃ e error, log.contents s = .error error ∧
      (error = .open log.path e ∨ error = .read log.path e) := by
  rw [view?] at hidden
  rw [contents]
  cases found : Storage.onPath log.path (s.tree.lookupExisting s.cwd log.path) with
  | error e =>
      rw [found] at hidden
      have other : e.kind ≠ .notFound := by simpa using hidden
      exact ⟨e, .open log.path e, if_neg other, .inl rfl⟩
  | ok existing =>
      obtain ⟨location, entry⟩ := existing
      rw [found] at hidden
      obtain ⟨_, found⟩ := Storage.onPath_eq_ok_iff.mp found
      obtain rfl | ⟨stored, noLink⟩ := FileTree.entry_of_lookupExisting found
      · exact ⟨_, _, rfl, .inr rfl⟩
      · cases entry with
        | directory => exact ⟨_, _, rfl, .inr rfl⟩
        | file contents => cases hidden
        | link target => exact absurd rfl (noLink target)
        | device device => exact absurd stored (plain location device)

private theorem snapshot_of_hidden (plain : s.tree.Plain) (hidden : log.view? s = none) :
    ∃ e error, log.snapshot s = .error error ∧
      (error = .open log.path e ∨ error = .read log.path e) := by
  obtain ⟨e, error, failed, told⟩ := contents_of_hidden plain hidden
  exact ⟨e, error, by rw [snapshot, readAll, failed], told⟩

/-! ## One call -/

private theorem append_step (calm : s.Undisturbed) (plain : s.tree.Plain) (data : Bytes) :
    LogStep log s (log.append data s).2 (.append data) (.appended (log.append data s).1) := by
  cases shown : log.view? s with
  | none =>
      obtain ⟨e, failed⟩ := append_of_hidden plain shown data
      rw [failed]
      refine .notOpened (Option.eq_none_iff_forall_ne_some.mpr fun contents found => ?_) rfl
      exact nomatch shown.symm.trans (view?_of_fileAt? found)
  | some old =>
      have outcome := (view?_eq_some_iff.mp shown).appends calm data
      generalize log.append data s = appended at outcome
      cases outcome with
      | whole stores => exact .appended shown (view?_eq_some_iff.mpr stores.holds) stores
      | notOpened noFile => exact .notOpened noFile rfl
      | brokenOff planned split _ stores =>
          exact .brokenOff planned shown split (view?_eq_some_iff.mpr stores.holds) stores
            (.inr ⟨_, rfl⟩)
      | crashed planned stores =>
          exact .brokenOff planned shown (List.append_nil data).symm
            (view?_eq_some_iff.mpr stores.holds) stores (.inl rfl)

private theorem snapshot_step (plain : s.tree.Plain) :
    LogStep log s s .snapshot (.snapshotTaken (log.snapshot s)) := by
  cases shown : log.view? s with
  | none =>
      obtain ⟨e, error, failed, told⟩ := snapshot_of_hidden plain shown
      rw [failed]
      exact .noSnapshot shown rfl told
  | some contents =>
      rw [(view?_eq_some_iff.mp shown).snapshot_eq]
      exact .snapshot shown rfl

private theorem readAll_step (plain : s.tree.Plain) (sink : Sink) :
    LogStep log s s (.readAll sink) (.streamed (log.readAll s sink).1 (log.readAll s sink).2) := by
  rw [readAll]
  cases shown : log.view? s with
  | none =>
      obtain ⟨e, error, failed, told⟩ := contents_of_hidden plain shown
      rw [failed]
      exact .notStreamed shown rfl told
  | some contents =>
      rw [(view?_eq_some_iff.mp shown).contents_eq]
      obtain ⟨taken, left, accepts⟩ := sink.stream_accepts contents
      have unplanned : sink.plan = [] → (sink.stream contents).1 = .complete := by
        intro none
        rw [Sink.stream, dif_pos (.inl none)]
      dsimp only
      generalize sink.stream contents = handed at accepts unplanned
      obtain ⟨ending, after⟩ := handed
      have planned : ending ≠ .complete → sink.plan ≠ [] :=
        fun other none => other (unplanned none)
      have unfinished : ending ≠ .complete → left ≠ [] :=
        fun other none => other (accepts.complete_iff.mpr none)
      cases ending with
      | complete =>
          have whole : left = [] := accepts.complete_iff.mp rfl
          have all : contents = taken := by rw [accepts.split, whole, List.append_nil]
          refine .streamed shown rfl ?_
          rw [all]
          exact accepts.received_eq
      | failed e =>
          exact .cutOff (planned (by simp)) shown rfl accepts.split (unfinished (by simp))
            accepts.received_eq (.inr ⟨e, rfl⟩)
      | crashed =>
          exact .cutOff (planned (by simp)) shown rfl accepts.split (unfinished (by simp))
            accepts.received_eq (.inl rfl)

/-- A log that is absent looks like an empty one. -/
theorem Absent.view?_eq (absent : log.Absent s) : log.view? s = some [] := by
  rw [view?, Storage.onPath, if_neg (by simpa using absent.noZero), absent.nowhere]
  rfl

private theorem remove_step : LogStep log s (log.remove s).2 .remove
    (.removed (log.remove s).1) := by
  have outcome : log.Removes s (log.remove s) := removes
  generalize log.remove s = removed at outcome
  cases outcome with
  | unlinked named taken others plan absent =>
      exact .removed named taken others plan absent.view?_eq
  | absent absent => exact .absent absent.unnamed absent.view?_eq rfl
  | failed => exact .notRemoved rfl

private theorem Stores.plain {contents : Bytes} (stores : log.Stores s next contents)
    (plain : s.tree.Plain) : next.tree.Plain := by
  obtain ⟨place, fills⟩ := stores.fills
  intro location device found
  by_cases here : location = place
  · rw [here, (FileTree.get?_of_lookupExisting fills.kept).2] at found
    exact nomatch found
  · rw [fills.others location here] at found
    exact plain location device found

/-- No call makes a device, or plans for a write. -/
theorem LogStep.keeps {call : LogCall} {reply : LogReply} (step : LogStep log s next call reply)
    (plain : s.tree.Plain) : next.tree.Plain ∧ next.plan <:+ s.plan := by
  induction step with
  | appended _ _ stores => exact ⟨stores.plain plain, stores.plan⟩
  | brokenOff _ _ _ _ stores _ => exact ⟨stores.plain plain, stores.plan⟩
  | appendedAsync _ _ ih => exact ih
  | snapshotAsync _ _ ih => exact ih
  | @removed place entry _ gone others plan _ =>
      refine ⟨fun location device found => ?_, plan ▸ List.suffix_refl _⟩
      by_cases here : location = place
      · rw [here, gone] at found
        exact nomatch found
      · rw [others location here] at found
        exact plain location device found
  | notOpened _ same | snapshot _ same | noSnapshot _ same _ | streamed _ same _
  | cutOff _ _ same _ _ _ _ | notStreamed _ same _ | absent _ _ same | notRemoved same =>
      rw [same]
      exact ⟨plain, List.suffix_refl _⟩

/-- **One call.** Whatever it comes back with, it is a step of the byte sequence. -/
theorem perform_step (calm : s.Undisturbed) (plain : s.tree.Plain) (call : LogCall) :
    LogStep log s (log.perform s call).2 call (log.perform s call).1 := by
  cases call with
  | append data => exact append_step calm plain data
  | appendAsync data => exact .appendedAsync rfl (append_step calm plain data)
  | snapshot => exact snapshot_step plain
  | snapshotAsync =>
      rw [perform, snapshotAsync_eq]
      exact .snapshotAsync rfl (snapshot_step plain)
  | readAll sink => exact readAll_step plain sink
  | remove => exact remove_step

/-! ## Calls one after another -/

/-- **The log is one byte sequence.** In a tree of directories, files and symbolic links that nobody
else changes, any calls on handles on one path are steps of the byte sequence that this path shows,
one after another. -/
theorem calls_refine_byte_sequence {path : Path} (calm : s.Undisturbed) (plain : s.tree.Plain)
    {calls : List (SharedLog × LogCall)} (shared : ∀ call ∈ calls, call.1.path = path) :
    LogRun path s calls (performAll s calls).1 (performAll s calls).2 := by
  induction calls generalizing s with
  | nil => exact .done
  | cons first later ih =>
      obtain ⟨log, call⟩ := first
      have step : LogStep log s (log.perform s call).2 call (log.perform s call).1 :=
        perform_step calm plain call
      obtain ⟨plainNext, plan⟩ := step.keeps plain
      have rest := ih (calm.of_plan_suffix plan) plainNext
        fun call member => shared call (List.mem_cons_of_mem _ member)
      exact .step (shared _ List.mem_cons_self) step rest

/-- A log behind a dangling link `l` to `d/x`, in all its calls: the file appears where the link
points to, and outlives the link. -/
theorem log_behind_a_dangling_link :
    let s : Storage := .ofTree ⟨[([[100]], .directory), ([[108]], .link [100, 47, 120])]⟩ []
    let log : SharedLog := ⟨[108]⟩
    let calls : List (SharedLog × LogCall) :=
      [(log, .append [97, 10]), (log, .appendAsync []), (log, .readAll ⟨[.upTo 1, .crash], [33]⟩),
        (log, .snapshotAsync), (log, .remove), (log, .snapshot), (log, .remove)]
    let replies : List LogReply :=
      [.appended (.answered (.ok ())), .appendedAsync (.ok ()), .streamed .crashed ⟨[], [33, 97]⟩,
        .snapshotTaken (.ok [97, 10]), .removed (.ok true), .snapshotTaken (.ok []),
        .removed (.ok false)]
    ∃ last, LogRun [108] s calls replies last ∧
      last.tree.get? [[120], [100]] = some (.file [97, 10]) := by
  intro s log calls replies
  have calm : s.Undisturbed := fun _ member => absurd member List.not_mem_nil
  have plain : s.tree.Plain := FileTree.plain_of_entries (by simp [s, Storage.ofTree])
  have run : LogRun [108] s calls (performAll s calls).1 (performAll s calls).2 :=
    calls_refine_byte_sequence calm plain (by decide)
  have answers : (performAll s calls).1 = replies := by cbv
  rw [answers] at run
  exact ⟨_, run, by cbv⟩

end SharedLog

end PacketLog
