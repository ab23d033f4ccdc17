import PacketLog.Storage.SharedLog

/-! # What a sink accepts

However a sink answers its write calls, the bytes it has accepted when a handover ends are a part of
what it was handed, in order and from the beginning, and it lacks something exactly when the
handover did not complete (`Sink.writeAll_accepts`, `Sink.stream_accepts`). -/

namespace PacketLog

namespace Sink

/-- A handover that ends has handed over `taken` and not `left`, and nothing is left just when it
completed. -/
structure Accepts (received data : Bytes) (ended : Handover × Sink) (taken left : Bytes) :
    Prop where
  split : data = taken ++ left
  received_eq : ended.2.received = received ++ taken
  complete_iff : ended.1 = .complete ↔ left = []

private theorem writeAll_accepts (plan : List SinkTurn) (received data : Bytes) :
    ∃ taken left, Accepts received data (writeAll plan received data) taken left := by
  induction plan generalizing received data with
  | nil =>
      refine ⟨data, [], (List.append_nil _).symm, rfl, ?_⟩
      exact ⟨fun _ => rfl, fun _ => rfl⟩
  | cons turn rest ih =>
      rw [writeAll.eq_def]
      dsimp only
      by_cases nothing : data = []
      · rw [if_pos nothing]
        exact ⟨[], [], nothing, (List.append_nil _).symm, fun _ => rfl, fun _ => rfl⟩
      · rw [if_neg nothing]
        -- A call that ends the handover has accepted nothing.
        have stopped : ∀ ended : Handover × Sink, ended.2.received = received →
            ended.1 ≠ .complete → Accepts received data ended [] data := fun ended same other =>
          ⟨rfl, by rw [same, List.append_nil],
            fun complete => absurd complete other, fun empty => absurd empty nothing⟩
        cases turn with
        | upTo limit =>
            cases limit with
            | zero => exact ⟨[], data, stopped _ rfl (fun same => nomatch same)⟩
            | succ limit =>
                obtain ⟨taken, left, split, same, complete⟩ :=
                  ih (received ++ data.take (limit + 1)) (data.drop (limit + 1))
                refine ⟨data.take (limit + 1) ++ taken, left, ?_, ?_, complete⟩
                · rw [List.append_assoc, ← split, List.take_append_drop]
                · exact same.trans (List.append_assoc _ _ _)
        | fail error =>
            by_cases repeated : error.isInterrupted
            · simp only [repeated, ↓reduceIte]
              exact ih received data
            · simp only [repeated, Bool.false_eq_true, ↓reduceIte]
              exact ⟨[], data, stopped _ rfl (fun same => nomatch same)⟩
        | crash => exact ⟨[], data, stopped _ rfl (fun same => nomatch same)⟩

/-- **What a sink has accepted of a byte string** that is handed over chunk by chunk. -/
theorem stream_accepts (sink : Sink) (contents : Bytes) :
    ∃ taken left, Accepts sink.received contents (sink.stream contents) taken left := by
  fun_induction stream sink contents with
  | case1 sink contents =>
      exact ⟨contents, [], (List.append_nil _).symm, rfl, fun _ => rfl, fun _ => rfl⟩
  | case2 sink contents more next wrote ih =>
      obtain ⟨first, unread, chunk⟩ :=
        writeAll_accepts sink.plan sink.received (contents.take chunkSize)
      rw [wrote] at chunk
      have whole : unread = [] := chunk.complete_iff.mp rfl
      have all : contents.take chunkSize = first := by rw [chunk.split, whole, List.append_nil]
      obtain ⟨taken, left, split, same, complete⟩ := ih
      refine ⟨first ++ taken, left, ?_, ?_, complete⟩
      · rw [List.append_assoc, ← split, ← all, List.take_append_drop]
      · rw [same, chunk.received_eq, List.append_assoc]
  | case3 sink contents more ending next incomplete wrote =>
      obtain ⟨first, unread, chunk⟩ :=
        writeAll_accepts sink.plan sink.received (contents.take chunkSize)
      rw [wrote] at chunk
      refine ⟨first, unread ++ contents.drop chunkSize, ?_, chunk.received_eq, ?_⟩
      · rw [← List.append_assoc, ← chunk.split, List.take_append_drop]
      · constructor
        · intro complete
          exact absurd complete incomplete
        · intro nothing
          exact chunk.complete_iff.mpr (List.append_eq_nil_iff.mp nothing).1

end Sink

end PacketLog
