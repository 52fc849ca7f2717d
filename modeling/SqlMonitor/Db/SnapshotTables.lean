import Mathlib.Logic.Function.Basic
import SqlMonitor.Db.Models

set_option autoImplicit false

namespace SqlMonitor

structure SnapshotTables where
  frames : List SnapshotFrame
  sessions : List SessionSnapshot
  requests : List RequestSnapshot
  waits : List WaitSnapshot
  blocking : List BlockingSnapshot
  sqlTexts : String → Option SqlText

namespace SnapshotTables

def empty : SnapshotTables := ⟨[], [], [], [], [], fun _ => none⟩

def emptyFrame (frameId instanceId : Uuid) (time : Timestamp) : SnapshotFrame where
  frame := ⟨frameId, instanceId, time⟩
  collectDurationMs := 0
  status := "success"
  cpuLoadPercent := none
  memoryUsagePercent := none
  networkBytesSentTotal := none
  networkBytesReceivedTotal := none

def BelongsToOne (frames : List SnapshotFrame) (key : FrameKey) : Prop :=
  (frames.filter (·.frame = key)).length = 1

def primaryKey (frame : SnapshotFrame) : Uuid × Timestamp :=
  (frame.frame.frameId, frame.frame.snapshotTime)

structure WellFormed (tables : SnapshotTables) : Prop where
  distinct : (tables.frames.map primaryKey).Nodup
  sessions : ∀ row ∈ tables.sessions, BelongsToOne tables.frames row.frame
  requests : ∀ row ∈ tables.requests, BelongsToOne tables.frames row.frame
  waits : ∀ row ∈ tables.waits, BelongsToOne tables.frames row.frame
  blocking : ∀ row ∈ tables.blocking, BelongsToOne tables.frames row.frame

theorem wellFormed_empty : WellFormed empty := by
  refine ⟨List.nodup_nil, ?_, ?_, ?_, ?_⟩ <;> simp [empty]

def upsertSqlText (texts : String → Option SqlText) (text : SqlText) : String → Option SqlText :=
  Function.update texts text.sqlHash
    (some (match texts text.sqlHash with
      | none => text
      | some stored => { text with firstSeenAt := stored.firstSeenAt }))

section Texts

variable {stored : String → Option SqlText} {batch : List SqlText} {text : SqlText}

theorem upsertSqlText_self (stored : String → Option SqlText) (text : SqlText) :
    upsertSqlText stored text text.sqlHash =
      some { text with
        firstSeenAt := ((stored text.sqlHash).map SqlText.firstSeenAt).getD text.firstSeenAt } := by
  cases held : stored text.sqlHash <;> simp [upsertSqlText, held]

theorem foldl_upsertSqlText_of_absent {hash : String}
    (absent : ∀ text ∈ batch, text.sqlHash ≠ hash) :
    batch.foldl upsertSqlText stored hash = stored hash := by
  induction batch generalizing stored with
  | nil => rfl
  | cons first rest ih =>
      have apart : hash ≠ first.sqlHash := (absent first List.mem_cons_self).symm
      rw [List.foldl_cons, ih fun text member => absent text (List.mem_cons_of_mem _ member),
        upsertSqlText, Function.update_of_ne apart]

theorem foldl_upsertSqlText_of_mem (distinct : (batch.map SqlText.sqlHash).Nodup)
    (member : text ∈ batch) :
    batch.foldl upsertSqlText stored text.sqlHash = upsertSqlText stored text text.sqlHash := by
  induction batch generalizing stored with
  | nil => simp at member
  | cons first rest ih =>
      obtain ⟨fresh, later⟩ := List.nodup_cons.mp distinct
      rw [List.foldl_cons]
      rcases List.mem_cons.mp member with rfl | inRest
      · refine foldl_upsertSqlText_of_absent fun other inside same => ?_
        exact fresh (List.mem_map.mpr ⟨other, inside, same⟩)
      · have apart : text.sqlHash ≠ first.sqlHash := fun same =>
          fresh (List.mem_map.mpr ⟨text, inRest, same⟩)
        have untouched : upsertSqlText stored first text.sqlHash = stored text.sqlHash := by
          rw [upsertSqlText, Function.update_of_ne apart]
        rw [ih later inRest, upsertSqlText_self, upsertSqlText_self, untouched]

end Texts

section Belonging

variable {frames : List SnapshotFrame} {frame : SnapshotFrame} {key : FrameKey}

theorem belongsToOne_append_of_ne (belongs : BelongsToOne frames key) (apart : frame.frame ≠ key) :
    BelongsToOne (frames ++ [frame]) key := by
  simpa [BelongsToOne, List.filter_append, List.filter_cons, apart] using belongs

theorem belongsToOne_append_self (fresh : primaryKey frame ∉ frames.map primaryKey) :
    BelongsToOne (frames ++ [frame]) frame.frame := by
  have absent : frames.filter (·.frame = frame.frame) = [] := by
    refine List.filter_eq_nil_iff.mpr ?_
    intro other member same
    refine fresh (List.mem_map.mpr ⟨other, member, ?_⟩)
    rw [primaryKey, of_decide_eq_true same]
    rfl
  simp [BelongsToOne, List.filter_append, absent]

theorem belongsToOne_append (belongs : BelongsToOne frames key)
    (fresh : primaryKey frame ∉ frames.map primaryKey) : BelongsToOne (frames ++ [frame]) key := by
  refine belongsToOne_append_of_ne belongs ?_
  rintro rfl
  obtain ⟨owner, only⟩ := List.length_eq_one_iff.mp belongs
  have member : owner ∈ frames.filter (·.frame = frame.frame) := by simp [only]
  obtain ⟨inside, same⟩ := List.mem_filter.mp member
  refine fresh (List.mem_map.mpr ⟨owner, inside, ?_⟩)
  rw [primaryKey, of_decide_eq_true same]
  rfl

end Belonging

end SnapshotTables

end SqlMonitor
