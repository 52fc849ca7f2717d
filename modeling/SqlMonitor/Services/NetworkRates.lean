import Mathlib.Algebra.Order.Field.Rat
import Mathlib.Tactic.FieldSimp
import Mathlib.Tactic.Linarith
import Mathlib.Tactic.Positivity
import Mathlib.Tactic.Ring
import SqlMonitor.Services.ResourceTrends

set_option autoImplicit false

namespace SqlMonitor.Services

open SnapshotRepository

inductive NetworkCounter where
  | sent
  | received

namespace NetworkCounter

def total : NetworkCounter → SnapshotFrame → Option Int
  | sent => SnapshotFrame.networkBytesSentTotal
  | received => SnapshotFrame.networkBytesReceivedTotal

def rate {F : Type} : NetworkCounter → ResourceTrendPoint F → Option F
  | sent => ResourceTrendPoint.networkSendRateBytesPerSec
  | received => ResourceTrendPoint.networkReceiveRateBytesPerSec

theorem rate_trendPoint {F : Type} (floats : Floats F) (counter : NetworkCounter)
    (previousFrame : Option SnapshotFrame) (trendFrame : SnapshotFrame) :
    counter.rate (trendPoint floats previousFrame trendFrame) =
      networkRate floats previousFrame trendFrame counter.total := by
  cases counter <;> rfl

end NetworkCounter

section Rates

variable {F : Type} {floats : Floats F} {counter : SnapshotFrame → Option Int}
  {previousFrame currentFrame : SnapshotFrame} {previousBytes currentBytes : Int}

theorem networkRate_eq (previously : counter previousFrame = some previousBytes)
    (currently : counter currentFrame = some currentBytes)
    (later : snapshotTime previousFrame < snapshotTime currentFrame) :
    networkRate floats (some previousFrame) currentFrame counter =
      if currentBytes - previousBytes < 0 then some floats.zero
      else some (floats.perSecond (currentBytes - previousBytes)
        (snapshotTime currentFrame - snapshotTime previousFrame)) := by
  have elapsed : ¬ snapshotTime currentFrame - snapshotTime previousFrame ≤ 0 :=
    not_le.mpr (sub_pos.mpr later)
  simp only [networkRate, previously, currently, elapsed, if_false]

theorem networkRate_eq_none_iff {preceding : Option SnapshotFrame}
    (ordered : ∀ frame ∈ preceding, snapshotTime frame ≤ snapshotTime currentFrame) :
    networkRate floats preceding currentFrame counter = none ↔
      preceding = none ∨ ∃ frame, preceding = some frame ∧
        (counter frame = none ∨ counter currentFrame = none ∨
          snapshotTime currentFrame = snapshotTime frame) := by
  cases preceding with
  | none => simp [networkRate]
  | some frame =>
      have order := ordered frame rfl
      cases previously : counter frame with
      | none => simp [networkRate, previously]
      | some previousBytes =>
          cases currently : counter currentFrame with
          | none => simp [networkRate, previously, currently]
          | some currentBytes =>
              rcases order.lt_or_eq with later | same
              · rw [networkRate_eq previously currently later]
                refine iff_of_false (by split <;> simp) ?_
                simp [previously, later.ne']
              · simp [networkRate, previously, currently, same]

theorem networkRate_eq_some {preceding : Option SnapshotFrame} {rate : F}
    (computed : networkRate floats preceding currentFrame counter = some rate) :
    rate = floats.zero ∨ ∃ delta elapsed, 0 ≤ delta ∧ 0 < elapsed ∧
      rate = floats.perSecond delta elapsed := by
  unfold networkRate at computed
  split at computed
  case h_1 => simp at computed
  case h_2 frame =>
    split at computed
    case h_2 => simp at computed
    case h_1 previousBytes currentBytes _ _ =>
      dsimp only at computed
      split_ifs at computed with still fell
      · exact Or.inl (Option.some.inj computed).symm
      · exact Or.inr ⟨_, _, not_lt.mp fell, not_le.mp still, (Option.some.inj computed).symm⟩

theorem perSecond_nonneg {delta elapsed : Int} (grows : 0 ≤ delta) (later : 0 < elapsed) :
    0 ≤ rationalFloats.perSecond delta elapsed := by
  have bytes : (0 : Rat) ≤ delta := Int.cast_nonneg grows
  have micros : (0 : Rat) < elapsed := Int.cast_pos.mpr later
  unfold rationalFloats
  positivity

theorem networkRate_nonneg {preceding : Option SnapshotFrame} {rate : Rat}
    (computed : networkRate rationalFloats preceding currentFrame counter = some rate) :
    0 ≤ rate := by
  rcases networkRate_eq_some computed with rfl | ⟨delta, elapsed, grows, later, rfl⟩
  · exact le_refl _
  · exact perSecond_nonneg grows later

theorem networkRate_congr {other : Floats F} (zero : floats.zero = other.zero)
    (agree : ∀ delta elapsed, 0 ≤ delta → 0 < elapsed →
      floats.perSecond delta elapsed = other.perSecond delta elapsed)
    (preceding : Option SnapshotFrame) :
    networkRate floats preceding currentFrame counter =
      networkRate other preceding currentFrame counter := by
  unfold networkRate
  split
  case h_1 => rfl
  case h_2 frame =>
    split
    case h_2 => rfl
    case h_1 previousBytes currentBytes _ _ =>
      dsimp only
      split_ifs with still fell
      · rfl
      · rw [zero]
      · rw [agree _ _ (not_lt.mp fell) (not_le.mp still)]

end Rates

section Points

variable {F : Type} {floats : Floats F}

-- The frame that the loop carries when it comes to the frame at an index.
def precedingFrame (previousFrame : Option SnapshotFrame) (frames : List SnapshotFrame) :
    Nat → Option SnapshotFrame
  | 0 => previousFrame
  | i + 1 => frames[i]?

theorem getElem?_trendPoints (previousFrame : Option SnapshotFrame) (frames : List SnapshotFrame)
    (i : Nat) :
    (trendPoints floats previousFrame frames)[i]? =
      frames[i]?.map (trendPoint floats (precedingFrame previousFrame frames i)) := by
  induction frames generalizing previousFrame i with
  | nil => rfl
  | cons frame rest ih =>
      cases i with
      | zero => rfl
      | succ i =>
          rw [trendPoints, List.getElem?_cons_succ, List.getElem?_cons_succ, ih]
          cases i <;> rfl

theorem trendPoints_congr {other : Floats F} (ofDecimal : floats.ofDecimal = other.ofDecimal)
    (zero : floats.zero = other.zero)
    (agree : ∀ delta elapsed, 0 ≤ delta → 0 < elapsed →
      floats.perSecond delta elapsed = other.perSecond delta elapsed)
    (previousFrame : Option SnapshotFrame) (frames : List SnapshotFrame) :
    trendPoints floats previousFrame frames = trendPoints other previousFrame frames := by
  induction frames generalizing previousFrame with
  | nil => rfl
  | cons frame rest ih =>
      rw [trendPoints, trendPoints, ih, trendPoint, trendPoint, ofDecimal,
        networkRate_congr zero agree, networkRate_congr zero agree]

-- The sum of the rates, each times the seconds since the point before it.
def transferred (rate : ResourceTrendPoint Rat → Option Rat) :
    Timestamp → List (ResourceTrendPoint Rat) → Rat
  | _, [] => 0
  | previousTime, point :: rest =>
    (rate point).getD 0 * ((point.snapshotTime - previousTime : Int) / 1000000) +
      transferred rate point.snapshotTime rest

theorem perSecond_mul {delta elapsed : Int} (later : 0 < elapsed) :
    rationalFloats.perSecond delta elapsed * ((elapsed : Rat) / 1000000) = delta := by
  have micros : (elapsed : Rat) ≠ 0 := Int.cast_ne_zero.mpr later.ne'
  unfold rationalFloats
  field_simp

theorem networkRate_mul {counter : SnapshotFrame → Option Int}
    {previousFrame currentFrame : SnapshotFrame} {previousBytes currentBytes : Int}
    (previously : counter previousFrame = some previousBytes)
    (currently : counter currentFrame = some currentBytes)
    (later : snapshotTime previousFrame < snapshotTime currentFrame)
    (grows : previousBytes ≤ currentBytes) :
    (networkRate rationalFloats (some previousFrame) currentFrame counter).getD 0 *
        ((snapshotTime currentFrame - snapshotTime previousFrame : Int) / 1000000) =
      currentBytes - previousBytes := by
  have risen : ¬ currentBytes - previousBytes < 0 := not_lt.mpr (sub_nonneg.mpr grows)
  rw [networkRate_eq previously currently later, if_neg risen, Option.getD_some,
    perSecond_mul (sub_pos.mpr later), Int.cast_sub]

theorem transferred_trendPoints (counter : NetworkCounter) (previousFrame : SnapshotFrame)
    (frames : List SnapshotFrame) (first : Int) (counts : List Int)
    (present : (previousFrame :: frames).map counter.total = (first :: counts).map some)
    (ordered : (previousFrame :: frames).IsChain fun frame later =>
      snapshotTime frame < snapshotTime later)
    (rises : (first :: counts).IsChain (· ≤ ·)) :
    transferred counter.rate (snapshotTime previousFrame)
        (trendPoints rationalFloats (some previousFrame) frames) =
      counts.getLastD first - first := by
  induction frames generalizing previousFrame first counts with
  | nil =>
      obtain ⟨-, rfl⟩ : _ ∧ counts = [] := by simpa using present
      simp [trendPoints, transferred]
  | cons frame rest ih =>
      cases counts with
      | nil => simp at present
      | cons second counts =>
          obtain ⟨previously, later⟩ := List.cons.inj present
          obtain ⟨earlier, times⟩ := List.isChain_cons_cons.mp ordered
          obtain ⟨grows, more⟩ := List.isChain_cons_cons.mp rises
          have currently : counter.total frame = some second := (List.cons.inj later).1
          have growth := networkRate_mul previously currently earlier grows
          rw [trendPoints, transferred, NetworkCounter.rate_trendPoint]
          have total := ih frame second counts later times more
          have stamped : (trendPoint rationalFloats (some previousFrame) frame).snapshotTime =
              snapshotTime frame := rfl
          rw [stamped, growth, total, List.getLastD_cons]
          ring

end Points

section Window

variable {tables : SnapshotTables} {instanceId : Uuid} {since : Timestamp}

theorem mem_listResourceFrames {frame : SnapshotFrame} :
    frame ∈ listResourceFrames tables instanceId since ↔
      frame ∈ framesOf tables instanceId ∧ since ≤ snapshotTime frame := by
  simp [listResourceFrames]

theorem before_window {previousFrame frame : SnapshotFrame}
    (before : getResourceFrameBefore tables instanceId since = some previousFrame)
    (member : frame ∈ listResourceFrames tables instanceId since) :
    snapshotTime previousFrame < snapshotTime frame := by
  have early : snapshotTime previousFrame < since :=
    of_decide_eq_true (List.mem_filter.mp (mem_of_latestOf before)).2
  exact early.trans_le (mem_listResourceFrames.mp member).2

theorem listResourceFrames_ordered (tables : SnapshotTables) (instanceId : Uuid)
    (since : Timestamp) :
    (listResourceFrames tables instanceId since).Pairwise fun frame later =>
      snapshotTime frame ≤ snapshotTime later :=
  sortAscending_pairwise _ _

theorem resourceTrends_eq_trendPoints {F : Type} (floats : Floats F) (tables : SnapshotTables)
    (instanceId : Uuid) (ref : SnapshotFrame) (metricsWindowMinutes : Nat) :
    resourceTrends floats tables instanceId ref metricsWindowMinutes =
      trendPoints floats
        (getResourceFrameBefore tables instanceId (sinceTime ref metricsWindowMinutes))
        (listResourceFrames tables instanceId (sinceTime ref metricsWindowMinutes)) := by
  simp [resourceTrends, listResourceFrames]

theorem window_rises {previousFrame : SnapshotFrame}
    (distinct : ((framesOf tables instanceId).map snapshotTime).Nodup)
    (before : getResourceFrameBefore tables instanceId since = some previousFrame) :
    (previousFrame :: listResourceFrames tables instanceId since).IsChain fun frame later =>
      snapshotTime frame < snapshotTime later := by
  have inside : ((listResourceFrames tables instanceId since).map snapshotTime).Nodup :=
    ((sortAscending_perm _ _).map _).nodup_iff.mpr (distinct.sublist (List.filter_sublist.map _))
  have apart : (listResourceFrames tables instanceId since).Pairwise fun frame later =>
      snapshotTime frame ≠ snapshotTime later := List.pairwise_map.mp inside
  have rises := (listResourceFrames_ordered tables instanceId since).and apart
  refine List.Pairwise.isChain (List.pairwise_cons.mpr ⟨fun frame => before_window before, ?_⟩)
  exact rises.imp fun both => lt_of_le_of_ne both.1 both.2

theorem precedingFrame_le {frame : SnapshotFrame} {i : Nat}
    (here : (listResourceFrames tables instanceId since)[i]? = some frame) :
    ∀ earlier ∈ precedingFrame (getResourceFrameBefore tables instanceId since)
      (listResourceFrames tables instanceId since) i,
      snapshotTime earlier ≤ snapshotTime frame := by
  intro earlier precedes
  cases i with
  | zero => exact (before_window precedes (List.mem_of_getElem? here)).le
  | succ i =>
      obtain ⟨inside, rfl⟩ := List.getElem?_eq_some_iff.mp here
      obtain ⟨short, rfl⟩ := List.getElem?_eq_some_iff.mp precedes
      exact List.pairwise_iff_getElem.mp (listResourceFrames_ordered tables instanceId since)
        i (i + 1) short inside (Nat.lt_succ_self i)

theorem resourceTrends_account (tables : SnapshotTables) (instanceId : Uuid) (ref : SnapshotFrame)
    (metricsWindowMinutes : Nat) (counter : NetworkCounter) :
    let since := sinceTime ref metricsWindowMinutes
    let before := getResourceFrameBefore tables instanceId since
    let frames := listResourceFrames tables instanceId since
    let points := resourceTrends rationalFloats tables instanceId ref metricsWindowMinutes
    (∀ previousFrame first counts, before = some previousFrame →
      ((framesOf tables instanceId).map snapshotTime).Nodup →
      (previousFrame :: frames).map counter.total = (first :: counts).map some →
      (first :: counts).IsChain (· ≤ ·) →
      transferred counter.rate (snapshotTime previousFrame) points =
        counts.getLastD first - first) ∧
    (points.length = frames.length ∧ ∀ i frame point, frames[i]? = some frame →
      points[i]? = some point →
      (counter.rate point = none ↔
        precedingFrame before frames i = none ∨
          ∃ earlier, precedingFrame before frames i = some earlier ∧
            (counter.total earlier = none ∨ counter.total frame = none ∨
              snapshotTime frame = snapshotTime earlier)) ∧
      (∀ rate, counter.rate point = some rate → 0 ≤ rate) ∧
      ∀ earlier previousBytes currentBytes, precedingFrame before frames i = some earlier →
        counter.total earlier = some previousBytes → counter.total frame = some currentBytes →
        currentBytes < previousBytes → snapshotTime frame ≠ snapshotTime earlier →
        counter.rate point = some 0) ∧
    ∀ {F : Type} (floats other : Floats F), floats.ofDecimal = other.ofDecimal →
      floats.zero = other.zero →
      (∀ delta elapsed, 0 ≤ delta → 0 < elapsed →
        floats.perSecond delta elapsed = other.perSecond delta elapsed) →
      resourceTrends floats tables instanceId ref metricsWindowMinutes =
        resourceTrends other tables instanceId ref metricsWindowMinutes := by
  intro since before frames points
  have counted : points = trendPoints rationalFloats before frames :=
    resourceTrends_eq_trendPoints ..
  refine ⟨fun previousFrame first counts found distinct present rises => ?_, ⟨?_, ?_⟩, ?_⟩
  · rw [counted, found]
    exact transferred_trendPoints counter previousFrame frames first counts present
      (window_rises distinct found) rises
  · rw [counted, ← List.length_map (f := ResourceTrendPoint.snapshotTime),
      snapshotTimes_trendPoints, List.length_map]
  · intro i frame point here shown
    have ordered := precedingFrame_le here
    rw [counted, getElem?_trendPoints, here, Option.map_some, Option.some.injEq] at shown
    rw [← shown, NetworkCounter.rate_trendPoint]
    refine ⟨networkRate_eq_none_iff ordered, fun rate => networkRate_nonneg, ?_⟩
    intro earlier previousBytes currentBytes precedes previously currently fell moved
    have later := lt_of_le_of_ne (ordered earlier precedes) moved.symm
    rw [precedes, networkRate_eq previously currently later, if_pos (sub_neg.mpr fell)]
    rfl
  · intro F floats other ofDecimal zero agree
    rw [resourceTrends_eq_trendPoints, resourceTrends_eq_trendPoints,
      trendPoints_congr ofDecimal zero agree]

def risingTables : SnapshotTables :=
  let frameAt (id : Uuid) (time bytes : Int) : SnapshotFrame :=
    { SnapshotTables.emptyFrame id 7 time with networkBytesSentTotal := some bytes }
  { SnapshotTables.empty with
    frames := [frameAt 1 0 100, frameAt 2 60000000 700, frameAt 3 90000000 1000] }

theorem resourceTrends_account_rising :
    transferred NetworkCounter.sent.rate 0 (resourceTrends rationalFloats risingTables 7
      (SnapshotTables.emptyFrame 3 7 90000000) 1) = 900 := by
  have total := (resourceTrends_account risingTables 7 (SnapshotTables.emptyFrame 3 7 90000000) 1
    .sent).1 _ 100 [700, 1000] rfl (by decide) rfl (by decide)
  have growth : (([700, 1000] : List Int).getLastD 100 : Rat) - (100 : Int) = 900 := by norm_num
  exact total.trans growth

end Window

end SqlMonitor.Services
