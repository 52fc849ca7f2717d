import Mathlib.Data.Set.Card
import SqlMonitor.Collector.BlockingRoots

set_option autoImplicit false

namespace SqlMonitor.BlockingGraph

open ParentGraph

/-- The sessions that wait for a session, directly or through others. -/
def Behind (parent : Int → Option Int) (session : Int) : Set Int :=
  {blocked | blocked ≠ session ∧ Reaches parent blocked session}

def directCount (edges : List BlockingEdge) (session : Int) : Nat :=
  edges.countP fun edge => edge.blockerSessionId = session

def rootCount (edges : List BlockingEdge) (session : Int) : Nat :=
  edges.countP fun edge => edge.rootSessionId = session

theorem behind_of_onCycle {parent : Int → Option Int} {session : Int}
    (cyclic : OnCycle parent session) (notSelf : parent session ≠ some session) :
    ∃ above, parent session = some above ∧ above ∈ Behind parent session ∧
      OnCycle parent above := by
  obtain ⟨above, up⟩ := cyclic.has_parent
  have climb := Reaches.of_parent up
  have apart : above ≠ session := fun same => notSelf (same ▸ up)
  exact ⟨above, up, ⟨apart, cyclic.reaches_back climb⟩, cyclic.of_reaches climb⟩

section Counts

variable {rows : List BlockingInput} {edges : List BlockingEdge} {session : Int}

theorem EdgeTable.countP_eq (table : EdgeTable rows edges) (p : BlockingEdge → Bool) :
    edges.countP p =
      {blocked | ∃ edge ∈ edges, edge.blockedSessionId = blocked ∧ p edge}.ncard := by
  have distinct : ((edges.filter p).map BlockingEdge.blockedSessionId).Nodup :=
    table.distinct.sublist (List.filter_sublist.map _)
  have same : {blocked | ∃ edge ∈ edges, edge.blockedSessionId = blocked ∧ p edge} =
      ((edges.filter p).map BlockingEdge.blockedSessionId).toFinset := by
    ext blocked
    simp only [Set.mem_ofPred_eq, List.coe_toFinset, List.mem_map, List.mem_filter]
    constructor
    · rintro ⟨edge, kept, here, counted⟩
      exact ⟨edge, ⟨kept, counted⟩, here⟩
    · rintro ⟨edge, ⟨kept, counted⟩, here⟩
      exact ⟨edge, kept, here, counted⟩
  rw [same, Set.ncard_coe_finset, List.toFinset_card_of_nodup distinct, List.length_map,
    List.countP_eq_length_filter]

theorem EdgeTable.directCount_eq (table : EdgeTable rows edges) (session : Int) :
    directCount edges session = {blocked | blockerOf rows blocked = some session}.ncard := by
  rw [directCount, table.countP_eq]
  congr 1
  ext blocked
  simp only [Set.mem_ofPred_eq, decide_eq_true_eq]
  constructor
  · rintro ⟨edge, kept, rfl, rfl⟩
    exact table.linked edge kept
  · exact fun up => table.exists_edge up

theorem EdgeTable.rootCount_eq (table : EdgeTable rows edges) (session : Int) :
    rootCount edges session =
      {blocked | ∃ edge ∈ edges, edge.blockedSessionId = blocked ∧
        edge.rootSessionId = session}.ncard := by
  rw [rootCount, table.countP_eq]
  simp only [decide_eq_true_eq]

theorem EdgeTable.exists_edge_behind (table : EdgeTable rows edges) {blocked : Int}
    (behind : blocked ∈ Behind (blockerOf rows) session) :
    ∃ edge ∈ edges, edge.blockedSessionId = blocked := by
  obtain ⟨blocker, up⟩ := behind.2.has_parent behind.1
  obtain ⟨edge, kept, same, -⟩ := table.exists_edge up
  exact ⟨edge, kept, same⟩

theorem EdgeTable.finite_behind (table : EdgeTable rows edges) (session : Int) :
    (Behind (blockerOf rows) session).Finite := by
  refine (edges.map BlockingEdge.blockedSessionId).toFinset.finite_toSet.subset ?_
  intro blocked behind
  obtain ⟨edge, kept, same⟩ := table.exists_edge_behind behind
  simpa using ⟨edge, kept, same⟩

end Counts

section Roots

variable {rows : List BlockingInput} {edges : List BlockingEdge} {session blocker : Int}

/-- The sessions whose edges carry a root. -/
def Rooted (edges : List BlockingEdge) (root : Int) : Set Int :=
  {blocked | ∃ edge ∈ edges, edge.blockedSessionId = blocked ∧ edge.rootSessionId = root}

theorem EdgeOrigins.reachesEnd_of_rooted (origins : EdgeOrigins rows edges) {blocked : Int}
    (rooted : blocked ∈ Rooted edges session) : ReachesEnd (blockerOf rows) blocked session := by
  obtain ⟨edge, kept, rfl, rfl⟩ := rooted
  exact origins.reachesEnd kept

theorem rooted_of_final (table : EdgeTable rows edges) (origins : EdgeOrigins rows edges)
    (final : ∀ above, Reaches (blockerOf rows) session above → above = session)
    (ends : blockerOf rows session = none ∨ OnCycle (blockerOf rows) session) {blocked : Int}
    (apart : blocked ≠ session) :
    blocked ∈ Rooted edges session ↔ blocked ∈ Behind (blockerOf rows) session := by
  constructor
  · exact fun rooted => ⟨apart, (origins.reachesEnd_of_rooted rooted).1⟩
  · intro behind
    obtain ⟨edge, kept, rfl⟩ := table.exists_edge_behind behind
    have here : ReachesEnd (blockerOf rows) edge.blockedSessionId session := ⟨behind.2, ends⟩
    exact ⟨edge, kept, rfl, final _ (here.reaches (origins.reachesEnd kept))⟩

theorem rooted_of_selfBlocked (table : EdgeTable rows edges) (origins : EdgeOrigins rows edges)
    (self : blockerOf rows session = some session) :
    Rooted edges session = insert session (Behind (blockerOf rows) session) := by
  have final (above : Int) (chain : Reaches (blockerOf rows) session above) : above = session :=
    chain.eq_of_selfParent self
  have cyclic := onCycle_of_parent_reaches self (Reaches.refl session)
  ext blocked
  by_cases here : blocked = session
  · subst here
    obtain ⟨edge, kept, rfl, -⟩ := table.exists_edge self
    have root := final _ (origins.reachesEnd kept).1
    exact iff_of_true ⟨edge, kept, rfl, root⟩ (Set.mem_insert _ _)
  · rw [rooted_of_final table origins final (Or.inr cyclic) here, Set.mem_insert_iff]
    exact (or_iff_right here).symm

theorem rooted_of_stopped (table : EdgeTable rows edges) (origins : EdgeOrigins rows edges)
    (stopped : blockerOf rows session = none) :
    Rooted edges session = Behind (blockerOf rows) session := by
  ext blocked
  by_cases here : blocked = session
  · subst here
    refine iff_of_false ?_ fun behind => behind.1 rfl
    rintro ⟨edge, kept, rfl, -⟩
    rw [table.linked edge kept] at stopped
    exact absurd stopped (by simp)
  · exact rooted_of_final table origins (fun _ chain => chain.eq_of_stopped stopped)
      (Or.inl stopped) here

structure DirectCycle (rows : List BlockingInput) (edges : List BlockingEdge)
    (lead : BlockingEdge) : Prop where
  kept : lead ∈ edges
  cyclic : OnCycle (blockerOf rows) lead.blockedSessionId
  apart : blockerOf rows lead.blockedSessionId ≠ some lead.blockedSessionId
  direct : ∀ blocked ∈ Behind (blockerOf rows) lead.blockedSessionId,
    blockerOf rows blocked = some lead.blockedSessionId

variable {lead : BlockingEdge}

theorem DirectCycle.root_iff (direct : DirectCycle rows edges lead) (table : EdgeTable rows edges)
    (origins : EdgeOrigins rows edges) {edge : BlockingEdge} (kept : edge ∈ edges)
    (behind : edge.blockedSessionId ∈ Behind (blockerOf rows) lead.blockedSessionId) :
    edge.rootSessionId = lead.blockedSessionId ↔
      ¬ OnCycle (blockerOf rows) edge.blockedSessionId ∨
        lead.rootSessionId = lead.blockedSessionId := by
  by_cases inside : OnCycle (blockerOf rows) edge.blockedSessionId
  · rw [origins.root_eq_on_cycle table kept direct.kept inside behind.2]
    exact (or_iff_right (not_not_intro inside)).symm
  · have tail := origins.entry_of_tail kept direct.cyclic behind.2 inside
    have entry := Entry.of_parent (direct.direct _ behind) direct.cyclic inside
    exact iff_of_true (tail.unique entry) (Or.inl inside)

theorem DirectCycle.rooted_of_root (direct : DirectCycle rows edges lead)
    (table : EdgeTable rows edges) (origins : EdgeOrigins rows edges)
    (root : lead.rootSessionId = lead.blockedSessionId) :
    Rooted edges lead.blockedSessionId =
      insert lead.blockedSessionId (Behind (blockerOf rows) lead.blockedSessionId) := by
  ext blocked
  rw [Set.mem_insert_iff]
  constructor
  · intro rooted
    by_cases here : blocked = lead.blockedSessionId
    · exact Or.inl here
    · exact Or.inr ⟨here, (origins.reachesEnd_of_rooted rooted).1⟩
  · rintro (rfl | behind)
    · exact ⟨lead, direct.kept, rfl, root⟩
    · obtain ⟨edge, kept, rfl⟩ := table.exists_edge_behind behind
      exact ⟨edge, kept, rfl, (direct.root_iff table origins kept behind).mpr (Or.inr root)⟩

theorem DirectCycle.rooted_of_other (direct : DirectCycle rows edges lead)
    (table : EdgeTable rows edges) (origins : EdgeOrigins rows edges)
    (other : lead.rootSessionId ≠ lead.blockedSessionId) {blocked : Int} :
    blocked ∈ Rooted edges lead.blockedSessionId ↔
      blocked ∈ Behind (blockerOf rows) lead.blockedSessionId ∧
        ¬ OnCycle (blockerOf rows) blocked := by
  constructor
  · rintro ⟨edge, kept, rfl, root⟩
    have behind : edge.blockedSessionId ∈ Behind (blockerOf rows) lead.blockedSessionId := by
      refine ⟨fun same => other ?_, root ▸ (origins.reachesEnd kept).1⟩
      obtain rfl := table.eq_of_blocked kept direct.kept same
      exact root
    exact ⟨behind, ((direct.root_iff table origins kept behind).mp root).resolve_right other⟩
  · rintro ⟨behind, outside⟩
    obtain ⟨edge, kept, rfl⟩ := table.exists_edge_behind behind
    exact ⟨edge, kept, rfl, (direct.root_iff table origins kept behind).mpr (Or.inl outside)⟩

theorem DirectCycle.eq_of_onCycle (direct : DirectCycle rows edges lead) {blocked other : Int}
    (behind : blocked ∈ Behind (blockerOf rows) lead.blockedSessionId)
    (behind' : other ∈ Behind (blockerOf rows) lead.blockedSessionId)
    (inside : OnCycle (blockerOf rows) blocked) (inside' : OnCycle (blockerOf rows) other) :
    blocked = other := by
  obtain ⟨cycle, directed, member⟩ := direct.cyclic.exists_directedCycle
  have onSame {below : Int} (behind : below ∈ Behind (blockerOf rows) lead.blockedSessionId)
      (inside : OnCycle (blockerOf rows) below) : below ∈ cycle :=
    directed.mem_of_reaches member (inside.reaches_back behind.2)
  exact (directed.exists_unique_below member).unique
    ⟨onSame behind inside, direct.direct _ behind⟩ ⟨onSame behind' inside', direct.direct _ behind'⟩

end Roots

section Flat

variable {rows : List BlockingInput} {edges : List BlockingEdge} {session other : Int}

/-- Nothing is further behind the session than one step; on a cycle the other row comes first. -/
structure FlatBehind (rows : List BlockingInput) (session : Int) : Prop where
  notSelf : blockerOf rows session ≠ some session
  direct : ∀ blocked ∈ Behind (blockerOf rows) session, blockerOf rows blocked = some session
  cycle : OnCycle (blockerOf rows) session → ∃ other, Behind (blockerOf rows) session = {other} ∧
    (rows.map BlockingInput.sessionId).find? (fun id => id = session ∨ id = other) = some other

theorem firstReaching_of_behind {parent : Int → Option Int} {starts : List Int}
    (behind : Behind parent session = {other}) :
    firstReaching parent starts session =
      starts.find? fun id => id = session ∨ id = other := by
  unfold firstReaching
  congr 1
  funext start
  refine decide_eq_decide.mpr ?_
  have mine : start ∈ Behind parent session ↔ start = other := by rw [behind, Set.mem_singleton_iff]
  rw [← mine]
  constructor
  · intro chain
    by_cases here : start = session
    · exact Or.inl here
    · exact Or.inr ⟨here, chain⟩
  · rintro (rfl | behind)
    · exact Reaches.refl _
    · exact behind.2

theorem blockers_subset_behind (notSelf : blockerOf rows session ≠ some session) :
    {blocked | blockerOf rows blocked = some session} ⊆ Behind (blockerOf rows) session :=
  fun _ up => ⟨fun same => notSelf (same ▸ up), Reaches.of_parent up⟩

theorem FlatBehind.blockers_eq (flat : FlatBehind rows session) :
    {blocked | blockerOf rows blocked = some session} = Behind (blockerOf rows) session :=
  (blockers_subset_behind flat.notSelf).antisymm flat.direct

def ImpactCounted (rows : List BlockingInput) (edges : List BlockingEdge) (session : Int) : Prop :=
  directCount edges session = (Behind (blockerOf rows) session).ncard ∧
    ((Rooted edges session).Nonempty → rootCount edges session = directCount edges session)

theorem FlatBehind.not_rooted (flat : FlatBehind rows session) (table : EdgeTable rows edges)
    (origins : EdgeOrigins rows edges) (cyclic : OnCycle (blockerOf rows) session) :
    Rooted edges session = ∅ := by
  obtain ⟨other, behind, first⟩ := flat.cycle cyclic
  obtain ⟨above, up, there, inside⟩ := behind_of_onCycle cyclic flat.notSelf
  have only {blocked : Int} (member : blocked ∈ Behind (blockerOf rows) session) :
      blocked = other := by rwa [behind] at member
  obtain rfl := only there
  obtain ⟨lead, kept, rfl, -⟩ := table.exists_edge up
  obtain ⟨start, reaches, -, entry, -⟩ := origins.of_onCycle kept cyclic
  rw [firstReaching_of_behind behind, first, Option.some.injEq] at reaches
  subst reaches
  have root : lead.rootSessionId = above := entry.unique (Entry.of_onCycle inside)
  have direct : DirectCycle rows edges lead := ⟨kept, cyclic, flat.notSelf, flat.direct⟩
  refine Set.eq_empty_of_forall_notMem fun blocked rooted => ?_
  have tail := (direct.rooted_of_other table origins (root ▸ there.1)).mp rooted
  exact tail.2 (only tail.1 ▸ inside)

theorem FlatBehind.counted (flat : FlatBehind rows session) (table : EdgeTable rows edges)
    (origins : EdgeOrigins rows edges) : ImpactCounted rows edges session := by
  have direct : directCount edges session = (Behind (blockerOf rows) session).ncard := by
    rw [table.directCount_eq, flat.blockers_eq]
  refine ⟨direct, fun rooted => ?_⟩
  obtain ⟨blocked, member⟩ := rooted
  rcases (origins.reachesEnd_of_rooted member).2 with stopped | cyclic
  · rw [table.rootCount_eq, direct]
    exact congrArg Set.ncard (rooted_of_stopped table origins stopped)
  · rw [flat.not_rooted table origins cyclic] at member
    exact absurd member (Set.notMem_empty blocked)

theorem not_counted_of_rooted (table : EdgeTable rows edges)
    (rooted : Rooted edges session = insert session (Behind (blockerOf rows) session)) :
    ¬ ImpactCounted rows edges session := by
  intro counted
  have roots : rootCount edges session = (Behind (blockerOf rows) session).ncard + 1 := by
    rw [table.rootCount_eq, ← Set.ncard_insert_of_notMem (fun behind => behind.1 rfl)
      (table.finite_behind session)]
    exact congrArg Set.ncard rooted
  have equal := counted.2 (rooted ▸ Set.insert_nonempty _ _)
  rw [roots, counted.1] at equal
  omega

theorem notSelf_of_counted (table : EdgeTable rows edges) (origins : EdgeOrigins rows edges)
    (counted : ImpactCounted rows edges session) : blockerOf rows session ≠ some session :=
  fun self => not_counted_of_rooted table (rooted_of_selfBlocked table origins self) counted

theorem direct_of_counted (table : EdgeTable rows edges) (origins : EdgeOrigins rows edges)
    (counted : ImpactCounted rows edges session) :
    ∀ blocked ∈ Behind (blockerOf rows) session, blockerOf rows blocked = some session := by
  have inside := blockers_subset_behind (notSelf_of_counted table origins counted)
  have equal : {blocked | blockerOf rows blocked = some session}.ncard =
      (Behind (blockerOf rows) session).ncard := by
    rw [← counted.1, table.directCount_eq]
  have same := Set.eq_of_subset_of_ncard_le inside equal.ge (table.finite_behind session)
  intro blocked behind
  rw [← same] at behind
  exact behind

section Counted

variable {lead : BlockingEdge} (direct : DirectCycle rows edges lead) (table : EdgeTable rows edges)
  (origins : EdgeOrigins rows edges) (counted : ImpactCounted rows edges lead.blockedSessionId)

include direct table origins counted

theorem DirectCycle.not_root : lead.rootSessionId ≠ lead.blockedSessionId :=
  fun root => not_counted_of_rooted table (direct.rooted_of_root table origins root) counted

theorem DirectCycle.not_rooted : Rooted edges lead.blockedSessionId = ∅ := by
  have root := direct.not_root table origins counted
  obtain ⟨above, -, behind, inside⟩ := behind_of_onCycle direct.cyclic direct.apart
  by_contra nonempty
  have equal := counted.2 (Set.nonempty_iff_ne_empty.mpr nonempty)
  have fewer : Rooted edges lead.blockedSessionId ⊂
      Behind (blockerOf rows) lead.blockedSessionId := by
    refine (Set.ssubset_iff_of_subset fun blocked rooted => ?_).mpr
      ⟨above, behind, fun rooted => ?_⟩
    · exact ((direct.rooted_of_other table origins root).mp rooted).1
    · exact ((direct.rooted_of_other table origins root).mp rooted).2 inside
  have less := Set.ncard_lt_ncard fewer (table.finite_behind _)
  rw [counted.1, table.rootCount_eq] at equal
  exact absurd equal less.ne

theorem DirectCycle.exists_other : ∃ other,
    Behind (blockerOf rows) lead.blockedSessionId = {other} ∧
      (rows.map BlockingInput.sessionId).find?
        (fun id => id = lead.blockedSessionId ∨ id = other) = some other := by
  have root := direct.not_root table origins counted
  have rooted := direct.not_rooted table origins counted
  obtain ⟨other, -, behind, inside⟩ := behind_of_onCycle direct.cyclic direct.apart
  have alone : Behind (blockerOf rows) lead.blockedSessionId = {other} := by
    refine Set.eq_singleton_iff_unique_mem.mpr ⟨behind, fun blocked behind' => ?_⟩
    have inside' : OnCycle (blockerOf rows) blocked := by
      by_contra outside
      have member := (direct.rooted_of_other table origins root).mpr ⟨behind', outside⟩
      rw [rooted] at member
      exact Set.notMem_empty blocked member
    exact direct.eq_of_onCycle behind' behind inside' inside
  refine ⟨other, alone, ?_⟩
  obtain ⟨start, first, chain, entry, -⟩ := origins.of_onCycle direct.kept direct.cyclic
  have apart : start ≠ lead.blockedSessionId := by
    intro same
    rw [same] at entry
    exact root (entry.unique (Entry.of_onCycle direct.cyclic))
  have there : start ∈ Behind (blockerOf rows) lead.blockedSessionId := ⟨apart, chain⟩
  rw [alone, Set.mem_singleton_iff] at there
  rw [← firstReaching_of_behind alone, first, there]

end Counted

theorem flatBehind_of_counted (table : EdgeTable rows edges) (origins : EdgeOrigins rows edges)
    (counted : ImpactCounted rows edges session) : FlatBehind rows session := by
  have notSelf := notSelf_of_counted table origins counted
  have direct := direct_of_counted table origins counted
  refine ⟨notSelf, direct, fun cyclic => ?_⟩
  obtain ⟨above, up⟩ := cyclic.has_parent
  obtain ⟨lead, kept, rfl, -⟩ := table.exists_edge up
  exact DirectCycle.exists_other ⟨kept, cyclic, notSelf, direct⟩ table origins counted

theorem impactCounted_iff (table : EdgeTable rows edges) (origins : EdgeOrigins rows edges)
    (session : Int) : ImpactCounted rows edges session ↔ FlatBehind rows session :=
  ⟨flatBehind_of_counted table origins, fun flat => flat.counted table origins⟩

end Flat

end SqlMonitor.BlockingGraph
