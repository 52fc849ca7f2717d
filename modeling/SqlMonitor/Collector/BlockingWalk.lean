import Mathlib.Data.Finset.Card
import SqlMonitor.Shared.ParentGraph
import SqlMonitor.Collector.BlockingGraph

set_option autoImplicit false

namespace SqlMonitor.BlockingGraph

open ParentGraph

-- The row of a session that counts when its id is repeated.
def lastRow (rows : List BlockingInput) (session : Int) : Option BlockingInput :=
  (rows.filter (fun row => row.sessionId = session)).getLast?

/-- The blocker of a session, where `NULL` and `0` mean no blocker. -/
def blockerOf (rows : List BlockingInput) (session : Int) : Option Int :=
  (lastRow rows session).bind fun row => row.blockerSessionId.filter (· ≠ 0)

def parentOf (rows : InsertionDict Int BlockingInput) (session : Int) : Option Int :=
  (rows.get? session).bind fun row => normalizeBlocker row.blockerSessionId

theorem normalizeBlocker_eq (blocker : Option Int) :
    normalizeBlocker blocker = blocker.filter (· ≠ 0) := by
  cases blocker with
  | none => rfl
  | some b =>
      by_cases special : b ∈ specialBlockers
      · have nonzero : b ≠ 0 := by
          rintro rfl
          simp [specialBlockers] at special
        simp [normalizeBlocker, special, Option.filter_some, nonzero]
      · simp [normalizeBlocker, special, Option.filter_some]

theorem get?_rowMap (rows : List BlockingInput) (session : Int) :
    (rowMap rows).get? session = lastRow rows session := by
  rw [rowMap, InsertionDict.get?_ofList, List.filter_map, List.getLast?_map, Option.map_map]
  simp [lastRow, Function.comp_def]

theorem parentOf_rowMap (rows : List BlockingInput) : parentOf (rowMap rows) = blockerOf rows := by
  funext session
  simp only [parentOf, blockerOf, get?_rowMap, normalizeBlocker_eq]

theorem sessionId_of_lastRow {rows : List BlockingInput} {session : Int} {row : BlockingInput}
    (found : lastRow rows session = some row) : row ∈ rows ∧ row.sessionId = session := by
  have member := List.mem_filter.mp (List.mem_of_getLast? found)
  exact ⟨member.1, by simpa using member.2⟩

section Search

variable {rows : InsertionDict Int BlockingInput}

theorem parentOf_eq_some_iff {session blocker : Int} :
    parentOf rows session = some blocker ↔
      ∃ row, rows.get? session = some row ∧ normalizeBlocker row.blockerSessionId = some blocker :=
  Option.bind_eq_some_iff

inductive LoopCase (rows : InsertionDict Int BlockingInput) (current : Int)
    (visited : Finset Int) : Prop where
  | unstored (absent : rows.get? current = none)
  | stops (row : BlockingInput) (found : rows.get? current = some row)
      (stopped : parentOf rows current = none)
  -- A special blocker, or one without a row.
  | ends (blocker : Int) (above : parentOf rows current = some blocker)
      (final : blocker ∈ specialBlockers ∨ blocker ∉ visited ∧ rows.get? blocker = none)
  | closes (blocker : Int) (above : parentOf rows current = some blocker)
      (ordinary : blocker ∉ specialBlockers) (seen : blocker ∈ visited)
  | climbs (blocker : Int) (row : BlockingInput) (above : parentOf rows current = some blocker)
      (ordinary : blocker ∉ specialBlockers) (unseen : blocker ∉ visited)
      (next : rows.get? blocker = some row)

theorem loopCase (rows : InsertionDict Int BlockingInput) (current : Int) (visited : Finset Int) :
    LoopCase rows current visited := by
  cases found : rows.get? current with
  | none => exact .unstored found
  | some row =>
      cases above : parentOf rows current with
      | none => exact .stops row found above
      | some blocker =>
          by_cases special : blocker ∈ specialBlockers
          · exact .ends blocker above (.inl special)
          · by_cases seen : blocker ∈ visited
            · exact .closes blocker above special seen
            · cases next : rows.get? blocker with
              | none => exact .ends blocker above (.inr ⟨seen, next⟩)
              | some nextRow => exact .climbs blocker nextRow above special seen next

section Rounds

variable {fuel : Nat} {current blocker : Int} {visited : Finset Int} {links : List ChainLink}
  {row : BlockingInput}

theorem buildChainLoop_unstored (absent : rows.get? current = none) :
    buildChainLoop rows fuel current visited links = none := by
  cases fuel with
  | zero => rfl
  | succ fuel => simp [buildChainLoop, absent]

theorem buildChainLoop_stops (found : rows.get? current = some row)
    (stopped : parentOf rows current = none) :
    buildChainLoop rows (fuel + 1) current visited links = some (current, links) := by
  rw [parentOf, found, Option.bind_some] at stopped
  simp [buildChainLoop, found, stopped]

theorem buildChainLoop_ends (above : parentOf rows current = some blocker)
    (final : blocker ∈ specialBlockers ∨ blocker ∉ visited ∧ rows.get? blocker = none) :
    buildChainLoop rows (fuel + 1) current visited links =
      some (blocker, links ++ [⟨blocker, current, false⟩]) := by
  obtain ⟨row, found, up⟩ := parentOf_eq_some_iff.mp above
  by_cases special : blocker ∈ specialBlockers
  · simp [buildChainLoop, found, up, special]
  · obtain ⟨unseen, absent⟩ := final.resolve_left special
    simp [buildChainLoop, found, up, special, unseen, absent]

theorem buildChainLoop_closes (above : parentOf rows current = some blocker)
    (ordinary : blocker ∉ specialBlockers) (seen : blocker ∈ visited) :
    buildChainLoop rows (fuel + 1) current visited links =
      some (blocker, links ++ [⟨blocker, current, true⟩]) := by
  obtain ⟨row, found, up⟩ := parentOf_eq_some_iff.mp above
  simp [buildChainLoop, found, up, ordinary, seen]

theorem buildChainLoop_climbs (above : parentOf rows current = some blocker)
    (ordinary : blocker ∉ specialBlockers) (unseen : blocker ∉ visited)
    (next : rows.get? blocker = some row) :
    buildChainLoop rows (fuel + 1) current visited links =
      buildChainLoop rows fuel blocker (insert blocker visited)
        (links ++ [⟨blocker, current, false⟩]) := by
  obtain ⟨row, found, up⟩ := parentOf_eq_some_iff.mp above
  simp [buildChainLoop, found, up, ordinary, unseen, next]

end Rounds

structure SoundLinks (rows : InsertionDict Int BlockingInput) (links : List ChainLink) : Prop where
  linked : ∀ link ∈ links, parentOf rows link.blockedId = some link.blockerId
  distinct : (links.map ChainLink.blockedId).Nodup

theorem SoundLinks.concat {links : List ChainLink} (sound : SoundLinks rows links)
    {blocker blocked : Int}
    (up : parentOf rows blocked = some blocker) (fresh : blocked ∉ links.map ChainLink.blockedId)
    (closing : Bool) : SoundLinks rows (links ++ [⟨blocker, blocked, closing⟩]) where
  linked := by
    intro link member
    rcases List.mem_append.mp member with old | new
    · exact sound.linked link old
    · rw [List.mem_singleton.mp new]
      exact up
  distinct := by simpa using sound.distinct.concat fresh

-- What the loop knows whenever its body starts.
structure SearchInv (rows : InsertionDict Int BlockingInput) (current : Int) (visited : Finset Int)
    (links : List ChainLink) : Prop where
  sound : SoundLinks rows links
  stored : ∀ session ∈ visited, session ∈ rows.keys
  here : current ∈ visited
  older : ∀ session ∈ links.map ChainLink.blockedId, session ∈ visited ∧ session ≠ current

theorem SearchInv.advance {current blocker : Int} {visited : Finset Int} {links : List ChainLink}
    (inv : SearchInv rows current visited links) (up : parentOf rows current = some blocker)
    (unseen : blocker ∉ visited) (stored : blocker ∈ rows.keys) :
    SearchInv rows blocker (insert blocker visited) (links ++ [⟨blocker, current, false⟩]) where
  sound := inv.sound.concat up (fun member => (inv.older current member).2 rfl) false
  stored := by
    intro session member
    rcases Finset.mem_insert.mp member with same | old
    · exact same ▸ stored
    · exact inv.stored session old
  here := Finset.mem_insert_self _ _
  older := by
    intro session member
    have known : session ∈ visited := by
      simp only [List.map_append, List.map_cons, List.map_nil, List.mem_append,
        List.mem_singleton] at member
      rcases member with old | same
      · exact (inv.older session old).1
      · exact same ▸ inv.here
    exact ⟨Finset.mem_insert_of_mem known, fun same => unseen (same ▸ known)⟩

theorem SearchInv.visited_card {current : Int} {visited : Finset Int} {links : List ChainLink}
    (inv : SearchInv rows current visited links) : visited.card ≤ rows.keys.length := by
  have inside : visited ⊆ rows.keys.toFinset := fun session member =>
    List.mem_toFinset.mpr (inv.stored session member)
  exact (Finset.card_le_card inside).trans (List.toFinset_card_le _)

-- What the loop leaves behind when it was entered at `current` with `links`.
structure SearchResult (rows : InsertionDict Int BlockingInput) (current : Int)
    (links result : List ChainLink) : Prop where
  sound : SoundLinks rows result
  older : ∀ link ∈ links, link.blockedId ∈ result.map ChainLink.blockedId
  here : ∀ blocker, parentOf rows current = some blocker → current ∈ result.map ChainLink.blockedId

theorem SearchInv.finish {current blocker : Int} {visited : Finset Int} {links : List ChainLink}
    (inv : SearchInv rows current visited links) (up : parentOf rows current = some blocker)
    (closing : Bool) : SearchResult rows current links (links ++ [⟨blocker, current, closing⟩]) where
  sound := inv.sound.concat up (fun member => (inv.older current member).2 rfl) closing
  older := fun link member => List.mem_map_of_mem (List.mem_append_left _ member)
  here := fun _ _ => by simp

theorem buildChainLoop_returns (fuel : Nat) (current : Int) (visited : Finset Int)
    (links : List ChainLink)
    (inv : SearchInv rows current visited links) (enough : rows.keys.length < visited.card + fuel) :
    ∃ root result, buildChainLoop rows fuel current visited links = some (root, result) ∧
      SearchResult rows current links result := by
  induction fuel generalizing current visited links with
  | zero =>
      have bound := inv.visited_card
      omega
  | succ fuel ih =>
      obtain ⟨row, found⟩ := (rows.mem_keys_iff current).mp (inv.stored current inv.here)
      cases loopCase rows current visited with
      | unstored absent => exact absurd (absent.symm.trans found) (by simp)
      | stops row found stopped =>
          refine ⟨_, _, buildChainLoop_stops found stopped, inv.sound,
            fun link member => List.mem_map_of_mem member, fun blocker above => ?_⟩
          exact absurd (stopped.symm.trans above) (by simp)
      | ends blocker above final =>
          exact ⟨blocker, _, buildChainLoop_ends above final, inv.finish above false⟩
      | closes blocker above ordinary seen =>
          exact ⟨blocker, _, buildChainLoop_closes above ordinary seen, inv.finish above true⟩
      | climbs blocker nextRow above ordinary unseen next =>
          have stored : blocker ∈ rows.keys := (rows.mem_keys_iff blocker).mpr ⟨nextRow, next⟩
          have bound : rows.keys.length < (insert blocker visited).card + fuel := by
            rw [Finset.card_insert_of_notMem unseen]
            omega
          obtain ⟨root, result, done, further⟩ :=
            ih blocker _ _ (inv.advance above unseen stored) bound
          rw [buildChainLoop_climbs above ordinary unseen next]
          refine ⟨root, result, done, further.sound, ?_, ?_⟩
          · intro link member
            exact further.older link (List.mem_append_left _ member)
          · intro _ _
            exact further.older ⟨blocker, current, false⟩ (by simp)

theorem searchInv_start {session : Int} (stored : session ∈ rows.keys) :
    SearchInv rows session {session} [] where
  sound := ⟨by simp, by simp⟩
  stored := by simpa using stored
  here := Finset.mem_singleton_self _
  older := by simp

def upLinks (rows : InsertionDict Int BlockingInput) (sessions : List Int) : List ChainLink :=
  sessions.filterMap fun session => (parentOf rows session).map fun blocker => ⟨blocker, session, false⟩

theorem upLinks_concat {sessions : List Int} {session blocker : Int}
    (up : parentOf rows session = some blocker) :
    upLinks rows (sessions ++ [session]) = upLinks rows sessions ++ [⟨blocker, session, false⟩] := by
  simp [upLinks, up]

def Ascends (rows : InsertionDict Int BlockingInput) (start : Int) (sessions : List Int) : Prop :=
  ∀ i (inside : i < sessions.length), ancestor (parentOf rows) i start = some sessions[i]

theorem Ascends.climb {start current blocker : Int} {before : List Int}
    (ascends : Ascends rows start (before ++ [current]))
    (above : parentOf rows current = some blocker) :
    Ascends rows start (before ++ [current] ++ [blocker]) := by
  intro i inside
  by_cases short : i < (before ++ [current]).length
  · rw [List.getElem_append_left short]
    exact ascends i short
  · have final : i = (before ++ [current]).length := by simp at inside short ⊢; omega
    subst final
    have below := ascends before.length (by simp)
    simp only [List.getElem_concat_length] at below ⊢
    rw [List.length_append, List.length_singleton, ancestor_add, below, Option.bind_some,
      ancestor_one, above]

theorem Ascends.unmet {start current blocker : Int} {before : List Int} {row : BlockingInput}
    (ascends : Ascends rows start (before ++ [current])) (found : rows.get? current = some row)
    (absent : rows.get? blocker = none) : blocker ∉ before ++ [current] := by
  intro member
  obtain ⟨i, inside, same⟩ := List.mem_iff_getElem.mp member
  by_cases final : i = before.length
  · subst final
    simp only [List.getElem_concat_length] at same
    simp [← same, found] at absent
  · have next : i + 1 < (before ++ [current]).length := by simp at inside ⊢; omega
    have step := ascends (i + 1) next
    rw [ancestor_add, ascends i inside, Option.bind_some, ancestor_one, same] at step
    simp [parentOf, absent] at step

theorem Ascends.ends {start current blocker : Int} {before : List Int}
    (ascends : Ascends rows start (before ++ [current])) (distinct : (before ++ [current]).Nodup)
    (above : parentOf rows current = some blocker) (absent : rows.get? blocker = none)
    (unseen : blocker ∉ before ++ [current]) :
    ∃ path last closes, Walk (parentOf rows) start path last blocker closes ∧
      upLinks rows before ++ [⟨blocker, current, false⟩] =
        upLinks rows path ++ (if closes then [⟨blocker, last, true⟩] else []) := by
  refine ⟨before ++ [current], blocker, false,
    ⟨ascends.climb above, ?_, ?_, by simp, fun _ => rfl⟩, ?_⟩
  · simpa using distinct.concat unseen
  · simp [parentOf, absent]
  · simpa using (upLinks_concat above).symm

theorem buildChainLoop_walk (ordinary : ∀ blocker ∈ specialBlockers, rows.get? blocker = none)
    (start : Int) (fuel : Nat) (current : Int) (visited : Finset Int) (before : List Int)
    (ascends : Ascends rows start (before ++ [current])) (distinct : (before ++ [current]).Nodup)
    (known : ∀ session, session ∈ visited ↔ session ∈ before ++ [current])
    {root : Int} {result : List ChainLink}
    (done : buildChainLoop rows fuel current visited (upLinks rows before) = some (root, result)) :
    ∃ path last closes, Walk (parentOf rows) start path last root closes ∧
      result = upLinks rows path ++ (if closes then [⟨root, last, true⟩] else []) := by
  induction fuel generalizing current visited before with
  | zero => simp [buildChainLoop] at done
  | succ fuel ih =>
      cases loopCase rows current visited with
      | unstored absent =>
          rw [buildChainLoop_unstored absent] at done
          exact absurd done (by simp)
      | stops row found stopped =>
          rw [buildChainLoop_stops found stopped] at done
          obtain ⟨rfl, rfl⟩ := Prod.mk.inj (Option.some.inj done)
          exact ⟨before, current, false, ⟨ascends, distinct, by simpa using stopped, by simp,
            fun _ => rfl⟩, by simp⟩
      | ends blocker above final =>
          obtain ⟨row, found, -⟩ := parentOf_eq_some_iff.mp above
          have absent : rows.get? blocker = none := final.elim (ordinary blocker) And.right
          rw [buildChainLoop_ends above final] at done
          obtain ⟨rfl, rfl⟩ := Prod.mk.inj (Option.some.inj done)
          exact ascends.ends distinct above absent (ascends.unmet found absent)
      | closes blocker above unspecial seen =>
          rw [buildChainLoop_closes above unspecial seen] at done
          obtain ⟨rfl, rfl⟩ := Prod.mk.inj (Option.some.inj done)
          exact ⟨before, current, true, ⟨ascends, distinct, by simpa using above,
            (known blocker).mp seen, by simp⟩, by simp⟩
      | climbs blocker nextRow above unspecial unseen next =>
          have unmet : blocker ∉ before ++ [current] :=
            fun member => unseen ((known blocker).mpr member)
          rw [buildChainLoop_climbs above unspecial unseen next, ← upLinks_concat above] at done
          refine ih blocker (insert blocker visited) (before ++ [current])
            (ascends.climb above) ?_ ?_ done
          · simpa using distinct.concat unmet
          · intro session
            rw [Finset.mem_insert, known, List.mem_append (s := before ++ [current]),
              List.mem_singleton, or_comm]

theorem blockedIds_upLinks {sessions : List Int}
    (blocked : ∀ session ∈ sessions, ∃ blocker, parentOf rows session = some blocker) :
    (upLinks rows sessions).map ChainLink.blockedId = sessions := by
  induction sessions with
  | nil => rfl
  | cons session rest ih =>
      obtain ⟨blocker, up⟩ := blocked session (by simp)
      have later := ih (fun other member => blocked other (List.mem_cons_of_mem _ member))
      simp only [upLinks] at later
      simp [upLinks, up, later]

theorem blockedIds_enumerateChain (links : List ChainLink) :
    (enumerateChain links).map ChainStep.blockedId = (links.map ChainLink.blockedId).reverse := by
  simp only [enumerateChain, List.map_map, ← List.map_reverse]
  rw [← List.zipIdx_map_fst 1 links.reverse, List.map_map]
  simp [Function.comp_def]

theorem mem_enumerateChain {links : List ChainLink} {step : ChainStep} :
    step ∈ enumerateChain links ↔
      ∃ i, links.reverse[i]? = some ⟨step.blockerId, step.blockedId, step.cycleDetected⟩ ∧
        step.chainDepth = i + 1 := by
  simp only [enumerateChain, List.mem_map, Prod.exists]
  constructor
  · rintro ⟨link, depth, member, rfl⟩
    obtain ⟨positive, found⟩ := List.mem_zipIdx_iff_le_and_getElem?_sub.mp member
    exact ⟨depth - 1, found, by simp at positive ⊢; omega⟩
  · rintro ⟨i, found, depth⟩
    refine ⟨_, i + 1, List.mem_zipIdx_iff_le_and_getElem?_sub.mpr
      ⟨by simp, by simpa using found⟩, ?_⟩
    cases step
    simp_all

structure ChainSpec (parent : Int → Option Int) (start root : Int)
    (chain : List ChainStep) : Prop where
  reached : ∀ step ∈ chain, Reaches parent start step.blockedId
  complete : ∀ session blocker, Reaches parent start session → parent session = some blocker →
    session ∈ chain.map ChainStep.blockedId
  rising : chain.Pairwise (fun step later => Reaches parent later.blockedId step.blockedId)
  settled :
    (∀ step ∈ chain, EndsAt parent step.blockedId root step.chainDepth ∧
      step.cycleDetected = false) ∨
      Entry parent start root ∧ ∀ step ∈ chain,
        (step.cycleDetected = true ↔ OnCycle parent step.blockedId ∧
          parent step.blockedId = some root)

theorem parent_of_mem_walk {start last root : Int} {path : List Int} {closes : Bool}
    (walk : Walk (parentOf rows) start path last root closes) :
    ∀ session ∈ path, ∃ blocker, parentOf rows session = some blocker := by
  intro session member
  obtain ⟨i, inside, rfl⟩ := List.mem_iff_getElem.mp member
  have next : i + 1 < (path ++ [last]).length := by simp [inside]
  have step := walk.step next
  rw [List.getElem_append_left inside] at step
  exact ⟨_, step⟩

theorem blockedId_mem {chain : List ChainStep} {sessions : List Int}
    (ids : chain.map ChainStep.blockedId = sessions.reverse) {step : ChainStep}
    (member : step ∈ chain) :
    step.blockedId ∈ sessions := by
  have listed := List.mem_map_of_mem (f := ChainStep.blockedId) member
  rwa [ids, List.mem_reverse] at listed

theorem rising_of_walk {start last root : Int} {path sessions above : List Int} {closes : Bool}
    {chain : List ChainStep} (walk : Walk (parentOf rows) start path last root closes)
    (met : path ++ [last] = sessions ++ above)
    (ids : chain.map ChainStep.blockedId = sessions.reverse) :
    chain.Pairwise (fun step later => Reaches (parentOf rows) later.blockedId step.blockedId) := by
  rw [← List.pairwise_map (R := fun session later => Reaches (parentOf rows) later session), ids,
    List.pairwise_reverse, List.pairwise_iff_getElem]
  intro i j short long order
  have inside : j < (path ++ [last]).length := by
    rw [met, List.length_append]
    omega
  have climb := walk.reaches_later (Nat.le_of_lt order) inside
  simp only [met] at climb
  rwa [List.getElem_append_left short, List.getElem_append_left long] at climb

theorem chainSpec_open {start last root : Int} {path : List Int}
    (walk : Walk (parentOf rows) start path last root false) :
    ChainSpec (parentOf rows) start root (enumerateChain (upLinks rows path)) := by
  have ids : (enumerateChain (upLinks rows path)).map ChainStep.blockedId = path.reverse := by
    rw [blockedIds_enumerateChain, blockedIds_upLinks (parent_of_mem_walk walk)]
  refine ⟨?_, ?_, rising_of_walk walk rfl ids, Or.inl ?_⟩
  · intro step member
    exact walk.reaches (List.mem_append_left _ (blockedId_mem ids member))
  · intro session blocker chain up
    rw [ids, List.mem_reverse]
    rcases List.mem_append.mp ((walk.mem_iff_reaches session).mpr chain) with inside | final
    · exact inside
    · rw [List.mem_singleton.mp final, walk.final] at up
      simp at up
  · intro step member
    obtain ⟨i, found, depth⟩ := mem_enumerateChain.mp member
    have place : path.reverse[i]? = some step.blockedId := by
      rw [← blockedIds_upLinks (parent_of_mem_walk walk), ← List.map_reverse,
        List.getElem?_map, found]
      rfl
    obtain ⟨inside, here⟩ := List.getElem?_eq_some_iff.mp place
    rw [List.length_reverse] at inside
    rw [List.getElem_reverse] at here
    have short : path.length - 1 - i < (path ++ [last]).length := by simp; omega
    have stop := walk.endsAt short
    rw [List.getElem_append_left (by omega), here] at stop
    have hops : path.length - (path.length - 1 - i) = step.chainDepth := by omega
    refine ⟨hops ▸ stop, ?_⟩
    have link := List.mem_reverse.mp (List.mem_of_getElem? found)
    simp only [upLinks, List.mem_filterMap, Option.map_eq_some_iff] at link
    obtain ⟨_, _, _, _, same⟩ := link
    exact (congrArg ChainLink.cycleDetected same).symm

theorem chainSpec_closed {start last root : Int} {path : List Int}
    (walk : Walk (parentOf rows) start path last root true) :
    ChainSpec (parentOf rows) start root
      (enumerateChain (upLinks rows path ++ [⟨root, last, true⟩])) := by
  have ids : (enumerateChain (upLinks rows path ++ [⟨root, last, true⟩])).map ChainStep.blockedId =
      (path ++ [last]).reverse := by
    rw [blockedIds_enumerateChain, List.map_append, blockedIds_upLinks (parent_of_mem_walk walk)]
    rfl
  refine ⟨?_, ?_, rising_of_walk walk (List.append_nil _).symm ids, Or.inr ⟨walk.entry, ?_⟩⟩
  · intro step member
    exact walk.reaches (blockedId_mem ids member)
  · intro session blocker chain _
    rw [ids, List.mem_reverse]
    exact (walk.mem_iff_reaches session).mpr chain
  · intro step member
    rw [← walk.eq_last_iff]
    obtain ⟨i, found, -⟩ := mem_enumerateChain.mp member
    have link := List.mem_reverse.mp (List.mem_of_getElem? found)
    rcases List.mem_append.mp link with lower | closing
    · -- A link below the last one is not flagged and leaves another session.
      have apart := (List.nodup_append.mp walk.distinct).2.2
      simp only [upLinks, List.mem_filterMap, Option.map_eq_some_iff] at lower
      obtain ⟨session, inside, _, _, same⟩ := lower
      have flag := congrArg ChainLink.cycleDetected same
      have place := congrArg ChainLink.blockedId same
      simp only at flag place
      simp [← flag, ← place, apart session inside last (by simp)]
    · have same := List.mem_singleton.mp closing
      have flag := congrArg ChainLink.cycleDetected same
      have place := congrArg ChainLink.blockedId same
      simp only at flag place
      simp [flag, place]

-- What a caller of `build_chain` relies on, whatever the blocker relation.
structure SoundChain (rows : InsertionDict Int BlockingInput) (session : Int)
    (chain : List ChainStep) :
    Prop where
  linked : ∀ step ∈ chain, parentOf rows step.blockedId = some step.blockerId
  distinct : (chain.map ChainStep.blockedId).Nodup
  own : ∀ blocker, parentOf rows session = some blocker → session ∈ chain.map ChainStep.blockedId

theorem buildChain_returns {session : Int} (stored : session ∈ rows.keys) :
    ∃ root chain, buildChain rows session = some (root, chain) ∧ SoundChain rows session chain ∧
      ((∀ blocker ∈ specialBlockers, rows.get? blocker = none) →
        ChainSpec (parentOf rows) session root chain) := by
  obtain ⟨root, links, done, found⟩ := buildChainLoop_returns rows.keys.length session {session} []
    (searchInv_start stored) (by simp)
  refine ⟨root, enumerateChain links, by simp [buildChain, done], ⟨?_, ?_, ?_⟩, ?_⟩
  · intro step member
    obtain ⟨i, place, -⟩ := mem_enumerateChain.mp member
    exact found.sound.linked _ (List.mem_reverse.mp (List.mem_of_getElem? place))
  · rw [blockedIds_enumerateChain, List.nodup_reverse]
    exact found.sound.distinct
  · intro blocker up
    rw [blockedIds_enumerateChain, List.mem_reverse]
    exact found.here blocker up
  · intro ordinary
    obtain ⟨path, last, closes, walk, same⟩ :=
      buildChainLoop_walk ordinary session _ session {session} []
      (by simp [Ascends, ancestor]) (by simp) (by simp) done
    cases closes with
    | false =>
        rw [same, if_neg (by simp), List.append_nil]
        exact chainSpec_open walk
    | true =>
        rw [same, if_pos rfl]
        exact chainSpec_closed walk

end Search

end SqlMonitor.BlockingGraph
