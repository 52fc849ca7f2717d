import SqlMonitor.Collector.BlockingCycles

set_option autoImplicit false

namespace SqlMonitor.BlockingGraph

section Paths

def DownPath : Int → List (Int × Int) → Int → Prop
  | above, [], session => above = session
  | above, (blocker, blocked) :: rest, session => blocker = above ∧ DownPath blocked rest session

def ChainLink.key (link : ChainLink) : Int × Int := (link.blockerId, link.blockedId)

theorem keys_enumerateChain (links : List ChainLink) :
    (enumerateChain links).map ChainStep.key = (links.map ChainLink.key).reverse := by
  rw [enumerateChain, List.map_map, ← List.map_reverse]
  conv_rhs => rw [← List.zipIdx_map_fst 1 links.reverse, List.map_map]
  rfl

theorem depths_enumerateChain (links : List ChainLink) :
    (enumerateChain links).map ChainStep.chainDepth =
      List.range' 1 (enumerateChain links).length := by
  have numbers := List.zipIdx_map_snd 1 links.reverse
  rw [enumerateChain, List.map_map, List.length_map, List.length_zipIdx, ← numbers]
  rfl

theorem DownPath.climb {current blocker start : Int} {links : List ChainLink}
    (path : DownPath current (links.map ChainLink.key).reverse start) (closing : Bool) :
    DownPath blocker ((links ++ [ChainLink.mk blocker current closing]).map ChainLink.key).reverse
      start := by
  rw [List.map_append, List.reverse_append]
  exact ⟨rfl, path⟩

end Paths

section Loop

variable {rows : InsertionDict Int BlockingInput}

theorem buildChainLoop_path {fuel : Nat} {current start root : Int} {visited : Finset Int}
    {links result : List ChainLink}
    (path : DownPath current (links.map ChainLink.key).reverse start)
    (done : buildChainLoop rows fuel current visited links = some (root, result)) :
    DownPath root (result.map ChainLink.key).reverse start := by
  induction fuel generalizing current visited links with
  | zero => simp [buildChainLoop] at done
  | succ fuel ih =>
      cases loopCase rows current visited with
      | unstored absent =>
          rw [buildChainLoop_unstored absent] at done
          exact absurd done (by simp)
      | stops row found stopped =>
          rw [buildChainLoop_stops found stopped] at done
          obtain ⟨rfl, rfl⟩ := Prod.mk.inj (Option.some.inj done)
          exact path
      | ends blocker above final =>
          rw [buildChainLoop_ends above final] at done
          obtain ⟨rfl, rfl⟩ := Prod.mk.inj (Option.some.inj done)
          exact path.climb false
      | closes blocker above ordinary seen =>
          rw [buildChainLoop_closes above ordinary seen] at done
          obtain ⟨rfl, rfl⟩ := Prod.mk.inj (Option.some.inj done)
          exact path.climb true
      | climbs blocker row above ordinary unseen next =>
          rw [buildChainLoop_climbs above ordinary unseen next] at done
          exact ih (path.climb false) done

theorem buildChainLoop_succ {fuel : Nat} {current : Int} {visited : Finset Int}
    {links : List ChainLink} {found : Int × List ChainLink}
    (done : buildChainLoop rows fuel current visited links = some found) :
    buildChainLoop rows (fuel + 1) current visited links = some found := by
  induction fuel generalizing current visited links with
  | zero => simp [buildChainLoop] at done
  | succ fuel ih =>
      cases loopCase rows current visited with
      | unstored absent =>
          rw [buildChainLoop_unstored absent] at done
          exact absurd done (by simp)
      | stops row here stopped =>
          rw [buildChainLoop_stops here stopped] at done ⊢
          exact done
      | ends blocker above final =>
          rw [buildChainLoop_ends above final] at done ⊢
          exact done
      | closes blocker above ordinary seen =>
          rw [buildChainLoop_closes above ordinary seen] at done ⊢
          exact done
      | climbs blocker row above ordinary unseen next =>
          rw [buildChainLoop_climbs above ordinary unseen next] at done ⊢
          exact ih done

theorem buildChainLoop_of_le {fuel more : Nat} {current : Int} {visited : Finset Int}
    {links : List ChainLink} {found : Int × List ChainLink}
    (done : buildChainLoop rows fuel current visited links = some found) (enough : fuel ≤ more) :
    buildChainLoop rows more current visited links = some found := by
  induction more, enough using Nat.le_induction with
  | base => exact done
  | succ more _ ih => exact buildChainLoop_succ ih

end Loop

theorem mem_keys_rowMap {rows : List BlockingInput} {session : Int} :
    session ∈ (rowMap rows).keys ↔ session ∈ rows.map BlockingInput.sessionId := by
  have some : session ∈ (rowMap rows).keys ↔
      rows.filter (fun row => row.sessionId = session) ≠ [] := by
    rw [InsertionDict.mem_keys_iff, ← Option.ne_none_iff_exists', get?_rowMap, lastRow, Ne,
      List.getLast?_eq_none_iff]
  rw [some, Ne, List.filter_eq_nil_iff]
  simp

theorem keys_length_rowMap (rows : List BlockingInput) :
    (rowMap rows).keys.length = (rows.map BlockingInput.sessionId).toFinset.card := by
  have same : (rowMap rows).keys.toFinset = (rows.map BlockingInput.sessionId).toFinset := by
    ext session
    rw [List.mem_toFinset, List.mem_toFinset, mem_keys_rowMap]
  rw [← same, List.toFinset_card_of_nodup (rowMap rows).keys_nodup]

theorem buildChain_descends (rows : List BlockingInput) {session : Int}
    (present : session ∈ rows.map BlockingInput.sessionId) :
    ∃ root links,
      (∀ fuel, (rows.map BlockingInput.sessionId).toFinset.card ≤ fuel →
        buildChainLoop (rowMap rows) fuel session {session} [] = some (root, links)) ∧
      ∃ chain, buildChain (rowMap rows) session = some (root, chain) ∧
        (∀ step ∈ chain, blockerOf rows step.blockedId = some step.blockerId) ∧
        (chain.map ChainStep.key).Nodup ∧ DownPath root (chain.map ChainStep.key) session ∧
        chain.map ChainStep.chainDepth = List.range' 1 chain.length := by
  have stored : session ∈ (rowMap rows).keys := mem_keys_rowMap.mpr present
  obtain ⟨root, links, done, found⟩ := buildChainLoop_returns (rowMap rows).keys.length session
    {session} [] (searchInv_start stored) (by simp)
  have nowhere : DownPath session (([] : List ChainLink).map ChainLink.key).reverse session := rfl
  have path := buildChainLoop_path nowhere done
  have distinct : (links.map ChainLink.key).Nodup := by
    refine List.Nodup.of_map Prod.snd ?_
    rw [List.map_map]
    exact found.sound.distinct
  refine ⟨root, links, ?_, enumerateChain links, by simp [buildChain, done], ?_, ?_, ?_,
    depths_enumerateChain links⟩
  · intro fuel enough
    exact buildChainLoop_of_le done ((keys_length_rowMap rows).le.trans enough)
  · intro step member
    obtain ⟨i, place, -⟩ := mem_enumerateChain.mp member
    rw [← parentOf_rowMap]
    exact found.sound.linked _ (List.mem_reverse.mp (List.mem_of_getElem? place))
  · rw [keys_enumerateChain, List.nodup_reverse]
    exact distinct
  · rw [keys_enumerateChain]
    exact path

theorem buildChain_descends_tangledRows :
    ∃ root links, buildChainLoop (rowMap tangledRows) 6 61 {61} [] = some (root, links) ∧
      ∃ chain, buildChain (rowMap tangledRows) 61 = some (root, chain) ∧
        DownPath root (chain.map ChainStep.key) 61 := by
  obtain ⟨root, links, done, chain, built, -, -, path, -⟩ :=
    @buildChain_descends tangledRows 61 (by decide)
  exact ⟨root, links, done 6 (by decide), chain, built, path⟩

end SqlMonitor.BlockingGraph
