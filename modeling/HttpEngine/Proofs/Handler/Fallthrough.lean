import HttpEngine.Handler

/-!
# Chains of chains

A chain calls its handlers in turn until one of them ends other than by 404.
What it comes to can be read off the turns that all its handlers would take one
after another: it is the first of these that is final, or else the last.  A
chain of chains calls the handlers of the inner chains in the same turns, as
long as no inner chain is empty: an empty one answers by itself.
-/

namespace HttpEngine.Chain

variable {σ ν : Type}

/-! ## Turns -/

/-- How each handler ends when it is called in the world that the one before it
leaves. -/
def turns (request : Request) :
    List (Handler σ) → World σ → List (Except Failure Response × World σ)
  | [], _ => []
  | handler :: rest, world =>
      let turn := (handler request).runIn world
      turn :: turns request rest turn.2

/-- A failure, or a response other than 404. -/
def isFinal : Except Failure Response × World σ → Bool
  | (.ok response, _) => response.status != 404
  | (.error _, _) => true

theorem isFinal_ok {response : Response} {after : World σ} :
    isFinal (.ok response, after) = true ↔ response.status ≠ 404 := bne_iff_ne

theorem runIn_chainFrom (last : Response) (handlers : List (Handler σ))
    (request : Request) (world : World σ) :
    (chainFrom last handlers request).runIn world =
      ((turns request handlers world).find? isFinal).getD
        ((turns request handlers world).getLastD (.ok last, world)) := by
  induction handlers generalizing last world with
  | nil => rfl
  | cons handler rest ih =>
      rw [chainFrom, Action.runIn_bind, turns]
      rcases (handler request).runIn world with ⟨failure | response, after⟩
      · rfl
      · dsimp only
        by_cases hmissed : response.status = 404
        · have hgoesOn : ¬ isFinal (.ok response, after) :=
            fun hfinal => isFinal_ok.1 hfinal hmissed
          rw [if_pos hmissed, ih, List.find?_cons_of_neg hgoesOn,
            List.getLastD_cons]
        · rw [if_neg hmissed, List.find?_cons_of_pos (isFinal_ok.2 hmissed)]
          rfl

/-! ## Calls -/

/-- A world in which the calls so far are noted as well. -/
def withCalls (world : World σ) (calls : List (ν × Request)) :
    World (σ × List (ν × Request)) :=
  ⟨world.log, (world.state, calls)⟩

/-- The handler under a name, which notes each of its calls with the request. -/
def noting (named : ν × Handler σ) : Handler (σ × List (ν × Request)) :=
  fun request =>
  ExceptT.mk fun world =>
    let (ended, after) := (named.2 request).runIn ⟨world.log, world.state.1⟩
    (ended, withCalls after (world.state.2 ++ [(named.1, request)]))

/-- The handlers of a chain that are called: all up to the first turn that is
final. -/
def called (request : Request) (handlers : List (ν × Handler σ))
    (world : World σ) :
    List (ν × Handler σ) :=
  handlers.take ((turns request (handlers.map (·.2)) world).findIdx isFinal + 1)

theorem called_cons (request : Request) (named : ν × Handler σ)
    (rest : List (ν × Handler σ)) (world : World σ) :
    called request (named :: rest) world =
      let turn := (named.2 request).runIn world
      named :: if isFinal turn then [] else called request rest turn.2 := by
  rw [called, List.map_cons, turns, List.findIdx_cons]
  cases hfinal :
    isFinal ((named.2 request).runIn world) <;> simp [hfinal, called]

theorem runIn_chainFrom_noting (last : Response)
    (handlers : List (ν × Handler σ)) (request : Request) (world : World σ)
    (calls : List (ν × Request)) :
    (chainFrom last (handlers.map noting) request).runIn
      (withCalls world calls) =
      let (ended, after) :=
        (chainFrom last (handlers.map (·.2)) request).runIn world
      (ended, withCalls after
        (calls ++ (called request handlers world).map fun named =>
          (named.1, request))) := by
  induction handlers generalizing last world calls with
  | nil =>
      change (Except.ok last, withCalls world calls) =
        (_, withCalls world (calls ++ []))
      rw [List.append_nil]
  | cons named rest ih =>
      have hnoted : (noting named request).runIn (withCalls world calls) =
          let (ended, after) := (named.2 request).runIn world
          (ended, withCalls after (calls ++ [(named.1, request)])) := rfl
      rw [List.map_cons, List.map_cons, chainFrom, chainFrom, Action.runIn_bind,
        Action.runIn_bind, hnoted, called_cons]
      rcases (named.2 request).runIn world with ⟨failure | response, after⟩
      · rfl
      · dsimp only
        by_cases hmissed : response.status = 404
        · have hgoesOn : ¬ isFinal (.ok response, after) :=
            fun hfinal => isFinal_ok.1 hfinal hmissed
          rw [if_pos hmissed, if_pos hmissed, ih, if_neg hgoesOn]
          simp
        · rw [if_neg hmissed, if_neg hmissed, if_pos (isFinal_ok.2 hmissed)]
          rfl

/-! ## Groups -/

/-- Going on after the last miss of a group is going on in the group. -/
theorem chainFrom_bind (last : Response) (hmissed : last.status = 404)
    (group rest : List (Handler σ)) (request : Request) :
    (do
      let response ← chainFrom last group request
      if response.status = 404 then chainFrom response rest request
      else pure response) = chainFrom last (group ++ rest) request := by
  induction group generalizing last with
  | nil => rw [chainFrom, pure_bind, if_pos hmissed, List.nil_append]
  | cons handler group ih =>
      rw [chainFrom, bind_assoc, List.cons_append, chainFrom]
      apply bind_congr
      intro response
      by_cases hmissed : response.status = 404
      · rw [if_pos hmissed, if_pos hmissed]
        exact ih response hmissed
      · rw [if_neg hmissed, if_neg hmissed, pure_bind, if_neg hmissed]

theorem chainFrom_groups (last : Response) (groups : List (List (Handler σ)))
    (hfilled : ∀ group ∈ groups, group ≠ []) (request : Request) :
    chainFrom last (groups.map chain) request =
      chainFrom last groups.flatten request := by
  induction groups generalizing last with
  | nil => rfl
  | cons group groups ih =>
      have hrest (response : Response) :=
        ih response fun other hamong =>
          hfilled other (List.mem_cons_of_mem group hamong)
      obtain ⟨handler, group, rfl⟩ :=
        List.exists_cons_of_ne_nil (hfilled group List.mem_cons_self)
      rw [List.map_cons, List.flatten_cons, chainFrom]
      simp only [hrest]
      exact chainFrom_bind .notFound rfl (handler :: group)
        groups.flatten request

theorem chain_map_groups {α : Type} (f : α → Handler σ) (groups : List (List α))
    (hfilled : ∀ group ∈ groups, group ≠ []) :
    chain (groups.map fun group => chain (group.map f)) =
      chain (groups.flatten.map f) := by
  have hfilledMap : ∀ group ∈ groups.map (List.map f), group ≠ [] := by
    intro mapped hamong
    obtain ⟨group, hamongGroups, rfl⟩ := List.mem_map.1 hamong
    exact fun hempty =>
      hfilled group hamongGroups (List.map_eq_nil_iff.1 hempty)
  funext request
  have hjoined :=
    chainFrom_groups .notFound (groups.map (List.map f)) hfilledMap request
  rw [List.map_map, ← List.map_flatten] at hjoined
  exact hjoined

/-- A chain of filled chains is the chain of all their handlers.  Those up to
the first that fails or answers other than 404 are called, each once and with
the request; the chain ends as that one does, or with the last 404 if there is
none. -/
theorem chain_groups (groups : List (List (ν × Handler σ)))
    (hfilled : ∀ group ∈ groups, group ≠ []) :
    let all := groups.flatten
    let nested := chain (groups.map fun group => chain (group.map (·.2)))
    let noted := chain (groups.map fun group => chain (group.map noting))
    nested = chain (all.map (·.2)) ∧ noted = chain (all.map noting) ∧
      ∀ request world calls,
        let taken := turns request (all.map (·.2)) world
        let outcome :=
          (taken.find? isFinal).getD (taken.getLastD (.ok .notFound, world))
        (nested request).runIn world = outcome ∧
          (noted request).runIn (withCalls world calls) =
            (outcome.1,
              withCalls outcome.2
                (calls ++ (called request all world).map fun named =>
                  (named.1, request))) := by
  intro all nested noted
  have hsame : nested = chain (all.map (·.2)) :=
    chain_map_groups _ groups hfilled
  have hsameNoted : noted = chain (all.map noting) :=
    chain_map_groups _ groups hfilled
  refine ⟨hsame, hsameNoted, fun request world calls => ⟨?_, ?_⟩⟩
  · rw [hsame]
    exact runIn_chainFrom _ _ _ _
  · rw [hsameNoted, chain, runIn_chainFrom_noting, runIn_chainFrom]

/-- Counts its calls and answers with a status. -/
def tallying (status : Nat) : Handler Nat := fun _ => do
  Action.changeState (· + 1)
  pure (.ofStatus status)

def tallied : List (List (String × Handler Nat)) :=
  [[("first", tallying 404), ("second", tallying 404)],
    [("third", tallying 404), ("fourth", tallying 202),
      ("fifth", tallying 200)]]

theorem chain_groups_tallied :
    (∀ group ∈ tallied, group ≠ []) ∧
      ∀ request,
        (chain (tallied.map fun group => chain (group.map (·.2)))
          request).runIn ⟨#[], 0⟩ = (.ok .accepted, ⟨#[], 4⟩) ∧
        ((chain (tallied.map fun group => chain (group.map noting))
          request).runIn ⟨#[], (0, [])⟩).2.state =
            (4, [("first", request), ("second", request), ("third", request),
              ("fourth", request)]) := by
  have hfilled : ∀ group ∈ tallied, group ≠ [] := by simp [tallied]
  refine ⟨hfilled, fun request => ?_⟩
  obtain ⟨hanswer, hnotes⟩ :=
    (chain_groups tallied hfilled).2.2 request ⟨#[], 0⟩ []
  constructor
  · rw [hanswer]
    rfl
  · change (Action.runIn _ (withCalls ⟨#[], 0⟩ [])).2.state = _
    rw [hnotes]
    rfl

/-- An empty chain in the place of a group answers by itself, and the 404 before
it is lost. -/
example (request : Request) :
    (chain [chain [fun _ => pure ⟨404, .empty, .fixed [33]⟩],
      chain []] request).runIn
      (⟨#[], ()⟩ : World Unit) = (.ok .notFound, ⟨#[], ()⟩) := rfl

end HttpEngine.Chain
